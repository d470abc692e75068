import IndoorLogger.Lib.Machine
import IndoorLogger.Server.AppendFaults
import IndoorLogger.Server.DataFiles
import IndoorLogger.Server.ReadSince
import IndoorLogger.Server.RegistryMap

/-
  Renaming a client's file. The copy carries the slots over byte by byte and the header with
  `write_idx` and `count`, so the new file holds the same ring as the old one, wrapped or not
  (`Holds.renamed`). Two files with the same ring answer every later call alike
  (`storeCall_sameRing`), hence a rename commutes with use (`rename_commutes`).
-/

namespace IndoorLogger

open RecordFile RingFile Machine

/-! ## Calls on one client -/

/-- A call on the data of one client. The search of `readSince` has `fuel` for its loop. -/
inductive StoreCall
  | append (rec : DataRecord)
  | readRange (offset limit capacity : UInt32)
  | readSince (fuel : Nat) (sinceTs capacity : UInt32)

/-- What a call returns. -/
inductive StoreResult
  | appended (ret : Int)
  | range (recs : List DataRecord)
  | since (found : Option (List DataRecord × List UInt32))

/-- One call for client `id`, none of whose file operations fails. -/
def storeCall (g : UInt32) (id : Id) (fs : Fs) : StoreCall → Fs × StoreResult
  | .append rec =>
    let (fs, ret) := dataStoreAppend g {} fs id rec
    (fs, .appended ret)
  | .readRange offset limit capacity =>
    (fs, .range (dataStoreReadRange fs id offset limit capacity))
  | .readSince fuel sinceTs capacity =>
    (fs, .since (dataStoreReadSince fuel fs id sinceTs capacity))

/-! ## Files with the same ring -/

/-- Neither client has a usable file, or both files hold the same ring of known records. -/
def SameRing (fs fs' : Fs) (id id' : Id) : Prop :=
  ((fs (getFilepath id)).bind validHeader = none ∧
    (fs' (getFilepath id')).bind validHeader = none) ∨
  ∃ cap, Fits cap ∧ ∃ r : RingBuffer (Option DataRecord) cap.toNat,
    (∃ recs : List DataRecord, r.toList = recs.map some) ∧
      FileHolds cap fs id r ∧ FileHolds cap fs' id' r

variable {g : UInt32} {fs fs' : Fs} {id id' : Id}

/-- Both have the same sequence. -/
theorem SameRing.holdsSeq (h : SameRing fs fs' id id') :
    ∃ cap, Fits cap ∧ ∃ recs, HoldsSeq cap fs id recs ∧ HoldsSeq cap fs' id' recs := by
  rcases h with ⟨hv, hv'⟩ | ⟨cap, hcap, r, ⟨recs, hl⟩, hr, hr'⟩
  · exact ⟨1, ⟨by decide, by decide⟩, [], Or.inl ⟨hv, rfl⟩, Or.inl ⟨hv', rfl⟩⟩
  · exact ⟨cap, hcap, recs, Or.inr ⟨r, hr, hl⟩, Or.inr ⟨r, hr', hl⟩⟩

theorem SameRing.readRange_eq (h : SameRing fs fs' id id') (offset limit capacity : UInt32) :
    dataStoreReadRange fs id offset limit capacity =
      dataStoreReadRange fs' id' offset limit capacity := by
  obtain ⟨cap, hcap, recs, hs, hs'⟩ := h.holdsSeq
  rw [hs.readRange_eq hcap, hs'.readRange_eq hcap]

theorem SameRing.getCount_eq (h : SameRing fs fs' id id') :
    dataStoreGetCount fs id = dataStoreGetCount fs' id' := by
  obtain ⟨cap, -, recs, hs, hs'⟩ := h.holdsSeq
  apply UInt32.toNat_inj.mp
  rw [hs.getCount_eq, hs'.getCount_eq]

/-- The search only reads the count and ranges. -/
theorem SameRing.readSince_eq (h : SameRing fs fs' id id') (fuel : Nat)
    (sinceTs capacity : UInt32) :
    dataStoreReadSince fuel fs id sinceTs capacity =
      dataStoreReadSince fuel fs' id' sinceTs capacity := by
  have hloop : ∀ lo hi,
      sinceLoop fs id sinceTs fuel lo hi = sinceLoop fs' id' sinceTs fuel lo hi := by
    induction fuel with
    | zero => intro lo hi; rw [sinceLoop, sinceLoop]
    | succ fuel ih => intro lo hi; simp only [sinceLoop, h.readRange_eq, ih]
  simp only [dataStoreReadSince, h.getCount_eq, hloop, h.readRange_eq]

/-- The step: the same append pushes on both rings, or starts both. -/
theorem SameRing.append (hg : Fits g) (h : SameRing fs fs' id id') (rec : DataRecord) :
    (dataStoreAppend g {} fs id rec).2 = (dataStoreAppend g {} fs' id' rec).2 ∧
      SameRing (dataStoreAppend g {} fs id rec).1 (dataStoreAppend g {} fs' id' rec).1 id id' := by
  rcases h with ⟨hv, hv'⟩ | ⟨cap, hcap, r, ⟨recs, hl⟩, hr, hr'⟩
  · obtain ⟨f, he, hf⟩ := append_fresh hg rec hv
    obtain ⟨f', he', hf'⟩ := append_fresh hg rec hv'
    rw [he, he']
    refine ⟨rfl, Or.inr ⟨g, hg, _, ⟨[rec], ?_⟩, ⟨f, Fs.write_self .., hf⟩,
      ⟨f', Fs.write_self .., hf'⟩⟩⟩
    rw [RingBuffer.toList_push, RingBuffer.toList_empty, List.nil_append, List.rtake,
      List.length_singleton, Nat.sub_eq_zero_of_le hg.pos, List.drop_zero]
    rfl
  · obtain ⟨f, he, hf⟩ := @append_holds cap g hcap fs id r rec hr
    obtain ⟨f', he', hf'⟩ := @append_holds cap g hcap fs' id' r rec hr'
    rw [he, he']
    refine ⟨rfl, Or.inr ⟨cap, hcap, _, ⟨(recs ++ [rec]).rtake cap.toNat, ?_⟩,
      ⟨f, Fs.write_self .., hf⟩, ⟨f', Fs.write_self .., hf'⟩⟩⟩
    rw [RingBuffer.toList_push, hl, List.rtake, List.rtake, List.map_drop, List.map_append,
      List.length_append, List.length_append, List.length_map]
    rfl

/-- Every call returns the same on both and leaves them with the same ring. -/
theorem storeCall_sameRing (hg : Fits g) (h : SameRing fs fs' id id') (call : StoreCall) :
    (storeCall g id fs call).2 = (storeCall g id' fs' call).2 ∧
      SameRing (storeCall g id fs call).1 (storeCall g id' fs' call).1 id id' := by
  cases call with
  | append rec =>
    obtain ⟨hret, hnext⟩ := h.append hg rec
    exact ⟨congrArg StoreResult.appended hret, hnext⟩
  | readRange offset limit capacity =>
    exact ⟨congrArg StoreResult.range (h.readRange_eq offset limit capacity), h⟩
  | readSince fuel sinceTs capacity =>
    exact ⟨congrArg StoreResult.since (h.readSince_eq fuel sinceTs capacity), h⟩

/-! ## The rename -/

/-- What a rename leaves: the ring under the new name, nothing to read under the old one, and
    the files of other clients. -/
theorem rename_sameRing {cap : UInt32} (hcap : Fits cap) {old new : ClientId} (hne : old.1 ≠ new)
    {recs : List DataRecord} (h : HoldsSeq cap fs old recs) (hfree : fs (getFilepath new) = none) :
    let fs' := (dataStoreRenameClient {} fs old new).1
    SameRing fs' fs new old ∧ (fs' (getFilepath old)).bind validHeader = none ∧
      ∀ id : Id, id ≠ old → id ≠ new → fs' (getFilepath id) = fs (getFilepath id) := by
  intro fs'
  rcases h with ⟨hnone, -⟩ | ⟨r, ⟨f, hf, hr⟩, hl⟩
  · -- no usable file: nothing is renamed
    have hsame : fs' = fs := by
      cases hf : fs (getFilepath old) with
      | none => exact rename_noFile {} new hf
      | some f =>
        rw [hf, Option.bind_some] at hnone
        exact rename_invalid new hf hnone
    rw [hsame]
    exact ⟨Or.inl ⟨by rw [hfree]; rfl, hnone⟩, hnone, fun _ _ _ => rfl⟩
  · obtain ⟨h, hv, -⟩ := hr.header
    obtain ⟨hnew, hgone, hothers⟩ := rename_files old.ne new.ne hne hf hv
    have hempty : (fs' (getFilepath old)).bind validHeader = none :=
      congrArg (fun o => o.bind validHeader) hgone
    exact ⟨Or.inr ⟨cap, hcap, r, ⟨recs, hl⟩, ⟨_, hnew, hr.renamed hv new⟩, ⟨f, hf, hr⟩⟩, hempty,
      hothers⟩

/-- **Renaming a file commutes with use.** The files come from any appends, under any partition
    sizes. The new id has the count and every range of the old one, the old one reads as
    empty, the files of others are as before, and every sequence of later calls under the new
    id returns what it would have returned under the old one. -/
theorem rename_commutes (h : Appended fs) {total : UInt32} (hinit : dataStoreInit total = some g)
    (hpos : 0 < g) (old new : ClientId) (hne : old.1 ≠ new)
    (hfree : fs (getFilepath new) = none) :
    let fs' := (dataStoreRenameClient {} fs old new).1
    dataStoreGetCount fs' new = dataStoreGetCount fs old ∧
    (∀ offset limit capacity, dataStoreReadRange fs' new offset limit capacity =
      dataStoreReadRange fs old offset limit capacity) ∧
    dataStoreGetCount fs' old = 0 ∧
    (∀ offset limit capacity, dataStoreReadRange fs' old offset limit capacity = []) ∧
    (∀ id : Id, id ≠ old → id ≠ new → fs' (getFilepath id) = fs (getFilepath id)) ∧
    ∀ calls, outputs (storeCall g new) fs' calls = outputs (storeCall g old) fs calls := by
  intro fs'
  have hg := (dataStoreInit_room hinit hpos).1
  obtain ⟨cap, hcap, recs, hs⟩ := h.holdsSeq old
  obtain ⟨hsame, hempty, hothers⟩ := rename_sameRing hcap hne hs hfree
  have hold : HoldsSeq cap fs' old [] := Or.inl ⟨hempty, rfl⟩
  refine ⟨hsame.getCount_eq, hsame.readRange_eq, ?_, fun offset limit capacity => ?_, hothers,
    fun calls => ?_⟩
  · exact UInt32.toNat_inj.mp hold.getCount_eq
  · rw [hold.readRange_eq hcap, List.drop_nil, List.take_nil]
  · exact outputs_eq_of_simulation (R := fun s t => SameRing s t new old) (G := fun _ _ => True)
      (H := fun _ _ => True) (fun _ _ call hr _ _ => storeCall_sameRing hg hr call) hsame
      (meets_of_forall fun _ _ _ => trivial) (meets_of_forall fun _ _ _ => trivial)

/-- A file of two records that has wrapped, renamed and then appended to. -/
theorem rename_commutes_wrapped :
    let old : ClientId := ⟨clientA, by decide⟩
    let new : ClientId := ⟨CStr.strncpy (ascii "7"), by decide⟩
    let rec' (t : UInt32) : DataRecord := { hundred with timestamp := t }
    let fs := appendLog 2 Fs.blank [(old, rec' 10), (old, rec' 20), (old, rec' 30)]
    let fs' := (dataStoreRenameClient {} fs old new).1
    let calls := [.readRange 0 9 9, .append (rec' 40), .readRange 0 9 9, .readSince 2 25 9]
    outputs (storeCall 2 new) fs' calls = outputs (storeCall 2 old) fs calls := by
  intro old new rec' fs fs' calls
  have hinit : dataStoreInit 34000 = some 2 := by decide
  have hfree : fs (getFilepath new) = none :=
    holdsNewest_nil.mp (appendLog_holdsNewest ⟨by decide, by decide⟩ _ new)
  exact (rename_commutes (appended_appendLog hinit (by decide) _) hinit (by decide) old new
    (by decide) hfree).2.2.2.2.2 calls

end IndoorLogger
