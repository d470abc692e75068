import IndoorLogger.Server.DataFiles
import IndoorLogger.Server.Upload

/-
  A rename request when its file operations fail. The registry is renamed first, so the data
  has to follow: it does when the copy loop gets past the records in use and the new file is not
  unlinked again (`rename_keepsData_iff`). A request that is refused changes nothing.
-/

namespace IndoorLogger

open RecordFile RingFile Machine

/-! ## The copy loop -/

/-- One of the first `n` writes fails, and no read before it does. -/
def CopyFails (io : RenameIo) (n : Nat) : Prop :=
  ∃ j < n, io.fwriteRecord j = true ∧ ∀ i ≤ j, io.freadRecord i = false

instance (io : RenameIo) (n : Nat) : Decidable (CopyFails io n) := by
  unfold CopyFails
  infer_instance

theorem copyRecords_snd (io : RenameIo) (f : List UInt8) (n k : Nat) (out : List UInt8) :
    (copyRecords io f n k out).2 = false ↔
      ∃ j < n, io.fwriteRecord (k + j) = true ∧ ∀ i ≤ j, io.freadRecord (k + i) = false := by
  induction n generalizing k out with
  | zero => simp [copyRecords]
  | succ n ih =>
    rw [copyRecords]
    cases hr : io.freadRecord k with
    | true =>
      refine iff_of_false (by simp) ?_
      rintro ⟨j, _, _, h⟩
      rw [← Nat.add_zero k, h 0 (Nat.zero_le j)] at hr
      cases hr
    | false =>
      cases hw : io.fwriteRecord k with
      | true =>
        refine iff_of_true (by simp) ⟨0, Nat.succ_pos n, hw, fun i hi => ?_⟩
        rw [Nat.le_zero.mp hi]
        exact hr
      | false =>
        simp only [Bool.false_eq_true, if_false]
        rw [ih]
        constructor
        · rintro ⟨j, hj, hwj, h⟩
          refine ⟨j + 1, by omega, by rwa [show k + (j + 1) = k + 1 + j by omega], fun i hi => ?_⟩
          cases i with
          | zero => exact hr
          | succ i => rw [show k + (i + 1) = k + 1 + i by omega]; exact h i (by omega)
        · rintro ⟨j, hj, hwj, h⟩
          cases j with
          | zero => rw [Nat.add_zero, hw] at hwj; cases hwj
          | succ j =>
            refine ⟨j, by omega, by rwa [show k + 1 + j = k + (j + 1) by omega], fun i hi => ?_⟩
            rw [show k + 1 + i = k + (i + 1) by omega]
            exact h (i + 1) (by omega)

/-- The loop gets past the first `p` records when none of their reads and writes fails. -/
theorem le_copiedRecords_iff (io : RenameIo) {p n : Nat} (k : Nat) (hp : p ≤ n) :
    p ≤ copiedRecords io n k ↔
      ∀ j < p, io.freadRecord (k + j) = false ∧ io.fwriteRecord (k + j) = false := by
  induction n generalizing p k with
  | zero =>
    obtain rfl := Nat.le_zero.mp hp
    exact iff_of_true (Nat.zero_le _) fun j hj => absurd hj (Nat.not_lt_zero j)
  | succ n ih =>
    cases p with
    | zero => exact iff_of_true (Nat.zero_le _) fun j hj => absurd hj (Nat.not_lt_zero j)
    | succ p =>
      rw [copiedRecords, Nat.forall_lt_succ_left]
      simp only [Nat.add_zero]
      split
      case isTrue hfail =>
        refine iff_of_false (by omega) ?_
        rintro ⟨⟨hr, hw⟩, _⟩
        rw [hr, hw] at hfail
        cases hfail
      case isFalse hok =>
        rw [Bool.not_eq_true, Bool.or_eq_false_iff] at hok
        rw [Nat.add_le_add_iff_right, ih (k + 1) (by omega)]
        simp only [hok, true_and, Nat.add_assoc, Nat.add_comm 1, and_self]

/-! ## Reading a copy -/

variable {g : UInt32} {fs : Fs} {id : Id}

/-- All records of a file: its slots in the order of the ring, those behind its end skipped. -/
theorem readAll_eq_slots (hg : Fits g) {f : List UInt8} {h : ClientFileHeader}
    (hf : fs (getFilepath id) = some f) (hv : validHeader f = some h)
    {r : RingBuffer (Option DataRecord) g.toNat} (hm : h.maxRecords = g)
    (hw : h.writeIdx.toNat = r.next) (hc : h.count.toNat = r.slots.length) :
    readAll fs id = (List.range r.slots.length).filterMap fun i =>
      slot 49 DataRecord.codec f (r.index i) := by
  have hle := r.length_le
  have hbytes := hg.bytes
  have hcount : dataStoreGetCount fs id = h.count := by
    rw [dataStoreGetCount, hf, Option.bind_some, hv]
  unfold readAll dataStoreReadRange
  simp only [hcount, hf, hv]
  by_cases hzero : 0 ≥ h.count
  · rw [if_pos hzero]
    rw [ge_iff_le, UInt32.le_iff_toNat_le, hc, UInt32.toNat_zero, Nat.le_zero] at hzero
    rw [hzero]
    rfl
  · rw [if_neg hzero]
    have hself : ∀ c : UInt32, (if c > c then c else c) = c := fun c => ite_self c
    rw [UInt32.sub_zero, hself, hself, hc]
    apply List.filterMap_congr
    intro i hi
    have hi := List.mem_range.mp hi
    have hstart : (if h.count < h.maxRecords then 0 else (h.writeIdx + 0) % h.maxRecords).toNat =
        r.start := by
      rw [RingBuffer.start, UInt32.add_zero]
      simp only [UInt32.lt_iff_toNat_lt, hc, hm]
      split
      · rfl
      · rw [UInt32.toNat_mod, hw, Nat.mod_eq_of_lt r.next_lt]
    have hidx : (((if h.count < h.maxRecords then 0 else (h.writeIdx + 0) % h.maxRecords) +
        UInt32.ofNat i) % h.maxRecords).toNat = r.index i := by
      have hlt := r.start_lt
      rw [hm] at hstart ⊢
      rw [readRange_index hg (by rw [hstart]; exact hlt) (by omega), hstart]
      rfl
    rw [recordOffset_eq hg (by rw [hidx]; have := r.index_lt i hi; omega), hidx]
    rfl

/-- Number of records in use that are in the file. -/
def usedRecords (f : List UInt8) (h : ClientFileHeader) : Nat :=
  min h.count.toNat (wholeRecords f)

/-- The first `c` records behind the header, under another id, read like the original when
    they are all that is in use. -/
theorem readAll_copied_iff (hg : Fits g) {fs' : Fs} {old new : Id} {f : List UInt8}
    {h : ClientFileHeader} (hf : fs (getFilepath old) = some f) (hv : validHeader f = some h)
    (ho : HeaderOk g h) (c : Nat)
    (hf' : fs' (getFilepath new) = some (ClientFileHeader.codec.enc { h with clientId := new } ++
      (f.drop 49).take (14 * c))) :
    readAll fs' new = readAll fs old ↔ usedRecords f h ≤ c := by
  obtain ⟨r, hr⟩ := holds_unknown hv ho
  obtain ⟨h', hv', hm, hw, hc⟩ := hr.header
  obtain rfl : h = h' := Option.some.inj (hv.symm.trans hv')
  have hv'' : validHeader (ClientFileHeader.codec.enc { h with clientId := new } ++
      (f.drop 49).take (14 * c)) = some { h with clientId := new } :=
    validHeader_eq_some.mpr ⟨fread_append_left .., (validHeader_eq_some.mp hv).2⟩
  have hguard := filterMap_guard_eq_iff (fun i => slot 49 DataRecord.codec f (r.index i))
    (fun i => r.index i < c) (List.range r.slots.length)
  rw [readAll_eq_slots hg hf hv hm hw hc, readAll_eq_slots (r := r) hg hf' hv'' hm hw hc]
  simp only [slot_copied]
  rw [hguard, usedRecords, hc]
  constructor
  · intro hall
    by_contra hlt
    obtain ⟨i, hi, hidx⟩ := r.exists_index (s := c) (by omega)
    have := slot_eq_none_iff.mp (hall i (List.mem_range.mpr hi) (by omega))
    omega
  · intro hle i hi hic
    have := r.index_lt i (List.mem_range.mp hi)
    exact slot_eq_none_iff.mpr (by omega)

/-- Nothing is read exactly when no record in use is there. -/
theorem readAll_eq_nil_iff (hg : Fits g) {f : List UInt8} {h : ClientFileHeader}
    (hf : fs (getFilepath id) = some f) (hv : validHeader f = some h) (ho : HeaderOk g h) :
    readAll fs id = [] ↔ usedRecords f h = 0 := by
  obtain ⟨r, hr⟩ := holds_unknown hv ho
  obtain ⟨h', hv', hm, hw, hc⟩ := hr.header
  obtain rfl : h = h' := Option.some.inj (hv.symm.trans hv')
  rw [readAll_eq_slots hg hf hv hm hw hc, List.filterMap_eq_nil_iff, usedRecords, hc]
  constructor
  · intro hall
    by_contra hne
    obtain ⟨i, hi, hidx⟩ := r.exists_index (s := 0) (by omega)
    have := slot_eq_none_iff.mp (hall i (List.mem_range.mpr hi))
    omega
  · intro h0 i hi
    have := r.index_lt i (List.mem_range.mp hi)
    exact slot_eq_none_iff.mpr (by omega)

/-! ## The rename of the files -/

/-- No failure keeps the records of `old` from being read under `new`. When nothing is copied,
    what is read under the two ids is the same already. Otherwise the old file has no records
    to lose, or the header and all its records in use are copied, and no later write fails,
    unless the new file cannot be removed then. -/
def KeepsData (io : RenameIo) (fs : Fs) (old new : Id) : Prop :=
  match if io.fopenOld then none else fs (getFilepath old) with
  | none => readAll fs new = readAll fs old
  | some f =>
    match if io.freadHeader then none else validHeader f with
    | none => readAll fs new = readAll fs old
    | some h =>
      if io.fopenNew then readAll fs new = readAll fs old
      else
        usedRecords f h = 0 ∨
          io.fwriteHeader = false ∧
            (∀ j < usedRecords f h, io.freadRecord j = false ∧ io.fwriteRecord j = false) ∧
            (CopyFails io (wholeRecords f) → io.unlinkNew = true)

instance (io : RenameIo) (fs : Fs) (old new : Id) : Decidable (KeepsData io fs old new) := by
  unfold KeepsData
  split
  · infer_instance
  · split
    · infer_instance
    · split <;> infer_instance

theorem readAll_empty {f : List UInt8} (hf : fs (getFilepath id) = some f)
    (hv : validHeader f = none) : readAll fs id = [] := by
  unfold readAll dataStoreReadRange
  simp only [hf, hv]

/-- A copy left under the new id reads like the old file when nothing in use failed. -/
theorem readAll_copyRecords_iff (hg : Fits g) {fs' : Fs} {old new : Id} {f : List UInt8}
    {h : ClientFileHeader} (hf : fs (getFilepath old) = some f) (hv : validHeader f = some h)
    (ho : HeaderOk g h) (io : RenameIo)
    (hf' : fs' (getFilepath new) = some (copyRecords io f (wholeRecords f) 0
      (fwrite ClientFileHeader.codec [] 0 { h with clientId := new })).1) :
    readAll fs' new = readAll fs old ↔
      ∀ j < usedRecords f h, io.freadRecord j = false ∧ io.fwriteRecord j = false := by
  have hused : usedRecords f h ≤ wholeRecords f := Nat.min_le_right _ _
  have hcopied := le_copiedRecords_iff io 0 hused
  simp only [Nat.zero_add] at hcopied
  rw [copyRecords_fst, fwrite_nil] at hf'
  rw [readAll_copied_iff hg hf hv ho _ hf', hcopied]

/-- The files when the rename gives up on the new file, of which `l` is written by then. -/
def abandonNew (io : RenameIo) (fs : Fs) (new : Id) (l : List UInt8) : Fs :=
  if io.unlinkNew then fs.write (getFilepath new) l else fs.unlink (getFilepath new)

theorem abandonNew_kept {io : RenameIo} (hu : io.unlinkNew = true) (fs : Fs) (new : Id)
    (l : List UInt8) : abandonNew io fs new l (getFilepath new) = some l := by
  rw [abandonNew, if_pos hu]
  exact Fs.write_self ..

theorem readAll_abandonNew_gone {io : RenameIo} (hu : io.unlinkNew = false) (fs : Fs) (new : Id)
    (l : List UInt8) : readAll (abandonNew io fs new l) new = [] := by
  apply readAll_noFile
  rw [abandonNew, hu, if_neg Bool.false_ne_true]
  exact Fs.unlink_self ..

/-- A file without a header is not read, whether it is left there or not. -/
theorem readAll_abandonNew_nil (io : RenameIo) (fs : Fs) (new : Id) :
    readAll (abandonNew io fs new []) new = [] := by
  cases hu : io.unlinkNew with
  | true => exact readAll_empty (abandonNew_kept hu fs new []) rfl
  | false => exact readAll_abandonNew_gone hu fs new []

theorem used_of_eq_zero {f : List UInt8} {h : ClientFileHeader} (h0 : usedRecords f h = 0)
    (io : RenameIo) :
    ∀ j < usedRecords f h, io.freadRecord j = false ∧ io.fwriteRecord j = false := by
  intro j hj
  rw [h0] at hj
  exact absurd hj (Nat.not_lt_zero j)

/-- A copy that is given up on: what is in use got into it and stays there, or nothing is. -/
theorem rename_abandoned_iff (hg : Fits g) {old : Id} (new : Id) {f : List UInt8}
    {h : ClientFileHeader} (hf : fs (getFilepath old) = some f) (hv : validHeader f = some h)
    (ho : HeaderOk g h) (io : RenameIo) :
    readAll (abandonNew io fs new (copyRecords io f (wholeRecords f) 0
        (fwrite ClientFileHeader.codec [] 0 { h with clientId := new })).1) new = readAll fs old ↔
      usedRecords f h = 0 ∨
        (∀ j < usedRecords f h, io.freadRecord j = false ∧ io.fwriteRecord j = false) ∧
          io.unlinkNew = true := by
  cases hu : io.unlinkNew with
  | true =>
    rw [readAll_copyRecords_iff hg hf hv ho io (abandonNew_kept hu fs new _)]
    constructor
    · intro hall
      exact Or.inr ⟨hall, rfl⟩
    · intro hkeep
      exact hkeep.elim (fun h0 => used_of_eq_zero h0 io) And.left
  | false =>
    rw [readAll_abandonNew_gone hu, eq_comm, readAll_eq_nil_iff hg hf hv ho]
    constructor
    · exact Or.inl
    · intro hkeep
      exact hkeep.elim id fun h' => absurd h'.2 Bool.false_ne_true

/-- The records of a readable old file after its rename. -/
theorem rename_opened_iff (hg : Fits g) {old new : Id} {f : List UInt8} {h : ClientFileHeader}
    (hf : fs (getFilepath old) = some f) (hv : validHeader f = some h) (ho : HeaderOk g h)
    (hne : old ≠ new) (io : RenameIo) :
    let r := copyRecords io f (wholeRecords f) 0
      (fwrite ClientFileHeader.codec [] 0 { h with clientId := new })
    let fs' := if io.fwriteHeader then abandonNew io fs new []
      else if r.2 then
        if io.unlinkOld then fs.write (getFilepath new) r.1
        else (fs.write (getFilepath new) r.1).unlink (getFilepath old)
      else abandonNew io fs new r.1
    readAll fs' new = readAll fs old ↔
      usedRecords f h = 0 ∨
        io.fwriteHeader = false ∧
          (∀ j < usedRecords f h, io.freadRecord j = false ∧ io.fwriteRecord j = false) ∧
          (CopyFails io (wholeRecords f) → io.unlinkNew = true) := by
  intro r fs'
  have hpath : getFilepath new ≠ getFilepath old := fun e => hne (getFilepath_inj.mp e).symm
  have hr2 : r.2 = false ↔ CopyFails io (wholeRecords f) := by
    rw [copyRecords_snd, CopyFails]
    simp only [Nat.zero_add]
  cases hw : io.fwriteHeader with
  | true =>
    have hfs' : fs' = abandonNew io fs new [] := if_pos hw
    rw [hfs', readAll_abandonNew_nil, eq_comm, readAll_eq_nil_iff hg hf hv ho]
    simp
  | false =>
    simp only [true_and]
    cases hr : r.2 with
    | true =>
      have hok : ¬ CopyFails io (wholeRecords f) := by
        rw [← hr2, hr]
        exact Bool.noConfusion
      have hfile : fs' (getFilepath new) = some r.1 := by
        simp only [fs', hw, hr, Bool.false_eq_true, if_false, if_true]
        cases io.unlinkOld with
        | true => exact Fs.write_self ..
        | false => exact (Fs.unlink_ne _ hpath).trans (Fs.write_self ..)
      rw [readAll_copyRecords_iff hg hf hv ho io hfile]
      constructor
      · intro hall
        exact Or.inr ⟨hall, fun hc => absurd hc hok⟩
      · intro hkeep
        exact hkeep.elim (fun h0 => used_of_eq_zero h0 io) And.left
    | false =>
      have hfails := hr2.mp hr
      have hfs' : fs' = abandonNew io fs new r.1 := by
        simp only [fs', hw, hr, Bool.false_eq_true, if_false]
      rw [hfs', rename_abandoned_iff hg new hf hv ho io, forall_prop_of_true hfails]

/-- The renamed client reads its old records exactly if no failure gets in the way. -/
theorem rename_keepsData_iff (hg : Fits g) (hh : HeadersOk g fs) {old new : Id}
    (hold : old ≠ CStr.empty) (hnew : new ≠ CStr.empty) (hne : old ≠ new) (io : RenameIo) :
    readAll (dataStoreRenameClient io fs old new).1 new = readAll fs old ↔
      KeepsData io fs old new := by
  unfold dataStoreRenameClient KeepsData
  rw [CStr.isEmpty_eq_false.mpr hold, CStr.isEmpty_eq_false.mpr hnew, Bool.or_self,
    if_neg Bool.false_ne_true, if_neg hne]
  dsimp only
  cases hopen : (if io.fopenOld then none else fs (getFilepath old)) with
  | none => exact Iff.rfl
  | some f =>
    have hf : fs (getFilepath old) = some f := by
      split at hopen
      · cases hopen
      · exact hopen
    dsimp only
    cases hread : (if io.freadHeader then none else validHeader f) with
    | none => exact Iff.rfl
    | some h =>
      have hv : validHeader f = some h := by
        split at hread
        · cases hread
        · exact hread
      dsimp only
      split
      · exact Iff.rfl
      · have hopened := rename_opened_iff hg hf hv (hh _ f h hf hv) hne io
        dsimp only [abandonNew] at hopened
        rw [← hopened]
        split
        · exact Iff.rfl
        · cases copyRecords io f (wholeRecords f) 0
            (fwrite ClientFileHeader.codec [] 0 { h with clientId := new }) with
          | mk fNew ok => cases ok <;> exact Iff.rfl

/-! ## The request -/

/-- The id a rename request changes, and the one it asks for. -/
def renameIds (s : ServerState) (uri : List UInt8) : Id × Id :=
  (clientRegistryResolveId s.reg (queryParam uri "id" 32), queryParam uri "new_id" 32)

/-- The client is registered under the new id with all its records, or registry, mappings and
    the records of every client are as before. -/
def AllOrNothing (s s' : ServerState) (old new : Id) : Prop :=
  ((∃ i, clientRegistryGet s.reg old = some i ∧ clientRegistryGet s'.reg new = some i) ∧
      readAll s'.fs new = readAll s.fs old) ∨
    (s'.reg = s.reg ∧ ∀ id, readAll s'.fs id = readAll s.fs id)

/-- The checks a rename request has to pass, the one for room in the mapping table included. -/
def PassesChecks (s : ServerState) (uri : List UInt8) : Prop :=
  let (old, new) := renameIds s uri
  (queryParam uri "id" 32 : Id) ≠ CStr.empty ∧ isValidDigitId new = true ∧
    (clientRegistryGet s.reg old).isSome ∧ clientRegistryGet s.reg new = none ∧
    (putMapping s.reg old new).isSome

instance (s : ServerState) (uri : List UInt8) : Decidable (PassesChecks s uri) := by
  unfold PassesChecks
  split
  infer_instance

variable {s : ServerState} {m : RegMap}

theorem passesChecks_iff (h : s.reg.Lists m) (uri : List UInt8) :
    PassesChecks s uri ↔ m.Accepts uri := by
  unfold PassesChecks renameIds RegMap.Accepts RegMap.CanRename
  dsimp only
  rw [resolveId_eq h, ← RegMap.renameSource.eq_def, h.isSome_get, ← Option.not_isSome_iff_eq_none,
    h.isSome_get]
  generalize m.renameSource uri = old
  generalize (queryParam uri "new_id" 32 : Id) = new
  refine and_congr_right fun _ => and_congr_right fun hv => ?_
  have hnew : new ≠ CStr.empty := by
    rintro rfl
    cases hv
  constructor
  · rintro ⟨hold, hfresh, hput⟩
    refine ⟨hnew, fun e => hfresh (e ▸ hold), hold, hfresh, ?_⟩
    by_contra hroom
    rw [putMapping_none h hroom] at hput
    cases hput
  · rintro ⟨-, hne, hold, hfresh, hroom⟩
    obtain ⟨reg', hput, -⟩ := putMapping_lists h hne hnew hroom
    exact ⟨hold, hfresh, by rw [hput]; rfl⟩

/-- The renamed client keeps its slot. -/
theorem get_renamed (h : s.reg.Lists m) {old new : Id} (hc : m.CanRename old new)
    {reg' : Registry} (h' : reg'.Lists (m.rename old new hc)) :
    ∃ i, clientRegistryGet s.reg old = some i ∧ clientRegistryGet reg' new = some i := by
  obtain ⟨-, -, hold, hfresh, -⟩ := id hc
  obtain ⟨i, e, hg, hi, hlt, he, -⟩ := (h.get_cases old).resolve_left fun hn => hn.2 hold
  have hnew : new ∈ (m.rename old new hc).ids := (RegMap.mem_rename_ids hc).mpr (Or.inr rfl)
  obtain ⟨j, e', hg', hj, -, he', -⟩ := (h'.get_cases new).resolve_left fun hn => hn.2 hnew
  have hentries : (m.rename old new hc).entries = KeyedList.modify Entry.id m.entries old
      fun e => { e with info := { e.info with id := new } } := rfl
  rw [hentries, KeyedList.modify, List.getElem?_map] at hj
  obtain ⟨d, hd, hde⟩ := Option.map_eq_some_iff.mp hj
  have hdid : d.id = old := by
    by_contra hdo
    rw [if_neg hdo] at hde
    exact hfresh (List.mem_map.mpr ⟨d, List.mem_of_getElem? hd, hde ▸ he'⟩)
  have hij : i = j := by
    obtain ⟨hjl, hdj⟩ := List.getElem?_eq_some_iff.mp hd
    obtain ⟨hil, hei⟩ := List.getElem?_eq_some_iff.mp hi
    have hil' : i < (m.entries.map Entry.id).length := by rwa [List.length_map]
    have hjl' : j < (m.entries.map Entry.id).length := by rwa [List.length_map]
    have hids : (m.entries.map Entry.id)[i] = (m.entries.map Entry.id)[j] := by
      rw [List.getElem_map, List.getElem_map, hdj, hei, he, hdid]
    exact m.ids_nodup.getElem_inj_iff.mp hids
  exact ⟨i, hg, hij ▸ hg'⟩

/-- **When a rename request is all or nothing.** From every state the server can reach, failing
    calls on the way and in the request included: it is exactly when the request is refused or
    no failure keeps the records from following the registry. -/
theorem rename_all_or_nothing_iff (cJSONParse : List UInt8 → Option Json) {total : UInt32}
    (hinit : dataStoreInit total = some g) (hpos : 0 < g) (rs : List Request) (io : RenameIo)
    (save : SaveIo) (uri : List UInt8) :
    let s := final (serverStep cJSONParse g) bootState rs
    let ids := renameIds s uri
    AllOrNothing s (clientIdPostHandler io save s uri).1 ids.1 ids.2 ↔
      ¬ PassesChecks s uri ∨ KeepsData io s.fs ids.1 ids.2 := by
  intro s ids
  have hg := (dataStoreInit_room hinit hpos).1
  obtain ⟨m, hm, hh⟩ := reached cJSONParse hg rs
  have hids : ids = (m.renameSource uri, queryParam uri "new_id" 32) := by
    rw [RegMap.renameSource, ← resolveId_eq hm]
    rfl
  rw [passesChecks_iff hm, hids]
  rcases clientIdPostHandler_cases hm io save uri with ⟨hn, hs, -⟩ | ⟨hacc, hl, hfs⟩
  · refine iff_of_true (Or.inr ?_) (Or.inl hn)
    rw [hs]
    exact ⟨rfl, fun _ => rfl⟩
  · obtain ⟨hnew, hne, hold, hfresh, -⟩ := hacc.2.2
    have holdne : m.renameSource uri ≠ CStr.empty := m.resolve_ne hacc.1
    obtain ⟨i, hgi, hgi'⟩ := get_renamed hm hacc.2.2 hl
    have hkeep := rename_keepsData_iff hg hh holdne hnew hne io
    rw [← hfs] at hkeep
    have hchanged : (clientIdPostHandler io save s uri).1.reg ≠ s.reg := by
      intro heq
      rw [heq] at hgi'
      exact hfresh ((hm.isSome_get _).mp (by rw [hgi']; rfl))
    unfold AllOrNothing
    rw [← hkeep]
    constructor
    · rintro (⟨-, hdata⟩ | ⟨hreg, -⟩)
      · exact Or.inr hdata
      · exact absurd hreg hchanged
    · rintro (hrefused | hdata)
      · exact absurd hacc hrefused
      · exact Or.inl ⟨⟨i, hgi, hgi'⟩, hdata⟩

/-- Client 1 after its first upload. -/
def oneRecord : List Request := [.upload {} (fun _ => 0) (uploadFrom "1" "1600000000")]

def renameUri : List UInt8 := ascii "/api/client/id?id=1&new_id=2"

/-- Client 1 with three records. -/
def threeRecords : List Request := [.upload {} (fun _ => 0) (batchFrom "1")]

/-- The old file that cannot be removed does no harm, and the second record that cannot be read
    does. -/
theorem rename_all_or_nothing_three :
    let s := final (serverStep Json.parse 4314) bootState threeRecords
    let ids := renameIds s renameUri
    AllOrNothing s (clientIdPostHandler { unlinkOld := true } {} s renameUri).1 ids.1 ids.2 ∧
      ¬AllOrNothing s (clientIdPostHandler { freadRecord := fun k => k = 1 } {} s renameUri).1
        ids.1 ids.2 := by
  have hinit : dataStoreInit 1000000 = some 4314 := by decide +kernel
  have hpasses : PassesChecks (final (serverStep Json.parse 4314) bootState threeRecords)
      renameUri := by decide +kernel
  have hkeeps := (rename_all_or_nothing_iff Json.parse hinit (by decide) threeRecords
    { unlinkOld := true } {} renameUri).mpr (.inr (by decide +kernel))
  have hloses := mt (rename_all_or_nothing_iff Json.parse hinit (by decide) threeRecords
    { freadRecord := fun k => k = 1 } {} renameUri).mp
      (not_or.mpr ⟨not_not.mpr hpasses, by decide +kernel⟩)
  exact ⟨hkeeps, hloses⟩

/-- The write of the one record fails: the client is registered under id 2, its record is not
    to be read there any more. -/
theorem rename_half_done :
    let s := final (serverStep Json.parse 4314) bootState oneRecord
    let r := clientIdPostHandler { fwriteRecord := fun _ => true } {} s renameUri
    let ids := renameIds s renameUri
    r.2.status = 200 ∧ (clientRegistryGet r.1.reg ids.2).isSome ∧ readAll r.1.fs ids.2 = [] ∧
      ¬ AllOrNothing s r.1 ids.1 ids.2 := by
  intro s r ids
  have hnew : (clientRegistryGet r.1.reg ids.2).isSome := by decide +kernel
  refine ⟨by decide +kernel, hnew, by decide +kernel, fun h => ?_⟩
  rcases h with ⟨-, hdata⟩ | ⟨hreg, -⟩
  · exact absurd hdata (by decide +kernel)
  · rw [hreg] at hnew
    exact absurd hnew (by decide +kernel)

end IndoorLogger
