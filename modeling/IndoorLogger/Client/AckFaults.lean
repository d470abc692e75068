import Mathlib.Data.Nat.ModEq
import IndoorLogger.Client.Queue

/-
  Acknowledging a batch while calls fail. `data_storage_read_unsynced` passes over the slots it
  cannot read, `data_storage_mark_synced` counts slots from the start of the window, and the
  window shrinks by the number of flags written. `ack_faults_iff` says which failures leave
  the flags inside the batch and the unsynced records inside the window.
-/

namespace IndoorLogger

open RecordFile

/-! ## Slots of the file -/

/-- The record of slot `idx` of the data file. -/
def Storage.record (st : Storage) (idx : UInt32) : Option StoredRecord :=
  st.flash.bind fun f => readSlot false f idx

theorem flash_of_fp {st : Storage} {f : List UInt8} (h : st.fp = some f) : st.flash = some f := by
  unfold Storage.fp at h
  split at h
  · exact h
  · cases h

theorem record_of_flash {st : Storage} {f : List UInt8} (h : st.flash = some f) (k : UInt32) :
    st.record k = readSlot false f k := by
  unfold Storage.record
  rw [h, Option.bind_some]

theorem readSlot_eq (f : List UInt8) (idx : UInt32) :
    readSlot false f idx =
      if 56 + idx.toNat * 22 < 2 ^ 31 then slot 56 StoredRecord.codec f idx.toNat else none := by
  unfold readSlot clientRecordOffset slot slotOffset
  rw [if_neg Bool.false_ne_true]
  dsimp only
  split
  · rw [Option.bind_some, StoredRecord.size_codec, Nat.mul_comm]
  · rfl

/-- Rewriting the record of a slot changes no other slot. -/
theorem readSlot_write {f : List UInt8} {idx : UInt32} {off : Nat} {rec : StoredRecord}
    (hoff : clientRecordOffset idx = some off) (hrec : readSlot false f idx = some rec)
    (a : StoredRecord) (k : UInt32) :
    readSlot false (fwrite StoredRecord.codec f off a) k =
      if k = idx then some a else readSlot false f k := by
  obtain ⟨hreach, rfl⟩ := clientRecordOffset_some hoff
  rw [readSlot_eq, if_pos hreach] at hrec
  by_cases hk : k = idx
  · rw [if_pos hk, hk, readSlot_eq, if_pos hreach]
    exact slot_write_self ..
  · have hin := le_of_fread _ (by decide) hrec
    rw [if_neg hk, readSlot_eq, readSlot_eq,
      slot_write_ne_of_le _ _ _ _ (fun h => hk (UInt32.toNat_inj.mp h))
        (Nat.le_trans (Nat.le_add_right _ _) hin)]

theorem readSlot_write_header (f : List UInt8) (hd : FileHeader) (k : UInt32) :
    readSlot false (fwrite FileHeader.codec f 0 hd) k = readSlot false f k := by
  rw [readSlot_eq, readSlot_eq, slot_write_header 56 StoredRecord.codec FileHeader.codec
    (Nat.le_refl 56)]

/-! ## The two loops -/

/-- Slot `i` of the window can be read and is not flagged. -/
def unsyncedAt (f : List UInt8) (h : FileHeader) (i : Nat) : Bool :=
  match readSlot false f (h.windowIdx i) with
  | some rec => !rec.synced
  | none => false

/-- What step `i` of the read loop takes when the buffer has room. -/
def takenAt (fails : Nat → Bool) (f : List UInt8) (h : FileHeader) (i : Nat) :
    Option (UInt32 × StoredRecord) :=
  ((readSlot (fails i) f (h.windowIdx i)).filter fun rec => !rec.synced).map fun rec =>
    (h.windowIdx i, rec)

/-- Step `i` of the mark loop flags its slot. -/
def flagsAt (io : MarkIo) (f : List UInt8) (h : FileHeader) (i : Nat) : Bool :=
  unsyncedAt f h i && !io.fread i && !io.fwrite i

theorem readLoop_eq_filterMap (fails : Nat → Bool) (f : List UInt8) (h : FileHeader) (n i : Nat)
    (room : Int) :
    readLoop fails f h n i room =
      ((List.range' i n).filterMap (takenAt fails f h)).take room.toNat := by
  induction n generalizing i room with
  | zero => rw [readLoop, List.range'_zero, List.filterMap_nil, List.take_nil]
  | succ n ih =>
    unfold readLoop
    rw [List.range'_succ]
    by_cases hroom : room ≤ 0
    · rw [if_pos hroom, show room.toNat = 0 by omega, List.take_zero]
    · rw [if_neg hroom]
      cases hread : readSlot (fails i) f (h.windowIdx i) with
      | none =>
        rw [List.filterMap_cons_none (by rw [takenAt, hread]; rfl)]
        exact ih (i + 1) room
      | some rec =>
        cases hs : rec.synced with
        | true =>
          rw [List.filterMap_cons_none (by rw [takenAt, hread, Option.filter_some, hs]; rfl)]
          simp only [hs, if_true]
          exact ih (i + 1) room
        | false =>
          rw [List.filterMap_cons_some (b := (h.windowIdx i, rec))
            (by rw [takenAt, hread, Option.filter_some, hs]; rfl),
            show room.toNat = (room - 1).toNat + 1 by omega, List.take_succ_cons]
          simp only [hs, Bool.false_eq_true, if_false]
          rw [ih (i + 1) (room - 1)]

/-- The steps of the mark loop that flag their slot, of `n` from step `i`. -/
def flaggedSteps (io : MarkIo) (f : List UInt8) (h : FileHeader) (i n : Nat) : List Nat :=
  (List.range' i n).filter (flagsAt io f h)

theorem flaggedSteps_succ (io : MarkIo) (f : List UInt8) (h : FileHeader) (i n : Nat) :
    flaggedSteps io f h i (n + 1) =
      if flagsAt io f h i = true then i :: flaggedSteps io f h (i + 1) n
      else flaggedSteps io f h (i + 1) n := by
  unfold flaggedSteps
  rw [List.range'_succ, List.filter_cons]

theorem le_of_mem_flaggedSteps {io : MarkIo} {f : List UInt8} {h : FileHeader} {i n j : Nat}
    (hj : j ∈ flaggedSteps io f h i n) : i ≤ j ∧ j < i + n := by
  have := List.mem_range'_1.mp (List.mem_of_mem_filter hj)
  exact this

/-- What a slot reads as once the slots of the window at `steps` are flagged. -/
def afterFlags (f : List UInt8) (h : FileHeader) (steps : List Nat) (k : UInt32) :
    Option StoredRecord :=
  if ∃ j ∈ steps, h.windowIdx j = k then (readSlot false f k).map StoredRecord.acknowledged
  else readSlot false f k

theorem readSlot_fails {fails : Bool} {f : List UInt8} {k : UInt32} {w : StoredRecord}
    (h : readSlot fails f k = some w) :
    fails = false ∧ readSlot false f k = some w ∧ ∃ off, clientRecordOffset k = some off := by
  unfold readSlot at h ⊢
  split at h
  · cases h
  case isFalse hio =>
    obtain ⟨off, hoff, -⟩ := Option.bind_eq_some_iff.mp h
    exact ⟨by simpa using hio, h, off, hoff⟩

/-- The mark loop flags the slots of its window that it can read and write, and no other. -/
theorem markLoop_flags (io : MarkIo) (h : FileHeader) {u : Nat}
    (hinj : ∀ i < u, ∀ j < u, h.windowIdx i = h.windowIdx j → i = j) (n i : Nat) (hu : i + n ≤ u)
    (f : List UInt8) :
    (markLoop io h n i f).2 = (flaggedSteps io f h i n).length ∧
      ∀ k, readSlot false (markLoop io h n i f).1 k =
        afterFlags f h (flaggedSteps io f h i n) k := by
  induction n generalizing i f with
  | zero => exact ⟨rfl, fun k => (if_neg fun ⟨_, hj, _⟩ => List.not_mem_nil hj).symm⟩
  | succ n ih =>
    rw [flaggedSteps_succ]
    have hrest := ih (i + 1) (by omega)
    rw [markLoop]
    split
    case h_1 w off hw hoff =>
      obtain ⟨hio, hslot, -⟩ := readSlot_fails hw
      have hflag : flagsAt io f h i = !(w.synced || io.fwrite i) := by
        rw [flagsAt, unsyncedAt, hslot, hio, Bool.not_false, Bool.and_true, Bool.not_or]
      split
      case isTrue hskip =>
        rw [hflag, hskip, Bool.not_true, if_neg Bool.false_ne_true]
        exact hrest f
      case isFalse hgo =>
        rw [Bool.not_eq_true] at hgo
        rw [hflag, hgo, Bool.not_false, if_pos rfl]
        have hwrite := readSlot_write hoff hslot { w with synced := true }
        generalize RecordFile.fwrite StoredRecord.codec f off { w with synced := true } = f'
          at hwrite ⊢
        -- the later slots of the window are as they were, so the same of them are flagged
        have hsteps : flaggedSteps io f' h (i + 1) n = flaggedSteps io f h (i + 1) n := by
          apply List.filter_congr
          intro j hj
          have hj' := List.mem_range'_1.mp hj
          have hne : h.windowIdx j ≠ h.windowIdx i := fun heq => by
            have := hinj j (by omega) i (by omega) heq
            omega
          unfold flagsAt unsyncedAt
          rw [hwrite, if_neg hne]
        obtain ⟨hcount, hslots⟩ := hrest f'
        rw [hsteps] at hcount hslots
        refine ⟨congrArg (· + 1) hcount, fun k => (hslots k).trans ?_⟩
        unfold afterFlags
        by_cases hk : k = h.windowIdx i
        · have hnot : ¬∃ j ∈ flaggedSteps io f h (i + 1) n, h.windowIdx j = k := by
            rintro ⟨j, hj, heq⟩
            have hle := le_of_mem_flaggedSteps hj
            have := hinj j (by omega) i (by omega) (heq.trans hk)
            omega
          rw [if_neg hnot, if_pos ⟨i, List.mem_cons_self, hk.symm⟩, hwrite, if_pos hk, hk, hslot]
          rfl
        · have hmem : (∃ j ∈ flaggedSteps io f h (i + 1) n, h.windowIdx j = k) ↔
              ∃ j ∈ i :: flaggedSteps io f h (i + 1) n, h.windowIdx j = k := by
            rw [List.exists_mem_cons_iff, or_iff_right (Ne.symm hk)]
          rw [hwrite, if_neg hk]
          exact if_congr hmem rfl rfl
    case h_2 hnone =>
      have hflag : flagsAt io f h i = false := by
        cases hio : io.fread i with
        | true => rw [flagsAt, hio, Bool.not_true, Bool.and_false, Bool.false_and]
        | false =>
          cases hslot : readSlot false f (h.windowIdx i) with
          | none => rw [flagsAt, unsyncedAt, hslot]; rfl
          | some w =>
            obtain ⟨-, -, off, hoff⟩ := readSlot_fails hslot
            exact absurd hoff (hnone w off (hio ▸ hslot))
      rw [hflag, if_neg Bool.false_ne_true]
      exact hrest f

/-! ## The window -/

/-- An open ring with a window of at most `max_records` slots. -/
structure OpenRing (st : Storage) (f : List UInt8) : Prop where
  isOpen : st.isOpen = true
  flash : st.flash = some f
  maxRecords_lt : st.header.maxRecords.toNat < 2 ^ 31
  writeIdx_lt : st.header.writeIdx.toNat < st.header.maxRecords.toNat
  unsynced_le : st.header.unsyncedCount.toNat ≤ st.header.maxRecords.toNat

variable {st : Storage} {f : List UInt8}

theorem OpenRing.fp (h : OpenRing st f) : st.fp = some f := by
  unfold Storage.fp
  rw [if_pos h.isOpen, h.flash]

theorem OpenRing.windowIdx_toNat (h : OpenRing st f) {i : Nat}
    (hi : i ≤ st.header.maxRecords.toNat) :
    (st.header.windowIdx i).toNat =
      (st.header.writeIdx.toNat + st.header.maxRecords.toNat - st.header.unsyncedCount.toNat + i) %
        st.header.maxRecords.toNat := by
  have hM := h.maxRecords_lt
  have hw := h.writeIdx_lt
  have hu := h.unsynced_le
  have hsum : (st.header.writeIdx + st.header.maxRecords).toNat =
      st.header.writeIdx.toNat + st.header.maxRecords.toNat := by
    rw [UInt32.toNat_add, Nat.mod_eq_of_lt (by omega)]
  have hstart : st.header.startIdx.toNat = (st.header.writeIdx.toNat +
      st.header.maxRecords.toNat - st.header.unsyncedCount.toNat) % st.header.maxRecords.toNat := by
    unfold FileHeader.startIdx
    rw [UInt32.toNat_mod, UInt32.toNat_sub_of_le _ _ (by rw [UInt32.le_iff_toNat_le]; omega), hsum]
  have hlt : st.header.startIdx.toNat < st.header.maxRecords.toNat := by
    rw [hstart]
    exact Nat.mod_lt _ (by omega)
  unfold FileHeader.windowIdx
  rw [UInt32.toNat_mod, UInt32.toNat_add, UInt32.toNat_ofNat', Nat.mod_eq_of_lt (a := i) (by omega),
    Nat.mod_eq_of_lt (b := 2 ^ 32) (by omega), hstart, Nat.mod_add_mod]

/-- The slots of a window are distinct. -/
theorem OpenRing.windowIdx_inj (h : OpenRing st f) :
    ∀ i < st.header.unsyncedCount.toNat, ∀ j < st.header.unsyncedCount.toNat,
      st.header.windowIdx i = st.header.windowIdx j → i = j := by
  intro i hi j hj heq
  have hu := h.unsynced_le
  have hmod := congrArg UInt32.toNat heq
  rw [h.windowIdx_toNat (by omega), h.windowIdx_toNat (by omega)] at hmod
  have := Nat.ModEq.add_left_cancel' _ hmod
  rwa [Nat.ModEq, Nat.mod_eq_of_lt (by omega), Nat.mod_eq_of_lt (by omega)] at this

/-- The header once `q` records less are unsynced. -/
def FileHeader.shrink (h : FileHeader) (q : Nat) : FileHeader :=
  { h with unsyncedCount := h.unsyncedCount - UInt32.ofNat q }

theorem shrink_zero (h : FileHeader) : h.shrink 0 = h := by
  unfold FileHeader.shrink
  rw [show UInt32.ofNat 0 = 0 from rfl, UInt32.sub_zero]

theorem OpenRing.shrink_toNat (h : OpenRing st f) {q : Nat}
    (hq : q ≤ st.header.unsyncedCount.toNat) :
    (st.header.shrink q).unsyncedCount.toNat = st.header.unsyncedCount.toNat - q := by
  have hM := h.maxRecords_lt
  have hu := h.unsynced_le
  have hofNat : (UInt32.ofNat q).toNat = q := by
    rw [UInt32.toNat_ofNat', Nat.mod_eq_of_lt (by omega)]
  unfold FileHeader.shrink
  rw [UInt32.toNat_sub_of_le _ _ (by rw [UInt32.le_iff_toNat_le, hofNat]; exact hq), hofNat]

/-- A window shrinks from its start. -/
theorem OpenRing.windowIdx_shrink (h : OpenRing st f) {q i : Nat}
    (hqi : i + q ≤ st.header.unsyncedCount.toNat) :
    (st.header.shrink q).windowIdx i = st.header.windowIdx (i + q) := by
  have hu := h.unsynced_le
  have hlen := h.shrink_toNat (q := q) (by omega)
  have hring : OpenRing { st with header := st.header.shrink q } f :=
    ⟨h.isOpen, h.flash, h.maxRecords_lt, h.writeIdx_lt,
      (Nat.le_of_eq hlen).trans ((Nat.sub_le _ _).trans hu)⟩
  have hM : (st.header.shrink q).maxRecords = st.header.maxRecords := rfl
  have hW : (st.header.shrink q).writeIdx = st.header.writeIdx := rfl
  apply UInt32.toNat_inj.mp
  have := hring.windowIdx_toNat (i := i)
    (show i ≤ (st.header.shrink q).maxRecords.toNat by rw [hM]; omega)
  rw [this, h.windowIdx_toNat (by omega), hlen, hM, hW]
  congr 1
  omega

/-! ## Read, then mark -/

/-- Acknowledging `k` records flags the slots of `flaggedSteps` and drops as many from the start
    of the window. -/
theorem OpenRing.markSynced_spec (h : OpenRing st f) (io : MarkIo) {k : Nat}
    (hk : k ≤ st.header.unsyncedCount.toNat) :
    let steps := flaggedSteps io f st.header 0 k
    let st' := (dataStorageMarkSynced io st k).1
    st'.header = st.header.shrink steps.length ∧
      ∃ f', st'.fp = some f' ∧ ∀ s, readSlot false f' s = afterFlags f st.header steps s := by
  intro steps st'
  have hM := h.maxRecords_lt
  have hu := h.unsynced_le
  obtain ⟨hcount, hslots⟩ := markLoop_flags io st.header h.windowIdx_inj k 0 (by omega) f
  have hst' : st' = (dataStorageMarkSynced io st k).1 := rfl
  unfold dataStorageMarkSynced at hst'
  rw [h.fp] at hst'
  dsimp only at hst'
  by_cases hk0 : (k : Int) ≤ 0
  · obtain rfl : k = 0 := by omega
    rw [if_pos (by omega)] at hst'
    rw [hst']
    exact ⟨(shrink_zero _).symm, f, h.fp, hslots⟩
  · rw [if_neg hk0, toInt_toInt32 (by omega),
      show (min (k : Int) (st.header.unsyncedCount.toNat : Int)).toNat = k by omega, hcount] at hst'
    by_cases hq : (flaggedSteps io f st.header 0 k).length > 0
    · rw [if_pos hq] at hst'
      rw [hst']
      refine ⟨rfl, _, if_pos h.isOpen, fun s => ?_⟩
      cases io.fwriteHeader with
      | true => exact hslots s
      | false => exact (readSlot_write_header _ _ s).trans (hslots s)
    · rw [if_neg hq] at hst'
      rw [hst']
      have hzero : steps.length = 0 := Nat.eq_zero_of_not_pos hq
      rw [hzero]
      exact ⟨(shrink_zero _).symm, _, if_pos h.isOpen, hslots⟩

/-- The number of records that a read of at most `n` returns. -/
def batchLength (fails : Nat → Bool) (f : List UInt8) (h : FileHeader) (n : Int) : Nat :=
  min n.toNat ((List.range h.unsyncedCount.toNat).countP fun i => unsyncedAt f h i && !fails i)

theorem isSome_takenAt (fails : Nat → Bool) (f : List UInt8) (h : FileHeader) (i : Nat) :
    (takenAt fails f h i).isSome = (unsyncedAt f h i && !fails i) := by
  unfold takenAt unsyncedAt readSlot
  cases fails i with
  | true => rw [if_pos rfl, Bool.not_true, Bool.and_false]; rfl
  | false =>
    rw [if_neg Bool.false_ne_true, Bool.not_false, Bool.and_true]
    cases (clientRecordOffset (h.windowIdx i)).bind fun off => fread StoredRecord.codec f off with
    | none => rfl
    | some rec => cases hs : rec.synced <;> simp [Option.filter_some, hs]

theorem OpenRing.batch_eq (h : OpenRing st f) (fails : Nat → Bool) (n : Int) :
    unsyncedSlots fails st n =
      ((List.range' 0 st.header.unsyncedCount.toNat).filterMap
        (takenAt fails f st.header)).take n.toNat := by
  unfold unsyncedSlots
  rw [h.fp]
  exact readLoop_eq_filterMap ..

theorem OpenRing.length_batch (h : OpenRing st f) (fails : Nat → Bool) (n : Int) :
    (dataStorageReadUnsynced fails st n).length = batchLength fails f st.header n := by
  unfold dataStorageReadUnsynced
  rw [List.length_map, h.batch_eq, List.length_take, List.length_filterMap_eq_countP, batchLength,
    ← List.range_eq_range']
  congr 2
  funext i
  exact isSome_takenAt fails f st.header i

theorem batchLength_le (fails : Nat → Bool) (f : List UInt8) (h : FileHeader) (n : Int) :
    batchLength fails f h n ≤ h.unsyncedCount.toNat := by
  have := List.countP_le_length (p := fun i => unsyncedAt f h i && !fails i)
    (l := List.range h.unsyncedCount.toNat)
  rw [List.length_range] at this
  exact (Nat.min_le_right _ _).trans this

/-- What a step within the length of the batch takes is in the batch. -/
theorem mem_take_filterMap {α β : Type} {g : α → Option β} {l : List α} {m i : Nat} {a : α} {b : β}
    (hi : i < ((l.filterMap g).take m).length) (ha : l[i]? = some a) (hb : g a = some b) :
    b ∈ (l.filterMap g).take m := by
  obtain ⟨hlt, hget⟩ := List.getElem?_eq_some_iff.mp ha
  have hsplit : l.filterMap g = (l.take i).filterMap g ++ b :: (l.drop (i + 1)).filterMap g := by
    rw [← List.filterMap_cons_some hb, ← hget, ← List.filterMap_append,
      ← List.drop_eq_getElem_cons hlt, List.take_append_drop]
  have hbefore : ((l.take i).filterMap g).length ≤ i :=
    (List.length_filterMap_le _ _).trans (by rw [List.length_take]; omega)
  rw [List.length_take] at hi
  rw [hsplit, List.take_append, List.mem_append]
  right
  rw [show m - ((l.take i).filterMap g).length = (m - ((l.take i).filterMap g).length - 1) + 1 by
    omega, List.take_succ_cons]
  exact List.mem_cons_self

/-- No record becomes flagged that is not in the batch. -/
def FlagsWithin (st st' : Storage) (batch : List (UInt32 × StoredRecord)) : Prop :=
  ∀ k rec rec', st.record k = some rec → st'.record k = some rec' → rec.synced = false →
    rec'.synced = true → (k, rec) ∈ batch

/-- Every record of the old window that is still unsynced is in the new one, and a read without
    failures returns it. -/
def KeepsWindow (st st' : Storage) : Prop :=
  ∀ i < st.header.unsyncedCount.toNat, ∀ rec, st'.record (st.header.windowIdx i) = some rec →
    rec.synced = false →
      (∃ j < st'.header.unsyncedCount.toNat,
        st'.header.windowIdx j = st.header.windowIdx i) ∧
      ∀ cap : Int, (st'.header.unsyncedCount.toNat : Int) ≤ cap →
        (st.header.windowIdx i, rec) ∈ unsyncedSlots (fun _ => false) st' cap

/-- When failing calls do no harm: no slot is flagged that the read passed over, and of the
    first slots of the window, as many as are flagged, none is left unsynced. -/
def FaultsHarmless (fails : Nat → Bool) (io : MarkIo) (f : List UInt8) (h : FileHeader)
    (n : Int) : Prop :=
  let flagged := flaggedSteps io f h 0 (batchLength fails f h n)
  (∀ i ∈ flagged, fails i = false) ∧
    ∀ i < h.unsyncedCount.toNat, unsyncedAt f h i = true → i ∉ flagged → flagged.length ≤ i

instance (fails : Nat → Bool) (io : MarkIo) (f : List UInt8) (h : FileHeader) (n : Int) :
    Decidable (FaultsHarmless fails io f h n) := inferInstanceAs (Decidable (_ ∧ _))

theorem unsyncedAt_iff {h : FileHeader} {i : Nat} : unsyncedAt f h i = true ↔
    ∃ rec, readSlot false f (h.windowIdx i) = some rec ∧ rec.synced = false := by
  unfold unsyncedAt
  cases readSlot false f (h.windowIdx i) with
  | none => simp
  | some rec => simp

theorem unsyncedAt_of_mem {io : MarkIo} {h : FileHeader} {i n : Nat} {j : Nat}
    (hj : j ∈ flaggedSteps io f h i n) : unsyncedAt f h j = true := by
  obtain ⟨-, hflag⟩ := List.mem_filter.mp hj
  unfold flagsAt at hflag
  rw [Bool.and_eq_true, Bool.and_eq_true] at hflag
  exact hflag.1.1

theorem takenAt_eq {fails : Nat → Bool} {h : FileHeader} {i : Nat} {rec : StoredRecord}
    (hi : fails i = false) (hrec : readSlot false f (h.windowIdx i) = some rec)
    (hs : rec.synced = false) : takenAt fails f h i = some (h.windowIdx i, rec) := by
  unfold takenAt
  rw [hi, hrec, Option.filter_some, hs]
  rfl

section

variable (h : OpenRing st f) (fails : Nat → Bool) (io : MarkIo) (n : Int)
include h

theorem flagsWithin_iff :
    FlagsWithin st (dataStorageMarkSynced io st (dataStorageReadUnsynced fails st n).length).1
        (unsyncedSlots fails st n) ↔
      ∀ i ∈ flaggedSteps io f st.header 0 (batchLength fails f st.header n), fails i = false := by
  have hlen := h.length_batch fails n
  have hle := batchLength_le fails f st.header n
  have hbatch : (unsyncedSlots fails st n).length = batchLength fails f st.header n := by
    rw [← hlen, dataStorageReadUnsynced, List.length_map]
  obtain ⟨-, f', hfp, hslots⟩ := h.markSynced_spec io hle
  rw [hlen]
  have hrecord := record_of_flash h.flash
  have hrecord' := record_of_flash (flash_of_fp hfp)
  constructor
  · intro hw i hi
    obtain ⟨rec, hrec, hs⟩ := unsyncedAt_iff.mp (unsyncedAt_of_mem hi)
    have hafter : (dataStorageMarkSynced io st (batchLength fails f st.header n)).1.record
        (st.header.windowIdx i) = some rec.acknowledged := by
      rw [hrecord', hslots, afterFlags, if_pos ⟨i, hi, rfl⟩, hrec]
      rfl
    have hmem := hw _ rec _ ((hrecord _).trans hrec) hafter hs rfl
    rw [h.batch_eq] at hmem
    obtain ⟨j, hj, htaken⟩ := List.mem_filterMap.mp (List.mem_of_mem_take hmem)
    have hj' := List.mem_range'_1.mp hj
    -- the slot was taken at the step at which it is flagged
    unfold takenAt at htaken
    obtain ⟨w, hw', heq⟩ := Option.map_eq_some_iff.mp htaken
    obtain ⟨hread, -⟩ := Option.filter_eq_some_iff.mp hw'
    have hij := h.windowIdx_inj j (by omega) i (by have := le_of_mem_flaggedSteps hi; omega)
      (congrArg Prod.fst heq)
    exact hij ▸ (readSlot_fails hread).1
  · intro hc k rec rec' hrec hrec' hs hs'
    rw [hrecord] at hrec
    rw [hrecord', hslots, afterFlags] at hrec'
    split at hrec'
    case isTrue hflag =>
      obtain ⟨i, hi, rfl⟩ := hflag
      have hik := le_of_mem_flaggedSteps hi
      have htaken := takenAt_eq (hc i hi) hrec hs
      rw [h.batch_eq] at hbatch ⊢
      refine mem_take_filterMap (i := i) (a := i) (by omega) ?_ htaken
      rw [List.getElem?_range' (by omega)]
      simp
    case isFalse =>
      rw [hrec] at hrec'
      cases hrec'
      rw [hs] at hs'
      cases hs'

theorem keepsWindow_iff :
    KeepsWindow st
        (dataStorageMarkSynced io st (dataStorageReadUnsynced fails st n).length).1 ↔
      ∀ i < st.header.unsyncedCount.toNat, unsyncedAt f st.header i = true →
        i ∉ flaggedSteps io f st.header 0 (batchLength fails f st.header n) →
          (flaggedSteps io f st.header 0 (batchLength fails f st.header n)).length ≤ i := by
  have hle := batchLength_le fails f st.header n
  obtain ⟨hheader, f', hfp, hslots⟩ := h.markSynced_spec io hle
  rw [h.length_batch fails n]
  have hrecord' := record_of_flash (flash_of_fp hfp)
  generalize hst' : (dataStorageMarkSynced io st (batchLength fails f st.header n)).1 = st' at *
  generalize hsteps : flaggedSteps io f st.header 0 (batchLength fails f st.header n) = steps at *
  have hq : steps.length ≤ st.header.unsyncedCount.toNat := by
    have := List.length_filter_le (flagsAt io f st.header)
      (List.range' 0 (batchLength fails f st.header n))
    rw [List.length_range', ← flaggedSteps.eq_def, hsteps] at this
    omega
  have hcount := h.shrink_toNat hq
  have hinj := h.windowIdx_inj
  -- what is still unsynced in the window
  have hstill : ∀ i < st.header.unsyncedCount.toNat, ∀ rec, rec.synced = false →
      (st'.record (st.header.windowIdx i) = some rec ↔
        i ∉ steps ∧ readSlot false f (st.header.windowIdx i) = some rec) := by
    intro i hi rec hs
    have hflag : (∃ j ∈ steps, st.header.windowIdx j = st.header.windowIdx i) ↔ i ∈ steps := by
      constructor
      · rintro ⟨j, hj, heq⟩
        have := le_of_mem_flaggedSteps (hsteps ▸ hj)
        exact hinj j (by omega) i hi heq ▸ hj
      · exact fun hi => ⟨i, hi, rfl⟩
    rw [hrecord', hslots, afterFlags, if_congr hflag rfl rfl]
    by_cases hmem : i ∈ steps
    · rw [if_pos hmem]
      refine iff_of_false (fun heq => ?_) fun hnot => hnot.1 hmem
      obtain ⟨w, -, rfl⟩ := Option.map_eq_some_iff.mp heq
      cases hs
    · rw [if_neg hmem]
      exact ⟨fun heq => ⟨hmem, heq⟩, fun heq => heq.2⟩
  constructor
  · intro hk i hi hun hnot
    obtain ⟨rec, hrec, hs⟩ := unsyncedAt_iff.mp hun
    obtain ⟨⟨j, hj, hji⟩, -⟩ := hk i hi rec ((hstill i hi rec hs).mpr ⟨hnot, hrec⟩) hs
    rw [hheader, hcount] at hj
    rw [hheader, h.windowIdx_shrink (by omega)] at hji
    have := hinj _ (by omega) i hi hji
    omega
  · intro hc i hi rec hrec hs
    obtain ⟨hnot, hslot⟩ := (hstill i hi rec hs).mp hrec
    have hqi := hc i hi (unsyncedAt_iff.mpr ⟨rec, hslot, hs⟩) hnot
    have hidx : st'.header.windowIdx (i - steps.length) = st.header.windowIdx i := by
      rw [hheader, h.windowIdx_shrink (by omega), Nat.sub_add_cancel hqi]
    have hin : i - steps.length < st'.header.unsyncedCount.toNat := by
      rw [hheader, hcount]
      omega
    refine ⟨⟨_, hin, hidx⟩, fun cap hcap => ?_⟩
    rw [hrecord'] at hrec
    unfold unsyncedSlots
    rw [hfp]
    dsimp only
    rw [readLoop_eq_filterMap, List.take_of_length_le]
    · refine List.mem_filterMap.mpr
        ⟨i - steps.length, List.mem_range'_1.mpr ⟨by omega, by omega⟩, ?_⟩
      rw [takenAt_eq rfl (hidx ▸ hrec) hs, hidx]
    · have := List.length_filterMap_le (takenAt (fun _ => false) f' st'.header)
        (List.range' 0 st'.header.unsyncedCount.toNat)
      rw [List.length_range'] at this
      omega

/-- **Acknowledging under failures.** A read of at most `n` records and the acknowledgement of as
    many as it returned, with any of their `fread` and `fwrite` calls failing: the flags stay
    within the batch and the unsynced records within the window exactly when the failures are
    harmless. -/
theorem ack_faults_iff :
    let batch := unsyncedSlots fails st n
    let st' := (dataStorageMarkSynced io st (dataStorageReadUnsynced fails st n).length).1
    (FlagsWithin st st' batch ∧ KeepsWindow st st') ↔ FaultsHarmless fails io f st.header n :=
  and_congr (flagsWithin_iff h fails io n) (keepsWindow_iff h fails io n)

end

/-- A device with room for two readings and two of them to send. -/
def twoReadings : Storage :=
  let reading (t : Int32) : StoredRecord := ⟨t, 60, 0x41BC0000, 0x42200000, 412, 15, 1, false⟩
  let st := (dataStorageInit {} (CStr.strncpy (ascii "7")) 32868 Storage.blank).1
  (dataStorageAppend {} (dataStorageAppend {} st (reading 1700000000)).1 (reading 1700000060)).1

theorem twoReadings_openRing : OpenRing twoReadings (twoReadings.flash.getD []) where
  isOpen := by decide +kernel
  flash := by decide +kernel
  maxRecords_lt := by decide +kernel
  writeIdx_lt := by decide +kernel
  unsynced_le := by decide +kernel

/-- The last of both calls fails, as does its acknowledgement. -/
theorem ack_faults_iff_last :
    let fails := fun i => i == 1
    let io : MarkIo := { fread := fun i => i == 1 }
    let st := twoReadings
    let st' := (dataStorageMarkSynced io st (dataStorageReadUnsynced fails st 20).length).1
    (FlagsWithin st st' (unsyncedSlots fails st 20) ∧ KeepsWindow st st') ↔
      FaultsHarmless fails io (st.flash.getD []) st.header 20 :=
  ack_faults_iff twoReadings_openRing (fun i => i == 1) { fread := fun i => i == 1 } 20

/-- The first record cannot be read and is flagged all the same, in place of the second that
    was sent. When both are read and the first flag cannot be written, the window shrinks past
    the first record. -/
theorem ack_faults_lost :
    let st := twoReadings
    let fails := fun i => i == 0
    let io : MarkIo := { fwrite := fun i => i == 0 }
    ¬FlagsWithin st
        (dataStorageMarkSynced {} st (dataStorageReadUnsynced fails st 20).length).1
        (unsyncedSlots fails st 20) ∧
      ¬KeepsWindow st
        (dataStorageMarkSynced io st
          (dataStorageReadUnsynced (fun _ => false) st 20).length).1 := by
  intro st fails io
  constructor
  · intro h
    have hflags := (flagsWithin_iff twoReadings_openRing fails {} 20).mp h
    exact absurd hflags (by decide +kernel)
  · intro h
    have hwindow := (keepsWindow_iff twoReadings_openRing (fun _ => false) io 20).mp h
    exact absurd hwindow (by decide +kernel)

end IndoorLogger
