import IndoorLogger.Client.DataStorage
import IndoorLogger.Lib.Machine
import IndoorLogger.Lib.RingFile

/-
  The client's storage is a queue. As long as no more than `M` records are unacknowledged, the
  counters, the flags and the header in RAM and on flash all describe one ring whose newest
  `unsynced_count` records are the queue (`Represents`). Appending enqueues, acknowledging
  dequeues, a reboot changes nothing.
-/

namespace IndoorLogger

open RecordFile RingFile

/-! ## The representation -/

/-- The data file of ring `r`: its slots in order behind the header, each within reach of the
    `long` offsets of the code. -/
structure QueueFile {M : Nat} (f : List UInt8) (r : RingBuffer StoredRecord M) : Prop where
  length : f.length = 56 + 22 * r.slots.length
  reach : ∀ i < r.slots.length, 56 + i * 22 < 2 ^ 31
  records : Stores some 56 StoredRecord.codec f r

/-- `st` is an open ring of capacity `M` with content `acked ++ pending`: RAM and file carry the
    same header, its counters fit the ring, and the `synced` flags tell the two parts apart. -/
structure RingState (M : UInt32) (st : Storage) (f : List UInt8)
    (r : RingBuffer StoredRecord M.toNat) (acked pending : List StoredRecord) : Prop where
  isOpen : st.isOpen = true
  flash : st.flash = some f
  header : fread FileHeader.codec f 0 = some st.header
  magic : st.header.magic = dataStorageMagic
  maxRecords : st.header.maxRecords = M
  writeIdx : st.header.writeIdx.toNat = r.next
  unsynced : st.header.unsyncedCount.toNat = pending.length
  file : QueueFile f r
  content : r.toList = acked ++ pending
  ackedSynced : ∀ x ∈ acked, x.synced = true
  pendingUnsynced : ∀ x ∈ pending, x.synced = false

/-- `st` holds the queue `pending`. -/
def Represents (M : UInt32) (st : Storage) (pending : List StoredRecord) : Prop :=
  ∃ f r acked, RingState M st f r acked pending

variable {M : UInt32} {st : Storage} {f : List UInt8} {r : RingBuffer StoredRecord M.toNat}
  {acked pending : List StoredRecord}

theorem RingState.fp (h : RingState M st f r acked pending) : st.fp = some f := by
  unfold Storage.fp
  rw [h.isOpen, h.flash]; rfl

theorem RingState.length_content (h : RingState M st f r acked pending) :
    r.slots.length = acked.length + pending.length := by
  rw [← RingBuffer.length_toList, h.content, List.length_append]

theorem RingState.pending_le (h : RingState M st f r acked pending) :
    pending.length ≤ M.toNat := by
  have := h.length_content
  have := r.length_le
  omega

/-- Writing the header keeps the file of the ring. -/
theorem QueueFile.write_header {M : Nat} {r : RingBuffer StoredRecord M} (h : QueueFile f r)
    (hd : FileHeader) : QueueFile (fwrite FileHeader.codec f 0 hd) r where
  length := by
    rw [length_fwrite, h.length, FileHeader.size_codec]
    omega
  reach := h.reach
  records := stores_header h.records _ (Nat.le_refl 56) _

/-! ## Offsets and the window -/

theorem clientRecordOffset_eq {idx : UInt32} (h : 56 + idx.toNat * 22 < 2 ^ 31) :
    clientRecordOffset idx = some (slotOffset 56 StoredRecord.codec idx.toNat) := by
  unfold clientRecordOffset
  rw [if_pos h, slotOffset, StoredRecord.size_codec, Nat.mul_comm]

theorem clientRecordOffset_some {idx : UInt32} {off : Nat} (h : clientRecordOffset idx = some off) :
    56 + idx.toNat * 22 < 2 ^ 31 ∧ off = slotOffset 56 StoredRecord.codec idx.toNat := by
  unfold clientRecordOffset at h
  dsimp only at h
  split at h
  · rename_i hlt
    refine ⟨hlt, ?_⟩
    rw [← Option.some.inj h, slotOffset, StoredRecord.size_codec, Nat.mul_comm]
  · exact absurd h (by simp)

/-- Slot `i` of the window is element `i` of the queue. -/
theorem RingState.windowIdx (hM : M.toNat < 2 ^ 31) (h : RingState M st f r acked pending)
    {i : Nat} (hi : i < M.toNat) :
    (st.header.windowIdx i).toNat = r.index (acked.length + i) := by
  have hlen := h.length_content
  have hle := r.length_le
  have hnx := r.next_lt
  have hw := h.writeIdx
  have hu := h.unsynced
  have hsum : (st.header.writeIdx + M).toNat = r.next + M.toNat := by
    rw [UInt32.toNat_add, hw, Nat.mod_eq_of_lt (by omega)]
  have hstart : st.header.startIdx.toNat = (r.next + M.toNat - pending.length) % M.toNat := by
    unfold FileHeader.startIdx
    rw [h.maxRecords, UInt32.toNat_mod,
      UInt32.toNat_sub_of_le _ _ (by rw [UInt32.le_iff_toNat_le]; omega), hsum, hu]
  have hlt : st.header.startIdx.toNat < M.toNat := by
    rw [hstart]; exact Nat.mod_lt _ (by omega)
  unfold FileHeader.windowIdx
  rw [h.maxRecords, UInt32.toNat_mod, UInt32.toNat_add, UInt32.toNat_ofNat',
    Nat.mod_eq_of_lt (a := i) (by omega), Nat.mod_eq_of_lt (b := 2 ^ 32) (by omega), hstart,
    RingBuffer.window_index r (by omega) i, hlen, Nat.add_sub_cancel]

/-- Element `i` of the queue is what slot `i` of the window reads as. -/
theorem RingState.readSlot (hM : M.toNat < 2 ^ 31) (h : RingState M st f r acked pending)
    {i : Nat} {x : StoredRecord} (hx : pending[i]? = some x) :
    readSlot false f (st.header.windowIdx i) = some x := by
  have hi := (List.getElem?_eq_some_iff.mp hx).1
  have hlen := h.length_content
  have hle := h.pending_le
  have hidx := h.windowIdx hM (show i < M.toNat by omega)
  have hlt := r.index_lt (acked.length + i) (by omega)
  rw [IndoorLogger.readSlot, clientRecordOffset_eq (h.file.reach _ (by rw [hidx]; exact hlt)), hidx]
  apply h.file.records.slot_index _ rfl
  rw [h.content, List.getElem?_append_right (by omega), Nat.add_sub_cancel_left]
  exact hx

/-! ## Initialisation and reboot -/

theorem computeMaxRecords_mul (total : UInt32) :
    (computeMaxRecords total).toNat * 22 < 2 ^ 32 := by
  have := total.toNat_lt
  unfold computeMaxRecords
  split
  · decide
  · simp only [UInt32.toNat_ofNat', FileHeader.size_codec, StoredRecord.size_codec]
    omega

/-- A blank device, before its first boot. -/
def Storage.blank : Storage := powerCycle ⟨none, ⟨0, 0, CStr.empty, 0, 0, 0, 0⟩, false⟩

/-- The first boot leaves an empty queue. -/
theorem init_represents (cfg : CStr 32) {total : UInt32}
    (hM : 0 < (computeMaxRecords total).toNat) :
    (dataStorageInit {} cfg total Storage.blank).2 = 0 ∧
      Represents (computeMaxRecords total) (dataStorageInit {} cfg total Storage.blank).1 [] := by
  have hne : computeMaxRecords total ≠ 0 := fun e => by rw [e] at hM; exact absurd hM (by decide)
  have he : dataStorageInit {} cfg total Storage.blank =
      (⟨some (fwrite FileHeader.codec [] 0 (freshHeader cfg (computeMaxRecords total))),
        freshHeader cfg (computeMaxRecords total), true⟩, 0) := by
    simp [dataStorageInit, Storage.blank, powerCycle, initFresh, hne]
  rw [he]
  refine ⟨rfl, _, RingBuffer.empty hM, [], ⟨rfl, rfl, fread_fwrite_self .., rfl, rfl, rfl, rfl, ?_,
    RingBuffer.toList_empty hM, by simp, by simp⟩⟩
  exact ⟨by rw [length_fwrite]; rfl, by simp [RingBuffer.empty], stores_empty hM⟩

/-- A reboot finds the very state it interrupted. -/
theorem reboot_eq (cfg : CStr 32) {total : UInt32} (hM : 0 < (computeMaxRecords total).toNat)
    (h : Represents M st pending) :
    dataStorageInit {} cfg total (powerCycle st) = (st, 0) := by
  obtain ⟨f, r, acked, h⟩ := h
  have hne : computeMaxRecords total ≠ 0 := fun e => by rw [e] at hM; exact absurd hM (by decide)
  have hlt : ¬ st.header.writeIdx ≥ st.header.maxRecords := by
    have := r.next_lt
    have := h.writeIdx
    rw [ge_iff_le, UInt32.le_iff_toNat_le, h.maxRecords]
    omega
  have hmagic : (st.header.magic == dataStorageMagic) = true := by simp [h.magic]
  have hst : st = ⟨some f, st.header, true⟩ := by rw [← h.flash, ← h.isOpen]
  simp only [dataStorageInit, powerCycle, Bool.false_eq_true, if_false, hne, h.flash, h.header,
    Option.filter_some, hmagic, if_true, hlt]
  rw [hst]

/-! ## Enqueueing -/

/-- The record as `data_storage_append` writes it. -/
def StoredRecord.fresh (rec : StoredRecord) : StoredRecord := { rec with synced := false }

theorem advance_unsynced (h : FileHeader) (hlt : h.unsyncedCount.toNat + 1 < 2 ^ 32) :
    h.advance.unsyncedCount.toNat = h.unsyncedCount.toNat + 1 := by
  unfold FileHeader.advance
  rw [UInt32.toNat_add, UInt32.toNat_one, Nat.mod_eq_of_lt hlt]

/-- A successful append writes the record, then the advanced header. -/
theorem append_eq (h : RingState M st f r acked pending) {rec : StoredRecord}
    (hok : (dataStorageAppend {} st rec).2 = 0) :
    56 + r.next * 22 < 2 ^ 31 ∧
      dataStorageAppend {} st rec = (⟨some (fwrite FileHeader.codec
        (fwrite StoredRecord.codec f (slotOffset 56 StoredRecord.codec r.next) rec.fresh) 0
        st.header.advance), st.header.advance, true⟩, 0) := by
  unfold dataStorageAppend at hok ⊢
  rw [h.fp] at hok ⊢
  simp only [Bool.false_eq_true, if_false] at hok ⊢
  cases ho : clientRecordOffset st.header.writeIdx with
  | none => simp [ho] at hok
  | some off =>
    obtain ⟨hlt, rfl⟩ := clientRecordOffset_some ho
    rw [h.writeIdx] at hlt
    rw [h.writeIdx, h.isOpen]
    exact ⟨hlt, rfl⟩

theorem length_push_file (h : QueueFile f r) (x : StoredRecord) :
    (fwrite StoredRecord.codec f (slotOffset 56 StoredRecord.codec r.next) x).length =
      56 + 22 * (r.push x).slots.length := by
  have hle := r.length_le
  have hnx := r.next_lt
  rw [length_fwrite, h.length, RingBuffer.length_push, slotOffset, StoredRecord.size_codec]
  by_cases hlt : r.slots.length < M.toNat
  · have := r.next_eq hlt
    omega
  · omega

/-- Appending keeps the file of the ring, provided the offset written to was in reach. -/
theorem push_file (h : QueueFile f r) (x : StoredRecord) (hreach : 56 + r.next * 22 < 2 ^ 31) :
    QueueFile (fwrite StoredRecord.codec f (slotOffset 56 StoredRecord.codec r.next) x)
      (r.push x) where
  length := length_push_file h x
  reach i hi := by
    rw [RingBuffer.length_push] at hi
    by_cases hlt : r.slots.length < M.toNat
    · by_cases hil : i < r.slots.length
      · exact h.reach i hil
      · rw [show i = r.next by have := r.next_eq hlt; omega]
        exact hreach
    · exact h.reach i (by omega)
  records := stores_push (by decide) h.records rfl

theorem advance_writeIdx_toNat (hM : M.toNat < 2 ^ 31) (h : RingState M st f r acked pending)
    (x : StoredRecord) : st.header.advance.writeIdx.toNat = (r.push x).next := by
  have hnx := r.next_lt
  unfold FileHeader.advance
  rw [UInt32.toNat_mod, UInt32.toNat_add, UInt32.toNat_one, h.writeIdx,
    h.maxRecords, Nat.mod_eq_of_lt (b := 2 ^ 32) (by omega)]
  rfl

/-- With room left, a successful append enqueues the record. -/
theorem append_represents (hM : M.toNat < 2 ^ 31) (h : Represents M st pending)
    (hroom : pending.length < M.toNat) {rec : StoredRecord}
    (hok : (dataStorageAppend {} st rec).2 = 0) :
    Represents M (dataStorageAppend {} st rec).1 (pending ++ [rec.fresh]) := by
  obtain ⟨f, r, acked, h⟩ := h
  obtain ⟨hreach, he⟩ := append_eq h hok
  have hlen := h.length_content
  have hle := r.length_le
  rw [he]
  -- on a full ring the record overwritten is an acknowledged one
  refine ⟨_, r.push rec.fresh, acked.drop (acked.length + pending.length + 1 - M.toNat), rfl, rfl,
    fread_fwrite_self .., h.magic, h.maxRecords, advance_writeIdx_toNat hM h _, ?_,
    (push_file h.file _ hreach).write_header _, ?_, ?_, ?_⟩
  · rw [advance_unsynced _ (by rw [h.unsynced]; omega), h.unsynced, List.length_append,
      List.length_singleton]
  · rw [RingBuffer.toList_push, h.content, List.rtake, List.append_assoc, List.length_append,
      List.length_append, List.length_singleton, ← Nat.add_assoc,
      List.drop_append_of_le_length (by omega)]
  · exact fun x hx => h.ackedSynced x (List.mem_of_mem_drop hx)
  · intro x hx
    rcases List.mem_append.mp hx with hx | hx
    · exact h.pendingUnsynced x hx
    · rw [List.mem_singleton.mp hx]; rfl

/-! ## Reading -/

theorem readLoop_eq (f : List UInt8) (h : FileHeader) (ps : List StoredRecord) (i : Nat)
    (room : Int)
    (hp : ∀ j x, ps[j]? = some x → IndoorLogger.readSlot false f (h.windowIdx (i + j)) = some x ∧
      x.synced = false) :
    readLoop (fun _ => false) f h ps.length i room =
      ((ps.zipIdx i).map fun p => (h.windowIdx p.2, p.1)).take room.toNat := by
  induction ps generalizing i room with
  | nil => simp [readLoop]
  | cons x ps ih =>
    obtain ⟨hx, hs⟩ := hp 0 x rfl
    rw [Nat.add_zero] at hx
    simp only [List.length_cons, readLoop, hx, hs, Bool.false_eq_true, if_false]
    split
    · rw [show room.toNat = 0 by omega, List.take_zero]
    · rw [ih (i + 1) (room - 1) (fun j y hy => by
        rw [show i + 1 + j = i + (j + 1) by omega]
        exact hp (j + 1) y (by simpa using hy))]
      rw [show room.toNat = (room - 1).toNat + 1 by omega, List.zipIdx_cons, List.map_cons,
        List.take_succ_cons]

/-- The slots a read takes are the front of the window, with the front of the queue in them. -/
theorem unsyncedSlots_eq (hM : M.toNat < 2 ^ 31) (h : RingState M st f r acked pending) (k : Int) :
    unsyncedSlots (fun _ => false) st k =
      ((pending.zipIdx).map fun p => (st.header.windowIdx p.2, p.1)).take k.toNat := by
  unfold unsyncedSlots
  rw [h.fp, h.unsynced]
  apply readLoop_eq
  intro j x hx
  rw [Nat.zero_add]
  exact ⟨h.readSlot hM hx, h.pendingUnsynced x (List.mem_of_getElem? hx)⟩

/-- Reading returns the front of the queue. -/
theorem readUnsynced_eq (hM : M.toNat < 2 ^ 31) (h : Represents M st pending) (k : Int) :
    dataStorageReadUnsynced (fun _ => false) st k = pending.take k.toNat := by
  obtain ⟨f, r, acked, h⟩ := h
  unfold dataStorageReadUnsynced
  rw [unsyncedSlots_eq hM h, List.map_take, List.map_map]
  congr 1
  exact List.zipIdx_map_fst 0 pending

/-! ## Acknowledging -/

/-- The record as `data_storage_mark_synced` rewrites it. -/
def StoredRecord.acknowledged (rec : StoredRecord) : StoredRecord := { rec with synced := true }

/-- Flagging element `i` keeps the file of the ring. -/
theorem setAt_file (h : QueueFile f r) {i : Nat} (hi : i < r.slots.length) (x : StoredRecord) :
    QueueFile (fwrite StoredRecord.codec f (slotOffset 56 StoredRecord.codec (r.index i)) x)
      (r.setAt i x) where
  length := by
    have := r.index_lt i hi
    rw [length_fwrite, h.length, RingBuffer.length_setAt, slotOffset, StoredRecord.size_codec]
    omega
  reach j hj := h.reach j (by rwa [RingBuffer.length_setAt] at hj)
  records := stores_setAt (by decide) h.records hi rfl

/-- The loop of `data_storage_mark_synced` moves `n` records from the queue to the acknowledged
    part, whose length tells which step the loop is at. -/
theorem markLoop_spec {h hd : FileHeader} {a : Nat} (n i : Nat)
    (hf : QueueFile f r) (hhd : fread FileHeader.codec f 0 = some hd)
    (hidx : ∀ j < M.toNat, (h.windowIdx j).toNat = r.index (a + j))
    (hc : r.toList = acked ++ pending) (ha : acked.length = a + i) (hn : n ≤ pending.length)
    (hiM : i + n ≤ M.toNat) (hp : ∀ x ∈ pending, x.synced = false) :
    ∃ f' r', markLoop {} h n i f = (f', n) ∧ QueueFile f' r' ∧
      fread FileHeader.codec f' 0 = some hd ∧ (r' : RingBuffer StoredRecord M.toNat).next = r.next ∧
      r'.toList = acked ++ (pending.take n).map StoredRecord.acknowledged ++ pending.drop n := by
  induction n generalizing i f r acked pending with
  | zero => exact ⟨f, r, rfl, hf, hhd, rfl, by simp [hc]⟩
  | succ n ih =>
    cases pending with
    | nil => simp at hn
    | cons x ps =>
      have hx : r.toList[acked.length]? = some x := by
        rw [hc, List.getElem?_append_right (Nat.le_refl _), Nat.sub_self, List.getElem?_cons_zero]
      have hlt : acked.length < r.slots.length := by
        have := (List.getElem?_eq_some_iff.mp hx).1
        rwa [RingBuffer.length_toList] at this
      have hi : (h.windowIdx i).toNat = r.index acked.length := by rw [hidx i (by omega), ha]
      have hoff := clientRecordOffset_eq (hf.reach _ (by rw [hi]; exact r.index_lt _ hlt))
      rw [hi] at hoff
      have hread : readSlot false f (h.windowIdx i) = some x := by
        unfold readSlot
        rw [hoff]
        exact hf.records.slot_index hx rfl
      have hset : (r.setAt acked.length x.acknowledged).toList =
          (acked ++ [x.acknowledged]) ++ ps := by
        rw [RingBuffer.toList_setAt _ _ _ hlt, hc, List.set_append_right _ _ (Nat.le_refl _),
          Nat.sub_self, List.set_cons_zero, List.append_assoc, List.singleton_append]
      obtain ⟨f', r', he, hf', hhd', hnx, hcont⟩ := ih (i + 1) (setAt_file hf hlt x.acknowledged)
        (header_write_slot 56 _ _ (by decide) (Nat.le_refl 56) f _ x.acknowledged hd hhd)
        (fun j hj => by rw [RingBuffer.index_setAt]; exact hidx j hj) hset
        (by rw [List.length_append, List.length_singleton, ha]; omega)
        (by simpa using hn) (by omega) (fun y hy => hp y (List.mem_cons_of_mem _ hy))
      refine ⟨f', r', ?_, hf', hhd', hnx, ?_⟩
      · simp only [markLoop, hread, hoff, hp x List.mem_cons_self, Bool.or_self,
          Bool.false_eq_true, if_false]
        rw [show ({ x with synced := true } : StoredRecord) = x.acknowledged from rfl, he]
      · rw [hcont]
        simp

theorem toInt_toInt32 {u : UInt32} (h : u.toNat < 2 ^ 31) : u.toInt32.toInt = u.toNat := by
  rw [Int32.toInt, UInt32.toBitVec_toInt32, BitVec.toInt_eq_toNat_of_lt]
  · rfl
  · rw [UInt32.toNat_toBitVec]; omega

/-- Acknowledging dequeues, and returns how many records it dequeued. -/
theorem markSynced_represents (hM : M.toNat < 2 ^ 31) (h : Represents M st pending) (c : Nat) :
    (dataStorageMarkSynced {} st c).2 = (min c pending.length : Nat) ∧
      Represents M (dataStorageMarkSynced {} st c).1 (pending.drop c) := by
  obtain ⟨f, r, acked, h⟩ := h
  have hle := h.pending_le
  unfold dataStorageMarkSynced
  rw [h.fp]
  dsimp only
  by_cases hc0 : (c : Int) ≤ 0
  · obtain rfl : c = 0 := by omega
    rw [if_pos (by simp)]
    exact ⟨by simp, f, r, acked, by simpa using h⟩
  · rw [if_neg hc0, toInt_toInt32 (by rw [h.unsynced]; omega), h.unsynced,
      show (min (c : Int) (pending.length : Int)).toNat = min c pending.length by omega]
    obtain ⟨f', r', he, hf', hhd', hnx, hcont⟩ := markLoop_spec (h := st.header) (a := acked.length)
      (min c pending.length) 0 h.file h.header (fun j hj => h.windowIdx hM hj) h.content rfl
      (by omega) (by omega) h.pendingUnsynced
    rw [he]
    have hdrop : pending.drop (min c pending.length) = pending.drop c := by
      rcases Nat.le_total c pending.length with hcp | hcp
      · rw [Nat.min_eq_left hcp]
      · rw [Nat.min_eq_right hcp, List.drop_length, List.drop_eq_nil_of_le hcp]
    rw [hdrop] at hcont
    have hsync : ∀ x ∈ acked ++ (pending.take (min c pending.length)).map
        StoredRecord.acknowledged, x.synced = true := by
      intro x hx
      rcases List.mem_append.mp hx with hx | hx
      · exact h.ackedSynced x hx
      · obtain ⟨y, -, rfl⟩ := List.mem_map.mp hx; rfl
    have huns : ∀ x ∈ pending.drop c, x.synced = false :=
      fun x hx => h.pendingUnsynced x (List.mem_of_mem_drop hx)
    dsimp only
    by_cases hm : min c pending.length > 0
    · rw [if_pos hm]
      refine ⟨rfl, _, r', _, h.isOpen, rfl, fread_fwrite_self .., h.magic, h.maxRecords,
        by rw [hnx]; exact h.writeIdx, ?_, ?_, hcont, hsync, huns⟩
      · rw [UInt32.toNat_sub_of_le _ _ (by
          rw [UInt32.le_iff_toNat_le, UInt32.toNat_ofNat', h.unsynced]
          exact (Nat.mod_le _ _).trans (by omega)), UInt32.toNat_ofNat', h.unsynced,
          Nat.mod_eq_of_lt (by omega), List.length_drop]
        omega
      · exact hf'.write_header _
    · -- nothing was flagged: the queue was empty
      have hnil : pending = [] := List.eq_nil_of_length_eq_zero (by omega)
      subst hnil
      rw [if_neg hm]
      refine ⟨rfl, f', r', _, h.isOpen, rfl, hhd', h.magic, h.maxRecords,
        by rw [hnx]; exact h.writeIdx, by simpa using h.unsynced, hf', hcont, hsync, huns⟩

end IndoorLogger
