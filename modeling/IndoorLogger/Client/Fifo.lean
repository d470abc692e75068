import IndoorLogger.Client.Queue
import Mathlib.Data.Set.Basic

/-
  Runs of the client's storage. While the backlog fits the ring, every sequence of calls and
  reboots behaves as a FIFO queue (`storage_is_fifo`). Appending to a ring whose `M` records
  are all unacknowledged still counts up `unsynced_count`, past the ring's capacity; the
  window and the flags agree exactly as long as no such append is made
  (`overflow_iff`).
-/

namespace IndoorLogger

open RecordFile Machine

/-! ## Calls -/

/-- One call on the storage, or a reboot. -/
inductive QueueOp where
  | append (rec : StoredRecord)
  | readUnsynced (k : Nat)
  | markSynced (c : Nat)
  | reboot

/-- What a call returns. -/
inductive QueueOut where
  | ret (code : Int)
  | records (l : List StoredRecord)
  deriving DecidableEq

/-- The code's step, with no failing `fread`, `fwrite` or `fopen`. -/
def queueStep (cfg : CStr 32) (total : UInt32) (st : Storage) : QueueOp → Storage × QueueOut
  | .append rec => ((dataStorageAppend {} st rec).1, .ret (dataStorageAppend {} st rec).2)
  | .readUnsynced k => (st, .records (dataStorageReadUnsynced (fun _ => false) st k))
  | .markSynced c => ((dataStorageMarkSynced {} st c).1, .ret (dataStorageMarkSynced {} st c).2)
  | .reboot =>
    let r := dataStorageInit {} cfg total (powerCycle st)
    (r.1, .ret r.2)

/-- The device after its first boot. -/
def firstBoot (cfg : CStr 32) (total : UInt32) : Storage :=
  (dataStorageInit {} cfg total Storage.blank).1

/-- A call that reports no I/O error. Seeking past the reach of a `long` is such an error. -/
def IoSucceeds (st : Storage) : QueueOp → Prop
  | .append rec => (dataStorageAppend {} st rec).2 = 0
  | _ => True

instance (st : Storage) : ∀ op, Decidable (IoSucceeds st op)
  | .append rec => inferInstanceAs (Decidable ((dataStorageAppend {} st rec).2 = 0))
  | .readUnsynced _ | .markSynced _ | .reboot => inferInstanceAs (Decidable True)

/-! ## FIFO -/

/-- A FIFO queue of unacknowledged records. -/
def fifoStep (q : List StoredRecord) : QueueOp → List StoredRecord × QueueOut
  | .append rec => (q ++ [rec.fresh], .ret 0)
  | .readUnsynced k => (q, .records (q.take k))
  | .markSynced c => (q.drop c, .ret (min c q.length : Nat))
  | .reboot => (q, .ret 0)

variable {cfg : CStr 32} {total : UInt32}

/-- One call refines one queue operation, unless it makes the backlog exceed the ring. -/
theorem step_represents {M : UInt32} (hM : M.toNat < 2 ^ 31)
    (hpos : 0 < (computeMaxRecords total).toNat) {st : Storage} {q : List StoredRecord}
    (h : Represents M st q) {op : QueueOp} (hio : IoSucceeds st op)
    (hcap : (fifoStep q op).1.length ≤ M.toNat) :
    (queueStep cfg total st op).2 = (fifoStep q op).2 ∧
      Represents M (queueStep cfg total st op).1 (fifoStep q op).1 := by
  cases op with
  | append rec =>
    have hroom : q.length < M.toNat := by
      rw [fifoStep, List.length_append, List.length_singleton] at hcap
      omega
    exact ⟨congrArg QueueOut.ret hio, append_represents hM h hroom hio⟩
  | readUnsynced k =>
    refine ⟨?_, h⟩
    rw [queueStep, fifoStep, readUnsynced_eq hM h k, Int.toNat_natCast]
  | markSynced c =>
    obtain ⟨hret, hrep⟩ := markSynced_represents hM h c
    exact ⟨congrArg QueueOut.ret hret, hrep⟩
  | reboot =>
    simp only [queueStep, reboot_eq cfg hpos h, fifoStep, true_and]
    exact h

/-- **The storage is a FIFO queue.** For a ring of `M` records whose bytes stay below 2^31, every
    sequence of calls and reboots in which no call reports an I/O error and no more than `M`
    records are ever unacknowledged returns what the queue returns, and a reboot of any state
    reached yields that very state. -/
theorem storage_is_fifo (cfg : CStr 32) (total : UInt32)
    (hpos : 0 < (computeMaxRecords total).toNat)
    (hsize : (computeMaxRecords total).toNat * 22 < 2 ^ 31) (ops : List QueueOp)
    (hio : Meets (queueStep cfg total) IoSucceeds (firstBoot cfg total) ops)
    (hcap : Meets fifoStep (fun q op => (fifoStep q op).1.length ≤ (computeMaxRecords total).toNat)
      [] ops) :
    outputs (queueStep cfg total) (firstBoot cfg total) ops = outputs fifoStep [] ops ∧
      Always (queueStep cfg total)
        (fun st => dataStorageInit {} cfg total (powerCycle st) = (st, 0))
        (firstBoot cfg total) ops := by
  have hM : (computeMaxRecords total).toNat < 2 ^ 31 := by omega
  have hinit := (init_represents cfg hpos).2
  have hsim : ∀ st q op, Represents (computeMaxRecords total) st q → IoSucceeds st op →
      (fifoStep q op).1.length ≤ (computeMaxRecords total).toNat →
      (queueStep cfg total st op).2 = (fifoStep q op).2 ∧
        Represents (computeMaxRecords total) (queueStep cfg total st op).1 (fifoStep q op).1 :=
    fun st q op h hg hh => step_represents hM hpos h hg hh
  constructor
  · exact outputs_eq_of_simulation hsim hinit hio hcap
  · exact always_of_simulation hsim (fun st q h => reboot_eq cfg hpos h) hinit hio hcap

/-- A ring of two records, wrapped, with one acknowledgement and a reboot. -/
theorem storage_is_fifo_wrap :
    let cfg : CStr 32 := CStr.strncpy (ascii "LID_client")
    let rec' (t : Int32) : StoredRecord := ⟨t, 60, 0x41AC0000, 0x42200000, 412, 15, 1, false⟩
    outputs (queueStep cfg 32868) (firstBoot cfg 32868)
      [.append (rec' 1), .append (rec' 2), .markSynced 1, .append (rec' 3), .reboot,
        .readUnsynced 5] =
      [.ret 0, .ret 0, .ret 1, .ret 0, .ret 0, .records [rec' 2, rec' 3]] :=
  (storage_is_fifo _ 32868 (by decide) (by decide) _ (by decide +kernel) (by decide +kernel)).1

/-! ## Overflow -/

/-- The slots of the window `[write_idx - unsynced_count, write_idx)`. -/
def windowSlots (st : Storage) : Set Nat :=
  { s | ∃ i < st.header.unsyncedCount.toNat, (st.header.windowIdx i).toNat = s }

/-- The written slots whose flag says unsynced. -/
def unsyncedWritten (st : Storage) : Set Nat :=
  { s | ∃ f rec, st.fp = some f ∧ slot 56 StoredRecord.codec f s = some rec ∧ rec.synced = false }

/-- The newest `M` unacknowledged records: a queue that drops its oldest entry when it holds `M`
    and another comes. -/
def newestStep (M : Nat) (q : List StoredRecord) : QueueOp → List StoredRecord
  | .append rec => (q ++ [rec.fresh]).rtake M
  | .markSynced c => q.drop c
  | _ => q

/-- The code next to the queue it should keep. -/
def overflowStep (cfg : CStr 32) (total : UInt32) (s : Storage × List StoredRecord)
    (op : QueueOp) : (Storage × List StoredRecord) × QueueOut :=
  (((queueStep cfg total s.1 op).1, newestStep (computeMaxRecords total).toNat s.2 op),
    (queueStep cfg total s.1 op).2)

/-- Counter, window, flags and reads agree on the newest unacknowledged records. -/
structure WindowOk (s : Storage × List StoredRecord) : Prop where
  count_le : s.1.header.unsyncedCount.toNat ≤ s.1.header.maxRecords.toNat
  window : windowSlots s.1 = unsyncedWritten s.1
  read : ∀ k, s.1.header.maxRecords.toNat ≤ k →
    dataStorageReadUnsynced (fun _ => false) s.1 (k : Nat) = s.2

/-- The step does not append to a ring full of unacknowledged records. -/
def HasRoom (s : Storage × List StoredRecord) : QueueOp → Prop
  | .append _ => s.1.header.unsyncedCount.toNat < s.1.header.maxRecords.toNat
  | _ => True

instance (s : Storage × List StoredRecord) : ∀ op, Decidable (HasRoom s op)
  | .append _ => inferInstanceAs
      (Decidable (s.1.header.unsyncedCount.toNat < s.1.header.maxRecords.toNat))
  | .readUnsynced _ | .markSynced _ | .reboot => inferInstanceAs (Decidable True)

theorem windowOk_of_represents {M : UInt32} (hM : M.toNat < 2 ^ 31) {st : Storage}
    {q : List StoredRecord} (h : Represents M st q) : WindowOk (st, q) := by
  have hread := readUnsynced_eq hM h
  obtain ⟨f, r, acked, h⟩ := h
  have hlen := h.length_content
  have hle := h.pending_le
  refine ⟨by rw [h.unsynced, h.maxRecords]; exact hle, ?_, fun k hk => ?_⟩
  · ext s
    constructor
    · intro hboth
      obtain ⟨i, hi, rfl⟩ := hboth
      rw [h.unsynced] at hi
      refine ⟨f, q[i], h.fp, ?_, h.pendingUnsynced _ (List.getElem_mem hi)⟩
      rw [h.windowIdx hM (by omega)]
      apply h.file.records.slot_index _ rfl
      rw [h.content, List.getElem?_append_right (by omega), Nat.add_sub_cancel_left,
        List.getElem?_eq_getElem hi]
    · intro h'
      obtain ⟨f', rec, hf', hs, hrec⟩ := h'
      obtain rfl : f = f' := by rw [h.fp] at hf'; exact Option.some.inj hf'
      -- the slot is written, so it holds some element of the content
      have hlt : s < r.slots.length := by
        have := le_of_fread _ (by decide) hs
        rw [h.file.length, slotOffset, StoredRecord.size_codec] at this
        omega
      obtain ⟨i, hi, rfl⟩ := r.exists_index hlt
      have hx : r.toList[i]? = some rec := by
        have hi : i < r.toList.length := by rwa [RingBuffer.length_toList]
        have hc : r.toList[i]? = some r.toList[i] := List.getElem?_eq_getElem hi
        rw [hc]
        have := h.file.records.slot_index hc rfl
        rw [hs] at this
        exact this.symm
      rw [h.content] at hx
      have hai : acked.length ≤ i := by
        by_contra hlt'
        rw [List.getElem?_append_left (by omega)] at hx
        have := h.ackedSynced rec (List.mem_of_getElem? hx)
        rw [hrec] at this
        exact absurd this (by simp)
      refine ⟨i - acked.length, by rw [h.unsynced]; omega, ?_⟩
      rw [h.windowIdx hM (by omega)]
      congr 1
      omega
  · rw [hread k, Int.toNat_natCast, List.take_of_length_le]
    rw [h.maxRecords] at hk
    omega

theorem newestStep_eq_fifo {M : Nat} {q : List StoredRecord} {op : QueueOp}
    (h : (fifoStep q op).1.length ≤ M) : newestStep M q op = (fifoStep q op).1 := by
  cases op with
  | append rec =>
    have hle : (q ++ [rec.fresh]).length ≤ M := h
    rw [newestStep, fifoStep, List.rtake, Nat.sub_eq_zero_of_le hle, List.drop_zero]
  | readUnsynced k => rfl
  | markSynced c => rfl
  | reboot => rfl

/-- Two readings fill a ring of one record twice over: `unsynced_count` is 2. -/
theorem overflow_counts_past_capacity :
    let cfg : CStr 32 := CStr.strncpy (ascii "LID_client")
    let rec' (t : Int32) : StoredRecord := ⟨t, 60, 0x41AC0000, 0x42200000, 412, 15, 1, false⟩
    let ops := [QueueOp.append (rec' 1), QueueOp.append (rec' 2)]
    let s := final (overflowStep cfg 32846) (firstBoot cfg 32846, []) ops
    Meets (overflowStep cfg 32846) (fun s op => IoSucceeds s.1 op) (firstBoot cfg 32846, []) ops ∧
      s.1.header.maxRecords = 1 ∧ s.1.header.unsyncedCount = 2 ∧
      ¬ Always (overflowStep cfg 32846) WindowOk (firstBoot cfg 32846, []) ops := by
  refine ⟨by decide +kernel, by decide +kernel, by decide +kernel, fun h => ?_⟩
  exact absurd h.final.count_le (by decide +kernel)

/-- A run of calls that report no I/O error keeps window, flags and reads in agreement exactly
    when none of its appends finds the ring full of unacknowledged records. -/
theorem overflow_iff (cfg : CStr 32) (total : UInt32)
    (hpos : 0 < (computeMaxRecords total).toNat) (ops : List QueueOp)
    (hio : Meets (overflowStep cfg total) (fun s op => IoSucceeds s.1 op)
      (firstBoot cfg total, []) ops) :
    Always (overflowStep cfg total) WindowOk (firstBoot cfg total, []) ops ↔
      Meets (overflowStep cfg total) HasRoom (firstBoot cfg total, []) ops := by
  have hM : (computeMaxRecords total).toNat < 2 ^ 31 := by
    have := computeMaxRecords_mul total
    omega
  have hstep : ∀ s op, Represents (computeMaxRecords total) s.1 s.2 → IoSucceeds s.1 op →
      HasRoom s op → Represents (computeMaxRecords total) (overflowStep cfg total s op).1.1
        (overflowStep cfg total s op).1.2 := by
    intro s op h hg hc
    have hcap : (fifoStep s.2 op).1.length ≤ (computeMaxRecords total).toNat := by
      obtain ⟨f, r, acked, h⟩ := h
      have hle := h.pending_le
      cases op with
      | append rec =>
        rw [HasRoom, h.unsynced, h.maxRecords] at hc
        unfold fifoStep
        rw [List.length_append, List.length_singleton]
        omega
      | readUnsynced k => exact hle
      | markSynced c => rw [fifoStep, List.length_drop]; omega
      | reboot => exact hle
    unfold overflowStep
    rw [newestStep_eq_fifo hcap]
    exact (step_represents hM hpos h hg hcap).2
  have hinit := (init_represents cfg hpos).2
  refine always_iff_meets (J := fun s => Represents (computeMaxRecords total) s.1 s.2)
    (fun s op hj _ hg hc => hstep s op hj hg hc)
    (fun s op hj hp hg => ⟨fun hp' => ?_, fun hc => ?_⟩)
    hinit (windowOk_of_represents hM hinit) hio
  · cases op with
    | append rec =>
      -- a full ring would count one more than its capacity
      obtain ⟨f, r, acked, h⟩ := hj
      have hle := h.pending_le
      by_contra hfull
      have heq := (append_eq h hg).2
      have := hp'.count_le
      simp only [overflowStep, queueStep, heq] at this
      rw [advance_unsynced _ (by rw [h.unsynced]; omega)] at this
      exact hfull (Nat.lt_of_succ_le this)
    | readUnsynced k => trivial
    | markSynced c => trivial
    | reboot => trivial
  · exact windowOk_of_represents hM (hstep s op hj hg hc)

/-- A ring of one record that is acknowledged before the next append keeps agreeing. -/
theorem overflow_iff_acknowledged :
    let cfg : CStr 32 := CStr.strncpy (ascii "LID_client")
    let rec' (t : Int32) : StoredRecord := ⟨t, 60, 0x41AC0000, 0x42200000, 412, 15, 1, false⟩
    Always (overflowStep cfg 32846) WindowOk (firstBoot cfg 32846, [])
      [.append (rec' 1), .markSynced 1, .append (rec' 2)] :=
  (overflow_iff _ 32846 (by decide) _ (by decide +kernel)).mpr (by decide +kernel)

end IndoorLogger
