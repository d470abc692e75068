import IndoorLogger.Server.BoundedLog

/-
  `data_store_append` when its calls fail. The record is written before the header, and a file
  that cannot be opened or whose header cannot be read is started over. Each failing call
  leaves one of three things: the sequence as it was, an empty ring, or a full ring whose
  oldest record is already the new one.
-/

namespace IndoorLogger

open RecordFile RingFile

/-! ## What an append should leave -/

/-- What `data_store_read_range` shows of client `id`: every range is a slice of `recs`. -/
def ReadsAs (fs : Fs) (id : Id) (recs : List DataRecord) : Prop :=
  ∀ offset limit capacity : UInt32, dataStoreReadRange fs id offset limit capacity =
    (recs.drop offset.toNat).take (min limit.toNat capacity.toNat)

/-- The append that returned `r` on a ring of `cap` records with content `recs` did all of its
    work or none of it. -/
def AppendAtomic (cap : UInt32) (id : Id) (rec : DataRecord) (recs : List DataRecord)
    (r : Fs × Int) : Prop :=
  (r.2 = -1 → ReadsAs r.1 id recs) ∧
    (r.2 = 0 → ReadsAs r.1 id ((recs ++ [rec]).rtake cap.toNat))

/-- No failure reaches the records: the file is not started over while it holds any, and the
    oldest record of a full ring is not overwritten under the old header. Starting over does
    no harm to a ring of one record that the append replaces anyway. -/
def KeepsRecords (cap : UInt32) (io : AppendIo) (recs : List DataRecord) (rec : DataRecord) :
    Prop :=
  let replaces := cap = 1 ∧ io.fwriteRecord = false ∧ io.fwriteHeader = false
  if io.fopenR then
    recs = [] ∨ io.fopenW = true ∨ (io.fwriteNewHeader = false ∧ replaces)
  else if io.freadHeader then recs = [] ∨ io.fwriteNewHeader = true ∨ replaces
  else
    recs.length < cap.toNat ∨ io.fwriteRecord = true ∨ io.fwriteHeader = false ∨
      recs.head? = some rec

instance (cap : UInt32) (io : AppendIo) (recs : List DataRecord) (rec : DataRecord) :
    Decidable (KeepsRecords cap io recs rec) := by
  unfold KeepsRecords
  infer_instance

variable {g cap : UInt32} {fs : Fs} {id : Id} {recs : List DataRecord}

theorem HoldsSeq.readsAs (hg : Fits g) (h : HoldsSeq g fs id recs) : ReadsAs fs id recs :=
  h.readRange_eq hg

/-- A file shows one sequence. -/
theorem HoldsSeq.readsAs_iff (hg : Fits g) (h : HoldsSeq g fs id recs) {xs : List DataRecord} :
    ReadsAs fs id xs ↔ xs = recs := by
  constructor
  · intro hx
    have hlen := h.length_le
    have hsmall := hg.bytes
    have hall := (hx 0 4294967295 4294967295).symm.trans (h.readRange_eq hg 0 4294967295 4294967295)
    rw [UInt32.toNat_zero, List.drop_zero, List.drop_zero,
      show min (4294967295 : UInt32).toNat (4294967295 : UInt32).toNat = 4294967295 from rfl,
      List.take_of_length_le (l := recs) (by omega)] at hall
    have hxl := congrArg List.length hall
    rw [List.length_take] at hxl
    rwa [List.take_of_length_le (by omega)] at hall
  · rintro rfl
    exact h.readsAs hg

/-! ## Partial appends -/

/-- The record of a failed append is in the file, the header is the old one: on a full ring the
    oldest record is lost. -/
theorem Holds.write_record (hg : Fits g) {f : List UInt8} {h : ClientFileHeader}
    {r : RingBuffer (Option DataRecord) g.toNat} (hh : validHeader f = some h) (hf : Holds g f r)
    (rec : DataRecord) :
    Holds g (fwrite DataRecord.codec f (recordOffset h.writeIdx) rec)
      (if r.slots.length < g.toNat then r else r.setAt 0 (some rec)) := by
  obtain ⟨h', hv, hm, hw, hc⟩ := hf.header
  obtain rfl : h = h' := by rw [hh] at hv; exact Option.some.inj hv
  have hpos := hg.pos
  have hnx := r.next_lt
  obtain ⟨hread, hmagic⟩ := validHeader_eq_some.mp hh
  rw [recordOffset_eq hg (by rw [hw]; exact hnx), hw]
  have hheader : validHeader (fwrite DataRecord.codec f (slotOffset 49 DataRecord.codec r.next)
      rec) = some h :=
    validHeader_eq_some.mpr
      ⟨header_write_slot 49 _ _ (by decide) (Nat.le_refl 49) f _ rec h hread, hmagic⟩
  by_cases hlt : r.slots.length < g.toNat
  · rw [if_pos hlt]
    refine ⟨⟨h, hheader, hm, hw, hc⟩, fun i b x hi hx => ?_⟩
    have hil := (List.getElem?_eq_some_iff.mp hi).1
    have hnext := r.next_eq hlt
    exact slot_write_ne _ _ (by decide) _ _ _ (by omega) (hf.records i b x hi hx)
  · rw [if_neg hlt]
    have hoff : r.next = r.index 0 := by
      unfold RingBuffer.index
      rw [r.start_eq_next hlt, Nat.add_zero, Nat.mod_eq_of_lt hnx]
    refine ⟨⟨h, hheader, hm, hw, by rw [RingBuffer.length_setAt]; exact hc⟩, ?_⟩
    rw [hoff]
    exact stores_setAt (by decide) hf.records (by omega) rfl

/-- What is left when the file is started over: its records are gone, and the new one is there
    if nothing else fails. -/
theorem restart_holdsSeq (hg : Fits g) (io : AppendIo) (fs : Fs) (f : List UInt8) (id : Id)
    (rec : DataRecord) :
    let r := appendRecord io (fwrite ClientFileHeader.codec f 0 (newHeader g id)) (newHeader g id)
      rec
    if io.fwriteRecord = false ∧ io.fwriteHeader = false then
      r.2 = 0 ∧ HoldsSeq g (fs.write (getFilepath id) r.1) id [rec]
    else r.2 = -1 ∧ HoldsSeq g (fs.write (getFilepath id) r.1) id [] := by
  have hpos := hg.pos
  have hempty := newHeader_holds hg f id
  have hv : validHeader (fwrite ClientFileHeader.codec f 0 (newHeader g id)) =
      some (newHeader g id) := validHeader_write rfl
  intro r
  cases hr : io.fwriteRecord with
  | true =>
    rw [if_neg (by simp)]
    refine ⟨by simp [r, appendRecord, hr], Or.inr ⟨_, ⟨_, Fs.write_self .., ?_⟩,
      RingBuffer.toList_empty hpos⟩⟩
    simpa [r, appendRecord, hr] using hempty
  | false =>
    cases hh : io.fwriteHeader with
    | true =>
      have hw := hempty.write_record hg hv rec
      rw [if_pos (show (RingBuffer.empty (α := Option DataRecord) hpos).slots.length < g.toNat from
        hpos)] at hw
      rw [if_neg (by simp)]
      refine ⟨by simp [r, appendRecord, hr, hh], Or.inr ⟨_, ⟨_, Fs.write_self .., ?_⟩,
        RingBuffer.toList_empty hpos⟩⟩
      simpa [r, appendRecord, hr, hh] using hw
    | false =>
      obtain ⟨f', he, hf'⟩ := appendRecord_holds hg rec hv hempty
      rw [if_pos ⟨rfl, rfl⟩]
      have hr' : r = (f', 0) := by
        rw [← he]
        simp [r, appendRecord, hr, hh]
      rw [hr']
      refine ⟨rfl, Or.inr ⟨_, ⟨_, Fs.write_self .., hf'⟩, ?_⟩⟩
      rw [RingBuffer.toList_push, RingBuffer.toList_empty, List.nil_append, List.map_cons,
        List.map_nil, List.rtake, List.length_singleton, Nat.sub_eq_zero_of_le hpos, List.drop_zero]

/-- What is left of a file whose header was read. -/
theorem appendRecord_holdsSeq (hg : Fits g) (io : AppendIo) {f : List UInt8}
    {h : ClientFileHeader} (hh : validHeader f = some h)
    {r : RingBuffer (Option DataRecord) g.toNat} (hf : Holds g f r)
    (hl : r.toList = recs.map some) (fs : Fs) (id : Id) (rec : DataRecord) :
    let a := appendRecord io f h rec
    if io.fwriteRecord = true then
      a.2 = -1 ∧ HoldsSeq g (fs.write (getFilepath id) a.1) id recs
    else if io.fwriteHeader = true then
      a.2 = -1 ∧ HoldsSeq g (fs.write (getFilepath id) a.1) id
        (if recs.length < g.toNat then recs else recs.set 0 rec)
    else a.2 = 0 ∧
      HoldsSeq g (fs.write (getFilepath id) a.1) id ((recs ++ [rec]).rtake g.toNat) := by
  have hlen : r.slots.length = recs.length := by
    have := congrArg List.length hl
    rwa [RingBuffer.length_toList, List.length_map] at this
  intro a
  cases hr : io.fwriteRecord with
  | true =>
    rw [if_pos rfl]
    refine ⟨by simp [a, appendRecord, hr], Or.inr ⟨r, ⟨_, Fs.write_self .., ?_⟩, hl⟩⟩
    simpa [a, appendRecord, hr] using hf
  | false =>
    rw [if_neg Bool.false_ne_true]
    cases hw : io.fwriteHeader with
    | true =>
      have hf' := hf.write_record hg hh rec
      have ha : a = (fwrite DataRecord.codec f (recordOffset h.writeIdx) rec, -1) := by
        simp [a, appendRecord, hr, hw]
      rw [if_pos rfl, ha]
      refine ⟨rfl, Or.inr ⟨_, ⟨_, Fs.write_self .., hf'⟩, ?_⟩⟩
      rw [hlen]
      by_cases hlt : recs.length < g.toNat
      · rw [if_pos hlt, if_pos hlt, hl]
      · rw [if_neg hlt, if_neg hlt, r.toList_setAt 0 _ (by have := hg.pos; omega), hl, List.map_set]
    | false =>
      obtain ⟨f', he, hf'⟩ := appendRecord_holds hg rec hh hf
      have ha : a = (f', 0) := by
        rw [← he]
        simp [a, appendRecord, hr, hw]
      rw [if_neg Bool.false_ne_true, ha]
      refine ⟨rfl, Or.inr ⟨_, ⟨_, Fs.write_self .., hf'⟩, ?_⟩⟩
      rw [RingBuffer.toList_push, hl, List.rtake, List.rtake, List.map_drop, List.map_append,
        List.length_append, List.length_append, List.length_map]
      rfl

/-! ## Files reached by appends -/

/-- What an append leaves, whichever of its calls fail, is a sequence again. -/
theorem append_holdsSeq (hg : Fits g) (hcap : Fits cap) (h : HoldsSeq cap fs id recs)
    (io : AppendIo) (rec : DataRecord) :
    ∃ cap', Fits cap' ∧ ∃ recs', HoldsSeq cap' (dataStoreAppend g io fs id rec).1 id recs' := by
  have hrestart : ∀ f, ∃ cap', Fits cap' ∧ ∃ recs', HoldsSeq cap' (fs.write (getFilepath id)
      (appendRecord io (fwrite ClientFileHeader.codec f 0 (newHeader g id)) (newHeader g id)
        rec).1) id recs' := by
    intro f
    have hr := restart_holdsSeq hg io fs f id rec
    dsimp only at hr
    split at hr
    · exact ⟨g, hg, _, hr.2⟩
    · exact ⟨g, hg, _, hr.2⟩
  unfold dataStoreAppend
  dsimp only
  split
  case h_1 f hopen =>
    have hf : fs (getFilepath id) = some f := by
      split at hopen
      · cases hopen
      · exact hopen
    unfold appendOpened
    rw [Bool.false_or]
    split
    case h_1 hd hread =>
      have hv : validHeader f = some hd := by
        split at hread
        · cases hread
        · exact hread
      rcases h with ⟨hnone, -⟩ | ⟨r, ⟨f', hf', hr⟩, hl⟩
      · rw [hf, Option.bind_some, hv] at hnone
        cases hnone
      · obtain rfl : f = f' := Option.some.inj (hf.symm.trans hf')
        have ha := appendRecord_holdsSeq hcap io hv hr hl fs id rec
        dsimp only at ha
        split at ha
        · exact ⟨cap, hcap, _, ha.2⟩
        · split at ha
          · exact ⟨cap, hcap, _, ha.2⟩
          · exact ⟨cap, hcap, _, ha.2⟩
    case h_2 =>
      split
      · refine ⟨cap, hcap, recs, ?_⟩
        unfold HoldsSeq FileHolds at h ⊢
        dsimp only
        rwa [Fs.write_self, ← hf]
      · exact hrestart f
  case h_2 =>
    split
    · exact ⟨cap, hcap, recs, h⟩
    · unfold appendOpened
      rw [Bool.true_or, if_pos rfl]
      dsimp only
      split
      · exact ⟨g, hg, [], Or.inl ⟨by rw [Fs.write_self]; rfl, rfl⟩⟩
      · exact hrestart []

/-- The files after any appends, failing ones included, under any partition sizes. -/
inductive Appended : Fs → Prop
  | blank : Appended Fs.blank
  | append {fs : Fs} {total g : UInt32} (h : Appended fs) (hinit : dataStoreInit total = some g)
      (hpos : 0 < g) (io : AppendIo) (id : Id) (rec : DataRecord) :
      Appended (dataStoreAppend g io fs id rec).1

/-- Every client then has a sequence, in a file of some capacity. -/
theorem Appended.holdsSeq (h : Appended fs) (id : Id) :
    ∃ cap, Fits cap ∧ ∃ recs, HoldsSeq cap fs id recs := by
  induction h with
  | blank => exact ⟨1, ⟨by decide, by decide⟩, [], Or.inl ⟨rfl, rfl⟩⟩
  | append h hinit hpos io id' rec ih =>
    obtain ⟨cap, hcap, recs, hs⟩ := ih
    by_cases hid : id = id'
    · subst hid
      exact append_holdsSeq (dataStoreInit_room hinit hpos).1 hcap hs io rec
    · refine ⟨cap, hcap, recs, ?_⟩
      unfold HoldsSeq FileHolds at hs ⊢
      rwa [append_other _ io _ rec hid]

theorem appended_appendLog {total : UInt32} (hinit : dataStoreInit total = some g) (hpos : 0 < g)
    (log : List (Id × DataRecord)) : Appended (appendLog g Fs.blank log) := by
  induction log using List.reverseRecOn with
  | nil => exact Appended.blank
  | append_singleton log e ih =>
    unfold appendLog
    rw [List.foldl_append]
    exact Appended.append ih hinit hpos {} e.1 e.2

/-! ## All or nothing -/

theorem atomic_of_failed (hg : Fits g) {xs : List DataRecord} {rec : DataRecord} {r : Fs × Int}
    (hret : r.2 = -1) (h : HoldsSeq g r.1 id xs) : AppendAtomic cap id rec recs r ↔ recs = xs := by
  unfold AppendAtomic
  rw [h.readsAs_iff hg, h.readsAs_iff hg, hret]
  simp

theorem atomic_of_ok (hg : Fits g) {xs : List DataRecord} {rec : DataRecord} {r : Fs × Int}
    (hret : r.2 = 0) (h : HoldsSeq g r.1 id xs) :
    AppendAtomic cap id rec recs r ↔ (recs ++ [rec]).rtake cap.toNat = xs := by
  unfold AppendAtomic
  rw [h.readsAs_iff hg, h.readsAs_iff hg, hret]
  simp

/-- When the new record is all that is left of a sequence. -/
theorem rtake_append_eq_singleton (hcap : 0 < cap.toNat) (rec : DataRecord) :
    (recs ++ [rec]).rtake cap.toNat = [rec] ↔ recs = [] ∨ cap = 1 := by
  constructor
  · intro h
    have hlen := congrArg List.length h
    rw [List.rtake, List.length_drop, List.length_append, List.length_singleton] at hlen
    by_cases hone : cap.toNat = 1
    · exact Or.inr (UInt32.toNat_inj.mp hone)
    · exact Or.inl (List.length_eq_zero_iff.mp (by omega))
  · rintro (rfl | rfl)
    · rw [List.nil_append, List.rtake, List.length_singleton, Nat.sub_eq_zero_of_le hcap,
        List.drop_zero]
    · rw [List.rtake, List.length_append, List.length_singleton, UInt32.toNat_one,
        Nat.add_sub_cancel, List.drop_left]

/-- Starting a file over is atomic only if it held nothing to lose. -/
theorem restart_atomic_iff (hg : Fits g) (hcap : 0 < cap.toNat) (io : AppendIo) (fs : Fs)
    (f : List UInt8) (id : Id) (rec : DataRecord) (recs : List DataRecord) :
    let r := appendRecord io (fwrite ClientFileHeader.codec f 0 (newHeader g id)) (newHeader g id)
      rec
    AppendAtomic cap id rec recs (fs.write (getFilepath id) r.1, r.2) ↔
      recs = [] ∨ (cap = 1 ∧ io.fwriteRecord = false ∧ io.fwriteHeader = false) := by
  intro r
  have h := restart_holdsSeq hg io fs f id rec
  dsimp only at h
  split at h
  case isTrue hok =>
    rw [atomic_of_ok hg h.1 h.2, rtake_append_eq_singleton hcap]
    simp only [hok, and_self, and_true]
  case isFalse hfail =>
    rw [atomic_of_failed hg h.1 h.2]
    simp only [hfail, and_false, or_false]

/-- Failing writes behind a header that was read. -/
theorem appendRecord_atomic_iff (hcap : Fits cap) (io : AppendIo) {f : List UInt8}
    {h : ClientFileHeader} (hh : validHeader f = some h)
    {r : RingBuffer (Option DataRecord) cap.toNat} (hf : Holds cap f r)
    (hl : r.toList = recs.map some) (fs : Fs) (id : Id) (rec : DataRecord) :
    let a := appendRecord io f h rec
    AppendAtomic cap id rec recs (fs.write (getFilepath id) a.1, a.2) ↔
      recs.length < cap.toNat ∨ io.fwriteRecord = true ∨ io.fwriteHeader = false ∨
        recs.head? = some rec := by
  intro a
  have hseq := appendRecord_holdsSeq hcap io hh hf hl fs id rec
  dsimp only at hseq
  split at hseq
  case isTrue hr =>
    rw [atomic_of_failed hcap hseq.1 hseq.2]
    simp only [hr, true_or, or_true]
  case isFalse hr =>
    split at hseq
    case isTrue hw =>
      rw [atomic_of_failed hcap hseq.1 hseq.2]
      by_cases hlt : recs.length < cap.toNat
      · rw [if_pos hlt]
        simp only [hlt, true_or]
      · rw [if_neg hlt]
        simp only [hlt, hr, hw, false_or, Bool.true_eq_false]
        cases recs with
        | nil => exact absurd hcap.pos hlt
        | cons x xs => simp
    case isFalse hw =>
      rw [atomic_of_ok hcap hseq.1 hseq.2]
      simp only [Bool.not_eq_true] at hw
      simp only [hw, true_or, or_true]

/-- Appending through a file created anew, over whatever was there. -/
theorem create_atomic_iff (hg : Fits g) (hcap : Fits cap) (h : HoldsSeq cap fs id recs)
    (io : AppendIo) (rec : DataRecord) :
    AppendAtomic cap id rec recs
        (if io.fopenW then (fs, -1)
        else (fs.write (getFilepath id) (appendOpened g io true [] id rec).1,
          (appendOpened g io true [] id rec).2)) ↔
      recs = [] ∨ io.fopenW = true ∨ (io.fwriteNewHeader = false ∧ cap = 1 ∧
        io.fwriteRecord = false ∧ io.fwriteHeader = false) := by
  cases hw : io.fopenW with
  | true =>
    rw [if_pos rfl, atomic_of_failed hcap rfl h]
    simp
  | false =>
    rw [if_neg Bool.false_ne_true]
    unfold appendOpened
    simp only [Bool.true_or, if_true]
    cases hn : io.fwriteNewHeader with
    | true =>
      have hlost : HoldsSeq g (fs.write (getFilepath id) []) id [] :=
        Or.inl ⟨by rw [Fs.write_self]; rfl, rfl⟩
      rw [if_pos rfl, atomic_of_failed hg rfl hlost]
      simp
    | false =>
      have hres := restart_atomic_iff hg hcap.pos io fs [] id rec recs
      dsimp only at hres
      rw [if_neg Bool.false_ne_true, hres]
      simp

/-- Appending to an open file without a header that can be read. -/
theorem reinit_atomic_iff (hg : Fits g) (hcap : Fits cap) {f : List UInt8}
    (hf : fs (getFilepath id) = some f) (h : HoldsSeq cap fs id recs) (io : AppendIo)
    (rec : DataRecord) (hread : (if io.freadHeader then none else validHeader f) = none) :
    AppendAtomic cap id rec recs
        (fs.write (getFilepath id) (appendOpened g io false f id rec).1,
          (appendOpened g io false f id rec).2) ↔
      recs = [] ∨ io.fwriteNewHeader = true ∨
        (cap = 1 ∧ io.fwriteRecord = false ∧ io.fwriteHeader = false) := by
  unfold appendOpened
  simp only [Bool.false_or, hread]
  cases hn : io.fwriteNewHeader with
  | true =>
    have hsame : HoldsSeq cap (fs.write (getFilepath id) f) id recs := by
      unfold HoldsSeq FileHolds at h ⊢
      rwa [Fs.write_self, ← hf]
    rw [if_pos rfl, atomic_of_failed hcap rfl hsame]
    simp
  | false =>
    have hres := restart_atomic_iff hg hcap.pos io fs f id rec recs
    dsimp only at hres
    rw [if_neg Bool.false_ne_true, hres]
    simp

/-- **When an append is failure-atomic.** The file holds any sequence, its capacity may come from
    an earlier partition, and any of the append's calls fail: the sequence read afterwards is the
    old one when it returns -1, and the old one with the new record when it returns 0, exactly
    when no failure reaches the records. -/
theorem append_atomic_iff {total total' : UInt32} (hinit : dataStoreInit total = some g)
    (hpos : 0 < g) (hinit' : dataStoreInit total' = some cap) (hpos' : 0 < cap)
    (h : HoldsSeq cap fs id recs) (io : AppendIo) (rec : DataRecord) :
    AppendAtomic cap id rec recs (dataStoreAppend g io fs id rec) ↔
      KeepsRecords cap io recs rec := by
  have hg := (dataStoreInit_room hinit hpos).1
  have hcap := (dataStoreInit_room hinit' hpos').1
  have hcreate := create_atomic_iff hg hcap h io rec
  unfold KeepsRecords dataStoreAppend
  dsimp only
  cases hr : io.fopenR with
  | true =>
    rw [if_pos rfl, if_pos rfl]
    exact hcreate
  | false =>
    rw [if_neg Bool.false_ne_true, if_neg Bool.false_ne_true]
    cases hf : fs (getFilepath id) with
    | none =>
      -- there is no file, so nothing to lose
      have hnil : recs = [] := by
        rcases h with h | ⟨r, ⟨f, hf', -⟩, -⟩
        · exact h.2
        · rw [hf] at hf'
          exact absurd hf' (by simp)
      have hroom : recs.length < cap.toNat := by
        rw [hnil]
        exact hcap.pos
      refine ⟨fun _ => ?_, fun _ => hcreate.mpr (Or.inl hnil)⟩
      split
      · exact Or.inl hnil
      · exact Or.inl hroom
    | some f =>
      cases hh : io.freadHeader with
      | true => exact reinit_atomic_iff hg hcap hf h io rec (by rw [hh]; rfl)
      | false =>
        rw [if_neg Bool.false_ne_true]
        cases hv : validHeader f with
        | none =>
          have hnil : recs = [] := by
            rcases h with h | ⟨r, ⟨f', hf', hr'⟩, -⟩
            · exact h.2
            · obtain ⟨hd, hv', -⟩ := hr'.header
              rw [hf] at hf'
              rw [← Option.some.inj hf', hv] at hv'
              exact absurd hv' (by simp)
          have hinv := reinit_atomic_iff hg hcap hf h io rec (by rw [hh, hv]; rfl)
          have hroom : recs.length < cap.toNat := by
            rw [hnil]
            exact hcap.pos
          exact ⟨fun _ => Or.inl hroom, fun _ => hinv.mpr (Or.inl hnil)⟩
        | some hd =>
          rcases h with ⟨hnone, -⟩ | ⟨r, ⟨f', hf', hr'⟩, hl⟩
          · rw [hf, Option.bind_some, hv] at hnone
            exact absurd hnone (by simp)
          · obtain rfl : f = f' := by rw [hf] at hf'; exact Option.some.inj hf'
            have hrec := appendRecord_atomic_iff hcap io hv hr' hl fs id rec
            have ho : appendOpened g io false f id rec = appendRecord io f hd rec := by
              simp [appendOpened, hh, hv]
            simp only [ho]
            exact hrec

/-- The header update fails on a ring of two that is not full yet: the old record is still read. -/
theorem append_atomic_iff_header :
    let a : Id := CStr.strncpy (ascii "a")
    let rec' (t : UInt32) : DataRecord := ⟨t, 2150, 4000, 400, 10, 1, 0⟩
    let fs := appendLog 2 Fs.blank [(a, rec' 1)]
    AppendAtomic 2 a (rec' 2) [rec' 1]
      (dataStoreAppend 2 { fwriteHeader := true } fs a (rec' 2)) := by
  intro a rec' fs
  have hg : Fits 2 := ⟨by decide, by decide⟩
  obtain ⟨r, hr, hl⟩ := (holdsNewest_cons (by decide)).mp
    (appendLog_holdsNewest hg [(a, rec' 1)] a)
  have hinit : dataStoreInit 34000 = some 2 := by decide
  exact (append_atomic_iff hinit (by decide) hinit (by decide) (Or.inr ⟨r, hr, hl⟩)
    { fwriteHeader := true } (rec' 2)).mpr (by decide)

/-- The open of an existing file fails once: the append returns 0 and the old record is gone. -/
theorem append_truncates_unopened :
    let a : Id := CStr.strncpy (ascii "a")
    let rec' (t : UInt32) : DataRecord := ⟨t, 2150, 4000, 400, 10, 1, 0⟩
    let fs := appendLog 2 Fs.blank [(a, rec' 1)]
    let r := dataStoreAppend 2 { fopenR := true } fs a (rec' 2)
    dataStoreReadRange fs a 0 9 9 = [rec' 1] ∧ r.2 = 0 ∧
      dataStoreReadRange r.1 a 0 9 9 = [rec' 2] ∧ ¬AppendAtomic 2 a (rec' 2) [rec' 1] r := by
  intro a rec' fs r
  have hread : dataStoreReadRange r.1 a 0 9 9 = [rec' 2] := by decide +kernel
  refine ⟨by decide +kernel, by decide +kernel, hread, fun h => ?_⟩
  have hall := h.2 (by decide +kernel) 0 9 9
  rw [hread] at hall
  exact absurd hall (by decide)

end IndoorLogger
