import IndoorLogger.Server.DataStoreRing

/-
  What the data store is for: every client has a list of its newest `g` records. Any
  interleaving of appends, started on an empty partition, leaves each client's file holding
  exactly that list, and range reads are slices of it (`data_store_is_bounded_log`).
-/

namespace IndoorLogger

/-- Run the appends of `log`, none of whose calls fails. -/
def appendLog (g : UInt32) (fs : Fs) (log : List (Id × DataRecord)) : Fs :=
  log.foldl (fun fs e => (dataStoreAppend g {} fs e.1 e.2).1) fs

/-- The records `log` appends to client `id`, in order. -/
def ownRecords (log : List (Id × DataRecord)) (id : Id) : List DataRecord :=
  (log.filter (·.1 = id)).map (·.2)

theorem ownRecords_append_self (log : List (Id × DataRecord)) (id : Id) (rec : DataRecord) :
    ownRecords (log ++ [(id, rec)]) id = ownRecords log id ++ [rec] := by
  simp [ownRecords]

theorem ownRecords_append_ne (log : List (Id × DataRecord)) {id id' : Id} (rec : DataRecord)
    (h : id' ≠ id) : ownRecords (log ++ [(id', rec)]) id = ownRecords log id := by
  simp [ownRecords, h]

/-- Client `id` has no file and no records, or a ring file holding the newest `g` of `own`. -/
def HoldsNewest (g : UInt32) (fs : Fs) (id : Id) (own : List DataRecord) : Prop :=
  if own = [] then fs (getFilepath id) = none
  else ∃ r : RingBuffer (Option DataRecord) g.toNat, FileHolds g fs id r ∧
    r.toList = (own.map some).rtake g.toNat

theorem holdsNewest_nil {g : UInt32} {fs : Fs} {id : Id} :
    HoldsNewest g fs id [] ↔ fs (getFilepath id) = none := by
  unfold HoldsNewest
  rw [if_pos rfl]

theorem holdsNewest_cons {g : UInt32} {fs : Fs} {id : Id} {own : List DataRecord} (h : own ≠ []) :
    HoldsNewest g fs id own ↔ ∃ r : RingBuffer (Option DataRecord) g.toNat, FileHolds g fs id r ∧
      r.toList = (own.map some).rtake g.toNat := by
  unfold HoldsNewest
  rw [if_neg h]

/-- Appending to the file of `id` extends its list. -/
theorem append_holdsNewest {g : UInt32} (hg : Fits g) {fs : Fs} {id : Id} {own : List DataRecord}
    (rec : DataRecord) (h : HoldsNewest g fs id own) :
    HoldsNewest g (dataStoreAppend g {} fs id rec).1 id (own ++ [rec]) := by
  rw [holdsNewest_cons (by simp)]
  by_cases hown : own = []
  · subst hown
    rw [holdsNewest_nil] at h
    have hnone : (fs (getFilepath id)).bind validHeader = none := by
      rw [h]
      rfl
    obtain ⟨f, he, hf⟩ := append_fresh hg rec hnone
    refine ⟨_, ⟨f, by rw [he]; exact Fs.write_self .., hf⟩, ?_⟩
    rw [RingBuffer.toList_push, RingBuffer.toList_empty, List.nil_append, List.nil_append,
      List.map_cons,
      List.map_nil]
  · obtain ⟨r, hr, hl⟩ := (holdsNewest_cons hown).mp h
    obtain ⟨f, he, hf⟩ := append_holds hg rec hr
    refine ⟨_, ⟨f, by rw [he]; exact Fs.write_self .., hf⟩, ?_⟩
    rw [RingBuffer.toList_push, hl, RingBuffer.rtake_rtake_append, List.map_append, List.map_cons,
      List.map_nil]

/-- Appending to one client's file leaves all other files alone. -/
theorem append_frame (g : UInt32) (io : AppendIo) (fs : Fs) {id : Id} (rec : DataRecord)
    {p : Path} (hp : p ≠ getFilepath id) : (dataStoreAppend g io fs id rec).1 p = fs p := by
  unfold dataStoreAppend
  dsimp only
  split
  · exact Fs.write_ne fs _ hp
  · split
    · rfl
    · exact Fs.write_ne fs _ hp

/-- The files of the other clients are among them. -/
theorem append_other (g : UInt32) (io : AppendIo) (fs : Fs) {id id' : Id} (rec : DataRecord)
    (h : id' ≠ id) :
    (dataStoreAppend g io fs id rec).1 (getFilepath id') = fs (getFilepath id') :=
  append_frame g io fs rec (mt getFilepath_inj.mp h)

/-- The step: one append by any client. -/
theorem step_holdsNewest {g : UInt32} (hg : Fits g) {fs : Fs} {log : List (Id × DataRecord)}
    (e : Id × DataRecord) (id : Id) (h : HoldsNewest g fs id (ownRecords log id)) :
    HoldsNewest g (dataStoreAppend g {} fs e.1 e.2).1 id (ownRecords (log ++ [e]) id) := by
  obtain ⟨id', rec⟩ := e
  by_cases hid : id' = id
  · subst hid
    rw [ownRecords_append_self]
    exact append_holdsNewest hg rec h
  · rw [ownRecords_append_ne log rec hid]
    have hf := append_other g {} fs rec (fun e => hid e.symm : id ≠ id')
    unfold HoldsNewest FileHolds at h ⊢
    rw [hf]
    exact h

/-- The run: every interleaving of appends. -/
theorem appendLog_holdsNewest {g : UInt32} (hg : Fits g) (log : List (Id × DataRecord)) (id : Id) :
    HoldsNewest g (appendLog g Fs.blank log) id (ownRecords log id) := by
  induction log using List.reverseRecOn with
  | nil => exact holdsNewest_nil.mpr rfl
  | append_singleton log e ih =>
    unfold appendLog
    rw [List.foldl_append]
    exact step_holdsNewest hg e id ih

theorem readRange_of_holdsNewest {g : UInt32} (hg : Fits g) {fs : Fs} {id : Id}
    {own : List DataRecord} (h : HoldsNewest g fs id own) (offset limit capacity : UInt32) :
    dataStoreReadRange fs id offset limit capacity =
      ((own.rtake g.toNat).drop offset.toNat).take (min limit.toNat capacity.toNat) := by
  by_cases hown : own = []
  · subst hown
    rw [holdsNewest_nil] at h
    simp [dataStoreReadRange, h]
  · obtain ⟨r, hr, hl⟩ := (holdsNewest_cons hown).mp h
    apply readRange_of_holds hg hr
    rw [hl, List.rtake, List.rtake, List.length_map, List.map_take, List.map_drop, List.map_drop]

theorem getCount_of_holdsNewest {g : UInt32} {fs : Fs} {id : Id} {own : List DataRecord}
    (h : HoldsNewest g fs id own) :
    (dataStoreGetCount fs id).toNat = min own.length g.toNat := by
  by_cases hown : own = []
  · subst hown
    rw [holdsNewest_nil] at h
    simp [dataStoreGetCount, h]
  · obtain ⟨r, hr, hl⟩ := (holdsNewest_cons hown).mp h
    have := congrArg List.length hl
    rw [RingBuffer.length_toList, List.rtake, List.length_drop, List.length_map] at this
    rw [getCount_of_holds hr]
    omega

theorem header_of_holdsNewest {g : UInt32} {fs : Fs} {id : Id} {own : List DataRecord}
    (h : HoldsNewest g fs id own) {f : List UInt8} (hf : fs (getFilepath id) = some f) :
    ∃ hd, validHeader f = some hd ∧ hd.maxRecords = g ∧
      hd.count.toNat = min own.length g.toNat ∧ hd.writeIdx.toNat < g.toNat ∧
      (hd.count.toNat < g.toNat → hd.writeIdx = hd.count) := by
  have hown : own ≠ [] := fun e => by
    subst e; rw [holdsNewest_nil, hf] at h; exact absurd h (by simp)
  obtain ⟨r, ⟨f', hf', hr⟩, hl⟩ := (holdsNewest_cons hown).mp h
  obtain rfl : f = f' := by rw [hf] at hf'; exact Option.some.inj hf'
  obtain ⟨hd, hv, hm, hw, hc⟩ := hr.header
  have hlen := congrArg List.length hl
  rw [RingBuffer.length_toList, List.rtake, List.length_drop, List.length_map] at hlen
  refine ⟨hd, hv, hm, by omega, by rw [hw]; exact r.next_lt, fun hlt => ?_⟩
  apply UInt32.toNat_inj.mp
  rw [hw, hc]
  exact r.next_eq (by omega)

/-- **The ring files are bounded lists.** After any interleaving of appends on an empty
    partition, the file of each client (there is one exactly when the client has appended)
    has `count = min n g`, `write_idx < g` and `write_idx = count` until it wraps, and every
    range read is the corresponding slice of the client's newest `g` records. -/
theorem data_store_is_bounded_log (g : UInt32) (hg : Fits g) (log : List (Id × DataRecord))
    (id : Id) :
    let fs := appendLog g Fs.blank log
    let own := ownRecords log id
    (fs (getFilepath id) = none ↔ own = []) ∧
    (∀ f, fs (getFilepath id) = some f →
      ∃ h, validHeader f = some h ∧ h.maxRecords = g ∧ h.count.toNat = min own.length g.toNat ∧
        h.writeIdx.toNat < g.toNat ∧ (h.count.toNat < g.toNat → h.writeIdx = h.count)) ∧
    (dataStoreGetCount fs id).toNat = min own.length g.toNat ∧
    ∀ offset limit capacity, dataStoreReadRange fs id offset limit capacity =
      ((own.rtake g.toNat).drop offset.toNat).take (min limit.toNat capacity.toNat) := by
  intro fs own
  have h : HoldsNewest g fs id own := appendLog_holdsNewest hg log id
  refine ⟨⟨fun hn => ?_, fun ho => ?_⟩, fun f hf => header_of_holdsNewest h hf,
    getCount_of_holdsNewest h, readRange_of_holdsNewest hg h⟩
  · by_contra ho
    obtain ⟨r, ⟨f, hf, -⟩, -⟩ := (holdsNewest_cons ho).mp h
    rw [hn] at hf
    exact absurd hf (by simp)
  · rw [ho, holdsNewest_nil] at h
    exact h

/-- A partition that gives each client two records, three appends by two clients. -/
theorem data_store_is_bounded_log_two :
    let a : Id := CStr.strncpy (ascii "a")
    let b : Id := CStr.strncpy (ascii "b")
    let rec' (t : UInt32) : DataRecord := ⟨t, 2150, 4000, 400, 10, 1, 0⟩
    dataStoreReadRange (appendLog 2 Fs.blank [(a, rec' 1), (b, rec' 2), (a, rec' 3), (a, rec' 4)])
      a 0 10 10 = [rec' 3, rec' 4] :=
  (data_store_is_bounded_log 2 ⟨by decide, by decide⟩ _ _).2.2.2 0 10 10

end IndoorLogger
