import IndoorLogger.Lib.RingFile
import IndoorLogger.Server.DataStore

/-
  The client files of the data store are rings. `Holds g f r` says that file `f` carries a
  well-formed header for capacity `g` and the ring `r` of known records: an element
  `none` of `r` is a slot in use about whose bytes nothing is said, which is what is left to
  say of a file that went through failed writes. Appending pushes (`appendRecord_holds`),
  reading a range reads the content (`readRange_of_holds`).
-/

namespace IndoorLogger

open RecordFile RingFile

/-! ## Offsets and headers -/

/-- A full file of capacity `g` stays below 2^31 bytes, and `g` is not zero. -/
structure Fits (g : UInt32) : Prop where
  pos : 0 < g.toNat
  bytes : 49 + 14 * g.toNat < 2 ^ 31

/-- The capacity of `data_store_init` gives 16 full files room beside the reserve. -/
theorem dataStoreInit_room {total g : UInt32} (h : dataStoreInit total = some g) (hpos : 0 < g) :
    Fits g ∧ spiffsReserveBytes + 16 * (49 + 14 * g.toNat) ≤ total.toNat := by
  have htotal := total.toNat_lt
  have hg : 0 < g.toNat := UInt32.lt_iff_toNat_lt.mp hpos
  rw [dataStoreInit] at h
  split at h
  · cases h
  · dsimp only at h
    split at h
    · cases h
    case isFalse hsize hper =>
      have heq := congrArg UInt32.toNat (Option.some.inj h)
      simp only [UInt32.toNat_ofNat', ClientFileHeader.size_codec, DataRecord.size_codec,
        spiffsReserveBytes, dataStoreMaxClients] at heq hper hsize ⊢
      refine ⟨⟨hg, ?_⟩, ?_⟩ <;> omega

/-- What the capacity is planned for: room for a record, so that no file is created with the
    modulus zero, and 16 full files beside the reserve. -/
structure CapacitySound (total g : UInt32) : Prop where
  pos : 1 ≤ g
  modulus : ∀ id, (newHeader g id).maxRecords ≠ 0
  room : dataStoreMaxClients * (ClientFileHeader.codec.size + g.toNat * DataRecord.codec.size) ≤
    total.toNat - spiffsReserveBytes

/-- The accepted sizes below 33776 = 32768 + 16 * (49 + 14) leave a client no record. -/
theorem capacity_sound_iff {total g : UInt32} (h : dataStoreInit total = some g) :
    CapacitySound total g ↔ 33776 ≤ total := by
  have htotal := total.toNat_lt
  have hg : g.toNat = ((total.toNat - 32768) / 16 - 49) / 14 := by
    rw [dataStoreInit] at h
    split at h
    · cases h
    · dsimp only at h
      split at h
      · cases h
      · have heq := congrArg UInt32.toNat (Option.some.inj h)
        simp only [UInt32.toNat_ofNat', ClientFileHeader.size_codec, DataRecord.size_codec,
          spiffsReserveBytes, dataStoreMaxClients] at heq
        omega
  have hpos : 1 ≤ g ↔ 33776 ≤ total := by
    rw [UInt32.le_iff_toNat_le, UInt32.le_iff_toNat_le, hg]
    simp only [UInt32.reduceToNat]
    omega
  constructor
  · intro hs
    exact hpos.mp hs.pos
  · intro ht
    have h1 := hpos.mpr ht
    refine ⟨h1, fun id h0 => ?_, ?_⟩
    · obtain rfl : g = 0 := h0
      exact absurd h1 (by decide)
    · have hroom := (dataStoreInit_room h h1).2
      simp only [ClientFileHeader.size_codec, DataRecord.size_codec, dataStoreMaxClients] at hroom ⊢
      omega

theorem capacity_sound_smallest : CapacitySound 33776 1 :=
  (capacity_sound_iff (by decide : dataStoreInit 33776 = some 1)).mpr (by decide)

theorem capacity_zero_accepted : dataStoreInit 33600 = some 0 ∧ ¬ CapacitySound 33600 0 :=
  ⟨by decide, fun h => absurd h.pos (by decide)⟩

theorem recordOffset_eq {idx g : UInt32} (hg : Fits g) (h : idx.toNat < g.toNat) :
    recordOffset idx = slotOffset 49 DataRecord.codec idx.toNat := by
  have := hg.bytes
  simp only [recordOffset, slotOffset, DataRecord.size_codec, UInt32.toNat_add, UInt32.toNat_mul,
    UInt32.reduceToNat]
  omega

/-- What every header written for capacity `g` satisfies. -/
structure HeaderOk (g : UInt32) (h : ClientFileHeader) : Prop where
  maxRecords : h.maxRecords = g
  writeIdx_lt : h.writeIdx.toNat < g.toNat
  count_le : h.count.toNat ≤ g.toNat
  writeIdx_eq : h.count.toNat < g.toNat → h.writeIdx = h.count

/-- File `f` is a client file of capacity `g` whose ring holds the known records of `r`. -/
structure Holds (g : UInt32) (f : List UInt8) (r : RingBuffer (Option DataRecord) g.toNat) :
    Prop where
  header : ∃ h, validHeader f = some h ∧ h.maxRecords = g ∧ h.writeIdx.toNat = r.next ∧
    h.count.toNat = r.slots.length
  records : Stores id 49 DataRecord.codec f r

/-- Client `id` has a file that holds `r`. -/
def FileHolds (g : UInt32) (fs : Fs) (id : Id) (r : RingBuffer (Option DataRecord) g.toNat) :
    Prop :=
  ∃ f, fs (getFilepath id) = some f ∧ Holds g f r

theorem validHeader_eq_some {f : List UInt8} {h : ClientFileHeader} :
    validHeader f = some h ↔
      fread ClientFileHeader.codec f 0 = some h ∧ h.magic = dataStoreMagic := by
  unfold validHeader
  rw [Option.filter_eq_some_iff, beq_iff_eq]

theorem validHeader_write {f : List UInt8} {h : ClientFileHeader} (hm : h.magic = dataStoreMagic) :
    validHeader (fwrite ClientFileHeader.codec f 0 h) = some h :=
  validHeader_eq_some.mpr ⟨fread_fwrite_self .., hm⟩

/-! ## Appending -/

theorem advance_writeIdx {g : UInt32} (hg : Fits g) {h : ClientFileHeader} (hm : h.maxRecords = g)
    (hw : h.writeIdx.toNat < g.toNat) :
    h.advance.writeIdx.toNat = (h.writeIdx.toNat + 1) % g.toNat := by
  have := hg.bytes
  simp only [ClientFileHeader.advance, UInt32.toNat_mod, UInt32.toNat_add, UInt32.toNat_one, hm]
  rw [Nat.mod_eq_of_lt (by omega : h.writeIdx.toNat + 1 < 2 ^ 32)]

theorem advance_count {g : UInt32} (hg : Fits g) {h : ClientFileHeader} (hm : h.maxRecords = g)
    (hc : h.count.toNat ≤ g.toNat) :
    h.advance.count.toNat = min (h.count.toNat + 1) g.toNat := by
  have := hg.bytes
  simp only [ClientFileHeader.advance, hm, UInt32.lt_iff_toNat_lt]
  split
  · rw [UInt32.toNat_add, UInt32.toNat_one, Nat.mod_eq_of_lt (by omega)]
    omega
  · omega

/-- With no failing call, appending to a file that holds `r` makes it hold `r.push rec`. -/
theorem appendRecord_holds {g : UInt32} (hg : Fits g) {f : List UInt8} {h : ClientFileHeader}
    {r : RingBuffer (Option DataRecord) g.toNat} (rec : DataRecord) (hh : validHeader f = some h)
    (hf : Holds g f r) :
    ∃ f', appendRecord {} f h rec = (f', 0) ∧ Holds g f' (r.push (some rec)) := by
  obtain ⟨h', hv, hm, hw, hc⟩ := hf.header
  obtain rfl : h = h' := by rw [hh] at hv; exact Option.some.inj hv
  have hwlt : h.writeIdx.toNat < g.toNat := by rw [hw]; exact r.next_lt
  have hle : r.slots.length ≤ g.toNat := r.length_le
  refine ⟨_, rfl, ⟨h.advance, validHeader_write (validHeader_eq_some.mp hh).2, hm, ?_, ?_⟩, ?_⟩
  · rw [advance_writeIdx hg hm hwlt, hw]; rfl
  · rw [advance_count hg hm (by omega), hc, RingBuffer.length_push]
  · rw [recordOffset_eq hg hwlt, hw]
    exact stores_header (stores_push (by decide) hf.records rfl) _ (Nat.le_refl 49) _

/-- The fresh header is a header of the empty ring. -/
theorem newHeader_holds {g : UInt32} (hg : Fits g) (f : List UInt8) (id : Id) :
    Holds g (fwrite ClientFileHeader.codec f 0 (newHeader g id)) (RingBuffer.empty hg.pos) :=
  ⟨⟨newHeader g id, validHeader_write rfl, rfl, rfl, rfl⟩, stores_empty hg.pos⟩

/-- Appending to an existing file, whose capacity need not be that of a new one. -/
theorem append_holds {g gMax : UInt32} (hg : Fits g) {fs : Fs} {id : Id}
    {r : RingBuffer (Option DataRecord) g.toNat} (rec : DataRecord) (hf : FileHolds g fs id r) :
    ∃ f', dataStoreAppend gMax {} fs id rec = (fs.write (getFilepath id) f', 0) ∧
      Holds g f' (r.push (some rec)) := by
  obtain ⟨f, hp, hr⟩ := hf
  obtain ⟨h, hh, -⟩ := hr.header
  obtain ⟨f', he, hr'⟩ := appendRecord_holds hg rec hh hr
  refine ⟨f', ?_, hr'⟩
  simp [dataStoreAppend, appendOpened, hp, hh, he]

/-- Appending where there is no usable file starts a new ring. -/
theorem append_fresh {g : UInt32} (hg : Fits g) {fs : Fs} {id : Id} (rec : DataRecord)
    (hf : (fs (getFilepath id)).bind validHeader = none) :
    ∃ f', dataStoreAppend g {} fs id rec = (fs.write (getFilepath id) f', 0) ∧
      Holds g f' ((RingBuffer.empty hg.pos).push (some rec)) := by
  cases hp : fs (getFilepath id) with
  | none =>
    obtain ⟨f', he, hr'⟩ := appendRecord_holds hg rec (validHeader_write (f := []) rfl)
      (newHeader_holds hg [] id)
    refine ⟨f', ?_, hr'⟩
    simp [dataStoreAppend, appendOpened, hp, he]
  | some f =>
    obtain ⟨f', he, hr'⟩ := appendRecord_holds hg rec (validHeader_write (f := f) rfl)
      (newHeader_holds hg f id)
    have hv : validHeader f = none := by simpa [hp] using hf
    refine ⟨f', ?_, hr'⟩
    simp [dataStoreAppend, appendOpened, hp, hv, he]

/-! ## Reading -/

/-- The slot index the loop of `data_store_read_range` computes. -/
theorem readRange_index {g : UInt32} (hg : Fits g) {start : UInt32} {i : Nat}
    (hs : start.toNat < g.toNat) (hi : i < g.toNat) :
    ((start + UInt32.ofNat i) % g).toNat = (start.toNat + i) % g.toNat := by
  have := hg.bytes
  rw [UInt32.toNat_mod, UInt32.toNat_add, UInt32.toNat_ofNat', Nat.mod_eq_of_lt (a := i) (by omega),
    Nat.mod_eq_of_lt (a := start.toNat + i) (by omega)]

/-- Element `i` of the content read through the file. -/
theorem read_element {g : UInt32} (hg : Fits g) {f : List UInt8}
    {r : RingBuffer (Option DataRecord) g.toNat} (hf : Holds g f r) {k : UInt32} {i : Nat}
    {x : DataRecord}
    (hk : k.toNat = r.index i) (hx : r.toList[i]? = some (some x)) :
    fread DataRecord.codec f (recordOffset k) = some x := by
  have hi : i < r.slots.length := by
    have := (List.getElem?_eq_some_iff.mp hx).1
    simpa using this
  have hlt := r.index_lt i hi
  have hle := r.length_le
  rw [recordOffset_eq hg (by omega), hk]
  exact hf.records.slot_index hx rfl

/-- What `data_store_read_range` returns: a loop over the requested part of the content that
    yields every known record of it. -/
theorem readRange_eq {g : UInt32} (hg : Fits g) {fs : Fs} {id : Id}
    {r : RingBuffer (Option DataRecord) g.toNat} (hf : FileHolds g fs id r)
    (offset limit capacity : UInt32) :
    ∃ e : Nat → Option DataRecord,
      dataStoreReadRange fs id offset limit capacity =
        (List.range (min (min limit.toNat capacity.toNat)
          (r.slots.length - offset.toNat))).filterMap e ∧
      ∀ i x, i < r.slots.length - offset.toNat →
        r.toList[offset.toNat + i]? = some (some x) → e i = some x := by
  obtain ⟨f, hp, hr⟩ := hf
  obtain ⟨h, hh, hm, hw, hc⟩ := hr.header
  have hle := r.length_le
  by_cases ho : offset ≥ h.count
  · refine ⟨fun _ => none, ?_, fun i x hi => ?_⟩
    · rw [ge_iff_le, UInt32.le_iff_toNat_le, hc] at ho
      simp [dataStoreReadRange, hp, hh, UInt32.le_iff_toNat_le, hc, ho]
    · rw [ge_iff_le, UInt32.le_iff_toNat_le] at ho
      omega
  · have holt : offset.toNat < r.slots.length := by
      rw [ge_iff_le, UInt32.le_iff_toNat_le] at ho
      omega
    have havail : (h.count - offset).toNat = r.slots.length - offset.toNat := by
      rw [UInt32.toNat_sub_of_le _ _ (by rw [UInt32.le_iff_toNat_le]; omega), hc]
    let start := if h.count < h.maxRecords then offset else (h.writeIdx + offset) % h.maxRecords
    have hstart : start.toNat = r.index offset.toNat := by
      have := hg.bytes
      simp only [start, RingBuffer.index, RingBuffer.start, UInt32.lt_iff_toNat_lt, hc, hm]
      split
      · rw [Nat.zero_add, Nat.mod_eq_of_lt (by omega)]
      · have := r.next_lt
        rw [UInt32.toNat_mod, UInt32.toNat_add, hw, Nat.mod_eq_of_lt (b := 2 ^ 32) (by omega)]
    refine ⟨fun i => fread DataRecord.codec f
      (recordOffset ((start + UInt32.ofNat i) % h.maxRecords)), ?_, fun i x hi hx => ?_⟩
    · simp only [dataStoreReadRange, hp, hh, if_neg ho]
      congr 2
      have e1 : (if limit > capacity then capacity else limit).toNat =
          min limit.toNat capacity.toNat := by
        simp only [gt_iff_lt, UInt32.lt_iff_toNat_lt]
        split <;> omega
      rw [← e1, ← havail]
      generalize (if limit > capacity then capacity else limit) = n
      simp only [gt_iff_lt, UInt32.lt_iff_toNat_lt]
      split <;> omega
    · apply read_element hg hr (i := offset.toNat + i) _ hx
      have hsl : start.toNat < g.toNat := by
        rw [hstart]; exact Nat.mod_lt _ hg.pos
      rw [hm, readRange_index hg hsl (by omega), hstart, RingBuffer.index, RingBuffer.index,
        Nat.mod_add_mod,
        Nat.add_assoc]

/-- Reading a known part of the content returns exactly that part. -/
theorem readRange_of_holds {g : UInt32} (hg : Fits g) {fs : Fs} {id : Id}
    {r : RingBuffer (Option DataRecord) g.toNat} (hf : FileHolds g fs id r)
    (offset limit capacity : UInt32) (xs : List DataRecord)
    (hx : (r.toList.drop offset.toNat).take (min limit.toNat capacity.toNat) = xs.map some) :
    dataStoreReadRange fs id offset limit capacity = xs := by
  obtain ⟨e, he, hk⟩ := readRange_eq hg hf offset limit capacity
  have hlen : min (min limit.toNat capacity.toNat) (r.slots.length - offset.toNat) = xs.length := by
    have := congrArg List.length hx
    rw [List.length_take, List.length_drop, List.length_map, RingBuffer.length_toList] at this
    exact this
  rw [he, hlen]
  apply filterMap_range_eq
  intro i x hix
  have hil := (List.getElem?_eq_some_iff.mp hix).1
  apply hk i x (by omega)
  have hm : (xs.map some)[i]? = some (some x) := by rw [List.getElem?_map, hix]; rfl
  rw [← hx, List.getElem?_take_of_lt (by omega), List.getElem?_drop] at hm
  exact hm

theorem length_readRange_le (fs : Fs) (id : Id) (offset limit capacity : UInt32) :
    (dataStoreReadRange fs id offset limit capacity).length ≤ limit.toNat := by
  have hcut : ∀ {a b : UInt32}, (if a > b then b else a).toNat ≤ a.toNat := by
    intro a b
    simp only [gt_iff_lt, UInt32.lt_iff_toNat_lt]
    split <;> omega
  unfold dataStoreReadRange
  dsimp only
  cases fs (getFilepath id) with
  | none => exact Nat.zero_le _
  | some f =>
    cases hv : validHeader f with
    | none => simp only [hv]; exact Nat.zero_le _
    | some header =>
      simp only [hv]
      by_cases ho : offset ≥ header.count
      · rw [if_pos ho]
        exact Nat.zero_le _
      · rw [if_neg ho]
        refine (List.length_filterMap_le _ _).trans ?_
        rw [List.length_range]
        exact hcut.trans hcut

/-- The whole logical sequence of a client, oldest first. -/
def readAll (fs : Fs) (id : Id) : List DataRecord :=
  dataStoreReadRange fs id 0 (dataStoreGetCount fs id) (dataStoreGetCount fs id)

theorem getCount_of_holds {g : UInt32} {fs : Fs} {id : Id}
    {r : RingBuffer (Option DataRecord) g.toNat} (hf : FileHolds g fs id r) :
    (dataStoreGetCount fs id).toNat = r.slots.length := by
  obtain ⟨f, hp, hr⟩ := hf
  obtain ⟨h, hh, -, -, hc⟩ := hr.header
  simp [dataStoreGetCount, hp, hh, hc]

/-- When the newest records are known, they are the newest records read. -/
theorem readAll_rtake {g : UInt32} (hg : Fits g) {fs : Fs} {id : Id}
    {r : RingBuffer (Option DataRecord) g.toNat} (hf : FileHolds g fs id r) (xs : List DataRecord)
    (hx : r.toList.rtake xs.length = xs.map some) : (readAll fs id).rtake xs.length = xs := by
  have hcount := getCount_of_holds hf
  obtain ⟨e, he, hk⟩ := readRange_eq hg hf 0 (dataStoreGetCount fs id) (dataStoreGetCount fs id)
  have hle : xs.length ≤ r.slots.length := by
    have := congrArg List.length hx
    rw [List.rtake, List.length_drop, List.length_map, RingBuffer.length_toList] at this
    omega
  rw [UInt32.toNat_zero, hcount, Nat.min_self, Nat.sub_zero, Nat.min_self,
    show r.slots.length = (r.slots.length - xs.length) + xs.length by omega] at he
  unfold readAll
  rw [he, filterMap_range_append, List.rtake, List.length_append,
    Nat.add_sub_cancel, List.drop_left]
  intro i x hix
  have hil := (List.getElem?_eq_some_iff.mp hix).1
  apply hk _ x (by rw [UInt32.toNat_zero]; omega)
  have hm : (xs.map some)[i]? = some (some x) := by rw [List.getElem?_map, hix]; rfl
  rw [← hx, List.rtake, List.getElem?_drop, RingBuffer.length_toList] at hm
  rw [UInt32.toNat_zero, Nat.zero_add]
  exact hm

/-! ## The logical sequence -/

/-- Client `id` has the records `recs`, oldest first: no usable file, or one that holds them. -/
def HoldsSeq (g : UInt32) (fs : Fs) (id : Id) (recs : List DataRecord) : Prop :=
  ((fs (getFilepath id)).bind validHeader = none ∧ recs = []) ∨
    ∃ r : RingBuffer (Option DataRecord) g.toNat, FileHolds g fs id r ∧ r.toList = recs.map some

theorem HoldsSeq.length_le {g : UInt32} {fs : Fs} {id : Id} {recs : List DataRecord}
    (h : HoldsSeq g fs id recs) : recs.length ≤ g.toNat := by
  rcases h with ⟨-, rfl⟩ | ⟨r, -, hl⟩
  · exact Nat.zero_le _
  · have := congrArg List.length hl
    rw [RingBuffer.length_toList, List.length_map] at this
    have := r.length_le
    omega

/-- Every range read is a slice of the sequence. -/
theorem HoldsSeq.readRange_eq {g : UInt32} (hg : Fits g) {fs : Fs} {id : Id}
    {recs : List DataRecord} (h : HoldsSeq g fs id recs) (offset limit capacity : UInt32) :
    dataStoreReadRange fs id offset limit capacity =
      (recs.drop offset.toNat).take (min limit.toNat capacity.toNat) := by
  rcases h with ⟨hv, rfl⟩ | ⟨r, hf, hl⟩
  · rw [List.drop_nil, List.take_nil]
    unfold dataStoreReadRange
    cases hp : fs (getFilepath id) with
    | none => rfl
    | some f =>
      rw [hp, Option.bind_some] at hv
      simp only [hv]
  · apply readRange_of_holds hg hf
    rw [hl, List.map_take, List.map_drop]

theorem HoldsSeq.getCount_eq {g : UInt32} {fs : Fs} {id : Id} {recs : List DataRecord}
    (h : HoldsSeq g fs id recs) : (dataStoreGetCount fs id).toNat = recs.length := by
  rcases h with ⟨hv, rfl⟩ | ⟨r, hf, hl⟩
  · simp [dataStoreGetCount, hv]
  · have := congrArg List.length hl
    rw [RingBuffer.length_toList, List.length_map] at this
    rw [getCount_of_holds hf, this]

theorem HoldsSeq.readAll_eq {g : UInt32} (hg : Fits g) {fs : Fs} {id : Id} {recs : List DataRecord}
    (h : HoldsSeq g fs id recs) : readAll fs id = recs := by
  unfold readAll
  rw [h.readRange_eq hg, h.getCount_eq, UInt32.toNat_zero, List.drop_zero, Nat.min_self,
    List.take_length]

end IndoorLogger
