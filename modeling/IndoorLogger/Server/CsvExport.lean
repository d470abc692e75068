import IndoorLogger.Server.AppendFaults
import IndoorLogger.Server.ReadSince
import IndoorLogger.Server.Readings
import IndoorLogger.Server.Responses

/-
  The CSV export. It reads a client's file from the first slot on, in the order of the slots;
  `data_store_read_range` starts at the oldest record. On a file that has wrapped the rows come
  in the order of the records only where a shift by `write_idx` does not show
  (`csv_export_agrees_iff`).
-/

namespace IndoorLogger

open RecordFile RingFile Decimal

/-! ## The handler -/

/-- The first column. -/
def csvName (c : ClientInfo) : List UInt8 := if c.name.isEmpty then c.id.bytes else c.name.bytes

/-- The line of a record; `datetime` is what `localtime_r` and `strftime` make of the bytes
    from its timestamp on. -/
def csvLine (cname : List UInt8) (datetime : DataRecord → List UInt8) (rec : DataRecord) :
    List UInt8 :=
  ((csvRow cname (fun _ => datetime rec) rec).intersperse (ascii ",")).flatten ++ [13, 10]

/-- The read loop over `n` records from record `i` on; a short read ends it. -/
def csvRecords (f : List UInt8) : Nat → Nat → List DataRecord
  | 0, _ => []
  | n + 1, i =>
    match fread DataRecord.codec f (49 + 14 * i) with
    | none => []
    | some rec => rec :: csvRecords f n (i + 1)

/-- The chunks sent for one client. -/
def csvClientRows (datetime : DataRecord → List UInt8) (fs : Fs) (c : ClientInfo) :
    List (List UInt8) :=
  match fs (getFilepath c.id) with
  | none => []
  | some f =>
    match validHeader f with
    | none => []
    | some header =>
      let recCount :=
        if header.count > header.maxRecords then header.maxRecords else header.count
      (csvRecords f recCount.toNat 0).map (csvLine (csvName c) datetime)

/-- The answer of /api/export: its header fields, the chunks in front of the rows and the rows
    of one client after the other, a chunk each. -/
structure CsvResponse where
  contentType : String
  disposition : List UInt8
  head : List (List UInt8)
  rows : List (List (List UInt8))

/-- `csv_export_handler`; `stamp` is the local time in the file name. -/
def csvExportHandler (mallocFails : Bool) (stamp : List UInt8)
    (datetime : DataRecord → List UInt8) (reg : Registry) (fs : Fs) : CsvResponse where
  contentType := "text/csv; charset=utf-8"
  disposition := ascii "attachment; filename=\"airmon_" ++ stamp ++ ascii ".csv\""
  head := [[0xEF, 0xBB, 0xBF],
    ascii "client_name,timestamp,datetime,temp,hum,eco2,tvoc,aqi" ++ [13, 10]]
  rows :=
    if mallocFails then []
    else
      (clientRegistryGetAll reg clientRegistryMaxClients).map (csvClientRows datetime fs)

/-! ## Slots against records -/

/-- The rows of each registered client are the records that a query of all of them returns. -/
def CsvAgrees (datetime : DataRecord → List UInt8) (reg : Registry) (fs : Fs) : Prop :=
  ∀ stamp, (csvExportHandler false stamp datetime reg fs).rows =
    (clientRegistryGetAll reg clientRegistryMaxClients).map fun c =>
      (readAll fs c.id).map (csvLine (csvName c) datetime)

theorem csvAgrees_iff {datetime : DataRecord → List UInt8} {reg : Registry} {fs : Fs} :
    CsvAgrees datetime reg fs ↔ ∀ c ∈ clientRegistryGetAll reg clientRegistryMaxClients,
      csvClientRows datetime fs c = (readAll fs c.id).map (csvLine (csvName c) datetime) := by
  unfold CsvAgrees csvExportHandler
  simp only [Bool.false_eq_true, if_false, List.map_inj_left]
  exact ⟨fun h => h [], fun h _ => h⟩

/-- The client's file has not wrapped, or each slot prints like the one `write_idx` slots on. -/
def SlotsInOrder (datetime : DataRecord → List UInt8) (fs : Fs) (c : ClientInfo) : Prop :=
  ∀ f h, fs (getFilepath c.id) = some f → validHeader f = some h →
    h.count < h.maxRecords ∨
      ∀ i < h.maxRecords.toNat,
        (slot 49 DataRecord.codec f ((i + h.writeIdx.toNat) % h.maxRecords.toNat)).map
            (csvLine (csvName c) datetime) =
          (slot 49 DataRecord.codec f i).map (csvLine (csvName c) datetime)

theorem csvRecords_eq {f : List UInt8} {xs : List DataRecord} {i : Nat}
    (h : ∀ j x, xs[j]? = some x → slot 49 DataRecord.codec f (i + j) = some x) :
    csvRecords f xs.length i = xs := by
  induction xs generalizing i with
  | nil => rfl
  | cons x xs ih =>
    have hread : fread DataRecord.codec f (49 + 14 * i) = some x := h 0 x rfl
    have hrest : ∀ j y, xs[j]? = some y → slot 49 DataRecord.codec f (i + 1 + j) = some y := by
      intro j y hy
      rw [show i + 1 + j = i + (j + 1) by omega]
      exact h (j + 1) y hy
    rw [List.length_cons, csvRecords, hread, ih hrest]

variable {g : UInt32} {fs : Fs} {datetime : DataRecord → List UInt8} {c : ClientInfo}

/-- The loop over a ring file reads its slots. -/
theorem csvClientRows_of_holds {f : List UInt8} {r : RingBuffer (Option DataRecord) g.toNat}
    {ys : List DataRecord} (hf : fs (getFilepath c.id) = some f) (hr : Holds g f r)
    (hs : r.slots = ys.map some) :
    csvClientRows datetime fs c = ys.map (csvLine (csvName c) datetime) := by
  obtain ⟨h, hv, hm, -, hc⟩ := hr.header
  have hlen : h.count.toNat = ys.length := by rw [hc, hs, List.length_map]
  have hle := r.length_le
  have hcount : (if h.count > h.maxRecords then h.maxRecords else h.count).toNat = ys.length := by
    rw [if_neg, hlen]
    rw [gt_iff_lt, UInt32.lt_iff_toNat_lt, hm, hc]
    omega
  have hread : csvRecords f ys.length 0 = ys := by
    apply csvRecords_eq
    intro j x hx
    rw [Nat.zero_add]
    exact hr.records j (some x) x (by rw [hs, List.getElem?_map, hx]; rfl) rfl
  unfold csvClientRows
  simp only [hf, hv]
  rw [hcount, hread]

/-- The two readers of one file agree when the rotation of the ring does not show. -/
theorem client_agrees_iff (hg : Fits g) {recs : List DataRecord} (h : HoldsSeq g fs c.id recs) :
    csvClientRows datetime fs c = (readAll fs c.id).map (csvLine (csvName c) datetime) ↔
      SlotsInOrder datetime fs c := by
  rw [h.readAll_eq hg]
  rcases h with ⟨hnone, rfl⟩ | ⟨r, ⟨f, hf, hr⟩, hl⟩
  · -- nothing to read
    refine iff_of_true ?_ fun f h hf hv => ?_
    · unfold csvClientRows
      cases hf : fs (getFilepath c.id) with
      | none => rfl
      | some f =>
        rw [hf, Option.bind_some] at hnone
        simp only [hnone]
        rfl
    · rw [hf, Option.bind_some, hv] at hnone
      cases hnone
  · obtain ⟨ys, hs, rfl⟩ := r.exists_slots_eq_map hl
    obtain ⟨h, hv, hm, hw, hc⟩ := hr.header
    have hlen : r.slots.length = ys.length := by rw [hs, List.length_map]
    have hslot : ∀ i, i < ys.length → slot 49 DataRecord.codec f i = ys[i]? := by
      intro i hi
      rw [List.getElem?_eq_getElem hi]
      apply hr.records i (some ys[i]) _ _ rfl
      rw [hs, List.getElem?_map, List.getElem?_eq_getElem hi]
      rfl
    rw [csvClientRows_of_holds hf hr hs]
    by_cases hlt : r.slots.length < g.toNat
    · refine iff_of_true ?_ fun f' h' hf' hv' => Or.inl ?_
      · rw [r.start_eq_zero hlt, List.rotate_zero]
      · obtain rfl : f = f' := Option.some.inj (hf.symm.trans hf')
        obtain rfl : h = h' := Option.some.inj (hv.symm.trans hv')
        rw [UInt32.lt_iff_toNat_lt, hc, hm]
        exact hlt
    · have hle := r.length_le
      have hfull : ys.length = g.toNat := by omega
      have hpos := hg.pos
      rw [r.start_eq_next hlt, map_rotate_eq_iff]
      constructor
      · intro hrot f' h' hf' hv'
        obtain rfl : f = f' := Option.some.inj (hf.symm.trans hf')
        obtain rfl : h = h' := Option.some.inj (hv.symm.trans hv')
        refine Or.inr fun i hi => ?_
        rw [hm] at hi ⊢
        rw [hw, hslot i (by omega), hslot _ (by rw [hfull]; exact Nat.mod_lt _ hpos)]
        have := hrot i (by omega)
        rwa [hfull] at this
      · intro hord i hi
        rcases hord f h hf hv with hcount | hshift
        · rw [UInt32.lt_iff_toNat_lt, hc, hm] at hcount
          exact absurd hcount hlt
        · have := hshift i (by rw [hm]; omega)
          rw [hm, hw, hslot i hi, hslot _ (by rw [hfull]; exact Nat.mod_lt _ hpos)] at this
          rw [hfull]
          exact this

/-- **When the export agrees with the query.** The files come from any appends, under any
    partition sizes, and the registry is any: the rows of every registered client are its
    records, oldest first, exactly when its file has not wrapped or the shift does not show. -/
theorem csv_export_agrees_iff (h : Appended fs) (reg : Registry)
    (datetime : DataRecord → List UInt8) :
    CsvAgrees datetime reg fs ↔
      ∀ c ∈ clientRegistryGetAll reg clientRegistryMaxClients, SlotsInOrder datetime fs c := by
  rw [csvAgrees_iff]
  refine forall₂_congr fun c _ => ?_
  obtain ⟨cap, hcap, recs, hs⟩ := h.holdsSeq c.id
  exact client_agrees_iff hcap hs

/-! ## Two clients with files of two records -/

def clientB : Id := CStr.strncpy (ascii "b")

def exportA : ClientInfo :=
  { ClientInfo.zero with id := clientA, name := CStr.strncpy (ascii "attic") }

def exportB : ClientInfo := { ClientInfo.zero with id := clientB }

def exportRegistry : Registry :=
  { clientRegistryInit with
    clients := (clientRegistryInit.clients.setIfInBounds 0 exportA).setIfInBounds 1 exportB
    clientCount := 2 }

/-- A record of time `t`. -/
def exported (t : UInt32) : DataRecord := { hundred with timestamp := t }

/-- The files after appends at some times. -/
def exportFs (log : List (Id × UInt32)) : Fs :=
  appendLog 2 Fs.blank (log.map fun e => (e.1, exported e.2))

/-- The file of the first client has wrapped once around, the other's is not full. -/
def exportTimes : List (Id × UInt32) :=
  [(clientA, 10), (clientA, 20), (clientB, 25), (clientA, 30), (clientA, 40)]

theorem appended_exportFs (log : List (Id × UInt32)) : Appended (exportFs log) :=
  appended_appendLog (by decide : dataStoreInit 34000 = some 2) (by decide) _

theorem csv_export_agrees_wrapped :
    CsvAgrees (fun _ => []) exportRegistry (exportFs exportTimes) := by
  refine (csv_export_agrees_iff (appended_exportFs exportTimes) exportRegistry _).mpr ?_
  intro c hc f h hf hv
  have hheader : (exportFs exportTimes (getFilepath c.id)).bind validHeader = some h := by
    rw [hf]
    exact hv
  rcases List.mem_cons.mp (show c ∈ [exportA, exportB] from hc) with rfl | hc
  · have hfull : (exportFs exportTimes (getFilepath exportA.id)).bind validHeader =
        some ⟨dataStoreMagic, dataStoreVersion, clientA, 2, 0, 2⟩ := by decide +kernel
    obtain rfl := Option.some.inj (hheader.symm.trans hfull)
    refine Or.inr fun i hi => ?_
    rw [UInt32.toNat_zero, Nat.add_zero, Nat.mod_eq_of_lt hi]
  · obtain rfl := List.mem_singleton.mp hc
    have hpart : (exportFs exportTimes (getFilepath exportB.id)).bind validHeader =
        some ⟨dataStoreMagic, dataStoreVersion, clientB, 2, 1, 1⟩ := by decide +kernel
    obtain rfl := Option.some.inj (hheader.symm.trans hpart)
    exact Or.inl (by decide)

/-- The third append overwrites the first slot: the export starts with the newest record. -/
theorem csv_export_rotated :
    let fs := exportFs [(clientA, 10), (clientA, 20), (clientA, 30)]
    (readAll fs clientA).map (·.timestamp) = [20, 30] ∧
      csvClientRows (fun _ => []) fs exportA =
        [exported 30, exported 20].map (csvLine (ascii "attic") fun _ => []) ∧
      ¬ CsvAgrees (fun _ => []) exportRegistry fs := by
  intro fs
  have hall : readAll fs clientA = [exported 20, exported 30] := by
    decide +kernel
  have hrows : csvClientRows (fun _ => []) fs exportA =
      [exported 30, exported 20].map (csvLine (ascii "attic") fun _ => []) := by
    decide +kernel
  refine ⟨by rw [hall]; rfl, hrows, fun h => ?_⟩
  have hc := csvAgrees_iff.mp h exportA List.mem_cons_self
  rw [hrows, show readAll fs exportA.id = _ from hall] at hc
  revert hc
  decide

end IndoorLogger
