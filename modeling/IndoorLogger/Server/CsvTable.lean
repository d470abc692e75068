import IndoorLogger.Lib.Separated
import IndoorLogger.Server.CsvExport

/-
  The CSV export as a table. Its cells are not quoted, and the first one is what a user called
  the client: a program that splits the text at line ends and commas gets the rows back exactly
  if no client with records has a comma or a line feed in its name (`csv_read_iff`).
-/

namespace IndoorLogger

open RecordFile Decimal Separated

/-! ## The text -/

/-- The bytes of the answer. -/
def CsvResponse.text (r : CsvResponse) : List UInt8 := r.head.flatten ++ r.rows.flatten.flatten

/-- The first row. -/
def csvHeader : List (List UInt8) :=
  ["client_name", "timestamp", "datetime", "temp", "hum", "eco2", "tvoc", "aqi"].map ascii

/-- The records that the export reads of a client's file. -/
def csvClientRecords (fs : Fs) (c : ClientInfo) : List DataRecord :=
  match fs (getFilepath c.id) with
  | none => []
  | some f =>
    match validHeader f with
    | none => []
    | some header =>
      csvRecords f (if header.count > header.maxRecords then header.maxRecords
        else header.count).toNat 0

/-- The rows of a client. -/
def csvClientTable (datetime : DataRecord → List UInt8) (fs : Fs) (c : ClientInfo) :
    List (List (List UInt8)) :=
  (csvClientRecords fs c).map fun rec => csvRow (csvName c) (fun _ => datetime rec) rec

/-- The table that the export is meant to be. -/
def csvTable (datetime : DataRecord → List UInt8) (reg : Registry) (fs : Fs) :
    List (List (List UInt8)) :=
  csvHeader ::
    (clientRegistryGetAll reg clientRegistryMaxClients).flatMap (csvClientTable datetime fs)

/-- A reader of CSV without quotes: behind the mark, lines that end in CR LF, cells between
    commas. -/
def readCsv (text : List UInt8) : List (List (List UInt8)) := read 44 10 (text.drop 3)

variable (datetime : DataRecord → List UInt8) (reg : Registry) (fs : Fs)

theorem csvClientRows_eq (c : ClientInfo) :
    csvClientRows datetime fs c =
      (csvClientRecords fs c).map (csvLine (csvName c) datetime) := by
  unfold csvClientRows csvClientRecords
  cases fs (getFilepath c.id) with
  | none => rfl
  | some f =>
    dsimp only
    cases validHeader f with
    | none => rfl
    | some header => rfl

/-- The answer is the mark and the printed table. -/
theorem csvText_eq (stamp : List UInt8) :
    (csvExportHandler false stamp datetime reg fs).text =
      [0xEF, 0xBB, 0xBF] ++ print 44 13 10 (csvTable datetime reg fs) := by
  have hheader : ascii "client_name,timestamp,datetime,temp,hum,eco2,tvoc,aqi" =
      [44].intercalate csvHeader := by decide +kernel
  have hrows : ∀ clients : List ClientInfo,
      (clients.map (csvClientRows datetime fs)).flatten.flatten =
        print 44 13 10 (clients.flatMap (csvClientTable datetime fs)) := by
    intro clients
    induction clients with
    | nil => rfl
    | cons c clients ih =>
      have hprint : print 44 13 10 (csvClientTable datetime fs c) =
          (csvClientRows datetime fs c).flatten := by
        rw [csvClientRows_eq, print, csvClientTable, List.map_map]
        rfl
      rw [List.map_cons, List.flatten_cons, List.flatten_append, ih, List.flatMap_cons, ← hprint]
      unfold print
      rw [List.map_append, List.flatten_append]
  have hrest : (csvExportHandler false stamp datetime reg fs).rows.flatten.flatten =
      print 44 13 10 ((clientRegistryGetAll reg clientRegistryMaxClients).flatMap
        (csvClientTable datetime fs)) := hrows _
  have htable : print 44 13 10 (csvTable datetime reg fs) =
      ([44].intercalate csvHeader ++ [13, 10]) ++
        print 44 13 10 ((clientRegistryGetAll reg clientRegistryMaxClients).flatMap
          (csvClientTable datetime fs)) := rfl
  have hhead : (csvExportHandler false stamp datetime reg fs).head.flatten =
      [0xEF, 0xBB, 0xBF] ++
        (ascii "client_name,timestamp,datetime,temp,hum,eco2,tvoc,aqi" ++ [13, 10]) :=
    congrArg ([0xEF, 0xBB, 0xBF] ++ ·) (List.append_nil _)
  rw [CsvResponse.text, hrest, htable, ← hheader, hhead, List.append_assoc]

/-! ## Cells -/

/-- A cell that a reader cannot take for more than one. -/
def PlainCell (l : List UInt8) : Prop := 44 ∉ l ∧ 10 ∉ l

instance (l : List UInt8) : Decidable (PlainCell l) := inferInstanceAs (Decidable (_ ∧ _))

theorem PlainCell.append {l m : List UInt8} (hl : PlainCell l) (hm : PlainCell m) :
    PlainCell (l ++ m) :=
  ⟨fun h => (List.mem_append.mp h).elim hl.1 hm.1, fun h => (List.mem_append.mp h).elim hl.2 hm.2⟩

theorem plainCell_of_digits {l : List UInt8} (h : ∀ b ∈ l, isDigit b = true) : PlainCell l :=
  ⟨fun hc => absurd (h 44 hc) (by decide), fun hc => absurd (h 10 hc) (by decide)⟩

theorem plainCell_formatNat (n : Nat) : PlainCell (formatNat n) :=
  plainCell_of_digits isDigit_formatNat

theorem plainCell_formatInt (n : Int) : PlainCell (formatInt n) := by
  unfold formatInt
  split
  · exact PlainCell.append (by decide : PlainCell [45]) (plainCell_formatNat _)
  · exact plainCell_formatNat _

theorem plainCell_fixed {l m : List UInt8} (hl : PlainCell l) (hm : PlainCell m) :
    PlainCell (l ++ ascii "." ++ m) :=
  (hl.append (by decide : PlainCell (ascii "."))).append hm

/-- Only the name and the local time could hold a comma or a line feed. -/
theorem plainCells_csvRow (cname date : List UInt8) (rec : DataRecord) :
    (∀ cell ∈ csvRow cname (fun _ => date) rec, PlainCell cell) ↔
      PlainCell cname ∧ PlainCell date := by
  have htemp : PlainCell (csvTemp rec.tempX100) :=
    plainCell_fixed (plainCell_formatInt _) (plainCell_of_digits isDigit_formatNat2)
  have hhum : PlainCell (fmtHum rec.humX100) :=
    plainCell_fixed (plainCell_formatNat _) (plainCell_of_digits isDigit_formatNat2)
  unfold csvRow
  simp only [List.forall_mem_cons, List.not_mem_nil, false_implies, implies_true, and_true,
    plainCell_formatNat, htemp, hhum, true_and]

/-- **When the export can be read.** For any registry and files, and local times without commas
    and line feeds: a reader that splits the text of the export at line ends and commas gets the
    rows of the records back exactly if no client with records is called by a name with a comma
    or a line feed. -/
theorem csv_read_iff (hdate : ∀ rec, PlainCell (datetime rec)) (stamp : List UInt8) :
    readCsv (csvExportHandler false stamp datetime reg fs).text = csvTable datetime reg fs ↔
      ∀ c ∈ clientRegistryGetAll reg clientRegistryMaxClients,
        csvClientRecords fs c ≠ [] → PlainCell (csvName c) := by
  have hcells : ∀ row ∈ csvTable datetime reg fs, row ≠ [] := by
    intro row hrow
    rcases List.mem_cons.mp hrow with rfl | hrow
    · nofun
    · obtain ⟨c, -, hrow⟩ := List.mem_flatMap.mp hrow
      obtain ⟨rec, -, rfl⟩ := List.mem_map.mp hrow
      nofun
  have hread : readCsv (csvExportHandler false stamp datetime reg fs).text =
      read 44 10 (print 44 13 10 (csvTable datetime reg fs)) := by
    rw [readCsv, csvText_eq]
    rfl
  rw [hread, read_print_iff (by decide) (by decide) hcells]
  constructor
  · intro hplain c hc hrecs
    obtain ⟨rec, hrec⟩ := List.exists_mem_of_ne_nil _ hrecs
    have hrow : csvRow (csvName c) (fun _ => datetime rec) rec ∈ csvTable datetime reg fs :=
      List.mem_cons_of_mem _ (List.mem_flatMap.mpr ⟨c, hc, List.mem_map_of_mem hrec⟩)
    exact ((plainCells_csvRow _ _ rec).mp (hplain _ hrow)).1
  · intro hnames row hrow
    rcases List.mem_cons.mp hrow with rfl | hrow
    · exact (by decide : ∀ cell ∈ csvHeader, PlainCell cell)
    · obtain ⟨c, hc, hrow⟩ := List.mem_flatMap.mp hrow
      obtain ⟨rec, hrec, rfl⟩ := List.mem_map.mp hrow
      exact (plainCells_csvRow _ _ rec).mpr
        ⟨hnames c hc (List.ne_nil_of_mem hrec), hdate rec⟩

/-- The time of day of a record, on the first day of the epoch. -/
def firstDay (rec : DataRecord) : List UInt8 :=
  let t := rec.timestamp.toNat
  ascii "1970-01-01 " ++ formatNat2 (t / 3600) ++ ascii ":" ++ formatNat2 (t / 60 % 60) ++
    ascii ":" ++ formatNat2 (t % 60)

theorem plainCell_firstDay (rec : DataRecord) : PlainCell (firstDay rec) := by
  unfold firstDay
  exact ((((PlainCell.append (by decide) (plainCell_of_digits isDigit_formatNat2)).append
    (by decide)).append (plainCell_of_digits isDigit_formatNat2)).append (by decide)).append
      (plainCell_of_digits isDigit_formatNat2)

/-- A client with a name and a file that has wrapped, and one that is shown by its id. -/
theorem csv_read_two :
    readCsv (csvExportHandler false [] firstDay exportRegistry (exportFs exportTimes)).text =
      csvTable firstDay exportRegistry (exportFs exportTimes) := by
  refine (csv_read_iff firstDay exportRegistry (exportFs exportTimes) plainCell_firstDay []).mpr ?_
  intro c hc _
  rcases List.mem_cons.mp (show c ∈ [exportA, exportB] from hc) with rfl | hc
  · decide
  · obtain rfl := List.mem_singleton.mp hc
    decide

end IndoorLogger
