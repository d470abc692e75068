import IndoorLogger.Server.AggregatedQuery
import IndoorLogger.Server.Responses
import IndoorLogger.Sync.ReadingRoundTrip

/-
  The answers of the API as documents. A list of records is sent in chunks; put together they
  are the JSON array of the records, and two such texts are equal exactly when they show the
  same readings (`data_text_eq_iff`).
-/

namespace IndoorLogger

open Decimal Json

/-! ## Texts in chunks -/

/-- Items with a comma before all but the first are the items separated by commas. -/
theorem flatten_separated {α : Type} (f : α → List UInt8) (l : List α) :
    (l.zipIdx.map fun p => (if p.2 > 0 then ascii "," else []) ++ f p.1).flatten =
      commaSep (l.map f) := by
  have htail : ∀ (l : List α) (k : Nat),
      ((l.zipIdx (k + 1)).map fun p => (if p.2 > 0 then ascii "," else []) ++ f p.1).flatten =
        ((l.map f).map (44 :: ·)).flatten := by
    intro l
    induction l with
    | nil => exact fun _ => rfl
    | cons a l ih =>
      intro k
      rw [List.zipIdx_cons, List.map_cons, List.flatten_cons, ih (k + 1), if_pos k.succ_pos]
      rfl
  cases l with
  | nil => rfl
  | cons a l =>
    rw [List.zipIdx_cons, List.map_cons, List.flatten_cons, htail l 0, if_neg (lt_irrefl 0)]
    rfl

/-- What the receiver of the chunks puts together. -/
def DataResponse.text (r : DataResponse) : List UInt8 := r.chunks.flatten

theorem dataText_eq (recs : List DataRecord) :
    (DataResponse.records recs).text = 91 :: (commaSep (recs.map recordJson) ++ [93]) := by
  unfold DataResponse.text DataResponse.chunks
  rw [List.flatten_append, List.flatten_append, flatten_separated]
  rfl

/-! ## Records -/

/-- A record in the answers, as a document. -/
def DataRecord.document (d : DataRecord) : Json :=
  .obj [(ascii "timestamp", .num d.printed.timestamp), (ascii "temp", .num d.printed.temp),
    (ascii "hum", .num d.printed.hum), (ascii "eco2", .num d.printed.eco2),
    (ascii "tvoc", .num d.printed.tvoc), (ascii "aqi", .num d.printed.aqi)]

theorem reads_records (recs : List DataRecord) :
    Reads (91 :: (commaSep (recs.map recordJson) ++ [93]))
      (.arr (recs.map DataRecord.document)) := by
  apply reads_arr
  rw [List.forall₂_map_left_iff, List.forall₂_map_right_iff]
  exact List.forall₂_same.mpr fun d _ => reads_recordJson d

/-- What a text shows of a record: temperatures between -1 and 0 lose their sign. -/
def DataRecord.shown (d : DataRecord) : DataRecord :=
  { d with
    tempX100 := if -100 < d.tempX100.toInt ∧ d.tempX100.toInt < 0 then -d.tempX100
      else d.tempX100
    pad := 0 }

theorem toInt_shown (d : DataRecord) :
    d.shown.tempX100.toInt =
      if -100 < d.tempX100.toInt ∧ d.tempX100.toInt < 0 then -d.tempX100.toInt
      else d.tempX100.toInt := by
  unfold DataRecord.shown
  dsimp only
  split
  case isTrue h =>
    rw [Int16.toInt_neg]
    exact Int.bmod_eq_of_le (by omega) (by omega)
  case isFalse => rfl

theorem printed_eq_iff (d d' : DataRecord) : d.printed = d'.printed ↔ d.shown = d'.shown := by
  have htemp : d.printed.temp = d'.printed.temp ↔ d.shown.tempX100 = d'.shown.tempX100 := by
    unfold DataRecord.printed printedTemp
    dsimp only
    rw [← toInt_shown, ← toInt_shown, div_left_inj' (by norm_num), Int.cast_inj, Int16.toInt_inj]
  have hcast : ∀ {a b : Nat}, ((a : ℚ) = b) ↔ a = b := Nat.cast_inj
  constructor
  · intro h
    have hts : d.timestamp = d'.timestamp :=
      UInt32.toNat_inj.mp (hcast.mp (congrArg PrintedReading.timestamp h))
    have hhum : d.humX100 = d'.humX100 := by
      have := congrArg PrintedReading.hum h
      unfold DataRecord.printed at this
      dsimp only at this
      rw [div_left_inj' (by norm_num)] at this
      exact UInt16.toNat_inj.mp (hcast.mp this)
    have heco2 : d.eco2 = d'.eco2 :=
      UInt16.toNat_inj.mp (hcast.mp (congrArg PrintedReading.eco2 h))
    have htvoc : d.tvoc = d'.tvoc :=
      UInt16.toNat_inj.mp (hcast.mp (congrArg PrintedReading.tvoc h))
    have haqi : d.aqi = d'.aqi := UInt8.toNat_inj.mp (hcast.mp (congrArg PrintedReading.aqi h))
    have ht := htemp.mp (congrArg PrintedReading.temp h)
    unfold DataRecord.shown at ht ⊢
    dsimp only at ht
    rw [hts, hhum, heco2, htvoc, haqi, ht]
  · intro h
    have ht := htemp.mpr (congrArg DataRecord.tempX100 h)
    unfold DataRecord.shown at h
    rw [DataRecord.mk.injEq] at h
    obtain ⟨hts, -, hhum, heco2, htvoc, haqi, -⟩ := h
    unfold DataRecord.printed at ht ⊢
    dsimp only at ht
    rw [hts, hhum, heco2, htvoc, haqi, ht]

theorem document_eq_iff (d d' : DataRecord) : d.document = d'.document ↔ d.shown = d'.shown := by
  have hprinted : d.printed = d'.printed ↔ d.printed.timestamp = d'.printed.timestamp ∧
      d.printed.temp = d'.printed.temp ∧ d.printed.hum = d'.printed.hum ∧
      d.printed.eco2 = d'.printed.eco2 ∧ d.printed.tvoc = d'.printed.tvoc ∧
      d.printed.aqi = d'.printed.aqi := Eq.to_iff (PrintedReading.mk.injEq ..)
  rw [← printed_eq_iff, hprinted]
  unfold DataRecord.document
  simp only [Json.obj.injEq, List.cons.injEq, Prod.mk.injEq, Json.num.injEq, true_and, and_true]

theorem recordJson_shown (d : DataRecord) : recordJson d.shown = recordJson d := by
  have htemp : fmtTemp d.shown.tempX100 = fmtTemp d.tempX100 := by
    rw [fmtTemp_eq_csvTemp, fmtTemp_eq_csvTemp, csvTemp_eq, csvTemp_eq, toInt_shown]
    split
    case isTrue h =>
      have hzero : (-d.tempX100.toInt).tdiv 100 = 0 :=
        Int.tdiv_eq_zero_of_lt (by omega) (by omega)
      rw [hzero, show d.tempX100.toInt.tdiv 100 = 0 by rw [Int.neg_tdiv] at hzero; omega]
      rw [Int.natAbs_neg]
    case isFalse => rfl
  unfold recordJson
  rw [htemp]
  rfl

theorem map_eq_map_iff {α β γ : Type} {f : α → β} {g : α → γ} (h : ∀ a b, f a = f b ↔ g a = g b)
    (l l' : List α) : l.map f = l'.map f ↔ l.map g = l'.map g := by
  rw [← List.forall₂_eq_eq_eq, ← List.forall₂_eq_eq_eq, List.forall₂_map_left_iff,
    List.forall₂_map_right_iff, List.forall₂_map_left_iff, List.forall₂_map_right_iff]
  exact ⟨fun hl => hl.imp fun a b => (h a b).mp, fun hl => hl.imp fun a b => (h a b).mpr⟩

/-- **What a list of records shows.** The chunks of an answer make up the JSON array of its
    records, and two answers are the same text exactly when their records are the same, up to
    the padding and the sign of temperatures between -1 and 0 degrees. -/
theorem data_text_eq_iff (recs recs' : List DataRecord) :
    Json.parse (DataResponse.records recs).text = some (.arr (recs.map DataRecord.document)) ∧
      ((DataResponse.records recs).text = (DataResponse.records recs').text ↔
        recs.map DataRecord.shown = recs'.map DataRecord.shown) := by
  have hparse : ∀ recs : List DataRecord, Json.parse (DataResponse.records recs).text =
      some (.arr (recs.map DataRecord.document)) := by
    intro recs
    rw [dataText_eq]
    exact (reads_records recs).parse_eq
  refine ⟨hparse recs, fun h => ?_, fun h => ?_⟩
  · have hdoc := hparse recs
    rw [h, hparse recs', Option.some.injEq, Json.arr.injEq] at hdoc
    exact (map_eq_map_iff document_eq_iff recs recs').mp hdoc.symm
  · have htext : ∀ recs : List DataRecord,
        recs.map recordJson = (recs.map DataRecord.shown).map recordJson := by
      intro recs
      rw [List.map_map]
      exact List.map_congr_left fun d _ => (recordJson_shown d).symm
    rw [dataText_eq, dataText_eq, htext recs, htext recs', h]

/-! ## Buckets -/

def AggregatedResponse.text (r : AggregatedResponse) : List UInt8 := r.chunks.flatten

/-- A bucket as a document. -/
def DataAggregated.document (b : DataAggregated) : Json :=
  .obj [(ascii "ts", .num b.timestamp.toNat), (ascii "c", .num b.count.toNat),
    (ascii "temp", .num (printedTemp b.tempAvgX100.toInt)),
    (ascii "hum", .num (b.humAvgX100.toNat / 100)), (ascii "eco2", .num b.eco2Avg.toNat),
    (ascii "tvoc", .num b.tvocAvg.toNat), (ascii "aqi", .num b.aqiAvg.toNat)]

theorem reads_fmtTemp (x100 : Int16) : Reads (fmtTemp x100) (.num (printedTemp x100.toInt)) :=
  fmtTemp_eq_csvTemp _ ▸ reads_csvTemp _

theorem reads_bucketJson (b : DataAggregated) : Reads (bucketJson b) b.document := by
  have htext : bucketJson b = 123 :: (commaSep
      ([(ascii "ts", formatNat b.timestamp.toNat), (ascii "c", formatNat b.count.toNat),
        (ascii "temp", fmtTemp b.tempAvgX100), (ascii "hum", fmtHum b.humAvgX100),
        (ascii "eco2", formatNat b.eco2Avg.toNat), (ascii "tvoc", formatNat b.tvocAvg.toNat),
        (ascii "aqi", formatNat b.aqiAvg.toNat)].map memberText) ++ [125]) := by
    unfold bucketJson
    generalize fmtTemp b.tempAvgX100 = temp
    generalize fmtHum b.humAvgX100 = hum
    simp [commaSep, memberText, ascii]
  rw [htext]
  exact reads_obj (readsMember rfl (reads_nat _)) (.cons (readsMember rfl (reads_nat _))
    (.cons (readsMember rfl (reads_fmtTemp _)) (.cons (readsMember rfl (reads_fmtHum _))
      (.cons (readsMember rfl (reads_nat _)) (.cons (readsMember rfl (reads_nat _))
        (.cons (readsMember rfl (reads_nat _)) .nil))))))

theorem parse_buckets (bs : List DataAggregated) :
    Json.parse (AggregatedResponse.buckets bs).text =
      some (.arr (bs.map DataAggregated.document)) := by
  have htext : (AggregatedResponse.buckets bs).text =
      91 :: (commaSep (bs.map bucketJson) ++ [93]) := by
    unfold AggregatedResponse.text AggregatedResponse.chunks
    rw [List.flatten_append, List.flatten_append, flatten_separated]
    rfl
  have hreads : Reads (91 :: (commaSep (bs.map bucketJson) ++ [93]))
      (.arr (bs.map DataAggregated.document)) := by
    apply reads_arr
    rw [List.forall₂_map_left_iff, List.forall₂_map_right_iff]
    exact List.forall₂_same.mpr fun b _ => reads_bucketJson b
  rw [htext]
  exact hreads.parse_eq

/-- **The aggregated answer is a group-by.** For a client file in order of time and any query with
    an id, the answer is a JSON array with one document for each of the first 480 buckets that
    the first 2000 records since the time asked for fall into, in order, each with the start,
    the number and the averages of its records. The averages are cut off in the units of the file,
    and printed in hundredths without the sign of a temperature between -1 and 0 degrees. -/
theorem aggregated_answer_groups {total g : UInt32} (hinit : dataStoreInit total = some g)
    (hpos : 0 < g) {fs : Fs} {uri : List UInt8}
    (hid : (queryParam uri "id" 32 : Id) ≠ CStr.empty) {recs : List DataRecord}
    (h : HoldsSeq g fs (queryParam uri "id" 32) recs)
    (hsorted : recs.Pairwise fun a b => a.timestamp ≤ b.timestamp) {fuel : Nat}
    (hfuel : 2000 ≤ fuel) :
    ∃ bs, dataAggregatedGetHandler fuel {} fs uri = some (.buckets bs) ∧
      Aggregates ((recs.filter fun rec => sinceParam uri ≤ rec.timestamp).take 2000)
        (bucketParam uri) 480 bs ∧
      Json.parse (AggregatedResponse.buckets bs).text =
        some (.arr (bs.map DataAggregated.document)) := by
  obtain ⟨bs, hresp, hagg⟩ := dataAggregatedGetHandler_eq hinit hpos hid h hsorted hfuel
  exact ⟨bs, hresp, hagg, parse_buckets bs⟩

/-- Two buckets of a minute, the first with records on both sides of zero degrees. -/
theorem aggregated_answer_minutes :
    let uri := ascii "/api/data/aggregated?id=a&since=70&bucket=60"
    ∃ bs, dataAggregatedGetHandler 2000 {} minutesFs uri = some (.buckets bs) ∧
      Aggregates (minutesLog.drop 1) 60 480 bs ∧
      Json.parse (AggregatedResponse.buckets bs).text =
        some (.arr (bs.map DataAggregated.document)) := by
  intro uri
  have hclient : (queryParam uri "id" 32 : Id) = clientA := by decide +kernel
  have hholds : HoldsSeq 4 minutesFs (queryParam uri "id" 32) minutesLog :=
    hclient ▸ minutesFs_holds
  obtain ⟨bs, hresp, hagg, hparse⟩ := aggregated_answer_groups
    (by decide : dataStoreInit 34640 = some 4) (by decide) (by decide +kernel) hholds (by decide)
    (le_refl 2000)
  have hraw : (minutesLog.filter fun rec => sinceParam uri ≤ rec.timestamp).take 2000 =
      minutesLog.drop 1 := by decide +kernel
  have hbucket : bucketParam uri = 60 := by decide +kernel
  rw [hraw, hbucket] at hagg
  exact ⟨bs, hresp, hagg, hparse⟩

end IndoorLogger
