import IndoorLogger.Server.Aggregation
import IndoorLogger.Server.DataQuery

/-
  `data_aggregated_get_handler`: the averages of a client's records since a time, one for each
  bucket. The default bucket is five minutes; at most 480 buckets are answered.
-/

namespace IndoorLogger

open Decimal

/-- `bucket_sec`: 300 unless the query asks for a positive number. -/
def bucketParam (uri : List UInt8) : UInt32 :=
  let tmp : CStr 16 := queryParam uri "bucket" 16
  if tmp.isEmpty then 300
  else
    let val := atoi tmp.bytes
    if val > 0 then UInt32.ofInt val else 300

/-- `since_ts`: 0 unless the query has a value for it. -/
def sinceParam (uri : List UInt8) : UInt32 := (sinceTs uri).getD 0

/-- A bucket in the answer. -/
def bucketJson (b : DataAggregated) : List UInt8 :=
  ascii "\x7b\"ts\":" ++ formatNat b.timestamp.toNat ++
    ascii ",\"c\":" ++ formatNat b.count.toNat ++
    ascii ",\"temp\":" ++ fmtTemp b.tempAvgX100 ++ ascii ",\"hum\":" ++ fmtHum b.humAvgX100 ++
    ascii ",\"eco2\":" ++ formatNat b.eco2Avg.toNat ++
    ascii ",\"tvoc\":" ++ formatNat b.tvocAvg.toNat ++
    ascii ",\"aqi\":" ++ formatNat b.aqiAvg.toNat ++ ascii "\x7d"

/-- An answer of `data_aggregated_get_handler`; the buckets are sent in chunks. -/
inductive AggregatedResponse where
  | plain (text : String) (len : Nat)
  | error (code : Nat)
  | buckets (bs : List DataAggregated)
  deriving DecidableEq

/-- The chunks: a bracket, the buckets with a comma before all but the first, a bracket. -/
def AggregatedResponse.chunks : AggregatedResponse → List (List UInt8)
  | .buckets bs => [ascii "["] ++
      (bs.zipIdx.map fun p => (if p.2 > 0 then ascii "," else []) ++ bucketJson p.1) ++
      [ascii "]"]
  | _ => []

/-- Which allocations of the handler and of the reads below it fail. -/
structure AggregatedIo where
  mallocBuckets : Bool := false
  mallocRaw : Bool := false

/-- `data_aggregated_get_handler`. -/
def dataAggregatedGetHandler (fuel : Nat) (io : AggregatedIo) (fs : Fs) (uri : List UInt8) :
    Option AggregatedResponse :=
  let clientId : Id := queryParam uri "id" 32
  if clientId.isEmpty then some (.plain "missing id" 10)
  else if io.mallocBuckets then some (.error 500)
  else
    (dataStoreReadAggregated fuel io.mallocRaw fs clientId (sinceParam uri) (bucketParam uri)
      480).map .buckets

theorem bucketParam_pos (uri : List UInt8) : 1 ≤ bucketParam uri := by
  unfold bucketParam
  dsimp only
  rw [UInt32.le_iff_toNat_le]
  split
  · decide
  · split
    case isTrue hval =>
      have hle := (atoi_mem (queryParam uri "bucket" 16 : CStr 16).bytes).2
      rw [UInt32.ofInt, UInt32.toNat_ofNat', UInt32.toNat_one]
      omega
    case isFalse => decide

variable {g : UInt32} {fs : Fs} {recs : List DataRecord}

/-- The handler answers the group-by of the first 2000 records since the time asked for. -/
theorem dataAggregatedGetHandler_eq {total : UInt32} (hinit : dataStoreInit total = some g)
    (hpos : 0 < g) {uri : List UInt8} (hid : (queryParam uri "id" 32 : Id) ≠ CStr.empty)
    (h : HoldsSeq g fs (queryParam uri "id" 32) recs)
    (hsorted : recs.Pairwise fun a b => a.timestamp ≤ b.timestamp) {fuel : Nat}
    (hfuel : 2000 ≤ fuel) :
    ∃ bs, dataAggregatedGetHandler fuel {} fs uri = some (.buckets bs) ∧
      Aggregates ((recs.filter fun rec => sinceParam uri ≤ rec.timestamp).take 2000)
        (bucketParam uri) 480 bs := by
  have hg := (dataStoreInit_room hinit hpos).1
  have hb := bucketParam_pos uri
  have hread := readAggregated_eq hg h hsorted (sinceParam uri) hb
    (by decide : 1 ≤ (480 : UInt32)) hfuel
  dsimp only at hread
  unfold dataAggregatedGetHandler
  dsimp only
  rw [CStr.isEmpty_eq_false.mpr hid, if_neg Bool.false_ne_true, if_neg Bool.false_ne_true, hread,
    Option.map_some]
  refine ⟨_, rfl, ?_⟩
  exact aggregates_groups (by rw [List.length_take]; exact Nat.min_le_left _ _) hb 480

end IndoorLogger
