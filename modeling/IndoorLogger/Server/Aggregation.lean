import IndoorLogger.Lib.Grouping
import IndoorLogger.Server.ReadSince

/-
  `data_store_read_aggregated`: one cursor over the sorted raw records, an inner loop that sums
  up a bucket, an outer one over the buckets. The buckets are the groups of the raw records by
  their bucket's start, in order (`aggregateLoop_eq`), and every sum and cast is exact
  (`average_exact`). A capacity from 2^31 on is cast to a negative `int`
  (`aggregation_correct_iff`).
-/

namespace IndoorLogger

open Grouping

/-! ## data_store_read_aggregated -/

/-- `data_aggregated_t`. -/
structure DataAggregated where
  timestamp : UInt32
  count : UInt16
  tempAvgX100 : Int16
  humAvgX100 : UInt16
  eco2Avg : UInt16
  tvocAvg : UInt16
  aqiAvg : UInt8
  deriving DecidableEq

/-- The accumulators of the inner loop. -/
structure BucketSums where
  temp : Int64 := 0
  hum : Int64 := 0
  eco2 : UInt32 := 0
  tvoc : UInt32 := 0
  aqi : UInt32 := 0
  cnt : UInt32 := 0

def BucketSums.add (s : BucketSums) (rec : DataRecord) : BucketSums where
  temp := s.temp + rec.tempX100.toInt64
  hum := s.hum + Int64.ofNat rec.humX100.toNat
  eco2 := s.eco2 + rec.eco2.toUInt32
  tvoc := s.tvoc + rec.tvoc.toUInt32
  aqi := s.aqi + rec.aqi.toUInt32
  cnt := s.cnt + 1

/-- What is written to `out[bucket_count]`. -/
def BucketSums.average (s : BucketSums) (bucketTs : UInt32) : DataAggregated where
  timestamp := bucketTs
  count := s.cnt.toUInt16
  tempAvgX100 := (s.temp / Int64.ofNat s.cnt.toNat).toInt16
  humAvgX100 := UInt16.ofInt (s.hum / Int64.ofNat s.cnt.toNat).toInt
  eco2Avg := (s.eco2 / s.cnt).toUInt16
  tvocAvg := (s.tvoc / s.cnt).toUInt16
  aqiAvg := (s.aqi / s.cnt).toUInt8

/-- `(timestamp / bucket_sec) * bucket_sec`. -/
def bucketStart (bucketSec timestamp : UInt32) : UInt32 := timestamp / bucketSec * bucketSec

/-- The inner loop, from a cursor on: the sums, and the records from the cursor it ends at. -/
def bucketLoop (bucketSec bucketTs : UInt32) :
    BucketSums → List DataRecord → BucketSums × List DataRecord
  | s, [] => (s, [])
  | s, rec :: raw =>
    if bucketStart bucketSec rec.timestamp ≠ bucketTs then (s, rec :: raw)
    else bucketLoop bucketSec bucketTs (s.add rec) raw

/-- The outer loop, with `fuel` for its iterations, after `bucketCount` buckets. -/
def aggregateLoop (bucketSec : UInt32) (capacity : Int32) :
    Nat → Int32 → List DataRecord → Option (List DataAggregated)
  | _, _, [] => some []
  | fuel, bucketCount, rec :: raw =>
    if bucketCount < capacity then
      match fuel with
      | 0 => none
      | fuel + 1 =>
        let bucketTs := bucketStart bucketSec rec.timestamp
        let (s, rest) := bucketLoop bucketSec bucketTs {} (rec :: raw)
        if s.cnt > 0 then
          (aggregateLoop bucketSec capacity fuel (bucketCount + 1) rest).map
            (s.average bucketTs :: ·)
        else aggregateLoop bucketSec capacity fuel bucketCount rest
    else some []

/-- `max_raw`. -/
def maxRaw : UInt32 := 2000

/-- `data_store_read_aggregated`, with `fuel` for the search and for the loop. -/
def dataStoreReadAggregated (fuel : Nat) (malloc : Bool) (fs : Fs) (clientId : Id)
    (sinceTs bucketSec capacity : UInt32) : Option (List DataAggregated) :=
  if capacity = 0 || bucketSec = 0 then some []
  else if malloc then some []
  else
    (dataStoreReadSince fuel fs clientId sinceTs maxRaw).bind fun r =>
      if r.1.length = 0 then some []
      else aggregateLoop bucketSec capacity.toInt32 fuel 0 r.1

/-! ## The inner loop -/

/-- The start of a record's bucket. -/
def DataRecord.bucket (bucketSec : UInt32) (rec : DataRecord) : Nat :=
  (bucketStart bucketSec rec.timestamp).toNat

theorem bucketLoop_eq (bucketSec : UInt32) (x : DataRecord) (s : BucketSums)
    (raw : List DataRecord) :
    bucketLoop bucketSec (bucketStart bucketSec x.timestamp) s raw =
      ((raw.takeWhile fun rec => rec.bucket bucketSec = x.bucket bucketSec).foldl
          BucketSums.add s,
        raw.dropWhile fun rec => rec.bucket bucketSec = x.bucket bucketSec) := by
  have hbucket : ∀ rec : DataRecord, bucketStart bucketSec rec.timestamp =
      bucketStart bucketSec x.timestamp ↔ rec.bucket bucketSec = x.bucket bucketSec :=
    fun rec => UInt32.toNat_inj.symm
  induction raw generalizing s with
  | nil => rfl
  | cons rec raw ih =>
    rw [bucketLoop]
    by_cases h : rec.bucket bucketSec = x.bucket bucketSec
    · have htrue : decide (rec.bucket bucketSec = x.bucket bucketSec) = true := decide_eq_true h
      rw [if_neg (not_not_intro ((hbucket rec).mpr h)), ih, List.takeWhile_cons, if_pos htrue,
        List.dropWhile_cons, if_pos htrue, List.foldl_cons]
    · have hfalse : ¬decide (rec.bucket bucketSec = x.bucket bucketSec) = true := by simpa using h
      rw [if_pos (mt (hbucket rec).mp h), List.takeWhile_cons, if_neg hfalse, List.dropWhile_cons,
        if_neg hfalse, List.foldl_nil]

/-- The sums of a bucket. -/
def sumsOf (rs : List DataRecord) : BucketSums := rs.foldl BucketSums.add {}

/-! ### Fields -/

def tempOf (rec : DataRecord) : Int := rec.tempX100.toInt
def humOf (rec : DataRecord) : Int := rec.humX100.toNat
def eco2Of (rec : DataRecord) : Int := rec.eco2.toNat
def tvocOf (rec : DataRecord) : Int := rec.tvoc.toNat
def aqiOf (rec : DataRecord) : Int := rec.aqi.toNat

/-- A value within the range of an integer type. -/
def Between (lo hi n : Int) : Prop := lo ≤ n ∧ n < hi

theorem tempOf_between (rec : DataRecord) : Between (-2 ^ 15) (2 ^ 15) (tempOf rec) :=
  ⟨rec.tempX100.le_toInt, rec.tempX100.toInt_lt⟩

theorem toNat_between {b n : Nat} (h : n < b) : Between 0 b n :=
  ⟨Int.natCast_nonneg n, Int.ofNat_lt.mpr h⟩

theorem humOf_between (rec : DataRecord) : Between 0 (2 ^ 16) (humOf rec) :=
  toNat_between rec.humX100.toNat_lt

theorem eco2Of_between (rec : DataRecord) : Between 0 (2 ^ 16) (eco2Of rec) :=
  toNat_between rec.eco2.toNat_lt

theorem tvocOf_between (rec : DataRecord) : Between 0 (2 ^ 16) (tvocOf rec) :=
  toNat_between rec.tvoc.toNat_lt

theorem aqiOf_between (rec : DataRecord) : Between 0 (2 ^ 8) (aqiOf rec) :=
  toNat_between rec.aqi.toNat_lt

/-- At most 2000 values of 16 bits sum up to less than 2^31. -/
theorem sum_between {rs : List DataRecord} (hlen : rs.length ≤ 2000) {f : DataRecord → Int}
    {lo hi : Int} (hf : ∀ rec, Between lo hi (f rec)) (hlo : -2 ^ 15 ≤ lo) (hhi : hi ≤ 2 ^ 16) :
    Between (-2 ^ 31) (2 ^ 31) (rs.map f).sum ∧ (0 ≤ lo → 0 ≤ (rs.map f).sum) := by
  have h1 := List.card_nsmul_le_sum (rs.map f) (-2 ^ 15) fun n hn => by
    obtain ⟨rec, -, rfl⟩ := List.mem_map.mp hn
    exact hlo.trans (hf rec).1
  have h2 := List.sum_le_card_nsmul (rs.map f) (2 ^ 16) fun n hn => by
    obtain ⟨rec, -, rfl⟩ := List.mem_map.mp hn
    exact ((hf rec).2.trans_le hhi).le
  rw [nsmul_eq_mul, List.length_map] at h1 h2
  refine ⟨⟨by omega, by omega⟩, fun h0 => List.sum_nonneg fun n hn => ?_⟩
  obtain ⟨rec, -, rfl⟩ := List.mem_map.mp hn
  exact h0.trans (hf rec).1

/-! ### Sums -/

/-- No sum has wrapped. -/
structure BucketSums.Exact (s : BucketSums) (rs : List DataRecord) : Prop where
  temp : s.temp.toInt = (rs.map tempOf).sum
  hum : s.hum.toInt = (rs.map humOf).sum
  eco2 : (s.eco2.toNat : Int) = (rs.map eco2Of).sum
  tvoc : (s.tvoc.toNat : Int) = (rs.map tvocOf).sum
  aqi : (s.aqi.toNat : Int) = (rs.map aqiOf).sum
  cnt : s.cnt.toNat = rs.length

theorem int64_add_exact {a b : Int64} {m n : Int} (ha : a.toInt = m) (hb : b.toInt = n)
    (h : Between (-2 ^ 31) (2 ^ 31) (m + n)) : (a + b).toInt = m + n := by
  obtain ⟨h1, h2⟩ := h
  rw [Int64.toInt_add, ha, hb, Int.bmod_eq_of_le (by omega) (by omega)]

theorem uint32_add_exact {a b : UInt32} {m n : Int} (ha : (a.toNat : Int) = m)
    (hb : (b.toNat : Int) = n) (h : Between (-2 ^ 31) (2 ^ 31) (m + n)) :
    ((a + b).toNat : Int) = m + n := by
  obtain ⟨h1, h2⟩ := h
  rw [UInt32.toNat_add]
  omega

theorem sumsOf_exact {rs : List DataRecord} (h : rs.length ≤ 2000) : (sumsOf rs).Exact rs := by
  induction rs using List.reverseRecOn with
  | nil => exact ⟨rfl, rfl, rfl, rfl, rfl, rfl⟩
  | append_singleton rs rec ih =>
    have hlen : rs.length < 2000 := by
      rw [List.length_append, List.length_singleton] at h
      omega
    obtain ⟨htemp, hhum, heco2, htvoc, haqi, hcnt⟩ := ih hlen.le
    have hfold : sumsOf (rs ++ [rec]) = (sumsOf rs).add rec := by
      unfold sumsOf
      rw [List.foldl_append, List.foldl_cons, List.foldl_nil]
    have hsum : ∀ f : DataRecord → Int,
        ((rs ++ [rec]).map f).sum = (rs.map f).sum + f rec := fun f => by
      rw [List.map_append, List.sum_append, List.map_singleton, List.sum_singleton]
    have hbound : ∀ {f : DataRecord → Int} {lo hi : Int}, (∀ rec, Between lo hi (f rec)) →
        -2 ^ 15 ≤ lo → hi ≤ 2 ^ 16 → Between (-2 ^ 31) (2 ^ 31) ((rs.map f).sum + f rec) :=
      fun hf hlo hhi => hsum _ ▸ (sum_between h hf hlo hhi).1
    rw [hfold]
    refine ⟨?_, ?_, ?_, ?_, ?_, ?_⟩
    · rw [hsum]
      exact int64_add_exact htemp (Int16.toInt_toInt64 _)
        (hbound tempOf_between (by decide) (by decide))
    · rw [hsum]
      have := rec.humX100.toNat_lt
      exact int64_add_exact hhum (Int64.toInt_ofNat_of_lt (by omega))
        (hbound humOf_between (by decide) (by decide))
    · rw [hsum]
      exact uint32_add_exact heco2 (congrArg Nat.cast rec.eco2.toNat_toUInt32)
        (hbound eco2Of_between (by decide) (by decide))
    · rw [hsum]
      exact uint32_add_exact htvoc (congrArg Nat.cast rec.tvoc.toNat_toUInt32)
        (hbound tvocOf_between (by decide) (by decide))
    · rw [hsum]
      exact uint32_add_exact haqi (congrArg Nat.cast rec.aqi.toNat_toUInt32)
        (hbound aqiOf_between (by decide) (by decide))
    · rw [BucketSums.add, UInt32.toNat_add, hcnt, List.length_append, List.length_singleton,
        UInt32.toNat_one]
      omega

/-! ### Averages -/

/-- The truncated mean of a field, between its least and its greatest value. -/
structure IsMean (rs : List DataRecord) (f : DataRecord → Int) (avg : Int) : Prop where
  eq : avg = mean (rs.map f)
  min_le : ∃ rec ∈ rs, f rec ≤ avg
  le_max : ∃ rec ∈ rs, avg ≤ f rec

/-- The averages and the count of a bucket, all exact. -/
structure DataAggregated.Exact (a : DataAggregated) (rs : List DataRecord) : Prop where
  count : a.count.toNat = rs.length
  temp : IsMean rs tempOf a.tempAvgX100.toInt
  hum : IsMean rs humOf a.humAvgX100.toNat
  eco2 : IsMean rs eco2Of a.eco2Avg.toNat
  tvoc : IsMean rs tvocOf a.tvocAvg.toNat
  aqi : IsMean rs aqiOf a.aqiAvg.toNat

theorem isMean_of_eq {rs : List DataRecord} (hne : rs ≠ []) {f : DataRecord → Int} {avg : Int}
    (h : avg = mean (rs.map f)) : IsMean rs f avg := by
  have hne' : rs.map f ≠ [] := by simpa using hne
  refine ⟨h, ?_, ?_⟩
  · obtain ⟨n, hn, hle⟩ := exists_le_mean hne'
    obtain ⟨rec, hrec, rfl⟩ := List.mem_map.mp hn
    exact ⟨rec, hrec, h ▸ hle⟩
  · obtain ⟨n, hn, hle⟩ := exists_ge_mean hne'
    obtain ⟨rec, hrec, rfl⟩ := List.mem_map.mp hn
    exact ⟨rec, hrec, h ▸ hle⟩

theorem mean_between {rs : List DataRecord} (hne : rs ≠ []) {f : DataRecord → Int} {lo hi : Int}
    (hf : ∀ rec, Between lo hi (f rec)) : Between lo hi (mean (rs.map f)) := by
  have hne' : rs.map f ≠ [] := by simpa using hne
  constructor
  · refine le_mean hne' fun n hn => ?_
    obtain ⟨rec, -, rfl⟩ := List.mem_map.mp hn
    exact (hf rec).1
  · have := mean_le (b := hi - 1) hne' fun n hn => by
      obtain ⟨rec, -, rfl⟩ := List.mem_map.mp hn
      have := (hf rec).2
      omega
    omega

/-- The division of a 64-bit sum by the count. -/
theorem int64_div_exact {rs : List DataRecord} {f : DataRecord → Int} {sum : Int64} {cnt : UInt32}
    (hsum : sum.toInt = (rs.map f).sum) (hcnt : cnt.toNat = rs.length) :
    (sum / Int64.ofNat cnt.toNat).toInt = mean (rs.map f) := by
  have hlt := cnt.toNat_lt
  have hdiv : (Int64.ofNat cnt.toNat).toInt = cnt.toNat := Int64.toInt_ofNat_of_lt (by omega)
  have hne : Int64.ofNat cnt.toNat ≠ -1 := by
    intro h
    rw [h] at hdiv
    have : (-1 : Int) = cnt.toNat := hdiv
    omega
  rw [Int64.toInt_div_of_ne_right _ _ hne, hsum, hdiv, hcnt, mean, List.length_map]

/-- The division of a 32-bit sum by the count. -/
theorem uint32_div_exact {rs : List DataRecord} {f : DataRecord → Int} {sum cnt : UInt32}
    (hsum : (sum.toNat : Int) = (rs.map f).sum) (hcnt : cnt.toNat = rs.length) :
    ((sum / cnt).toNat : Int) = mean (rs.map f) := by
  rw [UInt32.toNat_div, Int.ofNat_tdiv, hsum, hcnt, mean, List.length_map]

theorem average_exact {rs : List DataRecord} (hne : rs ≠ []) (hlen : rs.length ≤ 2000)
    (bucketTs : UInt32) : ((sumsOf rs).average bucketTs).Exact rs := by
  obtain ⟨htemp, hhum, heco2, htvoc, haqi, hcnt⟩ := sumsOf_exact hlen
  refine ⟨?_, isMean_of_eq hne ?_, isMean_of_eq hne ?_, isMean_of_eq hne ?_,
    isMean_of_eq hne ?_, isMean_of_eq hne ?_⟩
  · rw [BucketSums.average, UInt32.toNat_toUInt16, hcnt, Nat.mod_eq_of_lt (by omega)]
  · obtain ⟨h1, h2⟩ := mean_between hne tempOf_between
    rw [BucketSums.average, Int64.toInt_toInt16, int64_div_exact htemp hcnt,
      Int.bmod_eq_of_le (by omega) (by omega)]
  · obtain ⟨h1, h2⟩ := mean_between hne humOf_between
    rw [BucketSums.average, int64_div_exact hhum hcnt, UInt16.ofInt, UInt16.toNat_ofNat']
    omega
  · obtain ⟨h1, h2⟩ := mean_between hne eco2Of_between
    rw [← uint32_div_exact heco2 hcnt] at h2 ⊢
    rw [BucketSums.average, UInt32.toNat_toUInt16]
    omega
  · obtain ⟨h1, h2⟩ := mean_between hne tvocOf_between
    rw [← uint32_div_exact htvoc hcnt] at h2 ⊢
    rw [BucketSums.average, UInt32.toNat_toUInt16]
    omega
  · obtain ⟨h1, h2⟩ := mean_between hne aqiOf_between
    rw [← uint32_div_exact haqi hcnt] at h2 ⊢
    rw [BucketSums.average, UInt32.toNat_toUInt8]
    omega

/-! ## The outer loop -/

theorem bucket_eq (bucketSec : UInt32) (rec : DataRecord) :
    rec.bucket bucketSec = rec.timestamp.toNat / bucketSec.toNat * bucketSec.toNat := by
  have := Nat.div_mul_le_self rec.timestamp.toNat bucketSec.toNat
  have := rec.timestamp.toNat_lt
  rw [DataRecord.bucket, bucketStart, UInt32.toNat_mul, UInt32.toNat_div,
    Nat.mod_eq_of_lt (by omega)]

theorem bucket_mono {bucketSec : UInt32} {a b : DataRecord} (h : a.timestamp ≤ b.timestamp) :
    a.bucket bucketSec ≤ b.bucket bucketSec := by
  rw [bucket_eq, bucket_eq]
  exact Nat.mul_le_mul_right _ (Nat.div_le_div_right (UInt32.le_iff_toNat_le.mp h))

/-- A record lies in its bucket. -/
theorem bucket_le_time {bucketSec : UInt32} (hb : 1 ≤ bucketSec) (rec : DataRecord) :
    rec.bucket bucketSec ≤ rec.time ∧ rec.time < rec.bucket bucketSec + bucketSec.toNat := by
  have hpos : 0 < bucketSec.toNat := UInt32.le_iff_toNat_le.mp hb
  have hdiv := Nat.div_add_mod rec.timestamp.toNat bucketSec.toNat
  have hmod := Nat.mod_lt rec.timestamp.toNat hpos
  rw [Nat.mul_comm] at hdiv
  rw [bucket_eq, DataRecord.time]
  omega

/-- The bucket of a record that is there is not empty. -/
theorem cnt_group_pos {bucketSec : UInt32} {raw : List DataRecord} (hlen : raw.length ≤ 2000)
    {x : DataRecord} (hx : x ∈ raw) :
    (sumsOf (group (DataRecord.bucket bucketSec) raw (x.bucket bucketSec))).cnt > 0 := by
  have hpos : 0 < (group (DataRecord.bucket bucketSec) raw (x.bucket bucketSec)).length :=
    List.length_pos_iff.mpr (group_ne_nil.mpr (mem_keys.mpr ⟨x, hx, rfl⟩))
  have hle : (group (DataRecord.bucket bucketSec) raw (x.bucket bucketSec)).length ≤ 2000 :=
    (List.length_filter_le _ _).trans hlen
  rw [gt_iff_lt, UInt32.lt_iff_toNat_lt, (sumsOf_exact hle).cnt]
  exact hpos

/-- The buckets of sorted records: their groups by start, in order, as many as fit. -/
theorem aggregateLoop_eq (bucketSec : UInt32) {capacity : Int32} {fuel : Nat} {n : Int32}
    {raw : List DataRecord} (hsorted : raw.Pairwise fun a b => a.timestamp ≤ b.timestamp)
    (hfuel : raw.length ≤ fuel) (hn : 0 ≤ n.toInt) (hlen : n.toInt + raw.length ≤ 2000) :
    aggregateLoop bucketSec capacity fuel n raw =
      some (((keys (DataRecord.bucket bucketSec) raw).take (capacity.toInt - n.toInt).toNat).map
        fun k =>
          (sumsOf (group (DataRecord.bucket bucketSec) raw k)).average (UInt32.ofNat k)) := by
  induction fuel generalizing n raw with
  | zero =>
    obtain rfl : raw = [] := List.length_eq_zero_iff.mp (by omega)
    rw [keys_nil, List.take_nil]
    rfl
  | succ fuel ih =>
    cases raw with
    | nil =>
      rw [keys_nil, List.take_nil]
      rfl
    | cons x raw =>
      have hkey : (x :: raw).Pairwise fun a b => a.bucket bucketSec ≤ b.bucket bucketSec :=
        hsorted.imp bucket_mono
      rw [aggregateLoop]
      by_cases hlt : n < capacity
      · -- the inner loop takes the group of the first record and leaves the other groups
        have hloop := bucketLoop_eq bucketSec x {} (x :: raw)
        rw [takeWhile_eq_group hkey] at hloop
        have hkeys := keys_cons hkey
        have hrest : ∀ {k}, x.bucket bucketSec < k → group (DataRecord.bucket bucketSec)
            ((x :: raw).dropWhile fun a => a.bucket bucketSec = x.bucket bucketSec) k =
              group (DataRecord.bucket bucketSec) (x :: raw) k := fun hk => group_dropWhile hk
        have hlater : ∀ y ∈ (x :: raw).dropWhile fun a => a.bucket bucketSec = x.bucket bucketSec,
            x.bucket bucketSec < y.bucket bucketSec := fun y hy => lt_of_mem_dropWhile hkey hy
        have hshort : ((x :: raw).dropWhile fun a => a.bucket bucketSec =
            x.bucket bucketSec).length ≤ raw.length := by
          rw [List.dropWhile_cons, if_pos (decide_eq_true rfl)]
          exact (List.dropWhile_sublist _).length_le
        have hsub := hsorted.sublist (List.dropWhile_sublist
          (fun a => decide (a.bucket bucketSec = x.bucket bucketSec)))
        generalize (x :: raw).dropWhile
          (fun a => decide (a.bucket bucketSec = x.bucket bucketSec)) = rest at *
        have hcnt : (sumsOf (group (DataRecord.bucket bucketSec) (x :: raw)
            (x.bucket bucketSec))).cnt > 0 := cnt_group_pos (by omega) List.mem_cons_self
        rw [List.length_cons] at hfuel hlen
        have hsucc : (n + 1).toInt = n.toInt + 1 := by
          rw [Int32.toInt_add, Int32.toInt_one, Int.bmod_eq_of_le (by omega) (by omega)]
        have hcap : (capacity.toInt - n.toInt).toNat =
            (capacity.toInt - (n + 1).toInt).toNat + 1 := by
          rw [Int32.lt_iff_toInt_lt] at hlt
          omega
        rw [if_pos hlt]
        dsimp only
        rw [hloop]
        dsimp only
        rw [← sumsOf, if_pos hcnt, ih hsub (by omega) (by omega) (by omega), Option.map_some, hkeys,
          hcap, List.take_succ_cons, List.map_cons]
        congr 2
        · exact congrArg _ (UInt32.ofNat_toNat ..).symm
        · refine List.map_congr_left fun k hk => ?_
          obtain ⟨y, hy, rfl⟩ := mem_keys.mp (List.mem_of_mem_take hk)
          rw [hrest (hlater y hy)]
      · rw [if_neg hlt]
        rw [Int32.lt_iff_toInt_lt] at hlt
        rw [show (capacity.toInt - n.toInt).toNat = 0 by omega, List.take_zero, List.map_nil]

/-! ## The group-by -/

/-- `out` is the group-by of the records `raw`, cut to `capacity` buckets. -/
structure Aggregates (raw : List DataRecord) (bucketSec : UInt32) (capacity : Nat)
    (out : List DataAggregated) : Prop where
  starts : out.map (fun a => a.timestamp.toNat) =
    (keys (DataRecord.bucket bucketSec) raw).take capacity
  increasing : out.Pairwise fun a b => a.timestamp < b.timestamp
  within : ∀ a ∈ out, ∀ rec ∈ group (DataRecord.bucket bucketSec) raw a.timestamp.toNat,
    a.timestamp.toNat ≤ rec.time ∧ rec.time < a.timestamp.toNat + bucketSec.toNat
  sums : ∀ a ∈ out, (sumsOf (group (DataRecord.bucket bucketSec) raw a.timestamp.toNat)).Exact
    (group (DataRecord.bucket bucketSec) raw a.timestamp.toNat)
  averages : ∀ a ∈ out, a.Exact (group (DataRecord.bucket bucketSec) raw a.timestamp.toNat)
  total : (keys (DataRecord.bucket bucketSec) raw).length ≤ capacity →
    (out.map fun a => a.count.toNat).sum = raw.length

theorem aggregates_groups {raw : List DataRecord} (hlen : raw.length ≤ 2000) {bucketSec : UInt32}
    (hb : 1 ≤ bucketSec) (capacity : Nat) :
    Aggregates raw bucketSec capacity
      (((keys (DataRecord.bucket bucketSec) raw).take capacity).map fun k =>
        (sumsOf (group (DataRecord.bucket bucketSec) raw k)).average (UInt32.ofNat k)) := by
  have hstart : ∀ k ∈ keys (DataRecord.bucket bucketSec) raw, (UInt32.ofNat k).toNat = k := by
    intro k hk
    obtain ⟨rec, -, rfl⟩ := mem_keys.mp hk
    exact congrArg UInt32.toNat (UInt32.ofNat_toNat ..)
  have hgroup : ∀ k, (group (DataRecord.bucket bucketSec) raw k).length ≤ 2000 :=
    fun k => (List.length_filter_le _ _).trans hlen
  have hout : ∀ {P : DataAggregated → Prop}, (∀ k ∈ keys (DataRecord.bucket bucketSec) raw,
      P ((sumsOf (group (DataRecord.bucket bucketSec) raw k)).average (UInt32.ofNat k))) →
      ∀ a ∈ ((keys (DataRecord.bucket bucketSec) raw).take capacity).map fun k =>
        (sumsOf (group (DataRecord.bucket bucketSec) raw k)).average (UInt32.ofNat k), P a := by
    intro P hP a ha
    obtain ⟨k, hk, rfl⟩ := List.mem_map.mp ha
    exact hP k (List.mem_of_mem_take hk)
  have hts : ∀ (s : BucketSums) (t : UInt32), (s.average t).timestamp = t := fun _ _ => rfl
  constructor
  · rw [List.map_map]
    conv_rhs => rw [← List.map_id (List.take _ _)]
    refine List.map_congr_left fun k hk => ?_
    exact hstart k (List.mem_of_mem_take hk)
  · rw [List.pairwise_map]
    refine ((pairwise_keys raw).sublist (List.take_sublist _ _)).imp_of_mem ?_
    intro k l hk hl hlt
    rw [hts, hts, UInt32.lt_iff_toNat_lt, hstart k (List.mem_of_mem_take hk),
      hstart l (List.mem_of_mem_take hl)]
    exact hlt
  · refine hout fun k hk rec hrec => ?_
    rw [hts, hstart k hk] at hrec ⊢
    exact (mem_group.mp hrec).2 ▸ bucket_le_time hb rec
  · exact hout fun k _ => sumsOf_exact (hgroup _)
  · refine hout fun k hk => ?_
    rw [hts, hstart k hk]
    exact average_exact (group_ne_nil.mpr hk) (hgroup k) _
  · intro hcap
    rw [List.take_of_length_le hcap, List.map_map,
      ← sum_length_group (DataRecord.bucket bucketSec) raw]
    congr 1
    refine List.map_congr_left fun k hk => ?_
    exact (average_exact (group_ne_nil.mpr hk) (hgroup k) _).count

theorem aggregates_nil_iff {raw : List DataRecord} {bucketSec : UInt32} (hb : 1 ≤ bucketSec)
    {capacity : Nat} (hc : 0 < capacity) : Aggregates raw bucketSec capacity [] ↔ raw = [] := by
  constructor
  · intro ha
    have hstarts := ha.starts.symm
    rw [List.map_nil, List.take_eq_nil_iff, or_iff_right hc.ne'] at hstarts
    by_contra hne
    obtain ⟨rec, hrec⟩ := List.exists_mem_of_ne_nil _ hne
    have hmem : rec.bucket bucketSec ∈ keys (DataRecord.bucket bucketSec) raw :=
      mem_keys.mpr ⟨rec, hrec, rfl⟩
    rw [hstarts] at hmem
    cases hmem
  · rintro rfl
    have hempty := @aggregates_groups [] (Nat.zero_le _) bucketSec hb capacity
    rw [keys_nil, List.take_nil, List.map_nil] at hempty
    exact hempty

/-- What is returned for any capacity: the buckets that `(int)capacity` admits. -/
theorem readAggregated_eq {g : UInt32} (hg : Fits g) {fs : Fs} {id : Id}
    {recs : List DataRecord} (h : HoldsSeq g fs id recs)
    (hsorted : recs.Pairwise fun a b => a.timestamp ≤ b.timestamp) (sinceTs : UInt32)
    {bucketSec capacity : UInt32} (hb : 1 ≤ bucketSec) (hc : 1 ≤ capacity) {fuel : Nat}
    (hfuel : 2000 ≤ fuel) :
    let raw := (recs.filter fun rec => sinceTs ≤ rec.timestamp).take 2000
    dataStoreReadAggregated fuel false fs id sinceTs bucketSec capacity =
      some (((keys (DataRecord.bucket bucketSec) raw).take capacity.toInt32.toInt.toNat).map
        fun k => (sumsOf (group (DataRecord.bucket bucketSec) raw k)).average
          (UInt32.ofNat k)) := by
  intro raw
  have hsearch : recs.length < 2 ^ fuel := by
    have := h.length_le
    have := hg.bytes
    exact lt_of_lt_of_le (by omega) (Nat.pow_le_pow_right (by decide) (by omega : 31 ≤ fuel))
  have hrawLen : raw.length ≤ 2000 := List.length_take_le _ _
  have hrawSorted : raw.Pairwise fun a b => a.timestamp ≤ b.timestamp :=
    hsorted.sublist ((List.take_sublist _ _).trans List.filter_sublist)
  have hguard : ¬(decide (capacity = 0) || decide (bucketSec = 0)) = true := by
    rw [Bool.or_eq_true, decide_eq_true_eq, decide_eq_true_eq]
    rintro (rfl | rfl)
    · exact absurd hc (by decide)
    · exact absurd hb (by decide)
  obtain ⟨probes, hread, -⟩ := h.readSince_eq hg hsorted sinceTs maxRaw hsearch
  have hloop := @aggregateLoop_eq bucketSec capacity.toInt32 fuel 0 raw hrawSorted
    (hrawLen.trans hfuel) le_rfl (by rw [Int32.toInt_zero]; omega)
  unfold dataStoreReadAggregated
  rw [if_neg hguard, if_neg Bool.false_ne_true, hread, Option.bind_some]
  dsimp only
  change (if raw.length = 0 then some [] else aggregateLoop bucketSec capacity.toInt32 fuel 0 raw)
    = _
  rw [hloop, Int32.toInt_zero, Int.sub_zero]
  split
  case isTrue hempty => rw [List.length_eq_zero_iff.mp hempty, keys_nil, List.take_nil]; rfl
  case isFalse => rfl

/-- **Aggregation is a group-by.** For every client file whose records are sorted by timestamp,
    the first 2000 records since a time are returned by buckets, correctly unless the capacity
    is 2^31 or more and there is such a record: `(int)capacity` is negative then. -/
theorem aggregation_correct_iff {total g : UInt32} (hinit : dataStoreInit total = some g)
    (hpos : 0 < g) {fs : Fs} {id : Id} {recs : List DataRecord} (h : HoldsSeq g fs id recs)
    (hsorted : recs.Pairwise fun a b => a.timestamp ≤ b.timestamp) (sinceTs : UInt32)
    {bucketSec capacity : UInt32} (hb : 1 ≤ bucketSec) (hc : 1 ≤ capacity) {fuel : Nat}
    (hfuel : 2000 ≤ fuel) :
    let raw := (recs.filter fun rec => sinceTs ≤ rec.timestamp).take 2000
    ∃ out, dataStoreReadAggregated fuel false fs id sinceTs bucketSec capacity = some out ∧
      (Aggregates raw bucketSec capacity.toNat out ↔
        capacity.toNat < 2 ^ 31 ∨ ∀ rec ∈ recs, rec.timestamp < sinceTs) := by
  intro raw
  have hrawLen : raw.length ≤ 2000 := List.length_take_le _ _
  have hrawNil : raw = [] ↔ ∀ rec ∈ recs, rec.timestamp < sinceTs := by
    rw [List.take_eq_nil_iff, or_iff_right (by decide), List.filter_eq_nil_iff]
    simp
  have hcpos : 0 < capacity.toNat := UInt32.le_iff_toNat_le.mp hc
  have hcast : capacity.toInt32.toInt = (capacity.toNat : Int).bmod (2 ^ 32) := by
    rw [Int32.toInt, UInt32.toBitVec_toInt32, BitVec.toInt_eq_toNat_bmod, UInt32.toNat_toBitVec]
  have hlt := capacity.toNat_lt
  have hread := readAggregated_eq (dataStoreInit_room hinit hpos).1 h hsorted sinceTs hb hc hfuel
  refine ⟨_, hread, ?_⟩
  by_cases hsmall : capacity.toNat < 2 ^ 31
  · refine iff_of_true ?_ (Or.inl hsmall)
    rw [hcast, Int.bmod_eq_of_le (by omega) (by omega), Int.toNat_natCast]
    exact aggregates_groups hrawLen hb capacity.toNat
  · have hneg : capacity.toInt32.toInt.toNat = 0 := by
      rw [hcast, Int.toNat_eq_zero, Int.bmod_def]
      omega
    rw [hneg, List.take_zero, List.map_nil, or_iff_right hsmall, ← hrawNil]
    exact aggregates_nil_iff hb hcpos

/-- Three records since the time 70 in two buckets of a minute. -/
theorem aggregation_correct_minutes :
    ∃ out, dataStoreReadAggregated 2000 false minutesFs clientA 70 60 10 = some out ∧
      Aggregates (minutesLog.drop 1) 60 10 out := by
  obtain ⟨out, hout, hiff⟩ := aggregation_correct_iff (by decide : dataStoreInit 34640 = some 4)
    (by decide) minutesFs_holds (by decide) 70 (by decide : 1 ≤ (60 : UInt32))
    (by decide : 1 ≤ (10 : UInt32)) (le_refl 2000)
  exact ⟨out, hout, hiff.mpr (Or.inl (by decide))⟩

/-- With a capacity of 2^31 no bucket is returned. -/
theorem aggregation_capacity_wraps :
    dataStoreReadAggregated 2000 false hundredFs clientA 50 60 2147483648 = some [] ∧
      ¬Aggregates [hundred] 60 2147483648 [] := by
  refine ⟨by decide +kernel, fun h => ?_⟩
  have htotal := h.total (by
    rw [keys_cons (List.pairwise_singleton _ _)]
    decide +kernel)
  exact absurd htotal (by decide)

end IndoorLogger
