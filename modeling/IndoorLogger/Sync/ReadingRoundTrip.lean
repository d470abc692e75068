import IndoorLogger.Server.Upload
import IndoorLogger.Sync.UploadBody

/-
  A reading from the sensor to the texts the server prints. The number denoted is the one
  measured, up to the tenths and the whole percents that the upload carries, except for a
  temperature between -1 and -0.1 degrees: its integer part is printed as 0 and the sign is
  lost (`reading_round_trip_iff`).
-/

namespace IndoorLogger

open Decimal Json Machine

/-! ## What the texts denote -/

/-- The tenths of a degree that an uploaded temperature denotes. -/
def printedTenths (temperature : ℚ) : ℤ :=
  let k := Binary64.truncate (temperature * 10)
  if -10 < k ∧ k < 0 then -k else k

theorem tempNumber_eq (temperature : ℚ) :
    tempNumber temperature = printedTenths temperature / 10 := by
  rw [printedTenths]
  set k := Binary64.truncate (temperature * 10) with hk
  have hint : Binary64.truncate temperature = k.tdiv (10 : ℕ) := by
    rw [← Binary64.truncate_div_natCast _ (by decide), Nat.cast_ofNat,
      mul_div_cancel_right₀ _ (by norm_num)]
  have hlen : (formatNat (k.natAbs % 10)).length = 1 :=
    length_formatNat_of_lt_ten (Nat.mod_lt _ (by decide))
  have hsplit := pointNumber_split k (formatNat (k.natAbs % 10)) (by
    rw [value_formatNat, hlen, pow_one])
  rw [hlen, pow_one, Nat.cast_ofNat] at hsplit
  rw [tempNumber, tenths_eq, formatInt_natCast, ← hk, hint]
  exact hsplit

theorem csvTemp_eq (x100 : Int16) :
    csvTemp x100 =
      formatInt (x100.toInt.tdiv 100) ++ 46 :: formatNat2 (x100.toInt.natAbs % 100) := by
  have h : (if x100.toInt.tmod 100 < 0 then -x100.toInt.tmod 100 else x100.toInt.tmod 100) =
      (x100.toInt.natAbs % 100 : ℕ) := abs_tmod _ 100
  rw [csvTemp, h, Int.toNat_natCast, List.append_assoc]
  rfl

/-- Both formatters of the server print the same. -/
theorem fmtTemp_eq_csvTemp (x100 : Int16) : fmtTemp x100 = csvTemp x100 := by
  have hlt : x100 < 0 ↔ x100.toInt < 0 := Int16.lt_iff_toInt_lt
  have hmod : ((x100.toInt.natAbs : ℤ).tmod 100).toNat = x100.toInt.natAbs % 100 := rfl
  rw [csvTemp_eq]
  unfold fmtTemp
  by_cases hneg : x100.toInt < 0
  · have hval : x100.toInt * -1 = (x100.toInt.natAbs : ℤ) := by omega
    have hneg' : -(x100.toInt.natAbs : ℤ) = x100.toInt := by omega
    simp only [if_pos (hlt.mpr hneg), hval, hneg', hmod]
    rw [if_pos (by decide), List.append_assoc]
    rfl
  · have hval : x100.toInt * 1 = x100.toInt := Int.mul_one _
    have habs : (x100.toInt.natAbs : ℤ) = x100.toInt := by omega
    simp only [if_neg (mt hlt.mp hneg), hval]
    rw [if_neg (by decide), List.append_assoc, ← hmod, habs]
    rfl

/-- A negative temperature above -1 denotes a positive number. -/
theorem reads_csvTemp (x100 : Int16) :
    Reads (csvTemp x100) (.num ((if -100 < x100.toInt ∧ x100.toInt < 0 then -x100.toInt
      else x100.toInt : ℤ) / 100)) := by
  have hlen : (formatNat2 (x100.toInt.natAbs % 100)).length = 2 :=
    length_formatNat2 (Nat.mod_lt _ (by decide))
  have hsplit := pointNumber_split x100.toInt (formatNat2 (x100.toInt.natAbs % 100)) (by
    rw [value_formatNat2, hlen]
    rfl)
  have hreads := reads_point (x100.toInt.tdiv 100) (formatNat2 (x100.toInt.natAbs % 100))
    isDigit_formatNat2 (List.ne_nil_of_length_pos (by rw [hlen]; decide))
  rw [hlen] at hsplit
  rw [csvTemp_eq]
  exact hsplit ▸ hreads

theorem reads_fmtHum (x100 : UInt16) : Reads (fmtHum x100) (.num (x100.toNat / 100)) := by
  have hlen : (formatNat2 (x100.toNat % 100)).length = 2 :=
    length_formatNat2 (Nat.mod_lt _ (by decide))
  have hsplit := pointNumber_split x100.toNat (formatNat2 (x100.toNat % 100)) (by
    rw [value_formatNat2, hlen]
    rfl)
  have hreads := reads_point (x100.toNat / 100 : ℕ) (formatNat2 (x100.toNat % 100))
    isDigit_formatNat2 (List.ne_nil_of_length_pos (by rw [hlen]; decide))
  rw [hlen, if_neg (by omega)] at hsplit
  unfold fmtHum
  rw [List.append_assoc, ← formatInt_natCast]
  exact hsplit ▸ hreads

/-! ## Tenths to hundredths -/

/-- The hundredths that the server makes of `m` tenths. -/
def hundredths (m : ℤ) : ℤ :=
  Binary64.truncate (Binary64.round (Binary64.round (m / 10) * 100))

theorem round_hundredths (m : ℤ) (hm : |m| ≤ 1500) :
    |Binary64.round (Binary64.round (m / 10) * 100) - 10 * m| < 1 := by
  have hm' : |(m : ℚ)| ≤ 1500 := by exact_mod_cast hm
  have htenth : |(m : ℚ) / 10| ≤ 150 := by
    rw [abs_div, abs_of_pos (show (0 : ℚ) < 10 by norm_num)]
    linarith
  have h1 := Binary64.round_error ((m : ℚ) / 10)
  generalize Binary64.round ((m : ℚ) / 10) = r at *
  have h2 := Binary64.round_error (r * 100)
  generalize Binary64.round (r * 100) = x at *
  have hsmall : |(m : ℚ) / 10| / 2 ^ 53 ≤ 1 / 1000 := by
    rw [div_le_iff₀ (by norm_num)]
    linarith
  have hr : |r * 100 - 10 * m| ≤ 1 / 10 := by
    rw [show r * 100 - 10 * (m : ℚ) = (r - m / 10) * 100 by ring, abs_mul,
      abs_of_pos (show (0 : ℚ) < 100 by norm_num)]
    linarith
  have hr' : |r * 100| ≤ 15001 := by
    rw [abs_le] at hr hm' ⊢
    constructor <;> linarith
  have hx : |r * 100| / 2 ^ 53 ≤ 1 / 10 := by
    rw [div_le_iff₀ (by norm_num)]
    linarith
  rw [abs_le] at hr
  rw [abs_lt]
  have hx' := abs_le.mp (h2.trans hx)
  constructor <;> linarith

/-- Whole degrees are exact. -/
theorem hundredths_whole (j : ℤ) (hj : |j| ≤ 1500) : hundredths (10 * j) = 100 * j := by
  have hdiv : ((10 * j : ℤ) : ℚ) / 10 = j := by
    push_cast
    ring
  have hmul : (j : ℚ) * 100 = ((100 * j : ℤ) : ℚ) := by
    push_cast
    ring
  have h100 : |100 * j| < 2 ^ 53 := by
    rw [abs_mul]
    norm_num
    omega
  unfold hundredths
  rw [hdiv, Binary64.round_intCast (by omega), hmul, Binary64.round_intCast h100,
    Binary64.truncate_intCast]

/-- The product of a rounded temperature with 100 may fall one short of the printed tenths. -/
theorem hundredths_near (m : ℤ) (hm : |m| ≤ 1500) :
    (0 ≤ m → 10 * m - 1 ≤ hundredths m ∧ hundredths m ≤ 10 * m) ∧
      (m ≤ 0 → 10 * m ≤ hundredths m ∧ hundredths m ≤ 10 * m + 1) := by
  by_cases h0 : m = 0
  · have hzero : hundredths m = 10 * m := by
      rw [h0]
      exact hundredths_whole 0 (by decide)
    rw [hzero]
    omega
  · have hx := abs_lt.mp (round_hundredths m hm)
    unfold hundredths
    generalize Binary64.round (Binary64.round ((m : ℚ) / 10) * 100) = x at *
    rcases Binary64.truncate_spec x with ⟨h1, h2, h3⟩ | ⟨h1, h2, h3⟩
    · have hlo : ((10 * m - 2 : ℤ) : ℚ) < Binary64.truncate x := by
        push_cast
        linarith
      have hhi : (Binary64.truncate x : ℚ) < ((10 * m + 1 : ℤ) : ℚ) := by
        push_cast
        linarith
      have hm0 : (-1 : ℚ) < ((10 * m : ℤ) : ℚ) := by
        push_cast
        linarith
      have hlo' : 10 * m - 2 < Binary64.truncate x := by exact_mod_cast hlo
      have hhi' : Binary64.truncate x < 10 * m + 1 := by exact_mod_cast hhi
      have hm0' : -1 < 10 * m := by exact_mod_cast hm0
      omega
    · have hlo : ((10 * m - 1 : ℤ) : ℚ) < Binary64.truncate x := by
        push_cast
        linarith
      have hhi : (Binary64.truncate x : ℚ) < ((10 * m + 2 : ℤ) : ℚ) := by
        push_cast
        linarith
      have hm0 : ((10 * m : ℤ) : ℚ) < 1 := by
        push_cast
        linarith
      have hlo' : 10 * m - 1 < Binary64.truncate x := by exact_mod_cast hlo
      have hhi' : Binary64.truncate x < 10 * m + 2 := by exact_mod_cast hhi
      have hm0' : 10 * m < 1 := by exact_mod_cast hm0
      omega

/-! ## Decoding -/

theorem truncate_valueDouble {n : ℤ} (h : |n| < 2 ^ 53) :
    Binary64.truncate (valueDouble n) = n := by
  unfold valueDouble
  rw [Binary64.round_intCast h, Binary64.truncate_intCast]

theorem toNat_ofInt16 {n : ℤ} (h0 : 0 ≤ n) (h : n < 2 ^ 16) : ((UInt16.ofInt n).toNat : ℤ) = n := by
  rw [UInt16.ofInt, UInt16.toNat_ofNat']
  omega

theorem ofInt16_valueDouble (w : UInt16) :
    UInt16.ofInt (Binary64.truncate (valueDouble (w.toNat : ℤ))) = w := by
  have hlt := w.toNat_lt
  rw [truncate_valueDouble (by rw [abs_lt]; omega)]
  apply UInt16.toNat_inj.mp
  exact_mod_cast toNat_ofInt16 (Int.natCast_nonneg _) (by omega)

theorem ofInt8_valueDouble (b : UInt8) :
    UInt8.ofInt (Binary64.truncate (valueDouble (b.toNat : ℤ))) = b := by
  have hlt := b.toNat_lt
  rw [truncate_valueDouble (by rw [abs_lt]; omega)]
  apply UInt8.toNat_inj.mp
  rw [UInt8.ofInt, UInt8.toNat_ofNat']
  omega

/-- What the server stores of a reading in range. -/
structure Decoded (rec : ClientRecord ℚ) (d : DataRecord) : Prop where
  timestamp : (d.timestamp.toNat : ℤ) = rec.timestamp.toInt
  temp : d.tempX100.toInt = hundredths (printedTenths rec.temperature)
  hum : (d.humX100.toNat : ℤ) = 100 * Binary64.truncate rec.humidity
  eco2 : d.eco2 = rec.eco2
  tvoc : d.tvoc = rec.tvoc
  aqi : d.aqi = rec.aqi

theorem printedTenths_abs_le {t : ℚ} (h : -50 ≤ t ∧ t < 150) : |printedTenths t| ≤ 1500 := by
  obtain ⟨h1, h2⟩ := Binary64.truncate_mem (q := t * 10) (a := -500) (b := 1500)
    (by push_cast; linarith [h.1]) (by push_cast; linarith [h.2]) (by decide) (by decide)
  rw [printedTenths, abs_le]
  split
  · omega
  · omega

theorem toInt_tempX100 (now : UInt32) (basicMode : Bool) {rec : ClientRecord ℚ}
    (h : -50 ≤ rec.temperature ∧ rec.temperature < 150) :
    (decodeReading now (readingJson basicMode rec)).tempX100.toInt =
      hundredths (printedTenths rec.temperature) := by
  have hfield : (decodeReading now (readingJson basicMode rec)).tempX100 =
      Int16.ofInt (Binary64.truncate
        (Binary64.round (Binary64.round (tempNumber rec.temperature) * 100))) := by
    cases basicMode <;> rfl
  have hm := printedTenths_abs_le h
  have hnear := hundredths_near _ hm
  rw [hfield, tempNumber_eq, ← hundredths, Int16.toInt_ofInt]
  rw [abs_le] at hm
  have hsize : Int16.size = 65536 := rfl
  exact Int.bmod_eq_of_le_mul_two (by omega) (by omega)

/-- Whole percents are exact. -/
theorem round_percent {q : ℤ} (h0 : 0 ≤ q) (h : q < 100) :
    Binary64.round (valueDouble q * 100) = ((100 * q : ℤ) : ℚ) := by
  have hmul : (q : ℚ) * 100 = ((100 * q : ℤ) : ℚ) := by
    push_cast
    ring
  rw [valueDouble, Binary64.round_intCast (by rw [abs_lt]; omega), hmul,
    Binary64.round_intCast (by rw [abs_lt]; omega)]

theorem toNat_humX100 (now : UInt32) (basicMode : Bool) {rec : ClientRecord ℚ}
    (h0 : 0 ≤ Binary64.truncate rec.humidity) (h : Binary64.truncate rec.humidity < 100) :
    ((decodeReading now (readingJson basicMode rec)).humX100.toNat : ℤ) =
      100 * Binary64.truncate rec.humidity := by
  have hfield : (decodeReading now (readingJson basicMode rec)).humX100 =
      UInt16.ofInt (Binary64.truncate (Binary64.round
        (valueDouble (Binary64.truncate rec.humidity) * 100))) := by
    cases basicMode <;> rfl
  rw [hfield, round_percent h0 h, Binary64.truncate_intCast]
  exact toNat_ofInt16 (by omega) (by omega)

theorem decoded_readingJson (now : UInt32) {rec : ClientRecord ℚ} (h : InRange rec) :
    Decoded rec (decodeReading now (readingJson false rec)) where
  timestamp := by
    have hlt := rec.timestamp.toInt_lt
    have hts := h.timestamp
    have hvalue : Binary64.truncate (valueDouble rec.timestamp.toInt) = rec.timestamp.toInt :=
      truncate_valueDouble (by rw [abs_lt]; omega)
    have hnat : (UInt32.ofInt rec.timestamp.toInt).toNat = rec.timestamp.toInt.toNat := by
      rw [UInt32.ofInt, UInt32.toNat_ofNat']
      omega
    have hgt : UInt32.ofInt rec.timestamp.toInt > earliestClientTs := by
      rw [gt_iff_lt, UInt32.lt_iff_toNat_lt, hnat,
        show earliestClientTs.toNat = 1577836800 from rfl]
      omega
    have hfield : (decodeReading now (readingJson false rec)).timestamp =
        if UInt32.ofInt (Binary64.truncate (valueDouble rec.timestamp.toInt)) > earliestClientTs
        then UInt32.ofInt (Binary64.truncate (valueDouble rec.timestamp.toInt)) else now := rfl
    rw [hfield, hvalue, if_pos hgt, hnat]
    omega
  temp := toInt_tempX100 now false h.temperature
  hum := toNat_humX100 now false h.sampled.truncate_humidity.1 h.sampled.truncate_humidity.2
  eco2 := ofInt16_valueDouble rec.eco2
  tvoc := ofInt16_valueDouble rec.tvoc
  aqi := ofInt8_valueDouble rec.aqi

/-! ## Closeness -/

/-- The number denoted by a printed temperature: a negative one above -1 loses its sign. -/
def printedTemp (x100 : ℤ) : ℚ := (if -100 < x100 ∧ x100 < 0 then -x100 else x100 : ℤ) / 100

/-- `p` is within 0.11 of `t`, and has its sign unless `t` is within 0.1 of zero. -/
structure CloseTemp (t p : ℚ) : Prop where
  near : |p - t| ≤ 11 / 100
  pos : 1 / 10 ≤ |t| → (0 < p ↔ 0 < t)
  neg : 1 / 10 ≤ |t| → (p < 0 ↔ t < 0)

/-- The band of temperatures that are printed without their sign. -/
def LosesSign (t : ℚ) : Prop := -1 < t ∧ t ≤ -1 / 10

theorem losesSign_iff (t : ℚ) :
    LosesSign t ↔ -10 < Binary64.truncate (t * 10) ∧ Binary64.truncate (t * 10) < 0 := by
  have hspec := Binary64.truncate_spec (t * 10)
  generalize Binary64.truncate (t * 10) = k at *
  constructor
  · intro h'
    obtain ⟨hlo, hhi⟩ := h'
    constructor
    · by_contra hk
      have hk' : (k : ℚ) ≤ (-10 : ℤ) := Int.cast_le.mpr (not_lt.mp hk)
      push_cast at hk'
      rcases hspec with ⟨h1, h2, h3⟩ | ⟨h1, h2, h3⟩
      · linarith
      · linarith
    · by_contra hk
      have hk' : ((0 : ℤ) : ℚ) ≤ k := Int.cast_le.mpr (not_lt.mp hk)
      push_cast at hk'
      rcases hspec with ⟨h1, h2, h3⟩ | ⟨h1, h2, h3⟩
      · linarith
      · linarith
  · intro h
    obtain ⟨hlo, hhi⟩ := h
    have hlo' : ((-9 : ℤ) : ℚ) ≤ k := Int.cast_le.mpr (by omega)
    have hhi' : (k : ℚ) ≤ (-1 : ℤ) := Int.cast_le.mpr (by omega)
    push_cast at hlo' hhi'
    rcases hspec with ⟨h1, h2, h3⟩ | ⟨h1, h2, h3⟩
    · linarith
    · constructor <;> linarith

/-- The hundredths printed for `k` tenths, outside the band. -/
theorem printedTemp_hundredths {k : ℤ} (hk : |k| ≤ 1500) (h : 0 ≤ k ∨ k ≤ -10) :
    printedTemp (hundredths k) = hundredths k / 100 := by
  have hnear := hundredths_near k hk
  have hten : hundredths (-10) = -100 := by simpa using hundredths_whole (-1) (by decide)
  have hx : ¬(-100 < hundredths k ∧ hundredths k < 0) := by
    rcases h with h | h
    · by_cases h0 : k = 0
      · omega
      · omega
    · by_cases h10 : k = -10
      · rw [h10]
        omega
      · omega
  unfold printedTemp
  rw [if_neg hx]

theorem closeTemp_of_nonneg {t : ℚ} {k x : ℤ} (hk : 0 ≤ k) (hlo : (k : ℚ) - 1 < t * 10)
    (hhi : t * 10 < k + 1) (h0 : 0 < k → (k : ℚ) ≤ t * 10) (hx : k * 10 - 1 ≤ x ∧ x ≤ k * 10)
    (hx0 : k = 0 → x = 0) : CloseTemp t (x / 100) := by
  rcases eq_or_lt_of_le hk with rfl | hpos
  · have hzero : x = 0 := hx0 rfl
    have hsmall : |t| < 1 / 10 := by
      rw [abs_lt]
      push_cast at hlo hhi
      constructor <;> linarith
    rw [hzero, Int.cast_zero, zero_div]
    refine ⟨?_, fun h => absurd hsmall (not_lt.mpr h), fun h => absurd hsmall (not_lt.mpr h)⟩
    rw [zero_sub, abs_neg]
    linarith
  · have hk1 : ((1 : ℤ) : ℚ) ≤ k := Int.cast_le.mpr hpos
    have hx1 : ((k * 10 - 1 : ℤ) : ℚ) ≤ x := Int.cast_le.mpr hx.1
    have hx2 : (x : ℚ) ≤ (k * 10 : ℤ) := Int.cast_le.mpr hx.2
    have hkt := h0 hpos
    push_cast at hk1 hx1 hx2
    refine ⟨?_, fun _ => ?_, fun _ => ?_⟩
    · rw [abs_le]
      constructor <;> linarith
    · exact iff_of_true (by linarith) (by linarith)
    · exact iff_of_false (by linarith) (by linarith)

theorem CloseTemp.of_neg {t p : ℚ} (h : CloseTemp (-t) (-p)) : CloseTemp t p where
  near := by
    have := h.near
    rwa [← abs_neg, show -(-p - -t) = p - t by ring] at this
  pos ht := by
    have := h.neg (by rwa [abs_neg])
    rwa [neg_lt_zero, neg_lt_zero] at this
  neg ht := by
    have := h.pos (by rwa [abs_neg])
    rwa [neg_pos, neg_pos] at this

/-- A printed temperature is close to the one measured exactly outside the band. -/
theorem closeTemp_iff {t : ℚ} (ht : |printedTenths t| ≤ 1500) :
    CloseTemp t (printedTemp (hundredths (printedTenths t))) ↔ ¬LosesSign t := by
  have hnear := hundredths_near _ ht
  have hspec := Binary64.truncate_spec (t * 10)
  rw [losesSign_iff]
  unfold printedTenths at *
  generalize Binary64.truncate (t * 10) = k at *
  by_cases hband : -10 < k ∧ k < 0
  · -- the tenths are printed as a positive number
    rw [if_pos hband] at ht hnear ⊢
    have hk : (k : ℚ) ≤ (-1 : ℤ) := Int.cast_le.mpr (by omega)
    have hx : (0 : ℚ) < hundredths (-k) := Int.cast_pos.mpr (by omega)
    push_cast at hk
    rcases hspec with ⟨h1, h2, h3⟩ | ⟨h1, h2, h3⟩
    · linarith
    · refine iff_of_false (fun hc => ?_) (not_not_intro hband)
      have habs : 1 / 10 ≤ |t| := by
        rw [abs_of_neg (by linarith)]
        linarith
      have hneg := (hc.neg habs).mpr (by linarith)
      rw [printedTemp_hundredths ht (by omega)] at hneg
      linarith
  · rw [if_neg hband] at ht hnear ⊢
    have hten : k = 0 → hundredths k = 0 := fun h => by omega
    refine iff_of_true ?_ hband
    rw [printedTemp_hundredths ht (by omega)]
    generalize hundredths k = x at *
    rcases lt_or_ge k 0 with hk | hk
    · have hk' : (k : ℚ) ≤ (-1 : ℤ) := Int.cast_le.mpr (by omega)
      push_cast at hk'
      rcases hspec with ⟨h1, h2, h3⟩ | ⟨h1, h2, h3⟩
      · linarith
      · apply CloseTemp.of_neg
        have hneg := closeTemp_of_nonneg (t := -t) (k := -k) (x := -x) (by omega)
          (by push_cast; linarith) (by push_cast; linarith) (fun _ => by push_cast; linarith)
          (by omega) (by omega)
        rwa [Int.cast_neg, neg_div] at hneg
    · rcases hspec with ⟨h1, h2, h3⟩ | ⟨h1, h2, h3⟩
      · exact closeTemp_of_nonneg hk (by linarith) h3 (fun _ => h2) (by omega) hten
      · have hk0 : k ≤ 0 := by
          have : (k : ℚ) < (1 : ℤ) := by push_cast; linarith
          have := Int.cast_lt.mp this
          omega
        obtain rfl : k = 0 := by omega
        exact closeTemp_of_nonneg le_rfl (by linarith) (by push_cast at *; linarith)
          (fun h => absurd h (lt_irrefl _)) (by omega) hten

/-! ## Printed readings -/

/-- The numbers of a printed reading. -/
structure PrintedReading where
  timestamp : ℚ
  temp : ℚ
  hum : ℚ
  eco2 : ℚ
  tvoc : ℚ
  aqi : ℚ
  deriving DecidableEq

/-- What a record of the JSON API denotes. -/
def jsonReading (t : List UInt8) : Option PrintedReading := do
  let item ← Json.parse t
  let number (name : String) : Option ℚ := (item.getObjectItem name).bind Json.number?
  some ⟨← number "timestamp", ← number "temp", ← number "hum", ← number "eco2", ← number "tvoc",
    ← number "aqi"⟩

/-- What a row of the CSV export denotes. -/
def csvReading (row : List (List UInt8)) : Option PrintedReading :=
  let number (t : List UInt8) : Option ℚ := (Json.parse t).bind Json.number?
  match row with
  | [_, timestamp, _, temp, hum, eco2, tvoc, aqi] => do
    some ⟨← number timestamp, ← number temp, ← number hum, ← number eco2, ← number tvoc,
      ← number aqi⟩
  | _ => none

/-- The reading as the client measured it, up to the tolerances. -/
structure RoundTrips (rec : ClientRecord ℚ) (p : PrintedReading) : Prop where
  timestamp : p.timestamp = rec.timestamp.toInt
  temp : CloseTemp rec.temperature p.temp
  hum : |p.hum - rec.humidity| ≤ 101 / 100
  eco2 : p.eco2 = rec.eco2.toNat
  tvoc : p.tvoc = rec.tvoc.toNat
  aqi : p.aqi = rec.aqi.toNat

/-- The JSON API and the CSV export print a stored record as the reading of the client. -/
def PrintsAs (cname : List UInt8) (datetime : UInt32 → List UInt8) (rec : ClientRecord ℚ)
    (d : DataRecord) : Prop :=
  ∃ p, jsonReading (recordJson d) = some p ∧ csvReading (csvRow cname datetime d) = some p ∧
    RoundTrips rec p

/-- What both texts of a stored record denote. -/
def DataRecord.printed (d : DataRecord) : PrintedReading where
  timestamp := d.timestamp.toNat
  temp := printedTemp d.tempX100.toInt
  hum := d.humX100.toNat / 100
  eco2 := d.eco2.toNat
  tvoc := d.tvoc.toNat
  aqi := d.aqi.toNat

theorem reads_recordJson (d : DataRecord) :
    Reads (recordJson d) (.obj [(ascii "timestamp", .num d.printed.timestamp),
      (ascii "temp", .num d.printed.temp), (ascii "hum", .num d.printed.hum),
      (ascii "eco2", .num d.printed.eco2), (ascii "tvoc", .num d.printed.tvoc),
      (ascii "aqi", .num d.printed.aqi)]) := by
  have htext : recordJson d = 123 :: (commaSep
      ([(ascii "timestamp", formatNat d.timestamp.toNat), (ascii "temp", fmtTemp d.tempX100),
        (ascii "hum", fmtHum d.humX100), (ascii "eco2", formatNat d.eco2.toNat),
        (ascii "tvoc", formatNat d.tvoc.toNat), (ascii "aqi", formatNat d.aqi.toNat)].map
          memberText) ++ [125]) := by
    unfold recordJson
    generalize fmtTemp d.tempX100 = temp
    generalize fmtHum d.humX100 = hum
    simp [commaSep, memberText, ascii]
  have htemp : Reads (fmtTemp d.tempX100) (.num d.printed.temp) :=
    fmtTemp_eq_csvTemp _ ▸ reads_csvTemp _
  rw [htext]
  exact reads_obj (readsMember rfl (reads_nat _)) (.cons (readsMember rfl htemp)
    (.cons (readsMember rfl (reads_fmtHum _)) (.cons (readsMember rfl (reads_nat _))
      (.cons (readsMember rfl (reads_nat _)) (.cons (readsMember rfl (reads_nat _)) .nil)))))

theorem jsonReading_recordJson (d : DataRecord) : jsonReading (recordJson d) = some d.printed := by
  unfold jsonReading
  rw [(reads_recordJson d).parse_eq]
  rfl

theorem csvReading_csvRow (cname : List UInt8) (datetime : UInt32 → List UInt8) (d : DataRecord) :
    csvReading (csvRow cname datetime d) = some d.printed := by
  have hnat : ∀ n : ℕ, (Json.parse (formatNat n)).bind Json.number? = some (n : ℚ) := fun n => by
    rw [(reads_nat n).parse_eq]
    rfl
  have htemp : (Json.parse (csvTemp d.tempX100)).bind Json.number? = some d.printed.temp := by
    rw [Reads.parse_eq (v := .num d.printed.temp) (reads_csvTemp _)]
    rfl
  have hhum : (Json.parse (fmtHum d.humX100)).bind Json.number? = some d.printed.hum := by
    rw [Reads.parse_eq (v := .num d.printed.hum) (reads_fmtHum _)]
    rfl
  unfold csvReading csvRow
  simp only [hnat, htemp, hhum]
  rfl

theorem printsAs_iff (cname : List UInt8) (datetime : UInt32 → List UInt8) {rec : ClientRecord ℚ}
    {d : DataRecord} (h : InRange rec) (hd : Decoded rec d) :
    PrintsAs cname datetime rec d ↔ ¬LosesSign rec.temperature := by
  have htemp : d.printed.temp = printedTemp (hundredths (printedTenths rec.temperature)) :=
    congrArg printedTemp hd.temp
  rw [← closeTemp_iff (printedTenths_abs_le h.temperature), ← htemp]
  constructor
  · intro h'
    obtain ⟨p, hp, -, hr⟩ := h'
    rw [jsonReading_recordJson] at hp
    obtain rfl := Option.some.inj hp
    exact hr.temp
  · intro hc
    refine ⟨d.printed, jsonReading_recordJson d, csvReading_csvRow cname datetime d, ?_⟩
    have hts : (d.timestamp.toNat : ℚ) = rec.timestamp.toInt := by
      rw [← hd.timestamp]
      rfl
    have hhum : (d.humX100.toNat : ℚ) = 100 * Binary64.truncate rec.humidity := by
      exact_mod_cast congrArg (Int.cast : ℤ → ℚ) hd.hum
    refine ⟨hts, hc, ?_, congrArg (fun w : UInt16 => (w.toNat : ℚ)) hd.eco2,
      congrArg (fun w : UInt16 => (w.toNat : ℚ)) hd.tvoc,
      congrArg (fun b : UInt8 => (b.toNat : ℚ)) hd.aqi⟩
    rcases Binary64.truncate_spec rec.humidity with ⟨h1, h2, h3⟩ | ⟨h1, h2, h3⟩
    · have hq : d.printed.hum = Binary64.truncate rec.humidity := by
        unfold DataRecord.printed
        rw [hhum]
        ring
      rw [hq, abs_le]
      constructor <;> linarith
    · exact absurd h.humidity.1 (not_le.mpr h1)

/-! ## Batches -/

theorem decodeItems_readings (clock : ℕ → UInt32) (i : ℕ) {records : List (ClientRecord ℚ)}
    (h : ∀ rec ∈ records, InRange rec) :
    List.Forall₂ Decoded records (decodeItems clock i (records.map (readingJson false))) := by
  induction records generalizing i with
  | nil => exact .nil
  | cons rec records ih =>
    have hobj : (readingJson false rec).isObject = true := rfl
    rw [List.map_cons, decodeItems, if_pos hobj]
    exact .cons (decoded_readingJson (clock i) (h rec List.mem_cons_self))
      (ih (i + 1) fun r hr => h r (List.mem_cons_of_mem _ hr))

theorem forall₂_printsAs_iff (cname : List UInt8) (datetime : UInt32 → List UInt8)
    {records : List (ClientRecord ℚ)} {ds : List DataRecord}
    (h : ∀ rec ∈ records, InRange rec) (hd : List.Forall₂ Decoded records ds) :
    List.Forall₂ (PrintsAs cname datetime) records ds ↔
      ∀ rec ∈ records, ¬LosesSign rec.temperature := by
  induction hd with
  | nil => exact iff_of_true .nil (fun rec hrec => absurd hrec (List.not_mem_nil))
  | cons hr _ ih =>
    rw [List.forall₂_cons, List.forall_mem_cons,
      printsAs_iff cname datetime (h _ List.mem_cons_self) hr,
      ih fun r hr => h r (List.mem_cons_of_mem _ hr)]

/-- **Numeric round trip.** A batch of full readings in the sensors' range is parsed by the
    upload handler; stored by its loop into the files of any reachable state, read back and
    printed, every reading denotes what was measured exactly when no temperature lies in the
    band whose sign the formatters lose. -/
theorem reading_round_trip_iff (cJSONParse : List UInt8 → Option Json)
    (hparse : ∀ t v, Json.parse t = some v → cJSONParse t = some v) (total gMax : UInt32)
    (hinit : dataStoreInit total = some gMax) (hpos : 0 < gMax) (rs : List Request)
    (clientId assignedName : CStr 32) (hid : Plain clientId.bytes)
    (hname : Plain assignedName.bytes) (id : ClientId) (clock : ℕ → UInt32)
    (records : List (ClientRecord ℚ)) (hrange : ∀ rec ∈ records, InRange rec)
    (hbatch : records.length ≤ uploadBatchSize) (hcap : records.length ≤ gMax.toNat)
    (cname : List UInt8) (datetime : UInt32 → List UInt8) :
    let s := final (serverStep cJSONParse gMax) bootState rs
    ∃ root, uploadRoot cJSONParse {} (uploadBody clientId assignedName false records) = .ok root ∧
      let fs := (storeReadings gMax (fun _ => {}) clock id 0 s.fs (uploadItems root)).1
      (List.Forall₂ (PrintsAs cname datetime) records ((readAll fs id).rtake records.length) ↔
        ∀ rec ∈ records, ¬LosesSign rec.temperature) := by
  intro s
  obtain ⟨hg, -⟩ := dataStoreInit_room hinit hpos
  obtain ⟨m, -, hh⟩ := reached cJSONParse hg rs
  have hbody := length_bodyText_le clientId assignedName false
    (fun rec h => (hrange rec h).sampled) hbatch
  refine ⟨_, parse_uploadBody hparse rfl rfl hid hname false hbody, ?_⟩
  intro fs
  have hdecoded := decodeItems_readings clock 0 hrange
  have hlen := hdecoded.length_eq
  have hstore := storeReadings_eq hg clock id 0 (records.map (readingJson false))
    (fun f h => hh (getFilepath id) f h)
  have hnew : Newest (appendAll gMax id s.fs
      (decodeItems clock 0 (records.map (readingJson false)))) id
      (decodeItems clock 0 (records.map (readingJson false))) :=
    newest_appendAll hg (fun f h => hh (getFilepath id) f h) (hlen ▸ hcap)
  have hfs : fs = appendAll gMax id s.fs
      (decodeItems clock 0 (records.map (readingJson false))) := congrArg Prod.fst hstore
  rw [Newest, ← hlen, ← hfs] at hnew
  rw [hnew]
  exact forall₂_printsAs_iff cname datetime hrange hdecoded

/-- A reading at the given temperature. -/
def readingAt (temperature : ℚ) : ClientRecord ℚ :=
  ⟨1700000000, 60, temperature, 81 / 2, 412, 15, 1, false⟩

theorem readingAt_inRange {t : ℚ} (h : -50 ≤ t ∧ t < 150) : InRange (readingAt t) where
  timestamp := (by decide : (1577836800 : ℤ) < (1700000000 : Int32).toInt)
  temperature := h
  humidity := by
    constructor
    · exact div_nonneg (by norm_num) (by norm_num)
    · exact (div_lt_iff₀ (by norm_num)).mpr (by norm_num)

/-- The id of a device. -/
def sevenId : ClientId := ⟨CStr.strncpy (ascii "7"), by decide⟩

/-- 23.5 degrees and 12.5 degrees below zero. -/
def warmAndCold : List (ClientRecord ℚ) := [readingAt (47 / 2), readingAt (-25 / 2)]

/-- Both are uploaded to a server after its first boot. -/
theorem reading_round_trip_iff_warm_cold :
    ∃ root, uploadRoot Json.parse {} (uploadBody sevenId (CStr.strncpy (ascii "attic")) false
      warmAndCold) = .ok root ∧
      List.Forall₂ (PrintsAs [] (fun _ => [])) warmAndCold
        ((readAll (storeReadings 4314 (fun _ => {}) (fun _ => 0) sevenId 0
          (final (serverStep Json.parse 4314) bootState []).fs (uploadItems root)).1
            sevenId).rtake 2) := by
  have hrange : ∀ rec ∈ warmAndCold, InRange rec := by
    intro rec hrec
    rcases List.mem_cons.mp hrec with rfl | hrec
    · exact readingAt_inRange (by constructor <;> norm_num)
    · obtain rfl := List.mem_singleton.mp hrec
      exact readingAt_inRange (by constructor <;> norm_num)
  have hkeeps : ∀ rec ∈ warmAndCold, ¬LosesSign rec.temperature := by
    intro rec hrec hloses
    rcases List.mem_cons.mp hrec with rfl | hrec
    · have hhi : (47 / 2 : ℚ) ≤ -1 / 10 := hloses.2
      norm_num at hhi
    · obtain rfl := List.mem_singleton.mp hrec
      have hlo : (-1 : ℚ) < -25 / 2 := hloses.1
      norm_num at hlo
  obtain ⟨root, hroot, hiff⟩ := reading_round_trip_iff Json.parse (fun _ _ h => h) 1000000 4314
    (by decide +kernel) (by decide) [] sevenId (CStr.strncpy (ascii "attic"))
    (by decide +kernel) (by decide +kernel) sevenId (fun _ => 0) warmAndCold hrange
    (by decide) (by decide) [] (fun _ => [])
  exact ⟨root, hroot, hiff.mpr hkeeps⟩

/-- Half a degree below zero is stored as 0.50 and printed so. -/
theorem half_below_zero_loses_sign :
    let rec' := readingAt (-1 / 2)
    let d : DataRecord := ⟨1700000000, 50, 4000, 412, 15, 1, 0⟩
    InRange rec' ∧
      (∃ root, uploadRoot Json.parse {} (uploadBody sevenId (CStr.strncpy (ascii "attic")) false
        [rec']) = .ok root ∧
        readAll (storeReadings 4314 (fun _ => {}) (fun _ => 0) sevenId 0 bootState.fs
          (uploadItems root)).1 sevenId = [d]) ∧
      fmtTemp d.tempX100 = ascii "0.50" ∧ csvTemp d.tempX100 = ascii "0.50" ∧
      ¬PrintsAs [] (fun _ => []) rec' d := by
  intro rec' d
  have hrange : InRange rec' := readingAt_inRange (by constructor <;> norm_num)
  refine ⟨hrange, ⟨_, parse_uploadBody (fun _ _ h => h) rfl rfl (by decide +kernel)
    (by decide +kernel) false
    (length_bodyText_le _ _ false (List.forall_mem_singleton.mpr hrange.sampled) (by decide)), ?_⟩,
    by decide +kernel, by decide +kernel, ?_⟩
  · decide +kernel
  · intro h'
    obtain ⟨p, hp, -, hr⟩ := h'
    have hread : jsonReading (recordJson d) = some ⟨1700000000, 1 / 2, 40, 412, 15, 1⟩ := by
      decide +kernel
    rw [hread] at hp
    obtain rfl := Option.some.inj hp
    have habs : (1 / 10 : ℚ) ≤ |(-1 / 2 : ℚ)| := by norm_num
    have hpos : (0 : ℚ) < -1 / 2 := (hr.temp.pos habs).mp (by norm_num)
    norm_num at hpos

end IndoorLogger
