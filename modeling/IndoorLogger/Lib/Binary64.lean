import Mathlib.Algebra.Order.Floor.Ring
import Mathlib.Algebra.Order.Field.Power
import Mathlib.Data.Int.Log
import Mathlib.Data.Rat.Floor
import Mathlib.Tactic.Linarith
import Mathlib.Tactic.Positivity
import Mathlib.Tactic.FieldSimp

/-
  Rounding to a binary64 `double`: to nearest, ties to even, with a 53-bit significand. The
  exponent range is not limited; this matters only for numbers beyond 10^307 or below
  10^-307, which no program here computes with.
-/

namespace Binary64

/-- The nearest integer, the even one of two. -/
def roundHalfEven (q : ℚ) : ℤ :=
  let n := ⌊q⌋
  let r := q - n
  if r < 1 / 2 then n else if 1 / 2 < r then n + 1 else if n % 2 = 0 then n else n + 1

/-- The nearest `double`. -/
def round (q : ℚ) : ℚ :=
  if q = 0 then 0
  else
    let e := Int.log 2 |q| - 52
    roundHalfEven (q / 2 ^ e) * 2 ^ e

/-- The conversion of a `double` to an integer type drops the fraction. -/
def truncate (q : ℚ) : ℤ := if q < 0 then -⌊-q⌋ else ⌊q⌋

/-! ## Truncation -/

theorem truncate_nonneg {q : ℚ} {n : ℤ} (h : 0 ≤ q) (hn : (n : ℚ) ≤ q) (hq : q < n + 1) :
    truncate q = n := by
  unfold truncate
  rw [if_neg (not_lt.mpr h)]
  exact Int.floor_eq_iff.mpr ⟨hn, hq⟩

theorem truncate_neg {q : ℚ} {n : ℤ} (h : q < 0) (hn : q ≤ n) (hq : (n : ℚ) - 1 < q) :
    truncate q = n := by
  have hfloor : ⌊-q⌋ = -n := by
    rw [Int.floor_eq_iff, Int.cast_neg]
    exact ⟨by linarith, by linarith⟩
  unfold truncate
  rw [if_pos h, hfloor, neg_neg]

@[simp] theorem truncate_intCast (n : ℤ) : truncate n = n := by
  rcases lt_or_ge (n : ℚ) 0 with h | h
  · exact truncate_neg h le_rfl (by linarith)
  · exact truncate_nonneg h le_rfl (by linarith)

theorem truncate_div_natCast (q : ℚ) {n : ℕ} (hn : 0 < n) :
    truncate (q / n) = (truncate q).tdiv n := by
  have hn' : (0 : ℚ) < n := by exact_mod_cast hn
  unfold truncate
  rcases lt_or_ge q 0 with h | h
  · have hfloor : 0 ≤ ⌊-q⌋ := Int.floor_nonneg.mpr (by linarith)
    rw [if_pos (div_neg_of_neg_of_pos h hn'), if_pos h, ← neg_div, Int.floor_div_natCast,
      Int.neg_tdiv, Int.tdiv_eq_ediv_of_nonneg hfloor]
  · have hfloor : 0 ≤ ⌊q⌋ := Int.floor_nonneg.mpr h
    rw [if_neg (not_lt.mpr (div_nonneg h hn'.le)), if_neg (not_lt.mpr h), Int.floor_div_natCast,
      Int.tdiv_eq_ediv_of_nonneg hfloor]

theorem truncate_spec (q : ℚ) :
    0 ≤ q ∧ (truncate q : ℚ) ≤ q ∧ q < truncate q + 1 ∨
      q < 0 ∧ q ≤ truncate q ∧ (truncate q : ℚ) - 1 < q := by
  unfold truncate
  rcases lt_or_ge q 0 with h | h
  · rw [if_pos h, Int.cast_neg]
    exact Or.inr ⟨h, by linarith [Int.floor_le (-q)], by linarith [Int.lt_floor_add_one (-q)]⟩
  · rw [if_neg (not_lt.mpr h)]
    exact Or.inl ⟨h, Int.floor_le q, Int.lt_floor_add_one q⟩

/-- Truncation keeps a range that has zero in it. -/
theorem truncate_mem {q : ℚ} {a b : ℤ} (ha : (a : ℚ) ≤ q) (hb : q < b) (ha0 : a ≤ 0)
    (hb0 : 0 < b) : a ≤ truncate q ∧ truncate q < b := by
  have ha0' : (a : ℚ) ≤ 0 := by exact_mod_cast ha0
  rcases truncate_spec q with ⟨h, h1, h2⟩ | ⟨h, h1, h2⟩
  · have h3 : (-1 : ℚ) < truncate q := by linarith
    have h4 : (-1 : ℤ) < truncate q := by exact_mod_cast h3
    have h5 : (truncate q : ℚ) < b := by linarith
    exact ⟨by omega, by exact_mod_cast h5⟩
  · have h3 : (truncate q : ℚ) < 1 := by linarith
    have h4 : truncate q < 1 := by exact_mod_cast h3
    have h5 : (a : ℚ) ≤ truncate q := by linarith
    exact ⟨by exact_mod_cast h5, by omega⟩

/-! ## Rounding -/

theorem roundHalfEven_error (q : ℚ) : |roundHalfEven q - q| ≤ 1 / 2 := by
  have h1 := Int.floor_le q
  have h2 := Int.lt_floor_add_one q
  unfold roundHalfEven
  dsimp only
  rw [abs_le]
  split
  · constructor <;> linarith
  · split
    · rw [Int.cast_add, Int.cast_one]
      constructor <;> linarith
    · split
      · constructor <;> linarith
      · rw [Int.cast_add, Int.cast_one]
        constructor <;> linarith

theorem roundHalfEven_intCast (n : ℤ) : roundHalfEven n = n := by
  unfold roundHalfEven
  dsimp only
  rw [Int.floor_intCast, sub_self, if_pos (by norm_num)]

/-- The relative error of one rounding. -/
theorem round_error (q : ℚ) : |round q - q| ≤ |q| / 2 ^ 53 := by
  unfold round
  split
  case isTrue h => rw [h, sub_self, abs_zero, zero_div]
  case isFalse h =>
    have hpos : 0 < |q| := abs_pos.mpr h
    have hlog : (2 : ℚ) ^ Int.log 2 |q| ≤ |q| := Int.zpow_log_le_self (by decide) hpos
    generalize Int.log 2 |q| = k at *
    have hunit : (0 : ℚ) < 2 ^ (k - 52) := zpow_pos (by norm_num) _
    have hk : (2 : ℚ) ^ (k - 52) = 2 ^ k / 2 ^ 52 := by
      rw [zpow_sub₀ (by norm_num)]
      rfl
    calc |(roundHalfEven (q / 2 ^ (k - 52)) : ℚ) * 2 ^ (k - 52) - q|
        = |roundHalfEven (q / 2 ^ (k - 52)) - q / 2 ^ (k - 52)| * 2 ^ (k - 52) := by
          rw [← abs_of_pos hunit, ← abs_mul, abs_of_pos hunit, sub_mul,
            div_mul_cancel₀ _ hunit.ne']
      _ ≤ 1 / 2 * 2 ^ (k - 52) :=
          mul_le_mul_of_nonneg_right (roundHalfEven_error _) hunit.le
      _ = 2 ^ k / 2 ^ 53 := by rw [hk]; ring
      _ ≤ |q| / 2 ^ 53 := by gcongr

/-- Integers below 2^53 are doubles. -/
theorem round_intCast {n : ℤ} (h : |n| < 2 ^ 53) : round n = n := by
  unfold round
  split
  case isTrue h0 => exact h0.symm
  case isFalse h0 =>
    have hpos : (0 : ℚ) < |(n : ℚ)| := abs_pos.mpr h0
    have hlog : Int.log 2 |(n : ℚ)| < 53 := by
      rw [← Int.lt_zpow_iff_log_lt (by decide) hpos]
      exact_mod_cast h
    generalize Int.log 2 |(n : ℚ)| = k at *
    obtain ⟨d, hd⟩ : ∃ d : ℕ, k - 52 = -d := ⟨(52 - k).toNat, by omega⟩
    have hint : (n : ℚ) / 2 ^ (k - 52) = ((n * 2 ^ d : ℤ) : ℚ) := by
      rw [hd, zpow_neg, div_inv_eq_mul, zpow_natCast]
      push_cast
      rfl
    have hunit : (2 : ℚ) ^ (k - 52) ≠ 0 := zpow_ne_zero _ (by norm_num)
    dsimp only
    rw [hint, roundHalfEven_intCast, ← hint, div_mul_cancel₀ _ hunit]

end Binary64

/-- The value of the bits of a binary32 `float`. Infinities and NaNs, which no C conversion to
    an integer is defined on, get the value their exponent field would have. -/
def Binary32.value (bits : UInt32) : ℚ :=
  let e : ℕ := bits.toNat / 2 ^ 23 % 2 ^ 8
  let m : ℕ := bits.toNat % 2 ^ 23
  let magnitude : ℚ :=
    if e = 0 then (m : ℚ) / 2 ^ 149 else ((m : ℚ) + 2 ^ 23) * 2 ^ ((e : ℤ) - 150)
  if bits.toNat < 2 ^ 31 then magnitude else -magnitude
