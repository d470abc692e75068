import Mathlib.Data.Nat.Digits.Lemmas

/-
  Decimal numbers as text: what `%d`, `%u`, `%ld` and `%02d` print, the value of a digit
  string, and that reading what was printed gives the number back.
-/

namespace Decimal

/-- The byte of a decimal digit. -/
def digit (d : Nat) : UInt8 := UInt8.ofNat (48 + d)

def isDigit (b : UInt8) : Bool := 48 ≤ b && b ≤ 57

/-- What `%u` prints. -/
def formatNat (n : Nat) : List UInt8 :=
  if n = 0 then [digit 0] else (Nat.digits 10 n).reverse.map digit

/-- What `%d` prints. -/
def formatInt (n : Int) : List UInt8 :=
  if n < 0 then 45 :: formatNat n.natAbs else formatNat n.natAbs

/-- What `%02d` prints for a number that is not negative. -/
def formatNat2 (n : Nat) : List UInt8 :=
  if n < 10 then digit 0 :: formatNat n else formatNat n

/-- The value of a digit string. -/
def value (l : List UInt8) : Nat := l.foldl (fun a b => 10 * a + (b.toNat - 48)) 0

/-! ## Digits -/

theorem toNat_digit {d : Nat} (h : d < 10) : (digit d).toNat = 48 + d := by
  unfold digit
  rw [UInt8.toNat_ofNat']
  omega

theorem isDigit_iff {b : UInt8} : isDigit b = true ↔ 48 ≤ b.toNat ∧ b.toNat ≤ 57 := by
  simp [isDigit, UInt8.le_iff_toNat_le]

theorem isDigit_digit {d : Nat} (h : d < 10) : isDigit (digit d) = true := by
  rw [isDigit_iff, toNat_digit h]
  omega

theorem digits_lt {n d : Nat} (h : d ∈ (Nat.digits 10 n).reverse) : d < 10 :=
  Nat.digits_lt_base (by decide) (List.mem_reverse.mp h)

theorem isDigit_formatNat {n : Nat} : ∀ b ∈ formatNat n, isDigit b = true := by
  intro b hb
  rw [formatNat] at hb
  split at hb
  · rw [List.mem_singleton.mp hb]
    rfl
  · obtain ⟨d, hd, rfl⟩ := List.mem_map.mp hb
    exact isDigit_digit (digits_lt hd)

theorem formatNat_ne_nil (n : Nat) : formatNat n ≠ [] := by
  rw [formatNat]
  split
  · simp
  case isFalse h => simpa using Nat.digits_ne_nil_iff_ne_zero.mpr h

/-! ## Values -/

theorem value_concat (l : List UInt8) (b : UInt8) :
    value (l ++ [b]) = 10 * value l + (b.toNat - 48) := by
  unfold value
  rw [List.foldl_append, ← value]
  rfl

theorem value_append (l m : List UInt8) : value (l ++ m) = value l * 10 ^ m.length + value m := by
  induction m using List.reverseRecOn with
  | nil => simp [value]
  | append_singleton m b ih =>
    rw [← List.append_assoc, value_concat, ih, value_concat, List.length_append,
      List.length_singleton, pow_succ]
    ring

theorem value_map_digit {l : List Nat} (h : ∀ d ∈ l, d < 10) :
    value (l.map digit) = Nat.ofDigits 10 l.reverse := by
  induction l using List.reverseRecOn with
  | nil => rfl
  | append_singleton l d ih =>
    have hd := toNat_digit (h d (by simp))
    rw [List.map_append, value_append, ih fun x hx => h x (by simp [hx]), List.reverse_append,
      List.reverse_singleton, List.singleton_append, Nat.ofDigits_cons]
    simp only [List.map_cons, List.map_nil, List.length_singleton, pow_one, value,
      List.foldl_cons, List.foldl_nil, hd]
    omega

theorem value_formatNat (n : Nat) : value (formatNat n) = n := by
  rw [formatNat]
  split
  case isTrue h => rw [h]; rfl
  case isFalse h =>
    rw [value_map_digit fun d hd => digits_lt hd, List.reverse_reverse, Nat.ofDigits_digits]

theorem value_formatNat2 (n : Nat) : value (formatNat2 n) = n := by
  rw [formatNat2]
  split
  · rw [← List.singleton_append, value_append, value_formatNat]
    simp [value, digit]
  · exact value_formatNat n

theorem length_formatNat_of_lt {n k : Nat} (hk : 0 < k) (h : n < 10 ^ k) :
    (formatNat n).length ≤ k := by
  rw [formatNat]
  split
  · exact hk
  · rw [List.length_map, List.length_reverse]
    exact (Nat.digits_length_le_iff (by decide) n).mpr h

theorem length_formatInt_le {n : Int} {k : Nat} (hk : 0 < k) (h : n.natAbs < 10 ^ k) :
    (formatInt n).length ≤ k + 1 ∧ (0 ≤ n → (formatInt n).length ≤ k) := by
  have := length_formatNat_of_lt hk h
  rw [formatInt]
  split
  · exact ⟨Nat.succ_le_succ this, fun hn => by omega⟩
  · exact ⟨by omega, fun _ => this⟩

theorem length_formatNat_of_lt_ten {n : Nat} (h : n < 10) : (formatNat n).length = 1 := by
  have h1 := length_formatNat_of_lt (n := n) (k := 1) (by decide) h
  have h2 := List.length_pos_iff.mpr (formatNat_ne_nil n)
  omega

theorem length_formatNat2 {n : Nat} (h : n < 100) : (formatNat2 n).length = 2 := by
  rw [formatNat2]
  split
  case isTrue hn => rw [List.length_cons, length_formatNat_of_lt_ten hn]
  case isFalse hn =>
    unfold formatNat
    rw [if_neg (by omega), List.length_map, List.length_reverse]
    have h1 : (Nat.digits 10 n).length ≤ 2 := (Nat.digits_length_le_iff (by decide) n).mpr h
    have h2 : 1 < (Nat.digits 10 n).length :=
      (Nat.lt_digits_length_iff (by decide) n).mpr (by omega)
    omega

theorem isDigit_formatNat2 {n : Nat} : ∀ b ∈ formatNat2 n, isDigit b = true := by
  intro b hb
  rw [formatNat2] at hb
  split at hb
  · rcases List.mem_cons.mp hb with rfl | hb
    · rfl
    · exact isDigit_formatNat b hb
  · exact isDigit_formatNat b hb

/-- A printed number has no leading zero, unless it is zero. -/
theorem head_formatNat {n : Nat} (h : n ≠ 0) : (formatNat n).head? ≠ some 48 := by
  have hne := Nat.digits_ne_nil_iff_ne_zero (b := 10).mpr h
  unfold formatNat
  rw [if_neg h, List.head?_map, List.head?_reverse,
    List.getLast?_eq_getLast_of_ne_nil hne]
  have h1 := Nat.getLast_digit_ne_zero 10 h
  have h2 := Nat.digits_lt_base (by decide) (List.getLast_mem hne)
  intro he
  have := congrArg UInt8.toNat (Option.some.inj he)
  rw [toNat_digit h2] at this
  simp at this
  omega

end Decimal
