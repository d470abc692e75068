import Mathlib.Data.Nat.Bitwise
import Mathlib.Data.List.Basic

/-
  A bitmap in bytes: setting a bit adds exactly this one, and a fold whose steps each add what
  they add leaves what all of them add.
-/

namespace BitMap

variable {n : Nat}

/-- Bit `b` of byte `i`. -/
def testBit (v : Vector UInt8 n) (i b : Nat) : Bool := (v[i]?.getD 0).toNat.testBit b

/-- `v[i] |= 1 << b`. -/
def setBit (v : Vector UInt8 n) (i b : Nat) : Vector UInt8 n :=
  v.setIfInBounds i (v[i]?.getD 0 ||| 1 <<< UInt8.ofNat b)

theorem testBit_mask {b b' : Nat} (h : b < 8) :
    (1 <<< UInt8.ofNat b : UInt8).toNat.testBit b' = decide (b = b') := by
  have hmask : ∀ b < 8, (1 <<< UInt8.ofNat b : UInt8).toNat = 2 ^ b := by decide
  rw [hmask b h, Nat.testBit_two_pow]

theorem testBit_setBit (v : Vector UInt8 n) {i b : Nat} (hi : i < n) (hb : b < 8) (i' b' : Nat) :
    testBit (setBit v i b) i' b' = (testBit v i' b' || decide (i = i' ∧ b = b')) := by
  unfold testBit setBit
  rw [Vector.getElem?_setIfInBounds]
  by_cases h : i = i'
  · rw [if_pos h, if_pos (h ▸ hi), Option.getD_some, UInt8.toNat_or, Nat.testBit_or,
      testBit_mask hb, h]
    simp
  · rw [if_neg h]
    simp [h]

theorem testBit_zero (i b : Nat) : testBit (Vector.replicate n 0) i b = false := by
  unfold testBit
  rw [Vector.getElem?_replicate]
  split <;> exact Nat.zero_testBit b

/-- What holds after a fold whose steps only add to it. -/
theorem foldl_iff {σ ι : Type} {P : σ → Prop} {C : ι → Prop} {f : σ → ι → σ}
    (h : ∀ s i, P (f s i) ↔ P s ∨ C i) (s : σ) (is : List ι) :
    P (is.foldl f s) ↔ P s ∨ ∃ i ∈ is, C i := by
  induction is generalizing s with
  | nil => simp
  | cons i is ih => rw [List.foldl_cons, ih, h, or_assoc, List.exists_mem_cons_iff]

/-- The same over the numbers below a bound. -/
theorem foldl_range_iff {σ : Type} {P : σ → Prop} {C : Nat → Prop} {f : σ → Nat → σ}
    (h : ∀ s i, P (f s i) ↔ P s ∨ C i) (s : σ) (n : Nat) :
    P ((List.range n).foldl f s) ↔ P s ∨ ∃ i < n, C i := by
  rw [foldl_iff h]
  simp only [List.mem_range]

end BitMap
