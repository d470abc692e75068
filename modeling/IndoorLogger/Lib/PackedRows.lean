import Mathlib.Data.Nat.Bitwise
import Mathlib.Data.List.Basic
import Mathlib.Tactic.Ring

/-
  Pictures in bytes. A row of a picture takes as many bytes as its pixels need, the leftmost
  pixel is the top bit of its byte, and the bits behind the last pixel are blank. Each pixel is
  read back from the byte and bit that its place says (`testBit_packed`).
-/

namespace PackedRows

/-! ## Blocks of one length -/

theorem length_flatMap_blocks {α : Type} {f : Nat → List α} {k : Nat} (hf : ∀ i, (f i).length = k)
    (n : Nat) : ((List.range n).flatMap f).length = n * k := by
  induction n with
  | zero => rw [List.range_zero, List.flatMap_nil, List.length_nil, Nat.zero_mul]
  | succ n ih =>
    rw [List.range_succ, List.flatMap_append, List.length_append, ih, List.flatMap_singleton, hf,
      Nat.succ_mul]

/-- Block `i` stands at `i * k`. -/
theorem getElem?_flatMap_blocks {α : Type} {f : Nat → List α} {k : Nat}
    (hf : ∀ i, (f i).length = k) {n i j : Nat} (hi : i < n) (hj : j < k) :
    ((List.range n).flatMap f)[i * k + j]? = (f i)[j]? := by
  induction n with
  | zero => exact absurd hi (Nat.not_lt_zero i)
  | succ n ih =>
    rw [List.range_succ, List.flatMap_append, List.flatMap_singleton]
    have hlen := length_flatMap_blocks hf n
    rcases Nat.lt_succ_iff_lt_or_eq.mp hi with hlt | rfl
    · have hbound : (i + 1) * k ≤ n * k := Nat.mul_le_mul_right k hlt
      rw [Nat.succ_mul] at hbound
      rw [List.getElem?_append_left (by omega)]
      exact ih hlt
    · rw [List.getElem?_append_right (by omega), hlen, Nat.add_sub_cancel_left]

/-! ## Bytes -/

/-- `n` pixels shifted in from the right, and once more. -/
def shiftIn (bits : Nat → Bool) (n : Nat) : Nat :=
  (List.range n).foldl (fun byte i => (if bits i then byte ||| 1 else byte) <<< 1) 0

theorem shiftIn_succ (bits : Nat → Bool) (n : Nat) :
    shiftIn bits (n + 1) = (if bits n then shiftIn bits n ||| 1 else shiftIn bits n) <<< 1 := by
  unfold shiftIn
  rw [List.range_succ, List.foldl_append]
  rfl

/-- The last pixel is in bit 1, the first in bit `n`. -/
theorem testBit_shiftIn (bits : Nat → Bool) (n k : Nat) :
    (shiftIn bits n).testBit k = (decide (1 ≤ k ∧ k ≤ n) && bits (n - k)) := by
  induction n generalizing k with
  | zero =>
    have hnot : ¬(1 ≤ k ∧ k ≤ 0) := by omega
    rw [decide_eq_false hnot, Bool.false_and]
    exact Nat.zero_testBit k
  | succ n ih =>
    rw [shiftIn_succ, Nat.testBit_shiftLeft]
    cases k with
    | zero => rfl
    | succ k =>
      rw [Nat.add_sub_cancel, Nat.add_sub_add_right]
      cases k with
      | zero =>
        -- the pixel that came last
        have hlow : (shiftIn bits n).testBit 0 = false := by rw [ih]; rfl
        cases hb : bits n with
        | true => simp
        | false => simp [hlow]
      | succ k =>
        have hone : Nat.testBit 1 (k + 1) = false := by
          rw [Nat.testBit_succ]
          exact Nat.zero_testBit k
        have hsame : (if bits n then shiftIn bits n ||| 1 else shiftIn bits n).testBit (k + 1) =
            (shiftIn bits n).testBit (k + 1) := by
          split
          · rw [Nat.testBit_or, hone, Bool.or_false]
          · rfl
        rw [hsame, ih]
        simp

/-- A byte of eight pixels. -/
def packByte (bits : Nat → Bool) : Nat := shiftIn bits 8 >>> 1

theorem testBit_packByte (bits : Nat → Bool) {i : Nat} (hi : i < 8) :
    (packByte bits).testBit (7 - i) = bits i := by
  unfold packByte
  rw [Nat.testBit_shiftRight, testBit_shiftIn, decide_eq_true (by omega), Bool.true_and]
  congr 1
  omega

theorem packByte_lt (bits : Nat → Bool) : packByte bits < 256 := by
  refine Nat.lt_pow_two_of_testBit (n := 8) _ fun k hk => ?_
  unfold packByte
  rw [Nat.testBit_shiftRight, testBit_shiftIn, decide_eq_false (by omega), Bool.false_and]

/-! ## Rows -/

/-- The bytes that a row of `w` pixels takes. -/
def rowBytes (w : Nat) : Nat := (w + 7) / 8

/-- A row, blank behind its last pixel. -/
def packRow (w : Nat) (bits : Nat → Bool) : List Nat :=
  (List.range (rowBytes w)).map fun b =>
    packByte fun i => if b * 8 + i < w then bits (b * 8 + i) else false

/-- A picture of `h` rows. -/
def packed (w h : Nat) (bits : Nat → Nat → Bool) : List Nat :=
  (List.range h).flatMap fun y => packRow w (bits y)

theorem length_packRow (w : Nat) (bits : Nat → Bool) : (packRow w bits).length = rowBytes w := by
  unfold packRow
  rw [List.length_map, List.length_range]

theorem length_packed (w h : Nat) (bits : Nat → Nat → Bool) :
    (packed w h bits).length = h * rowBytes w :=
  length_flatMap_blocks (fun y => length_packRow w (bits y)) h

theorem index_lt {w h x y : Nat} (hx : x < w) (hy : y < h) :
    rowBytes w * y + x / 8 < rowBytes w * h := by
  have hcol : x / 8 < rowBytes w := by unfold rowBytes; omega
  have hrow : rowBytes w * (y + 1) ≤ rowBytes w * h := Nat.mul_le_mul_left _ hy
  rw [Nat.mul_succ] at hrow
  omega

/-- The bits of byte `j` of a picture. -/
theorem testBit_packed_byte (bits : Nat → Nat → Bool) {w h j i : Nat} (hj : j < rowBytes w * h)
    (hi : i < 8) :
    ((packed w h bits)[j]?.getD 0).testBit (7 - i) =
      if j % rowBytes w * 8 + i < w then bits (j / rowBytes w) (j % rowBytes w * 8 + i)
      else false := by
  have hpos : 0 < rowBytes w := Nat.pos_of_mul_pos_right (Nat.zero_lt_of_lt hj)
  have hrow : j / rowBytes w < h := Nat.div_lt_of_lt_mul hj
  have hcol : j % rowBytes w < rowBytes w := Nat.mod_lt j hpos
  have hplace : j / rowBytes w * rowBytes w + j % rowBytes w = j := Nat.div_add_mod' j (rowBytes w)
  have hblock := getElem?_flatMap_blocks (fun y => length_packRow w (bits y)) hrow hcol
  rw [hplace] at hblock
  unfold packed
  rw [hblock, packRow, List.getElem?_map, List.getElem?_range hcol, Option.map_some,
    Option.getD_some, testBit_packByte _ hi]

/-- A pixel is read back from its byte. -/
theorem testBit_packed (bits : Nat → Nat → Bool) {w h x y : Nat} (hx : x < w) (hy : y < h) :
    ((packed w h bits)[rowBytes w * y + x / 8]?.getD 0).testBit (7 - x % 8) = bits y x := by
  have hcol : x / 8 < rowBytes w := by unfold rowBytes; omega
  have hplace : x / 8 * 8 + x % 8 = x := by omega
  rw [testBit_packed_byte bits (index_lt hx hy) (Nat.mod_lt x (by decide)), Nat.mul_add_mod,
    Nat.mod_eq_of_lt hcol, hplace, if_pos hx, Nat.mul_add_div (by omega), Nat.div_eq_of_lt hcol,
    Nat.add_zero]

theorem packed_lt {w h : Nat} {bits : Nat → Nat → Bool} {byte : Nat}
    (hb : byte ∈ packed w h bits) : byte < 256 := by
  unfold packed at hb
  obtain ⟨y, -, hy⟩ := List.mem_flatMap.mp hb
  unfold packRow at hy
  obtain ⟨b, -, rfl⟩ := List.mem_map.mp hy
  exact packByte_lt _

end PackedRows
