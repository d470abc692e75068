import IndoorLogger.Lib.CString

/-
  `char` arrays as the bytes they are made of. A `CharArray n` is a `char[n]` whose last byte is
  zero, as a static array starts; every write here keeps that byte, also the `strncpy` that is
  not followed by a terminator. `toCStr` reads the string in it, and turns each write into the
  function on strings that it stands for.
-/

/-- A `char[n]` that ends in a zero byte. -/
@[ext] structure CharArray (n : Nat) where
  bytes : List UInt8
  size : bytes.length = n
  last : bytes.getLast? = some 0
  deriving DecidableEq

/-- The first `k` bytes that `strncpy(dst, src, k)` leaves: the string, zero-filled. -/
def paddedCopy (src : List UInt8) (k : Nat) : List UInt8 :=
  (cString src).take k ++ List.replicate (k - (cString src).length) 0

theorem length_paddedCopy (src : List UInt8) (k : Nat) : (paddedCopy src k).length = k := by
  unfold paddedCopy
  rw [List.length_append, List.length_take, List.length_replicate]
  omega

theorem cString_take (l : List UInt8) (k : Nat) : cString (l.take k) = (cString l).take k := by
  induction l generalizing k with
  | nil => simp [cString]
  | cons b l ih =>
    cases k with
    | zero => rfl
    | succ k =>
      unfold cString at ih ⊢
      rw [List.take_succ_cons, List.takeWhile_cons, List.takeWhile_cons, ih]
      split
      · rw [List.take_succ_cons]
      · rw [List.take_nil]

/-- A string ends at the first zero, whatever is behind it. -/
theorem cString_append_cons_zero (l r : List UInt8) : cString (l ++ 0 :: r) = cString l := by
  induction l with
  | nil => rfl
  | cons b l ih =>
    unfold cString at ih ⊢
    rw [List.cons_append, List.takeWhile_cons, List.takeWhile_cons, ih]

namespace CharArray

variable {n : Nat}

theorem pos (a : CharArray n) : 0 < n := by
  have hlast := a.last
  have hsize := a.size
  rcases Nat.eq_zero_or_pos n with rfl | h
  · rw [List.length_eq_zero_iff.mp hsize] at hlast
    cases hlast
  · exact h

theorem getLast?_drop (a : CharArray n) {k : Nat} (h : k < n) :
    (a.bytes.drop k).getLast? = some 0 := by
  rw [List.getLast?_drop, if_neg (by rw [a.size]; omega), a.last]

/-! ## Writes -/

/-- A static array before the first write. -/
def zero [NeZero n] : CharArray n where
  bytes := List.replicate n 0
  size := List.length_replicate
  last := by rw [List.getLast?_replicate, if_neg (NeZero.ne n)]

/-- Bytes at the start of the array that stop before its last one. -/
def overwrite (a : CharArray n) (src : List UInt8) (h : src.length < n) : CharArray n where
  bytes := src ++ a.bytes.drop src.length
  size := by rw [List.length_append, List.length_drop, a.size]; omega
  last := by rw [List.getLast?_append, a.getLast?_drop h]; rfl

/-- `strncpy(a, src, n - 1)`. -/
def strncpy (a : CharArray n) (src : List UInt8) : CharArray n :=
  a.overwrite (paddedCopy src (n - 1)) (by have := a.pos; rw [length_paddedCopy]; omega)

/-- `a[n - 1] = '\0'`. -/
def terminate (a : CharArray n) : CharArray n where
  bytes := a.bytes.set (n - 1) 0
  size := by rw [List.length_set, a.size]
  last := by
    have := a.pos
    rw [List.getLast?_eq_getElem?, List.length_set, a.size, List.getElem?_set_self (by
      rw [a.size]; omega)]

/-- A string that fits and its terminator, at the start of the array. -/
def setString (a : CharArray n) (s : CStr n) : CharArray n where
  bytes := s.bytes ++ 0 :: a.bytes.drop (s.bytes.length + 1)
  size := by
    have := s.fits
    rw [List.length_append, List.length_cons, List.length_drop, a.size]
    omega
  last := by
    have := s.fits
    rw [List.getLast?_append, List.getLast?_cons, Option.some_or]
    rcases Nat.lt_or_ge (s.bytes.length + 1) n with h | h
    · rw [a.getLast?_drop h]; rfl
    · rw [List.drop_of_length_le (by rw [a.size]; exact h)]; rfl

/-- `snprintf(a, n, ..)` that is asked for the text `t`. -/
def snprintf [NeZero n] (a : CharArray n) (t : List UInt8) : CharArray n :=
  a.setString (CStr.strncpy t)

/-- `a[0] = '\0'`. -/
def clear [NeZero n] (a : CharArray n) : CharArray n := a.setString CStr.empty

/-! ## The string in an array -/

/-- The string at the start of an array. -/
def toCStr (a : CharArray n) : CStr n where
  bytes := cString a.bytes
  noNul := zero_notMem_cString a.bytes
  fits := by
    have hmem : (0 : UInt8) ∈ a.bytes := List.mem_of_getLast? a.last
    have hprefix : cString a.bytes <+: a.bytes := List.takeWhile_prefix _
    rcases Nat.lt_or_eq_of_le hprefix.length_le with h | h
    · exact Nat.lt_of_lt_of_eq h a.size
    · have heq : cString a.bytes = a.bytes := hprefix.eq_of_length h
      rw [← heq] at hmem
      exact absurd hmem (zero_notMem_cString _)

theorem toCStr_bytes (a : CharArray n) : a.toCStr.bytes = cString a.bytes := rfl

@[simp] theorem toCStr_setString (a : CharArray n) (s : CStr n) :
    (a.setString s).toCStr = s := by
  ext1
  exact cString_append_zero s.noNul _

/-- A string is empty when its first byte is zero. -/
theorem head?_setString [NeZero n] (a : CharArray n) (s : CStr n) :
    (a.setString s).bytes.head? = some 0 ↔ s = CStr.empty := by
  have hbytes : (a.setString s).bytes = s.bytes ++ 0 :: a.bytes.drop (s.bytes.length + 1) := rfl
  rw [← CStr.bytes_eq_nil, hbytes]
  cases hs : s.bytes with
  | nil => exact ⟨fun _ => rfl, fun _ => rfl⟩
  | cons b l =>
    have hb : b ≠ 0 := fun h => s.noNul (by rw [hs, h]; exact List.mem_cons_self)
    exact ⟨fun h => absurd (Option.some.inj h) hb, nofun⟩

@[simp] theorem toCStr_snprintf [NeZero n] (a : CharArray n) (t : List UInt8) :
    (a.snprintf t).toCStr = CStr.strncpy t := a.toCStr_setString _

/-- The byte that a terminator writes is zero before. -/
@[simp] theorem terminate_eq (a : CharArray n) : a.terminate = a := by
  ext1
  have hlast := a.last
  rw [List.getLast?_eq_getElem?, a.size] at hlast
  obtain ⟨hlt, hget⟩ := List.getElem?_eq_some_iff.mp hlast
  calc a.bytes.set (n - 1) 0 = a.bytes.set (n - 1) a.bytes[n - 1] := by rw [hget]
    _ = a.bytes := List.set_getElem_self hlt

/-- A copy without a terminator reads as the string cut to the array. -/
@[simp] theorem toCStr_strncpy [NeZero n] (a : CharArray n) (src : List UInt8) :
    (a.strncpy src).toCStr = CStr.strncpy src := by
  have hpos := a.pos
  ext1
  have htail : a.bytes.drop (n - 1) = [0] := by
    obtain ⟨b, hb⟩ := List.length_eq_one_iff.mp (show (a.bytes.drop (n - 1)).length = 1 by
      rw [List.length_drop, a.size]; omega)
    have hlast := a.getLast?_drop (show n - 1 < n by omega)
    rw [hb] at hlast ⊢
    have hzero : b = 0 := Option.some.inj hlast
    rw [hzero]
  have hbytes : (a.strncpy src).bytes = paddedCopy src (n - 1) ++ [0] := by
    have hcopy : (a.strncpy src).bytes = paddedCopy src (n - 1) ++
        a.bytes.drop (paddedCopy src (n - 1)).length := rfl
    rw [hcopy, length_paddedCopy, htail]
  rw [toCStr_bytes, hbytes, paddedCopy, List.append_assoc, ← List.replicate_succ',
    List.replicate_succ, cString_append_cons_zero, cString_take,
    cString_of_noNul (zero_notMem_cString src)]
  rfl

end CharArray
