import Mathlib.Data.List.TakeWhile
import IndoorLogger.Lib.FixedCodec

/-
  C strings: NUL-terminated byte strings held in a `char` array of fixed size.
  `CStr n` is the content of a `char[n]` whose last byte is zero. Every writer that goes
  through `strncpy(dst, src, n - 1)` keeps that last byte, so the bound and the absence of
  NUL are fields and `strncmp(a, b, n) == 0` is equality.
-/

/-- The string at the start of a buffer: the bytes before the first NUL. -/
def cString (l : List UInt8) : List UInt8 := l.takeWhile (· != 0)

theorem zero_notMem_cString (l : List UInt8) : (0 : UInt8) ∉ cString l := by
  intro h
  have := List.mem_takeWhile_imp h
  simp at this

theorem cString_of_noNul {l : List UInt8} (h : (0 : UInt8) ∉ l) : cString l = l := by
  unfold cString
  rw [List.takeWhile_eq_self_iff]
  intro b hb
  have : b ≠ 0 := fun e => h (e ▸ hb)
  simpa using this

theorem cString_append_zero {l : List UInt8} (h : (0 : UInt8) ∉ l) (r : List UInt8) :
    cString (l ++ 0 :: r) = l := by
  unfold cString
  rw [List.takeWhile_append_of_pos, List.takeWhile_cons_of_neg (by simp), List.append_nil]
  intro b hb
  have : b ≠ 0 := fun e => h (e ▸ hb)
  simpa using this

/-- The string held by a `char[n]`. -/
@[ext] structure CStr (n : Nat) where
  bytes : List UInt8
  noNul : (0 : UInt8) ∉ bytes
  fits : bytes.length < n
  deriving DecidableEq

namespace CStr

instance neZero8 : NeZero 8 := ⟨by decide⟩
instance neZero16 : NeZero 16 := ⟨by decide⟩
instance neZero32 : NeZero 32 := ⟨by decide⟩
instance neZero64 : NeZero 64 := ⟨by decide⟩
instance neZero128 : NeZero 128 := ⟨by decide⟩

variable {n : Nat} [NeZero n]

/-- A zeroed buffer. -/
def empty : CStr n := ⟨[], by simp, Nat.pos_of_ne_zero (NeZero.ne n)⟩

instance : Inhabited (CStr n) := ⟨empty⟩

@[simp] theorem bytes_empty : (empty : CStr n).bytes = [] := rfl

theorem bytes_eq_nil {s : CStr n} : s.bytes = [] ↔ s = empty := by
  rw [CStr.ext_iff, bytes_empty]

/-- `s[0] == '\0'`. -/
def isEmpty (s : CStr n) : Bool := s.bytes.isEmpty

@[simp] theorem isEmpty_iff {s : CStr n} : s.isEmpty = true ↔ s = empty := by
  unfold isEmpty
  rw [List.isEmpty_iff, bytes_eq_nil]

@[simp] theorem isEmpty_eq_false {s : CStr n} : s.isEmpty = false ↔ s ≠ empty := by
  rw [← Bool.not_eq_true, isEmpty_iff]

/-- `strncpy(dst, src, n - 1)` into a `char[n]` whose last byte is zero. -/
def strncpy (src : List UInt8) : CStr n where
  bytes := (cString src).take (n - 1)
  noNul h := zero_notMem_cString src (List.mem_of_mem_take h)
  fits := by
    have := Nat.pos_of_ne_zero (NeZero.ne n)
    rw [List.length_take]; omega

omit [NeZero n] in
theorem cString_bytes (s : CStr n) : cString s.bytes = s.bytes := cString_of_noNul s.noNul

theorem strncpy_bytes (s : CStr n) : strncpy s.bytes = s := by
  have hbytes : (strncpy s.bytes : CStr n).bytes = (cString s.bytes).take (n - 1) := rfl
  have := s.fits
  ext1
  rw [hbytes, cString_bytes]
  exact List.take_of_length_le (by omega)

/-- A `char[n]` member of a struct: the string, zero-filled. -/
def codec : FixedCodec (CStr n) where
  size := n
  enc s := s.bytes ++ List.replicate (n - s.bytes.length) 0
  dec l := strncpy l
  length_enc s := by have := s.fits; simp; omega
  dec_enc s := by
    obtain ⟨k, hk⟩ : ∃ k, n - s.bytes.length = k + 1 := ⟨n - s.bytes.length - 1, by
      have := s.fits; omega⟩
    ext1
    have := s.fits
    simp only [strncpy, hk, List.replicate_succ, cString_append_zero s.noNul]
    exact List.take_of_length_le (by omega)

end CStr

/-! ## Literals -/

/-- The bytes of a C string literal. -/
def ascii (s : String) : List UInt8 := s.toList.map fun c => UInt8.ofNat c.toNat
