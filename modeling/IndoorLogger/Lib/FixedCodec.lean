import Mathlib.Tactic.Ring
import Mathlib.Data.List.Basic
import Mathlib.Tactic.Common

/-
  Fixed-size codecs: a value and its little-endian byte image, as a packed C struct lays it
  out. A codec carries its own round trip (`dec_enc`), so a struct codec assembled from
  field codecs with `pair`, `pad` and `map` needs no proof of its own beyond the
  projection law of `map`.
-/

/-- A byte image of constant size, with the round trip as a field. -/
structure FixedCodec (α : Type) where
  size : Nat
  enc : α → List UInt8
  dec : List UInt8 → α
  length_enc : ∀ a, (enc a).length = size
  dec_enc : ∀ a, dec (enc a) = a

namespace FixedCodec

variable {α β : Type}

attribute [simp] length_enc dec_enc

/-! ## Machine words -/

/-- Byte `k` of `n`, least significant first. -/
def byte (n k : Nat) : UInt8 := UInt8.ofNat (n / 256 ^ k)

@[simp] theorem byte_toNat (n k : Nat) : (byte n k).toNat = n / 256 ^ k % 256 := by
  simp [byte]

def u8 : FixedCodec UInt8 where
  size := 1
  enc b := [b]
  dec l := l.headD 0
  length_enc _ := rfl
  dec_enc _ := rfl

def u16 : FixedCodec UInt16 where
  size := 2
  enc w := [byte w.toNat 0, byte w.toNat 1]
  dec l := UInt16.ofNat ((l.getD 0 0).toNat + 256 * (l.getD 1 0).toNat)
  length_enc _ := rfl
  dec_enc w := by
    apply UInt16.toNat_inj.mp
    have := w.toNat_lt
    simp only [List.getD_cons_zero, List.getD_cons_succ, byte_toNat, UInt16.toNat_ofNat']
    omega

def u32 : FixedCodec UInt32 where
  size := 4
  enc w := [byte w.toNat 0, byte w.toNat 1, byte w.toNat 2, byte w.toNat 3]
  dec l := UInt32.ofNat ((l.getD 0 0).toNat + 256 * (l.getD 1 0).toNat +
    65536 * (l.getD 2 0).toNat + 16777216 * (l.getD 3 0).toNat)
  length_enc _ := rfl
  dec_enc w := by
    apply UInt32.toNat_inj.mp
    have := w.toNat_lt
    simp only [List.getD_cons_zero, List.getD_cons_succ, byte_toNat, UInt32.toNat_ofNat']
    omega

/-! ## Assembling a struct -/

/-- The image of the first member followed by the image of the second. -/
def pair (c : FixedCodec α) (d : FixedCodec β) : FixedCodec (α × β) where
  size := c.size + d.size
  enc p := c.enc p.1 ++ d.enc p.2
  dec l := (c.dec (l.take c.size), d.dec (l.drop c.size))
  length_enc p := by simp
  dec_enc p := by
    have h : c.size = (c.enc p.1).length := (c.length_enc p.1).symm
    rw [h, List.take_left, List.drop_left, c.dec_enc, d.dec_enc]

/-- `c` followed by `n` padding bytes, written as zeros and ignored on reading. -/
def pad (c : FixedCodec α) (n : Nat) : FixedCodec α where
  size := c.size + n
  enc a := c.enc a ++ List.replicate n 0
  dec l := c.dec (l.take c.size)
  length_enc a := by simp
  dec_enc a := by
    have h : c.size = (c.enc a).length := (c.length_enc a).symm
    rw [h, List.take_left, c.dec_enc]

/-- Read `β` through the fields `α` it is made of. -/
def map (c : FixedCodec α) (fields : β → α) (build : α → β) (h : ∀ b, build (fields b) = b) :
    FixedCodec β where
  size := c.size
  enc b := c.enc (fields b)
  dec l := build (c.dec l)
  length_enc b := c.length_enc _
  dec_enc b := by rw [c.dec_enc, h]

def i16 : FixedCodec Int16 :=
  u16.map Int16.toUInt16 UInt16.toInt16 fun _ => rfl

def i32 : FixedCodec Int32 :=
  u32.map Int32.toUInt32 UInt32.toInt32 fun _ => rfl

/-- A C `bool` in one byte: any non-zero byte reads as true. -/
def bool : FixedCodec Bool where
  size := 1
  enc b := [if b then 1 else 0]
  dec l := l.headD 0 != 0
  length_enc _ := rfl
  dec_enc b := by cases b <;> rfl

end FixedCodec
