import Mathlib.Tactic.Ring
import IndoorLogger.Lib.FixedCodec

/-
  Files as byte lists, with positional reads and writes, and the layout of a record file:
  a header followed by records of one fixed size. `fread c f off` is the object that
  `fread(&x, sizeof x, 1, f)` at offset `off` yields, none on a short read. A write past
  the end fills the gap with zeros.
-/

namespace RecordFile

variable {α β : Type}

/-- Overwrite `f` from `off` with `bs`. -/
def writeAt (f : List UInt8) (off : Nat) (bs : List UInt8) : List UInt8 :=
  f.take off ++ List.replicate (off - f.length) 0 ++ bs ++ f.drop (off + bs.length)

/-- `n` bytes from `off`, fewer at the end of the file. -/
def readAt (f : List UInt8) (off n : Nat) : List UInt8 := (f.drop off).take n

/-- One object of codec `c` at `off`. -/
def fread (c : FixedCodec α) (f : List UInt8) (off : Nat) : Option α :=
  if (readAt f off c.size).length = c.size then some (c.dec (readAt f off c.size)) else none

/-- Write one object of codec `c` at `off`. -/
def fwrite (c : FixedCodec α) (f : List UInt8) (off : Nat) (a : α) : List UInt8 :=
  writeAt f off (c.enc a)

/-! ## Positional reads after writes -/

theorem length_writeAt (f : List UInt8) (off : Nat) (bs : List UInt8) :
    (writeAt f off bs).length = max f.length (off + bs.length) := by
  simp only [writeAt, List.length_append, List.length_take, List.length_replicate,
    List.length_drop]
  omega

theorem length_fwrite (c : FixedCodec α) (f : List UInt8) (off : Nat) (a : α) :
    (fwrite c f off a).length = max f.length (off + c.size) := by
  unfold fwrite
  rw [length_writeAt, c.length_enc]

theorem readAt_length (f : List UInt8) (off n : Nat) :
    (readAt f off n).length = min n (f.length - off) := by
  simp [readAt]

theorem length_writeAt_prefix (f : List UInt8) (off : Nat) :
    (f.take off ++ List.replicate (off - f.length) 0).length = off := by
  simp only [List.length_append, List.length_take, List.length_replicate]
  omega

theorem readAt_writeAt_self (f : List UInt8) (off : Nat) (bs : List UInt8) :
    readAt (writeAt f off bs) off bs.length = bs := by
  have h := length_writeAt_prefix f off
  unfold readAt writeAt
  rw [List.append_assoc, List.drop_left' h, List.take_left]

/-- A read that ends before the written bytes begin, inside the old file. -/
theorem readAt_writeAt_before (f : List UInt8) (off : Nat) (bs : List UInt8) (off' n : Nat)
    (h : off' + n ≤ off) (hf : off' + n ≤ f.length) :
    readAt (writeAt f off bs) off' n = readAt f off' n := by
  have hl : off' ≤ (f.take off).length := by rw [List.length_take]; omega
  unfold readAt writeAt
  rw [List.append_assoc, List.append_assoc, List.drop_append_of_le_length hl,
    List.take_append_of_le_length (by rw [List.length_drop, List.length_take]; omega),
    List.drop_take, List.take_take, Nat.min_eq_left (by omega)]

/-- A read that begins after the written bytes. -/
theorem readAt_writeAt_after (f : List UInt8) (off : Nat) (bs : List UInt8) (off' n : Nat)
    (h : off + bs.length ≤ off') :
    readAt (writeAt f off bs) off' n = readAt f off' n := by
  have hl : (f.take off ++ List.replicate (off - f.length) 0 ++ bs).length = off + bs.length := by
    rw [List.length_append, length_writeAt_prefix f off]
  unfold readAt writeAt
  rw [List.drop_append, hl, List.drop_eq_nil_of_le (by omega), List.nil_append, List.drop_drop,
    show off + bs.length + (off' - (off + bs.length)) = off' by omega]

/-! ## Objects -/

theorem fread_of_le (c : FixedCodec α) {f : List UInt8} {off : Nat} (h : off + c.size ≤ f.length) :
    fread c f off = some (c.dec (readAt f off c.size)) := by
  unfold fread
  rw [if_pos (by rw [readAt_length]; omega)]

theorem fread_of_lt (c : FixedCodec α) {f : List UInt8} {off : Nat} (hs : 0 < c.size)
    (h : f.length < off + c.size) : fread c f off = none := by
  unfold fread
  rw [if_neg (by rw [readAt_length]; omega)]

theorem le_of_fread (c : FixedCodec α) {f : List UInt8} {off : Nat} {a : α} (hs : 0 < c.size)
    (h : fread c f off = some a) : off + c.size ≤ f.length := by
  by_contra hlt
  rw [fread_of_lt c hs (by omega)] at h
  exact absurd h (by simp)

theorem fread_fwrite_self (c : FixedCodec α) (f : List UInt8) (off : Nat) (a : α) :
    fread c (fwrite c f off a) off = some a := by
  have h := readAt_writeAt_self f off (c.enc a)
  rw [c.length_enc] at h
  unfold fread fwrite
  rw [h, if_pos (c.length_enc a), c.dec_enc]

theorem fread_fwrite_before (c : FixedCodec α) (d : FixedCodec β) (f : List UInt8)
    {off off' : Nat} (b : β) (h : off' + c.size ≤ off) (hf : off' + c.size ≤ f.length) :
    fread c (fwrite d f off b) off' = fread c f off' := by
  unfold fread fwrite
  rw [readAt_writeAt_before f off _ off' c.size h hf]

theorem fread_fwrite_after (c : FixedCodec α) (d : FixedCodec β) (f : List UInt8)
    {off off' : Nat} (b : β) (h : off + d.size ≤ off') :
    fread c (fwrite d f off b) off' = fread c f off' := by
  unfold fread fwrite
  rw [readAt_writeAt_after f off _ off' c.size (by rw [d.length_enc]; exact h)]

/-! ## Records after a header of `h` bytes -/

/-- Byte offset of record `i`. -/
def slotOffset (h : Nat) (c : FixedCodec α) (i : Nat) : Nat := h + c.size * i

/-- Record `i` of the file. -/
def slot (h : Nat) (c : FixedCodec α) (f : List UInt8) (i : Nat) : Option α :=
  fread c f (slotOffset h c i)

theorem slotOffset_add_size_le (h : Nat) (c : FixedCodec α) {i j : Nat} (hij : i < j) :
    slotOffset h c i + c.size ≤ slotOffset h c j := by
  have := Nat.mul_le_mul_left c.size (show i + 1 ≤ j from hij)
  rw [Nat.mul_succ] at this
  unfold slotOffset
  omega

theorem le_slotOffset (h : Nat) (c : FixedCodec α) (i : Nat) : h ≤ slotOffset h c i :=
  Nat.le_add_right _ _

theorem slot_write_self (h : Nat) (c : FixedCodec α) (f : List UInt8) (i : Nat) (a : α) :
    slot h c (fwrite c f (slotOffset h c i) a) i = some a := fread_fwrite_self c f _ a

/-- Writing record `i` keeps every other record that is there. -/
theorem slot_write_ne (h : Nat) (c : FixedCodec α) (hs : 0 < c.size) (f : List UInt8) {i j : Nat}
    (a x : α) (hne : j ≠ i) (hj : slot h c f j = some x) :
    slot h c (fwrite c f (slotOffset h c i) a) j = some x := by
  rw [← hj]
  rcases Nat.lt_or_gt_of_ne hne with hlt | hgt
  · exact fread_fwrite_before c c f a (slotOffset_add_size_le h c hlt) (le_of_fread c hs hj)
  · exact fread_fwrite_after c c f a (slotOffset_add_size_le h c hgt)

/-- Writing record `i` inside the file, or at its end, changes no other record. -/
theorem slot_write_ne_of_le (h : Nat) (c : FixedCodec α) (f : List UInt8) {i j : Nat} (a : α)
    (hne : j ≠ i) (hi : slotOffset h c i ≤ f.length) :
    slot h c (fwrite c f (slotOffset h c i) a) j = slot h c f j := by
  rcases Nat.lt_or_gt_of_ne hne with hlt | hgt
  · have hj := slotOffset_add_size_le h c hlt
    exact fread_fwrite_before c c f a hj (Nat.le_trans hj hi)
  · exact fread_fwrite_after c c f a (slotOffset_add_size_le h c hgt)

/-- A record that was not there before record `i` was written ends in the gap of zeros. -/
theorem slot_write_gap (h : Nat) (c : FixedCodec α) (hs : 0 < c.size) (f : List UInt8) {i j : Nat}
    (a x : α) (hne : j ≠ i) (hj : slot h c f j = none)
    (hx : slot h c (fwrite c f (slotOffset h c i) a) j = some x) :
    ∃ l, x = c.dec l ∧ l.getD (c.size - 1) 0 = 0 := by
  rcases Nat.lt_or_gt_of_ne hne with hlt | hgt
  · have hle := slotOffset_add_size_le h c hlt
    have hin := le_of_fread c hs hx
    have hshort : f.length < slotOffset h c j + c.size := by
      by_contra hlong
      rw [slot, fread_of_le c (by omega)] at hj
      cases hj
    rw [slot, fread_of_le c hin] at hx
    refine ⟨_, (Option.some.inj hx).symm, ?_⟩
    unfold readAt
    rw [List.getD_eq_getElem?_getD, List.getElem?_take_of_lt (by omega), List.getElem?_drop,
      fwrite, writeAt, List.append_assoc, List.append_assoc,
      List.getElem?_append_right (by rw [List.length_take]; omega),
      List.getElem?_append_left (by rw [List.length_take, List.length_replicate]; omega)]
    rw [List.getElem?_replicate]
    split <;> rfl
  · rw [slot, fread_fwrite_after c c f a (slotOffset_add_size_le h c hgt), ← slot, hj] at hx
    cases hx

/-- Writing a header of at most `h` bytes keeps every record. -/
theorem slot_write_header (h : Nat) (c : FixedCodec α) (d : FixedCodec β) (hd : d.size ≤ h)
    (f : List UInt8) (b : β) (i : Nat) : slot h c (fwrite d f 0 b) i = slot h c f i :=
  fread_fwrite_after c d f b (by have := le_slotOffset h c i; omega)

/-- Writing a record keeps the header in front of it. -/
theorem header_write_slot (h : Nat) (c : FixedCodec α) (d : FixedCodec β) (hs : 0 < d.size)
    (hd : d.size ≤ h) (f : List UInt8) (i : Nat) (a : α) (b : β) (hb : fread d f 0 = some b) :
    fread d (fwrite c f (slotOffset h c i) a) 0 = some b := by
  rw [← hb]
  have hl := le_of_fread d hs hb
  exact fread_fwrite_before d c f a (by have := le_slotOffset h c i; omega) hl

end RecordFile
