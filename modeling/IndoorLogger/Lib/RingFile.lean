import IndoorLogger.Lib.RecordFile
import IndoorLogger.Lib.RingBuffer

/-
  A ring kept in a record file. `Stores val h c f r` says that the slots of `r` are the records
  of `f` behind `h` header bytes; `val` is the record an element stands for, none for an
  element whose bytes are not known. Pushing and replacing an element write one record each,
  and writing the header keeps them all.
-/

namespace RingFile

open RecordFile

variable {α β γ : Type} {cap : Nat}

def Stores (val : β → Option α) (h : Nat) (c : FixedCodec α) (f : List UInt8)
    (r : RingBuffer β cap) :
    Prop :=
  ∀ i b x, r.slots[i]? = some b → val b = some x → slot h c f i = some x

variable {val : β → Option α} {h : Nat} {c : FixedCodec α} {f : List UInt8} {r : RingBuffer β cap}

theorem stores_empty (hcap : 0 < cap) : Stores val h c f (RingBuffer.empty hcap) := by
  intro i b x hi
  simp [RingBuffer.empty] at hi

/-- Overwriting slot `i` of the slot list with an element that stands for `a`. -/
theorem stores_write (hs : 0 < c.size) (hf : Stores val h c f r) {l : List β} {i : Nat} {b : β}
    {a : α} (hb : val b = some a) (hi : ∀ x, l[i]? = some x → x = b)
    (hl : ∀ j x, j ≠ i → l[j]? = some x → r.slots[j]? = some x) (j : Nat) (e : β) (x : α)
    (hj : l[j]? = some e) (hx : val e = some x) :
    slot h c (fwrite c f (slotOffset h c i) a) j = some x := by
  by_cases hji : j = i
  · subst hji
    rw [hi e hj, hb] at hx
    rw [← Option.some.inj hx]
    exact slot_write_self ..
  · exact slot_write_ne _ _ hs _ _ _ hji (hf j e x (hl j e hji hj) hx)

/-- One record written at `next` is one push. -/
theorem stores_push (hs : 0 < c.size) (hf : Stores val h c f r) {b : β} {a : α}
    (hb : val b = some a) :
    Stores val h c (fwrite c f (slotOffset h c r.next) a) (r.push b) := by
  intro j e x hj hx
  have hnx := r.next_lt
  have hle := r.length_le
  refine stores_write hs hf hb (fun y hy => ?_) (fun k y hk hy => ?_) j e x hj hx
  · simp only [RingBuffer.push, RingBuffer.slotsPush] at hy
    split at hy
    · rename_i hlt
      rw [r.next_eq hlt, List.getElem?_concat_length] at hy
      exact (Option.some.inj hy).symm
    · rw [List.getElem?_set_self (by omega)] at hy
      exact (Option.some.inj hy).symm
  · simp only [RingBuffer.push, RingBuffer.slotsPush] at hy
    split at hy
    · rename_i hlt
      have hkl := (List.getElem?_eq_some_iff.mp hy).1
      rw [List.length_append, List.length_singleton] at hkl
      have := r.next_eq hlt
      rwa [List.getElem?_append_left (by omega)] at hy
    · rwa [List.getElem?_set_ne (Ne.symm hk)] at hy

/-- One record written at the slot of element `i` replaces that element. -/
theorem stores_setAt (hs : 0 < c.size) (hf : Stores val h c f r) {i : Nat}
    (hi : i < r.slots.length) {b : β} {a : α} (hb : val b = some a) :
    Stores val h c (fwrite c f (slotOffset h c (r.index i)) a) (r.setAt i b) := by
  intro j e x hj hx
  refine stores_write hs hf hb (fun y hy => ?_) (fun k y hk hy => ?_) j e x hj hx
  · rw [RingBuffer.setAt, List.getElem?_set_self (r.index_lt i hi)] at hy
    exact (Option.some.inj hy).symm
  · rwa [RingBuffer.setAt, List.getElem?_set_ne (Ne.symm hk)] at hy

/-- Writing the header keeps the records. -/
theorem stores_header (hf : Stores val h c f r) (d : FixedCodec γ) (hd : d.size ≤ h) (g : γ) :
    Stores val h c (fwrite d f 0 g) r := by
  intro i b x hi hx
  rw [slot_write_header h c d hd]
  exact hf i b x hi hx

/-- Element `i` of the content is the record in slot `index i`. -/
theorem Stores.slot_index (hf : Stores val h c f r) {i : Nat} {b : β} {x : α}
    (hi : r.toList[i]? = some b) (hx : val b = some x) : slot h c f (r.index i) = some x := by
  have hlt := (List.getElem?_eq_some_iff.mp hi).1
  rw [RingBuffer.length_toList] at hlt
  apply hf (r.index i) b x _ hx
  rw [← RingBuffer.getElem?_toList r i hlt, hi]

end RingFile
