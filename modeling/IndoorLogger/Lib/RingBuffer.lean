import Mathlib.Tactic.Ring
import Mathlib.Data.List.DropRight
import Mathlib.Data.List.Rotate
import Mathlib.Tactic.Common

/-
  A ring buffer of capacity `cap`: slots filled in order, then overwritten from the oldest.
  The shape of a ring changes once, when it first wraps: before that the next slot is the
  number of slots in use, afterwards it is the oldest one. `toList` is the content, oldest
  first, and pushing keeps the newest `cap` elements (`toList_push`).
-/

/-! ## Read loops -/

/-- A loop over `xs.length` steps whose step `i` yields `xs[i]`. -/
theorem filterMap_range_eq {α : Type} (e : Nat → Option α) (xs : List α)
    (h : ∀ i x, xs[i]? = some x → e i = some x) : (List.range xs.length).filterMap e = xs := by
  induction xs generalizing e with
  | nil => rfl
  | cons x xs ih =>
    rw [List.length_cons, List.range_succ_eq_map, List.filterMap_cons_some (h 0 x rfl),
      List.filterMap_map]
    congr 1
    exact ih (e ∘ Nat.succ) fun i y hy => h (i + 1) y (by simpa using hy)

/-- A loop whose last `xs.length` steps yield `xs`. -/
theorem filterMap_range_append {α : Type} (e : Nat → Option α) (n : Nat) (xs : List α)
    (h : ∀ i x, xs[i]? = some x → e (n + i) = some x) :
    (List.range (n + xs.length)).filterMap e = (List.range n).filterMap e ++ xs := by
  rw [List.range_add, List.filterMap_append, List.filterMap_map]
  congr 1
  exact filterMap_range_eq _ xs h

/-- Dropping steps of a loop changes its result unless the steps yield nothing. -/
theorem filterMap_guard_eq_iff {α β : Type} (s : α → Option β) (p : α → Prop) [DecidablePred p]
    (l : List α) :
    (l.filterMap fun a => if p a then s a else none) = l.filterMap s ↔
      ∀ a ∈ l, ¬ p a → s a = none := by
  have hshort : ∀ l : List α,
      (l.filterMap fun a => if p a then s a else none).length ≤ (l.filterMap s).length := by
    intro l
    induction l with
    | nil => exact Nat.le_refl _
    | cons a l ih =>
      rw [List.filterMap_cons, List.filterMap_cons]
      by_cases hp : p a
      · rw [if_pos hp]
        cases s a with
        | none => exact ih
        | some b => exact Nat.succ_le_succ ih
      · rw [if_neg hp]
        cases s a with
        | none => exact ih
        | some b => exact Nat.le_succ_of_le ih
  induction l with
  | nil => exact iff_of_true rfl fun a ha => absurd ha List.not_mem_nil
  | cons a l ih =>
    rw [List.filterMap_cons, List.filterMap_cons, List.forall_mem_cons,
      show (∀ b ∈ l, ¬ p b → s b = none) ↔ _ from ih.symm]
    by_cases hp : p a
    · rw [if_pos hp]
      cases s a with
      | none => simp
      | some b => simp [hp]
    · rw [if_neg hp]
      cases hs : s a with
      | none => simp
      | some b =>
        refine iff_of_false (fun heq => ?_) fun h' => ?_
        · have := congrArg List.length heq
          have := hshort l
          simp only [List.length_cons] at *
          omega
        · exact absurd (h'.1 hp) (Option.some_ne_none b)

/-! ## Rotations -/

/-- A list is unchanged by a rotation when each element equals the one it is moved onto. -/
theorem map_rotate_eq_iff {α β : Type} (l : List α) (n : Nat) (p : α → β) :
    l.map p = (l.rotate n).map p ↔
      ∀ i < l.length, l[(i + n) % l.length]?.map p = l[i]?.map p := by
  constructor
  · intro h i hi
    have hi' := congrArg (·[i]?) h
    rw [List.getElem?_map, List.getElem?_map, List.getElem?_rotate hi] at hi'
    exact hi'.symm
  · intro h
    apply List.ext_getElem?
    intro i
    rw [List.getElem?_map, List.getElem?_map]
    by_cases hi : i < l.length
    · rw [List.getElem?_rotate hi, h i hi]
    · rw [List.getElem?_eq_none (by omega),
        List.getElem?_eq_none (by rw [List.length_rotate]; omega)]

/-! ## Rings -/

/-- The slots in use, and the slot the next push goes to. -/
structure RingBuffer (α : Type) (cap : Nat) where
  slots : List α
  next : Nat
  next_lt : next < cap
  length_le : slots.length ≤ cap
  next_eq : slots.length < cap → next = slots.length

namespace RingBuffer

variable {α : Type} {cap : Nat}

/-- The slot of the oldest element. -/
def start (r : RingBuffer α cap) : Nat := if r.slots.length < cap then 0 else r.next

/-- The content, oldest first. -/
def toList (r : RingBuffer α cap) : List α := r.slots.rotate r.start

/-- The slot that holds element `i` of the content. -/
def index (r : RingBuffer α cap) (i : Nat) : Nat := (r.start + i) % cap

def empty (h : 0 < cap) : RingBuffer α cap := ⟨[], 0, h, Nat.zero_le _, fun _ => rfl⟩

/-- The slots after `x` is stored in the next one. -/
def slotsPush (r : RingBuffer α cap) (x : α) : List α :=
  if r.slots.length < cap then r.slots ++ [x] else r.slots.set r.next x

theorem length_slotsPush_le (r : RingBuffer α cap) (x : α) : (r.slotsPush x).length ≤ cap := by
  have hle := r.length_le
  rw [slotsPush]
  split
  · rw [List.length_append, List.length_singleton]
    omega
  · rwa [List.length_set]

theorem next_slotsPush (r : RingBuffer α cap) (x : α) (h : (r.slotsPush x).length < cap) :
    (r.next + 1) % cap = (r.slotsPush x).length := by
  have hn := r.next_eq
  rw [slotsPush] at h ⊢
  split at h
  · rename_i hlt
    rw [if_pos hlt]
    rw [List.length_append, List.length_singleton] at h ⊢
    rw [hn hlt, Nat.mod_eq_of_lt h]
  · rename_i hge
    rw [List.length_set] at h
    exact absurd h hge

/-- Store `x` in the next slot, over the oldest element when the ring is full. -/
def push (r : RingBuffer α cap) (x : α) : RingBuffer α cap where
  slots := r.slotsPush x
  next := (r.next + 1) % cap
  next_lt := Nat.mod_lt _ (Nat.zero_lt_of_lt r.next_lt)
  length_le := r.length_slotsPush_le x
  next_eq := r.next_slotsPush x

@[simp] theorem toList_empty (h : 0 < cap) : (empty h : RingBuffer α cap).toList = [] := by
  simp [toList, empty]

@[simp] theorem length_toList (r : RingBuffer α cap) : r.toList.length = r.slots.length := by
  simp [toList]

theorem start_lt (r : RingBuffer α cap) : r.start < cap := by
  unfold start
  split
  · omega
  · exact r.next_lt

theorem start_eq_zero (r : RingBuffer α cap) (h : r.slots.length < cap) : r.start = 0 := if_pos h

theorem start_eq_next (r : RingBuffer α cap) (h : ¬ r.slots.length < cap) : r.start = r.next :=
  if_neg h

/-- The slots of a ring whose content is `xs`. -/
theorem exists_slots_eq_map {β : Type} {f : β → α} {xs : List β} (r : RingBuffer α cap)
    (h : r.toList = xs.map f) :
    ∃ ys : List β, r.slots = ys.map f ∧ ys.rotate r.start = xs := by
  refine ⟨xs.rotate (xs.length - r.start % xs.length), ?_, List.rotate_eq_iff.mpr rfl⟩
  rw [List.map_rotate, ← List.length_map (f := f), ← List.rotate_eq_iff]
  exact h

/-- Element `i` of the content is in slot `index i`. -/
theorem getElem?_toList (r : RingBuffer α cap) (i : Nat) (h : i < r.slots.length) :
    r.toList[i]? = r.slots[r.index i]? := by
  have hle := r.length_le
  unfold toList
  rw [List.getElem?_rotate h, index]
  by_cases hlt : r.slots.length < cap
  · rw [r.start_eq_zero hlt, Nat.add_zero, Nat.zero_add, Nat.mod_eq_of_lt h,
      Nat.mod_eq_of_lt (by omega)]
  · rw [show r.slots.length = cap by omega, Nat.add_comm]

theorem index_lt (r : RingBuffer α cap) (i : Nat) (h : i < r.slots.length) :
    r.index i < r.slots.length := by
  have hle := r.length_le
  by_cases hlt : r.slots.length < cap
  · unfold index
    rw [r.start_eq_zero hlt, Nat.zero_add, Nat.mod_eq_of_lt (by omega)]
    exact h
  · have := Nat.mod_lt (r.start + i) (show 0 < cap by omega)
    rw [index]; omega

theorem index_inj (r : RingBuffer α cap) {i j : Nat} (hi : i < r.slots.length)
    (hj : j < r.slots.length)
    (h : r.index i = r.index j) : i = j := by
  have hle := r.length_le
  have hs := r.start_lt
  have wrap : ∀ k < cap, (r.start + k) % cap =
      if r.start + k < cap then r.start + k else r.start + k - cap := by
    intro k hk
    split
    · rename_i hlt; exact Nat.mod_eq_of_lt hlt
    · rename_i hge
      rw [Nat.mod_eq_sub_mod (by omega), Nat.mod_eq_of_lt (by omega)]
  rw [index, index, wrap i (by omega), wrap j (by omega)] at h
  split at h <;> split at h <;> omega

/-- Every slot in use holds an element of the content. -/
theorem exists_index (r : RingBuffer α cap) {s : Nat} (h : s < r.slots.length) :
    ∃ i < r.slots.length, r.index i = s := by
  have hle := r.length_le
  have hst := r.start_lt
  by_cases hlt : r.slots.length < cap
  · refine ⟨s, h, ?_⟩
    unfold index
    rw [r.start_eq_zero hlt, Nat.zero_add, Nat.mod_eq_of_lt (by omega)]
  · by_cases hs : r.start ≤ s
    · refine ⟨s - r.start, by omega, ?_⟩
      unfold index
      rw [show r.start + (s - r.start) = s by omega, Nat.mod_eq_of_lt (by omega)]
    · refine ⟨s + cap - r.start, by omega, ?_⟩
      unfold index
      rw [show r.start + (s + cap - r.start) = s + cap by omega, Nat.add_mod_right,
        Nat.mod_eq_of_lt (by omega)]

/-- The window of the newest `u` elements, found from `next` alone. -/
theorem window_index (r : RingBuffer α cap) {u : Nat} (hu : u ≤ r.slots.length) (i : Nat) :
    ((r.next + cap - u) % cap + i) % cap = r.index (r.slots.length - u + i) := by
  have hle := r.length_le
  rw [Nat.mod_add_mod, index]
  by_cases hlt : r.slots.length < cap
  · rw [r.start_eq_zero hlt, r.next_eq hlt, Nat.zero_add,
      show r.slots.length + cap - u + i = r.slots.length - u + i + cap by omega,
      Nat.add_mod_right]
  · rw [r.start_eq_next hlt, show r.slots.length = cap by omega]
    congr 1
    omega

/-! ## Pushing -/

/-- A push keeps the newest `cap` elements. -/
theorem toList_push (r : RingBuffer α cap) (x : α) :
    (r.push x).toList = (r.toList ++ [x]).rtake cap := by
  have hle := r.length_le
  have hnx := r.next_lt
  by_cases hlt : r.slots.length < cap
  · -- not yet wrapped: the content is the slots in order, before and after
    have hs : (r.push x).start = 0 := by
      unfold start
      split
      · rfl
      · rename_i hge
        simp only [push, slotsPush, if_pos hlt, List.length_append, List.length_singleton] at hge ⊢
        rw [r.next_eq hlt, show r.slots.length + 1 = cap by omega, Nat.mod_self]
    rw [toList, hs, toList, r.start_eq_zero hlt, List.rotate_zero, List.rotate_zero]
    simp only [push, slotsPush, if_pos hlt, List.rtake, List.length_append, List.length_singleton]
    rw [show r.slots.length + 1 - cap = 0 by omega, List.drop_zero]
  · -- full: the slots split around the oldest element, which the push replaces
    have hlen : r.slots.length = cap := by omega
    have hs : (r.push x).start = (r.next + 1) % cap := by
      unfold start
      rw [if_neg]
      · rfl
      · simp [push, slotsPush, hlen]
    have hps : (r.push x).slots = r.slots.set r.next x := if_neg hlt
    rw [toList, hs, hps, toList, r.start_eq_next hlt]
    have hrot : (r.slots.set r.next x).rotate ((r.next + 1) % cap) =
        (r.slots.set r.next x).rotate (r.next + 1) := by
      rw [← List.rotate_mod (r.slots.set r.next x) (r.next + 1), List.length_set, hlen]
    rw [hrot, List.rotate_eq_drop_append_take (by rw [List.length_set]; omega),
      List.rotate_eq_drop_append_take (by omega), List.drop_set_of_lt (by omega),
      List.take_add_one, List.take_set_of_le (Nat.le_refl _), List.getElem?_set_self (by omega),
      List.drop_eq_getElem_cons (show r.next < r.slots.length by omega)]
    simp only [List.rtake, Option.toList_some, List.length_append, List.length_cons,
      List.length_drop, List.length_take, List.length_nil, List.cons_append]
    rw [show r.slots.length - (r.next + 1) + min r.next r.slots.length + (0 + 1) + 1 - cap = 1 by
      omega, List.drop_succ_cons, List.drop_zero, List.append_assoc]

theorem length_push (r : RingBuffer α cap) (x : α) :
    (r.push x).slots.length = min (r.slots.length + 1) cap := by
  have := r.length_le
  simp only [push, slotsPush]
  split <;> simp <;> omega

/-- Keeping the newest `n` twice is keeping them once. -/
theorem rtake_rtake_append (l : List α) (n : Nat) (x : α) :
    (l.rtake n ++ [x]).rtake n = (l ++ [x]).rtake n := by
  cases n with
  | zero => simp
  | succ n =>
    rw [List.rtake_concat_succ, List.rtake_concat_succ]
    simp only [List.rtake, List.length_drop, List.drop_drop]
    congr 2
    omega

/-- What was appended last is newest. -/
theorem rtake_rtake_of_le (l xs : List α) {n : Nat} (h : xs.length ≤ n) :
    ((l ++ xs).rtake n).rtake xs.length = xs := by
  simp only [List.rtake, List.length_append, List.length_drop, List.drop_drop]
  rw [show l.length + xs.length - n + (l.length + xs.length - (l.length + xs.length - n) -
    xs.length) = l.length by omega, List.drop_left]

/-- The content after pushing `xs` from the empty ring. -/
theorem toList_foldl_push (r : RingBuffer α cap) (l xs : List α) (h : r.toList = l.rtake cap) :
    (xs.foldl push r).toList = (l ++ xs).rtake cap := by
  induction xs generalizing r l with
  | nil => simpa using h
  | cons x xs ih =>
    have := ih (r.push x) (l ++ [x]) (by rw [toList_push, h, rtake_rtake_append])
    simpa using this

/-! ## Replacing an element in place -/

/-- Overwrite element `i` of the content in its slot. -/
def setAt (r : RingBuffer α cap) (i : Nat) (x : α) : RingBuffer α cap where
  slots := r.slots.set (r.index i) x
  next := r.next
  next_lt := r.next_lt
  length_le := by rw [List.length_set]; exact r.length_le
  next_eq := by rw [List.length_set]; exact r.next_eq

@[simp] theorem index_setAt (r : RingBuffer α cap) (i j : Nat) (x : α) :
    (r.setAt i x).index j = r.index j := by
  simp [index, start, setAt]

@[simp] theorem length_setAt (r : RingBuffer α cap) (i : Nat) (x : α) :
    (r.setAt i x).slots.length = r.slots.length := by
  simp [setAt]

theorem toList_setAt (r : RingBuffer α cap) (i : Nat) (x : α) (h : i < r.slots.length) :
    (r.setAt i x).toList = r.toList.set i x := by
  apply List.ext_getElem?
  intro j
  by_cases hj : j < r.slots.length
  · rw [getElem?_toList _ j (by simpa using hj), index_setAt]
    simp only [setAt]
    by_cases hij : i = j
    · subst hij
      rw [List.getElem?_set_self (r.index_lt i h), List.getElem?_set_self (by simpa using h)]
    · rw [List.getElem?_set_ne (fun e => hij (r.index_inj h hj e)), List.getElem?_set_ne hij,
        getElem?_toList r j hj]
  · rw [List.getElem?_eq_none (by simpa using hj), List.getElem?_eq_none (by simpa using hj)]

end RingBuffer
