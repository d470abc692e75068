import Mathlib.Tactic.Ring
import Mathlib.Data.List.Basic

/-
  A fixed array whose first `count` slots are in use: the loops that search it, close the gap
  a removed slot leaves, and append to it. `Holds v z l` says that the used slots are the list
  `l` and that the others hold the blank value `z`.
-/

namespace SlotArray

variable {α : Type} {n : Nat}

/-! ## Loops -/

/-- `for i = 0 .. count - 1: if p(v[i]) return i`. -/
def find (v : Vector α n) (count : Nat) (p : α → Bool) : Option Nat :=
  (List.range count).find? fun i => v[i]?.any p

/-- `for j = i .. i + m - 1: v[j] = v[j + 1]`. -/
def shiftLoop (v : Vector α n) : Nat → Nat → Vector α n
  | 0, _ => v
  | m + 1, j =>
    match v[j + 1]? with
    | some x => shiftLoop (v.setIfInBounds j x) m (j + 1)
    | none => v

/-- Remove slot `i` of `count`: shift the later ones down and blank the last. -/
def remove (v : Vector α n) (z : α) (i count : Nat) : Vector α n :=
  (shiftLoop v (count - 1 - i) i).setIfInBounds (count - 1) z

/-- `for i = 0 .. count - 1: v[i] = f(v[i])`. -/
def forEach (v : Vector α n) (f : α → α) (count : Nat) : Vector α n :=
  (List.range count).foldl
    (fun v i => match v[i]? with
      | some x => v.setIfInBounds i (f x)
      | none => v) v

theorem forEach_getElem? (v : Vector α n) (f : α → α) (count k : Nat) :
    (forEach v f count)[k]? = if k < count then v[k]?.map f else v[k]? := by
  induction count generalizing k with
  | zero => rfl
  | succ c ih =>
    have hstep : forEach v f (c + 1) = match (forEach v f c)[c]? with
        | some x => (forEach v f c).setIfInBounds c (f x)
        | none => forEach v f c := by
      unfold forEach
      rw [List.range_succ, List.foldl_append]
      rfl
    have hc : (forEach v f c)[c]? = v[c]? := by rw [ih c, if_neg (Nat.lt_irrefl c)]
    rw [hstep, hc]
    cases hv : v[c]? with
    | none =>
      by_cases hk : k = c
      · rw [ih k, hk, hv]
        simp
      · rw [ih k]
        exact if_congr (by omega) rfl rfl
    | some x =>
      by_cases hk : k = c
      · obtain ⟨hn, -⟩ := Vector.getElem?_eq_some_iff.mp hv
        rw [hk, Vector.getElem?_setIfInBounds_self_of_lt hn, if_pos (by omega), hv]
        rfl
      · rw [Vector.getElem?_setIfInBounds_ne (Ne.symm hk), ih k]
        exact if_congr (by omega) rfl rfl

theorem shiftLoop_getElem? (v : Vector α n) (m j : Nat) (h : j + m < n) (k : Nat) :
    (shiftLoop v m j)[k]? = if j ≤ k ∧ k < j + m then v[k + 1]? else v[k]? := by
  induction m generalizing v j with
  | zero =>
    unfold shiftLoop
    rw [if_neg (by omega)]
  | succ m ih =>
    have hx : v[j + 1]? = some v[j + 1] := Vector.getElem?_eq_getElem (by omega)
    simp only [shiftLoop, hx]
    rw [ih _ _ (by omega)]
    simp only [Vector.getElem?_setIfInBounds]
    by_cases hk : k = j
    · subst hk
      rw [if_neg (by omega), if_pos rfl, if_pos (by omega), if_pos (by omega), hx]
    · by_cases hin : j + 1 ≤ k ∧ k < j + 1 + m
      · rw [if_pos hin, if_neg (by omega), if_pos (by omega)]
      · rw [if_neg hin, if_neg (by omega), if_neg (by omega)]

/-- Every slot that stays in use holds what it held, or what the next one did. -/
theorem remove_getElem?_cases (v : Vector α n) (z : α) (i : Nat) {count k : Nat}
    (hc : count ≤ n) (hk : k < count - 1) :
    (remove v z i count)[k]? = v[k]? ∨ (remove v z i count)[k]? = v[k + 1]? := by
  rw [remove, Vector.getElem?_setIfInBounds_ne (Nat.ne_of_gt hk)]
  by_cases hi : i < count
  · rw [shiftLoop_getElem? _ _ _ (by omega)]
    split
    · exact .inr rfl
    · exact .inl rfl
  · rw [Nat.sub_eq_zero_of_le (by omega : count - 1 ≤ i)]
    exact .inl rfl

/-- The search goes through the first `count` slots in order. -/
theorem find_eq_findIdx? (v : Vector α n) {count : Nat} (hc : count ≤ n) (p : α → Bool) :
    find v count p = (v.toList.take count).findIdx? p := by
  have hlen : (v.toList.take count).length = count := by
    rw [List.length_take, Vector.length_toList, Nat.min_eq_left hc]
  have hslot : ∀ i < count, v[i]?.any p = (v.toList.take count)[i]?.any p := by
    intro i hi
    rw [List.getElem?_take_of_lt hi, Vector.getElem?_toList]
  cases hf : (v.toList.take count).findIdx? p with
  | none =>
    rw [List.findIdx?_eq_none_iff] at hf
    unfold find
    rw [List.find?_range_eq_none]
    intro i hi
    rw [hslot i hi, List.getElem?_eq_getElem (by omega), Option.any_some,
      hf _ (List.getElem_mem _)]
    rfl
  | some i =>
    obtain ⟨hi, hpi, hlt⟩ := List.findIdx?_eq_some_iff_getElem.mp hf
    unfold find
    rw [List.find?_range_eq_some]
    refine ⟨?_, List.mem_range.mpr (hlen ▸ hi), fun j hj => ?_⟩
    · rw [hslot i (hlen ▸ hi), List.getElem?_eq_getElem hi]
      exact hpi
    · rw [hslot j (by omega), List.getElem?_eq_getElem (by omega), Option.any_some]
      simpa using hlt j hj

/-! ## The list of used slots -/

/-- The first `l.length` slots hold `l`, the others hold `z`. -/
structure Holds (v : Vector α n) (z : α) (l : List α) : Prop where
  le : l.length ≤ n
  slot : ∀ k < n, v[k]? = some (l[k]?.getD z)

variable {v : Vector α n} {z : α} {l : List α}

theorem holds_replicate (z : α) : Holds (Vector.replicate n z) z [] := by
  refine ⟨Nat.zero_le _, fun k hk => ?_⟩
  rw [Vector.getElem?_eq_getElem hk, Vector.getElem_replicate]
  rfl

theorem Holds.getElem?_eq (h : Holds v z l) {i : Nat} (hi : i < l.length) : v[i]? = l[i]? := by
  rw [h.slot i (Nat.lt_of_lt_of_le hi h.le), List.getElem?_eq_getElem hi]
  rfl

/-- An array holds at most one list of a given length. -/
theorem Holds.unique {l' : List α} (h : Holds v z l) (h' : Holds v z l')
    (hlen : l.length = l'.length) : l = l' := by
  apply List.ext_getElem?
  intro i
  by_cases hi : i < l.length
  · rw [← h.getElem?_eq hi, ← h'.getElem?_eq (hlen ▸ hi)]
  · rw [List.getElem?_eq_none (Nat.le_of_not_lt hi), List.getElem?_eq_none (by omega)]

theorem Holds.blank (h : Holds v z l) {i : Nat} (hi : l.length ≤ i) (hn : i < n) :
    v[i]? = some z := by
  rw [h.slot i hn, List.getElem?_eq_none hi]
  rfl

/-- All slots, the blank ones included. -/
theorem Holds.toList_eq (h : Holds v z l) : v.toList = l ++ List.replicate (n - l.length) z := by
  have hle := h.le
  apply List.ext_getElem?
  intro i
  by_cases hi : i < n
  · rw [Vector.getElem?_toList, h.slot i hi, List.getElem?_append]
    by_cases hl : i < l.length
    · rw [if_pos hl, List.getElem?_eq_getElem hl]
      rfl
    · rw [if_neg hl, List.getElem?_replicate, if_pos (by omega), List.getElem?_eq_none (by omega)]
      rfl
  · rw [List.getElem?_eq_none (by rw [Vector.length_toList]; omega), List.getElem?_eq_none]
    rw [List.length_append, List.length_replicate]
    omega

theorem Holds.find_eq (h : Holds v z l) (p : α → Bool) : find v l.length p = l.findIdx? p := by
  rw [find_eq_findIdx? v h.le, h.toList_eq, List.take_left]

theorem Holds.set (h : Holds v z l) {i : Nat} (hi : i < l.length) (x : α) :
    Holds (v.setIfInBounds i x) z (l.set i x) := by
  refine ⟨by rw [List.length_set]; exact h.le, fun k hk => ?_⟩
  have hin : i < n := Nat.lt_of_lt_of_le hi h.le
  rw [Vector.getElem?_setIfInBounds, List.getElem?_set, h.slot k hk]
  by_cases hik : i = k
  · rw [if_pos hik, if_pos hik, if_pos hin, if_pos hi]
    rfl
  · rw [if_neg hik, if_neg hik]

theorem Holds.push (h : Holds v z l) (hl : l.length < n) (x : α) :
    Holds (v.setIfInBounds l.length x) z (l ++ [x]) := by
  refine ⟨by rw [List.length_append, List.length_singleton]; omega, fun k hk => ?_⟩
  rw [Vector.getElem?_setIfInBounds, List.getElem?_append, h.slot k hk]
  by_cases hkl : l.length = k
  · subst hkl
    rw [if_pos rfl, if_pos hl, if_neg (by omega), Nat.sub_self]
    rfl
  · rw [if_neg hkl]
    by_cases hlt : k < l.length
    · rw [if_pos hlt]
    · rw [if_neg hlt, List.getElem?_eq_none (by omega), List.getElem?_singleton,
        if_neg (by omega)]

theorem Holds.forEach (h : Holds v z l) (f : α → α) : Holds (forEach v f l.length) z (l.map f) := by
  refine ⟨by rw [List.length_map]; exact h.le, fun k hk => ?_⟩
  rw [forEach_getElem?, List.getElem?_map]
  by_cases hkl : k < l.length
  · rw [if_pos hkl, h.slot k hk, List.getElem?_eq_getElem hkl]
    rfl
  · rw [if_neg hkl, h.slot k hk, List.getElem?_eq_none (by omega)]
    rfl

theorem Holds.remove (h : Holds v z l) {i : Nat} (hi : i < l.length) :
    Holds (remove v z i l.length) z (l.eraseIdx i) := by
  have hle := h.le
  have hlen := List.length_eraseIdx_of_lt hi
  refine ⟨by omega, fun k hk => ?_⟩
  rw [SlotArray.remove, Vector.getElem?_setIfInBounds, shiftLoop_getElem? _ _ _ (by omega),
    List.getElem?_eraseIdx]
  by_cases hlast : l.length - 1 = k
  · -- the slot that falls free
    rw [if_pos hlast, if_pos (by omega), if_neg (by omega), List.getElem?_eq_none (by omega)]
    rfl
  · rw [if_neg hlast]
    by_cases hki : k < i
    · rw [if_neg (by omega), if_pos hki, h.slot k hk]
    · rw [if_neg hki]
      by_cases hkl : k < l.length - 1
      · rw [if_pos (by omega), h.slot _ (by omega)]
      · rw [if_neg (by omega), h.slot k hk, List.getElem?_eq_none (by omega),
          List.getElem?_eq_none (by omega)]

/-- What was written to a slot before it is removed does not matter. -/
theorem Holds.set_remove (h : Holds v z l) {i : Nat} (hi : i < l.length) (x : α) :
    Holds (SlotArray.remove (v.setIfInBounds i x) z i l.length) z (l.eraseIdx i) := by
  have := (h.set hi x).remove (by rwa [List.length_set])
  rwa [List.length_set, List.eraseIdx_set_eq] at this

end SlotArray
