import Mathlib.Data.Nat.Find
import Mathlib.Order.Basic

/-
  Maximal runs of a value in a sequence: every index that has the value is in exactly one of
  them, and two of them do not overlap.
-/

namespace Runs

variable {α : Type} {f : Nat → α} {v : α} {i i' k k' : Nat}

/-- The run of `v` through index `k` starts at `i`. -/
structure StartsAt (f : Nat → α) (v : α) (i k : Nat) : Prop where
  le : i ≤ k
  all : ∀ m, i ≤ m → m ≤ k → f m = v
  start : ∀ j, i = j + 1 → f j ≠ v

/-- The indices from `i` to `j` are a maximal run of `v`. -/
structure Maximal (f : Nat → α) (v : α) (i j : Nat) : Prop extends StartsAt f v i j where
  stop : f (j + 1) ≠ v

theorem StartsAt.last (h : StartsAt f v i k) : f k = v := h.all k h.le (Nat.le_refl k)

theorem StartsAt.succ (h : StartsAt f v i k) (hk : f (k + 1) = v) : StartsAt f v i (k + 1) where
  le := h.le.trans (Nat.le_succ k)
  all m him hmk := by
    rcases Nat.le_succ_iff.mp hmk with hm | rfl
    · exact h.all m him hm
    · exact hk
  start := h.start

/-- A run starts behind another value. -/
theorem startsAt_succ (hk : f k ≠ v) (hs : f (k + 1) = v) : StartsAt f v (k + 1) (k + 1) where
  le := Nat.le_refl _
  all m hkm hmk := by rwa [Nat.le_antisymm hmk hkm]
  start j hj := by rwa [← Nat.succ.inj hj]

theorem startsAt_zero (h : f 0 = v) : StartsAt f v 0 0 where
  le := Nat.le_refl _
  all m _ hm := by rwa [Nat.le_zero.mp hm]
  start _ hj := nomatch hj

theorem exists_startsAt (h : f k = v) : ∃ i, StartsAt f v i k := by
  induction k with
  | zero => exact ⟨0, startsAt_zero h⟩
  | succ k ih =>
    by_cases hk : f k = v
    · obtain ⟨i, hi⟩ := ih hk
      exact ⟨i, hi.succ h⟩
    · exact ⟨k + 1, startsAt_succ hk h⟩

/-- Runs that overlap start at the same index. -/
theorem StartsAt.eq_of_overlap (h : StartsAt f v i k) (h' : StartsAt f v i' k') (hk : i ≤ k')
    (hk' : i' ≤ k) : i = i' := by
  have hno : ∀ {a b c d : Nat}, StartsAt f v a b → StartsAt f v c d → c ≤ b → ¬a < c := by
    intro a b c d hab hcd hcb hac
    obtain ⟨j, rfl⟩ := Nat.exists_eq_add_of_lt hac
    exact hcd.start (a + j) rfl (hab.all (a + j) (Nat.le_add_right a j) (by omega))
  exact Nat.le_antisymm (Nat.not_lt.mp (hno h' h hk)) (Nat.not_lt.mp (hno h h' hk'))

/-- Of two runs the first ends before the second starts. -/
theorem StartsAt.lt_of_lt (h : StartsAt f v i k) (h' : StartsAt f v i' k') (hlt : i < i') :
    k < i' := by
  by_contra hle
  exact hlt.ne (h.eq_of_overlap h' (hlt.le.trans h'.le) (Nat.not_lt.mp hle))

/-- A run that ends at all extends to a maximal one. -/
theorem StartsAt.exists_maximal (h : StartsAt f v i k) (hend : ∃ n, k ≤ n ∧ f n ≠ v) :
    ∃ j, k ≤ j ∧ Maximal f v i j := by
  classical
  obtain ⟨hk, hne⟩ := Nat.find_spec hend
  have hpos : Nat.find hend ≠ k := fun he => hne (by rw [he]; exact h.last)
  obtain ⟨j, hj⟩ := Nat.exists_eq_add_of_lt (lt_of_le_of_ne hk hpos.symm)
  refine ⟨k + j, Nat.le_add_right k j, ⟨h.le.trans (Nat.le_add_right k j), fun m him hmj => ?_,
    h.start⟩, hj ▸ hne⟩
  by_contra hm
  rcases Nat.le_total m k with hmk | hkm
  · exact hm (h.all m him hmk)
  · exact Nat.find_min hend (by omega) ⟨hkm, hm⟩

/-- An index with another value is outside the run. -/
theorem StartsAt.lt_or_lt (h : StartsAt f v i k) {m : Nat} (hm : f m ≠ v) : m < i ∨ k < m := by
  by_contra hno
  obtain ⟨hi, hk⟩ := not_or.mp hno
  exact hm (h.all m (Nat.not_lt.mp hi) (Nat.not_lt.mp hk))

end Runs
