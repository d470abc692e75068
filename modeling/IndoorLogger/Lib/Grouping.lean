import Mathlib.Algebra.BigOperators.Group.Finset.Basic
import Mathlib.Algebra.Order.BigOperators.Group.List
import Mathlib.Algebra.Order.Ring.Int
import Mathlib.Data.Finset.Sort
import Mathlib.Data.List.TakeWhile

/-
  Grouping a list whose elements are sorted by a key. The groups are the runs of equal keys:
  the first run is the group of the first key (`takeWhile_eq_group`), and what is behind it
  holds the groups of all other keys (`keys_cons`, `group_dropWhile`). The mean of integers,
  truncated toward zero as C divides, lies between the least and the greatest of them.
-/

namespace Grouping

variable {α κ : Type} [LinearOrder κ] (key : α → κ)

/-- The distinct keys of a list, in increasing order. -/
def keys (l : List α) : List κ := (l.map key).toFinset.sort

/-- The elements with key `k`. -/
def group (l : List α) (k : κ) : List α := l.filter fun x => key x = k

variable {key} {l : List α} {k : κ} {x : α}

theorem mem_keys : k ∈ keys key l ↔ ∃ x ∈ l, key x = k := by
  unfold keys
  rw [Finset.mem_sort, List.mem_toFinset, List.mem_map]

theorem mem_group : x ∈ group key l k ↔ x ∈ l ∧ key x = k := by
  rw [group, List.mem_filter, decide_eq_true_eq]

theorem keys_nil : keys key ([] : List α) = [] := by
  rw [keys, List.map_nil, List.toFinset_nil, Finset.sort_empty]

theorem pairwise_keys (l : List α) : (keys key l).Pairwise (· < ·) :=
  (Finset.sortedLT_sort _).pairwise

theorem group_ne_nil : group key l k ≠ [] ↔ k ∈ keys key l := by
  rw [mem_keys, group, ne_eq, List.filter_eq_nil_iff]
  simp

theorem key_of_mem_takeWhile {y : α} (h : y ∈ l.takeWhile fun a => key a = k) : key y = k := by
  have := List.mem_takeWhile_imp h
  rwa [decide_eq_true_eq] at this

/-- Behind the first run all keys are greater. -/
theorem lt_of_mem_dropWhile (h : (x :: l).Pairwise fun a b => key a ≤ key b) {y : α}
    (hy : y ∈ (x :: l).dropWhile fun a => key a = key x) : key x < key y := by
  have hsub : ((x :: l).dropWhile fun a => key a = key x).Sublist (x :: l) :=
    List.dropWhile_sublist _
  cases hd : (x :: l).dropWhile fun a => key a = key x with
  | nil =>
    rw [hd] at hy
    cases hy
  | cons z d =>
    have hz : key z ≠ key x := by
      have := List.head_dropWhile_not (fun a => decide (key a = key x))
        (l := x :: l) (by rw [hd]; exact List.cons_ne_nil _ _)
      simp only [hd, List.head_cons, decide_eq_false_iff_not] at this
      exact this
    have hxz : key x ≤ key z := by
      rcases List.mem_cons.mp (hsub.subset (hd ▸ List.mem_cons_self)) with rfl | hz'
      · exact le_rfl
      · exact List.rel_of_pairwise_cons h hz'
    have hxz' : key x < key z := lt_of_le_of_ne hxz (Ne.symm hz)
    have hsorted : (z :: d).Pairwise fun a b => key a ≤ key b := hd ▸ h.sublist hsub
    rw [hd] at hy
    rcases List.mem_cons.mp hy with rfl | hy
    · exact hxz'
    · have hzy := List.rel_of_pairwise_cons hsorted hy
      exact hxz'.trans_le hzy

/-- The first run is the group of its key. -/
theorem takeWhile_eq_group (h : (x :: l).Pairwise fun a b => key a ≤ key b) :
    ((x :: l).takeWhile fun a => key a = key x) = group key (x :: l) (key x) := by
  have hrun : ∀ a ∈ (x :: l).takeWhile fun a => key a = key x, decide (key a = key x) = true :=
    fun a ha => decide_eq_true (key_of_mem_takeWhile ha)
  have hrest : ∀ a ∈ (x :: l).dropWhile fun a => key a = key x, ¬decide (key a = key x) = true :=
    fun a ha heq => absurd (of_decide_eq_true heq) (lt_of_mem_dropWhile h ha).ne'
  unfold group
  conv_rhs => rw [← List.takeWhile_append_dropWhile (p := fun a => decide (key a = key x))
    (l := x :: l)]
  rw [List.filter_append, List.filter_eq_self.mpr hrun, List.filter_eq_nil_iff.mpr hrest,
    List.append_nil]

/-- The groups behind the first run are those of the whole list. -/
theorem group_dropWhile (hk : key x < k) :
    group key ((x :: l).dropWhile fun a => key a = key x) k = group key (x :: l) k := by
  have hrun : ∀ a ∈ (x :: l).takeWhile fun a => key a = key x, ¬decide (key a = k) = true := by
    intro a ha heq
    have hx : key a = key x := key_of_mem_takeWhile ha
    exact hk.ne (hx.symm.trans (of_decide_eq_true heq))
  unfold group
  conv_rhs => rw [← List.takeWhile_append_dropWhile (p := fun a => decide (key a = key x))
    (l := x :: l)]
  rw [List.filter_append, List.filter_eq_nil_iff.mpr hrun, List.nil_append]

/-- The keys are the first one and those behind the first run. -/
theorem keys_cons (h : (x :: l).Pairwise fun a b => key a ≤ key b) :
    keys key (x :: l) = key x :: keys key ((x :: l).dropWhile fun a => key a = key x) := by
  generalize hd : ((x :: l).dropWhile fun a => key a = key x) = d
  have hlt : ∀ y ∈ d, key x < key y := fun y hy => lt_of_mem_dropWhile h (hd ▸ hy)
  have hset : ((x :: l).map key).toFinset = insert (key x) (d.map key).toFinset := by
    ext k
    rw [List.mem_toFinset, List.mem_map, Finset.mem_insert, List.mem_toFinset, List.mem_map]
    constructor
    · rintro ⟨y, hy, rfl⟩
      rw [← List.takeWhile_append_dropWhile (p := fun a => decide (key a = key x)) (l := x :: l),
        List.mem_append, hd] at hy
      rcases hy with hy | hy
      · exact Or.inl (key_of_mem_takeWhile hy)
      · exact Or.inr ⟨y, hy, rfl⟩
    · rintro (rfl | ⟨y, hy, rfl⟩)
      · exact ⟨x, List.mem_cons_self, rfl⟩
      · exact ⟨y, (List.dropWhile_sublist _).subset (hd ▸ hy), rfl⟩
  unfold keys
  rw [hset]
  refine Finset.sort_insert _ (fun k hk => ?_) fun hk => ?_
  · obtain ⟨y, hy, rfl⟩ := List.mem_map.mp (List.mem_toFinset.mp hk)
    exact (hlt y hy).le
  · obtain ⟨y, hy, heq⟩ := List.mem_map.mp (List.mem_toFinset.mp hk)
    exact (hlt y hy).ne' heq

variable (key) in
/-- The groups are all of the list. -/
theorem sum_length_group (l : List α) :
    ((keys key l).map fun k => (group key l k).length).sum = l.length := by
  have hcount : ∀ k, (group key l k).length = (l.map key).count k := by
    intro k
    rw [group, List.count, List.countP_map, List.countP_eq_length_filter]
    rfl
  simp only [hcount]
  unfold keys
  rw [← List.sum_toFinset _ (Finset.sort_nodup _ _), Finset.sort_toFinset]
  exact (List.sum_toFinset_count_eq_length _).trans (List.length_map _)

/-! ## Means -/

/-- The mean, truncated toward zero. -/
def mean (l : List Int) : Int := l.sum.tdiv l.length

variable {l : List Int} {b : Int}

theorem mean_le (hne : l ≠ []) (h : ∀ n ∈ l, n ≤ b) : mean l ≤ b := by
  have hpos : (0 : Int) < l.length := by exact_mod_cast List.length_pos_iff.mpr hne
  have hsum : l.sum ≤ l.length * b := by
    have := List.sum_le_card_nsmul l b h
    rwa [nsmul_eq_mul] at this
  have := Int.tdiv_le_tdiv hpos hsum
  rwa [Int.mul_tdiv_cancel_left _ hpos.ne'] at this

theorem le_mean (hne : l ≠ []) (h : ∀ n ∈ l, b ≤ n) : b ≤ mean l := by
  have hpos : (0 : Int) < l.length := by exact_mod_cast List.length_pos_iff.mpr hne
  have hsum : l.length * b ≤ l.sum := by
    have := List.card_nsmul_le_sum l b h
    rwa [nsmul_eq_mul] at this
  have := Int.tdiv_le_tdiv hpos hsum
  rwa [Int.mul_tdiv_cancel_left _ hpos.ne'] at this

/-- Some element is not above the mean. -/
theorem exists_le_mean (hne : l ≠ []) : ∃ n ∈ l, n ≤ mean l := by
  by_contra h
  have := le_mean (b := mean l + 1) hne fun n hn =>
    not_lt.mp fun hlt => h ⟨n, hn, by omega⟩
  omega

/-- Some element is not below the mean. -/
theorem exists_ge_mean (hne : l ≠ []) : ∃ n ∈ l, mean l ≤ n := by
  by_contra h
  have := mean_le (b := mean l - 1) hne fun n hn =>
    not_lt.mp fun hlt => h ⟨n, hn, by omega⟩
  omega

end Grouping
