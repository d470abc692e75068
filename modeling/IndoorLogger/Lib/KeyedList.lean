import Mathlib.Tactic.Ring
import Mathlib.Data.List.Nodup

/-
  Lists whose elements carry a key: look up, change in place and remove by key. On a list
  with pairwise distinct keys these are the operations at the index where the key is found.
-/

namespace KeyedList

variable {α κ : Type} [DecidableEq κ] (key : α → κ)

/-- The first element with key `k`. -/
def lookup (l : List α) (k : κ) : Option α := l.find? fun x => key x = k

/-- Change the elements with key `k`. -/
def modify (l : List α) (k : κ) (f : α → α) : List α := l.map fun x => if key x = k then f x else x

/-- Drop the elements with key `k`. -/
def erase (l : List α) (k : κ) : List α := l.filter fun x => key x ≠ k

/-- Replace the element with the key of `x`, or add `x` at the end. -/
def put (l : List α) (x : α) : List α :=
  if key x ∈ l.map key then modify key l (key x) fun _ => x else l ++ [x]

variable {key} {l : List α} {k k' : κ} {x : α} {f : α → α}

/-! ## Look-up -/

theorem lookup_eq_none : lookup key l k = none ↔ k ∉ l.map key := by
  simp [lookup, List.mem_map]

theorem key_of_lookup (h : lookup key l k = some x) : key x = k := by
  simpa using List.find?_some h

theorem mem_of_lookup (h : lookup key l k = some x) : x ∈ l := List.mem_of_find?_eq_some h

theorem mem_keys_of_lookup (h : lookup key l k = some x) : k ∈ l.map key :=
  List.mem_map.mpr ⟨x, mem_of_lookup h, key_of_lookup h⟩

theorem exists_lookup (h : k ∈ l.map key) : ∃ x, lookup key l k = some x := by
  rw [← Option.isSome_iff_exists, Option.isSome_iff_ne_none, ne_eq, lookup_eq_none]
  exact fun h' => h' h

omit [DecidableEq κ] in
theorem eq_of_key_eq (hl : (l.map key).Nodup) {x y : α} (hx : x ∈ l) (hy : y ∈ l)
    (h : key x = key y) : x = y := List.inj_on_of_nodup_map hl hx hy h

theorem lookup_of_mem (hl : (l.map key).Nodup) (hx : x ∈ l) : lookup key l (key x) = some x := by
  obtain ⟨y, hy⟩ := exists_lookup (List.mem_map_of_mem (f := key) hx)
  rw [hy, eq_of_key_eq hl (mem_of_lookup hy) hx (key_of_lookup hy)]

theorem lookup_append : lookup key (l ++ [x]) k =
    (lookup key l k).or (if key x = k then some x else none) := by
  rw [lookup, List.find?_append, lookup]
  congr 1
  by_cases h : key x = k <;> simp [h]

theorem lookup_modify_of_ne (hf : ∀ x, key x = k → key (f x) = k) (h : k' ≠ k) :
    lookup key (modify key l k f) k' = lookup key l k' := by
  induction l with
  | nil => rfl
  | cons y l ih =>
    unfold modify
    rw [List.map_cons, lookup, List.find?_cons, lookup, List.find?_cons]
    by_cases hy : key y = k
    · rw [if_pos hy]
      have h1 : ¬key (f y) = k' := by rw [hf y hy]; exact Ne.symm h
      have h2 : ¬key y = k' := by rw [hy]; exact Ne.symm h
      simp only [h1, h2, decide_false]
      exact ih
    · rw [if_neg hy]
      by_cases hy' : key y = k'
      · simp [hy']
      · simp only [hy', decide_false]
        exact ih

theorem lookup_modify_self (hf : ∀ x, key x = k → key (f x) = k) :
    lookup key (modify key l k f) k = (lookup key l k).map f := by
  induction l with
  | nil => rfl
  | cons y l ih =>
    unfold modify
    rw [List.map_cons, lookup, List.find?_cons, lookup, List.find?_cons]
    by_cases hy : key y = k
    · simp [hf y hy, hy]
    · rw [if_neg hy]
      simp only [hy, decide_false]
      exact ih

theorem lookup_put_self : lookup key (put key l x) (key x) = some x := by
  rw [put]
  split
  case isTrue h =>
    obtain ⟨y, hy⟩ := exists_lookup h
    rw [lookup_modify_self fun _ _ => rfl, hy]
    rfl
  case isFalse h =>
    rw [lookup_append, lookup_eq_none.mpr h, if_pos rfl]
    rfl

theorem lookup_put_of_ne (h : k ≠ key x) : lookup key (put key l x) k = lookup key l k := by
  rw [put]
  split
  · exact lookup_modify_of_ne (fun _ _ => rfl) h
  · rw [lookup_append, if_neg (Ne.symm h), Option.or_none]

theorem lookup_erase_of_ne (h : k' ≠ k) : lookup key (erase key l k) k' = lookup key l k' := by
  rw [lookup, erase, List.find?_filter, lookup]
  congr 1
  funext x
  by_cases hx : key x = k'
  · simp [hx, h]
  · simp [hx]

/-! ## Keys -/

theorem map_key_modify (hf : ∀ x, key x = k → key (f x) = k) :
    (modify key l k f).map key = l.map key := by
  unfold modify
  rw [List.map_map]
  apply List.map_congr_left
  intro x _
  by_cases hx : key x = k
  · rw [Function.comp_apply, if_pos hx, hf x hx, hx]
  · rw [Function.comp_apply, if_neg hx]

theorem mem_map_key_erase : k' ∈ (erase key l k).map key ↔ k' ∈ l.map key ∧ k' ≠ k := by
  simp only [erase, List.mem_map, List.mem_filter, decide_eq_true_eq]
  constructor
  · intro h'
    obtain ⟨x, ⟨hx, hne⟩, rfl⟩ := h'
    exact ⟨⟨x, hx, rfl⟩, hne⟩
  · intro h
    obtain ⟨⟨x, hx, rfl⟩, hne⟩ := h
    exact ⟨x, ⟨hx, hne⟩, rfl⟩

theorem nodup_erase (hl : (l.map key).Nodup) : ((erase key l k).map key).Nodup :=
  hl.sublist (List.filter_sublist.map key)

theorem erase_of_notMem (h : k ∉ l.map key) : erase key l k = l := by
  unfold erase
  rw [List.filter_eq_self]
  intro x hx
  simpa using fun e => h (List.mem_map.mpr ⟨x, hx, e⟩)

theorem modify_of_notMem (h : k ∉ l.map key) : modify key l k f = l := by
  unfold modify
  rw [List.map_congr_left (g := id), List.map_id]
  intro x hx
  rw [if_neg fun e => h (List.mem_map.mpr ⟨x, hx, e⟩)]
  rfl

theorem modify_append_singleton (h : k ∉ l.map key) (hx : key x = k) :
    modify key (l ++ [x]) k f = l ++ [f x] := by
  unfold modify
  rw [List.map_append, List.map_singleton, if_pos hx, ← modify, modify_of_notMem h]

/-- Giving the element at `k` a fresh key. -/
theorem nodup_rekey (hl : (l.map key).Nodup) (hk : k' ∉ l.map key)
    (hf : ∀ x, key x = k → key (f x) = k') : ((modify key l k f).map key).Nodup := by
  unfold modify
  rw [List.map_map]
  apply List.Nodup.map_on _ (List.Nodup.of_map key hl)
  intro x hx y hy hxy
  have hfresh : ∀ z ∈ l, key z ≠ k' := fun z hz e => hk (List.mem_map.mpr ⟨z, hz, e⟩)
  simp only [Function.comp_apply] at hxy
  by_cases h1 : key x = k <;> by_cases h2 : key y = k
  · exact eq_of_key_eq hl hx hy (h1.trans h2.symm)
  · rw [if_pos h1, if_neg h2, hf x h1] at hxy
    exact absurd hxy.symm (hfresh y hy)
  · rw [if_neg h1, if_pos h2, hf y h2] at hxy
    exact absurd hxy (hfresh x hx)
  · rw [if_neg h1, if_neg h2] at hxy
    exact eq_of_key_eq hl hx hy hxy

/-- The keys after the element at `k` got the key `k'`. -/
theorem mem_map_key_rekey (hk : k ∈ l.map key) (hf : ∀ x, key x = k → key (f x) = k') {j : κ} :
    j ∈ (modify key l k f).map key ↔ (j ∈ l.map key ∧ j ≠ k) ∨ j = k' := by
  simp only [modify, List.map_map, List.mem_map, Function.comp_apply]
  constructor
  · intro h'
    obtain ⟨x, hx, rfl⟩ := h'
    by_cases hxk : key x = k
    · rw [if_pos hxk]
      exact Or.inr (hf x hxk)
    · rw [if_neg hxk]
      exact Or.inl ⟨⟨x, hx, rfl⟩, hxk⟩
  · intro h
    rcases h with ⟨⟨x, hx, rfl⟩, hne⟩ | rfl
    · exact ⟨x, hx, by rw [if_neg hne]⟩
    · obtain ⟨x, hx, hxk⟩ := List.mem_map.mp hk
      exact ⟨x, hx, by rw [if_pos hxk, hf x hxk]⟩

omit [DecidableEq κ] in
theorem nodup_append_singleton (hl : (l.map key).Nodup) (hx : key x ∉ l.map key) :
    ((l ++ [x]).map key).Nodup := by
  rw [List.map_append, List.map_singleton, List.nodup_append]
  refine ⟨hl, List.nodup_singleton _, fun a ha b hb hab => hx ?_⟩
  rw [List.mem_singleton.mp hb] at hab
  exact hab ▸ ha

theorem nodup_put (hl : (l.map key).Nodup) : ((put key l x).map key).Nodup := by
  rw [put]
  split
  case isTrue h => rwa [map_key_modify fun _ _ => rfl]
  case isFalse h => exact nodup_append_singleton hl h

theorem length_put_le {n : Nat} (h : key x ∈ l.map key ∨ l.length < n) (hn : l.length ≤ n) :
    (put key l x).length ≤ n := by
  rw [put]
  split
  case isTrue => rwa [modify, List.length_map]
  case isFalse hx =>
    rw [List.length_append, List.length_singleton]
    exact h.resolve_left hx

theorem mem_of_mem_put {y : α} (h : y ∈ put key l x) : y = x ∨ y ∈ l := by
  rw [put] at h
  split at h
  · obtain ⟨z, hz, rfl⟩ := List.mem_map.mp h
    split
    · exact Or.inl rfl
    · exact Or.inr hz
  · exact (List.mem_append.mp h).symm.imp_left List.mem_singleton.mp

/-! ## The part of a list with other keys -/

theorem filter_erase {p : κ → Bool} (hk : p k = false) :
    (erase key l k).filter (fun x => p (key x)) = l.filter fun x => p (key x) := by
  unfold erase
  rw [List.filter_filter]
  apply List.filter_congr
  intro x _
  by_cases hx : key x = k <;> simp [hx, hk]

theorem filter_modify {p : κ → Bool} (hk : p k = false)
    (hf : ∀ x, key x = k → p (key (f x)) = false) :
    (modify key l k f).filter (fun x => p (key x)) = l.filter fun x => p (key x) := by
  induction l with
  | nil => rfl
  | cons y l ih =>
    unfold modify
    rw [List.map_cons, ← modify]
    by_cases hy : key y = k
    · rw [if_pos hy, List.filter_cons_of_neg (by simp [hf y hy]),
        List.filter_cons_of_neg (by simp [hy, hk]), ih]
    · rw [if_neg hy, List.filter_cons, List.filter_cons, ih]

omit [DecidableEq κ] in
theorem filter_append_singleton {p : κ → Bool} (hx : p (key x) = false) :
    (l ++ [x]).filter (fun x => p (key x)) = l.filter fun x => p (key x) := by
  rw [List.filter_append, List.filter_singleton, hx]
  exact List.append_nil _

/-! ## At an index -/

theorem findIdx?_isSome_or (key : α → κ) (l : List α) (k : κ) :
    (l.findIdx? (fun x => key x = k) = none ∧ k ∉ l.map key) ∨
      ∃ i x, l.findIdx? (fun x => key x = k) = some i ∧ l[i]? = some x ∧ i < l.length ∧
        key x = k ∧ lookup key l k = some x := by
  cases h : l.findIdx? (fun x => key x = k) with
  | none =>
    left
    rw [List.findIdx?_eq_none_iff] at h
    refine ⟨rfl, fun hk => ?_⟩
    obtain ⟨x, hx, hxk⟩ := List.mem_map.mp hk
    simpa [hxk] using h x hx
  | some i =>
    right
    obtain ⟨hi, hp, hlt⟩ := List.findIdx?_eq_some_iff_getElem.mp h
    refine ⟨i, l[i], rfl, List.getElem?_eq_getElem hi, hi, by simpa using hp, ?_⟩
    unfold lookup
    rw [List.find?_eq_some_iff_getElem]
    exact ⟨hp, i, hi, rfl, fun j hj => by simpa using hlt j hj⟩

theorem eraseIdx_eq_erase (hl : (l.map key).Nodup) {i : Nat} (hi : l[i]? = some x)
    (hx : key x = k) : l.eraseIdx i = erase key l k := by
  induction l generalizing i with
  | nil => simp at hi
  | cons y l ih =>
    rw [List.map_cons, List.nodup_cons] at hl
    cases i with
    | zero =>
      obtain rfl : y = x := by simpa using hi
      rw [List.eraseIdx_cons_zero, erase, List.filter_cons_of_neg (by simp [hx])]
      exact (erase_of_notMem (hx ▸ hl.1)).symm
    | succ i =>
      rw [List.getElem?_cons_succ] at hi
      have hy : key y ≠ k := fun e =>
        hl.1 (List.mem_map.mpr ⟨x, List.mem_of_getElem? hi, hx.trans e.symm⟩)
      rw [List.eraseIdx_cons_succ, ih hl.2 hi]
      exact (List.filter_cons_of_pos (by simpa using hy)).symm

theorem set_eq_modify (hl : (l.map key).Nodup) {i : Nat} (hi : l[i]? = some x)
    (hx : key x = k) : l.set i (f x) = modify key l k f := by
  induction l generalizing i with
  | nil => simp at hi
  | cons y l ih =>
    rw [List.map_cons, List.nodup_cons] at hl
    cases i with
    | zero =>
      obtain rfl : y = x := by simpa using hi
      rw [List.set_cons_zero, modify, List.map_cons, if_pos hx]
      rw [show (l.map fun x => if key x = k then f x else x) = modify key l k f from rfl,
        modify_of_notMem (hx ▸ hl.1)]
    | succ i =>
      rw [List.getElem?_cons_succ] at hi
      have hy : key y ≠ k := fun e =>
        hl.1 (List.mem_map.mpr ⟨x, List.mem_of_getElem? hi, hx.trans e.symm⟩)
      rw [List.set_cons_succ, ih hl.2 hi, modify, modify, List.map_cons, if_neg hy]

end KeyedList
