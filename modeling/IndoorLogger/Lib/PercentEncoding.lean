import Mathlib.Data.List.Infix
import Mathlib.Tactic.Common

/-
  Percent-encoding of a component, as `encodeURIComponent` does it on the UTF-8 bytes of its
  argument: letters, digits and a few marks stand for themselves, every other byte becomes `%`
  and two upper-case hexadecimal digits. A text of plain bytes occurs in an encoding exactly
  where it occurs in the component (`infix_encode_iff`), and an encoding that is too long is cut
  inside the escape of one byte at most (`exists_cut`).
-/

namespace PercentEncoding

/-- The bytes that stand for themselves. -/
def isUnreserved (b : UInt8) : Bool :=
  (97 ≤ b && b ≤ 122) || (65 ≤ b && b ≤ 90) || (48 ≤ b && b ≤ 57) ||
    [45, 95, 46, 33, 126, 42, 39, 40, 41].contains b

/-- An upper-case hexadecimal digit. -/
def hexChar (n : UInt8) : UInt8 := if n < 10 then 48 + n else 55 + n

def encodeByte (b : UInt8) : List UInt8 :=
  if isUnreserved b then [b] else [37, hexChar (b / 16), hexChar (b % 16)]

/-- `encodeURIComponent`. -/
def encode (v : List UInt8) : List UInt8 := v.flatMap encodeByte

@[simp] theorem encode_nil : encode [] = [] := rfl

theorem encode_cons (b : UInt8) (v : List UInt8) : encode (b :: v) = encodeByte b ++ encode v :=
  List.flatMap_cons

theorem encode_append (v w : List UInt8) : encode (v ++ w) = encode v ++ encode w :=
  List.flatMap_append

theorem encodeByte_unreserved {b : UInt8} (h : isUnreserved b = true) : encodeByte b = [b] :=
  if_pos h

theorem encodeByte_escaped {b : UInt8} (h : isUnreserved b = false) :
    encodeByte b = [37, hexChar (b / 16), hexChar (b % 16)] := by
  unfold encodeByte
  rw [if_neg (by rw [h]; exact Bool.false_ne_true)]

/-! ## Bytes of an encoding -/

/-- A hexadecimal digit is a digit or one of A to F. -/
theorem hexChar_range {n : UInt8} (h : n < 16) :
    (48 ≤ hexChar n ∧ hexChar n ≤ 57) ∨ (65 ≤ hexChar n ∧ hexChar n ≤ 70) := by
  unfold hexChar
  simp only [UInt8.lt_iff_toNat_lt, UInt8.le_iff_toNat_le, UInt8.reduceToNat] at h ⊢
  split
  · left
    simp only [UInt8.toNat_add, UInt8.reduceToNat]
    omega
  · right
    simp only [UInt8.toNat_add, UInt8.reduceToNat]
    omega

theorem div_lt_sixteen (b : UInt8) : b / 16 < 16 := by
  have := b.toNat_lt
  simp only [UInt8.lt_iff_toNat_lt, UInt8.toNat_div, UInt8.reduceToNat]
  omega

theorem mod_lt_sixteen (b : UInt8) : b % 16 < 16 := by
  simp only [UInt8.lt_iff_toNat_lt, UInt8.toNat_mod, UInt8.reduceToNat]
  omega

/-- The bytes of an escape behind its `%`. -/
theorem mem_escape {b c : UInt8} (h : c ∈ [hexChar (b / 16), hexChar (b % 16)]) :
    (48 ≤ c ∧ c ≤ 57) ∨ (65 ≤ c ∧ c ≤ 70) := by
  rw [List.mem_cons, List.mem_singleton] at h
  rcases h with rfl | rfl
  · exact hexChar_range (div_lt_sixteen b)
  · exact hexChar_range (mod_lt_sixteen b)

/-! ## Digits of either case -/

/-- A lower-case hexadecimal digit. -/
def lowerHexChar (n : UInt8) : UInt8 := if n < 10 then 48 + n else 87 + n

/-- The hexadecimal digits of a number below sixteen, in either case. -/
def IsHexOf (n c : UInt8) : Prop := c = hexChar n ∨ c = lowerHexChar n

/-- The texts that encode a component, each digit of an escape in either case. -/
inductive Encodes : List UInt8 → List UInt8 → Prop
  | nil : Encodes [] []
  | plain {b : UInt8} {v t : List UInt8} (hb : isUnreserved b = true) (ht : Encodes v t) :
      Encodes (b :: v) (b :: t)
  | escape {b hi lo : UInt8} {v t : List UInt8} (hb : isUnreserved b = false)
      (hhi : IsHexOf (b / 16) hi) (hlo : IsHexOf (b % 16) lo) (ht : Encodes v t) :
      Encodes (b :: v) (37 :: hi :: lo :: t)

/-- `encodeURIComponent` writes upper-case digits. -/
theorem encodes_encode (v : List UInt8) : Encodes v (encode v) := by
  induction v with
  | nil => exact .nil
  | cons b v ih =>
    rw [encode_cons]
    cases hb : isUnreserved b with
    | true =>
      rw [encodeByte_unreserved hb]
      exact .plain hb ih
    | false =>
      rw [encodeByte_escaped hb]
      exact .escape hb (.inl rfl) (.inl rfl) ih

theorem isUnreserved_of_isHexOf {n c : UInt8} (hn : n < 16) (h : IsHexOf n c) :
    isUnreserved c = true := by
  have hall : ∀ k < 16, isUnreserved (hexChar (UInt8.ofNat k)) = true ∧
      isUnreserved (lowerHexChar (UInt8.ofNat k)) = true := by decide +kernel
  obtain ⟨hupper, hlower⟩ := hall n.toNat (UInt8.lt_iff_toNat_lt.mp hn)
  rw [UInt8.ofNat_toNat] at hupper hlower
  rcases h with rfl | rfl
  · exact hupper
  · exact hlower

/-- What encodes a component has `%` and unreserved bytes only. -/
theorem Encodes.mem {v t : List UInt8} (h : Encodes v t) :
    ∀ c ∈ t, c = 37 ∨ isUnreserved c = true := by
  induction h with
  | nil => nofun
  | plain hb _ ih => exact List.forall_mem_cons.mpr ⟨Or.inr hb, ih⟩
  | @escape b hi lo _ _ _ hhi hlo _ ih =>
    have hhi' := isUnreserved_of_isHexOf (div_lt_sixteen b) hhi
    have hlo' := isUnreserved_of_isHexOf (mod_lt_sixteen b) hlo
    exact List.forall_mem_cons.mpr ⟨Or.inl rfl, List.forall_mem_cons.mpr ⟨Or.inr hhi',
      List.forall_mem_cons.mpr ⟨Or.inr hlo', ih⟩⟩⟩

theorem mem_encode {c : UInt8} {v : List UInt8} (h : c ∈ encode v) :
    c = 37 ∨ isUnreserved c = true := (encodes_encode v).mem c h

/-! ## Plain texts -/

/-- A byte that stands for itself and occurs in no escape. -/
def IsPlain (b : UInt8) : Prop := isUnreserved b = true ∧ 70 < b

variable {k v : List UInt8}

theorem prefix_encode_iff (hk : ∀ b ∈ k, IsPlain b) : k <+: encode v ↔ k <+: v := by
  induction k generalizing v with
  | nil => exact iff_of_true List.nil_prefix List.nil_prefix
  | cons c k ih =>
    obtain ⟨hc, hk⟩ := List.forall_mem_cons.mp hk
    cases v with
    | nil => rw [encode_nil]
    | cons b v =>
      rw [encode_cons]
      cases hb : isUnreserved b with
      | true =>
        rw [encodeByte_unreserved hb, List.singleton_append, List.cons_prefix_cons,
          List.cons_prefix_cons, ih hk]
      | false =>
        rw [encodeByte_escaped hb, List.cons_append, List.cons_prefix_cons, List.cons_prefix_cons]
        refine iff_of_false (fun h => ?_) fun h => ?_
        · exact absurd hc.2 (by rw [h.1]; decide)
        · rw [← h.1, hc.1] at hb
          cases hb

/-- A text of plain bytes occurs in the encoding where it occurs in the component. -/
theorem infix_encode_iff (hk : ∀ b ∈ k, IsPlain b) (hne : k ≠ []) :
    k <:+: encode v ↔ k <:+: v := by
  obtain ⟨c, k', rfl⟩ := List.exists_cons_of_ne_nil hne
  have hc := (List.forall_mem_cons.mp hk).1
  induction v with
  | nil => rw [encode_nil]
  | cons b v ih =>
    rw [List.infix_cons_iff, ← propext ih, ← prefix_encode_iff (v := b :: v) hk, encode_cons]
    cases hb : isUnreserved b with
    | true => rw [encodeByte_unreserved hb, List.singleton_append, List.infix_cons_iff]
    | false =>
      -- no occurrence starts inside an escape
      have hhex : ∀ d ∈ [hexChar (b / 16), hexChar (b % 16)], c ≠ d := by
        rintro d hd rfl
        have h70 := hc.2
        rcases mem_escape hd with h | h
        · exact absurd (UInt8.lt_of_lt_of_le h70 h.2) (by decide)
        · exact absurd (UInt8.lt_of_lt_of_le h70 h.2) (by decide)
      have h1 := hhex _ List.mem_cons_self
      have h2 := hhex _ (List.mem_cons_of_mem _ List.mem_cons_self)
      rw [encodeByte_escaped hb]
      simp only [List.cons_append, List.nil_append, List.infix_cons_iff, List.cons_prefix_cons, h1,
        h2, false_and, false_or]

/-! ## Cuts -/

/-- A cut before the end of an encoding leaves the encoding of a part and less than the
    encoding of the next byte. -/
theorem exists_cut {m : Nat} (h : m < (encode v).length) :
    ∃ w b rest, v = w ++ b :: rest ∧ (encode w).length ≤ m ∧
      m < (encode w).length + (encodeByte b).length := by
  induction v generalizing m with
  | nil => exact absurd h (Nat.not_lt_zero m)
  | cons b v ih =>
    by_cases hm : m < (encodeByte b).length
    · exact ⟨[], b, v, rfl, Nat.zero_le m, by rwa [encode_nil, List.length_nil, Nat.zero_add]⟩
    · rw [encode_cons, List.length_append] at h
      obtain ⟨w, c, rest, hv, hle, hlt⟩ := ih (m := m - (encodeByte b).length) (by omega)
      refine ⟨b :: w, c, rest, by rw [hv]; rfl, ?_, ?_⟩
      · rw [encode_cons, List.length_append]
        omega
      · rw [encode_cons, List.length_append]
        omega

/-- What such a cut leaves. -/
theorem take_encode {m : Nat} {w rest : List UInt8} {b : UInt8} (hle : (encode w).length ≤ m)
    (hlt : m < (encode w).length + (encodeByte b).length) :
    (encode (w ++ b :: rest)).take m =
      encode w ++ (encodeByte b).take (m - (encode w).length) := by
  rw [encode_append, encode_cons, List.take_append, List.take_of_length_le hle,
    List.take_append_of_le_length (by omega)]

end PercentEncoding
