import IndoorLogger.Lib.PercentEncoding
import IndoorLogger.Server.HttpServer

/-
  Query strings written by the web UI and read by `get_query_val`. The reader takes the first
  occurrence of the text of a key, wherever it is: in the key itself, at the end of `new_id`
  when it looks for `id`, or in a value (`getQueryVal_queryText`). The value is cut to the
  buffer before it is decoded. `query_round_trip_iff` says for which queries every parameter is
  read back.
-/

namespace IndoorLogger

open PercentEncoding

/-! ## Queries -/

/-- The parameter names of the API. -/
inductive ParamKey
  | id
  | name
  | newId
  | value
  | offset
  | limit
  | since
  | bucket
  deriving DecidableEq

def ParamKey.text : ParamKey → List UInt8
  | .id => ascii "id"
  | .name => ascii "name"
  | .newId => ascii "new_id"
  | .value => ascii "value"
  | .offset => ascii "offset"
  | .limit => ascii "limit"
  | .since => ascii "since"
  | .bucket => ascii "bucket"

/-- A parameter and its value, a C string. -/
structure Param where
  key : ParamKey
  value : List UInt8
  noNul : 0 ∉ value

/-- `k=` and the encoded value. -/
def Param.text (p : Param) : List UInt8 := p.key.text ++ 61 :: encode p.value

/-- `?k1=enc(v1)&k2=enc(v2)...`. -/
def queryText (ps : List Param) : List UInt8 := 63 :: [38].intercalate (ps.map Param.text)

/-! ## Keys -/

theorem ParamKey.text_ne_nil (k : ParamKey) : k.text ≠ [] := by
  cases k <;> decide

theorem ParamKey.text_plain (k : ParamKey) : ∀ b ∈ k.text, IsPlain b := by
  cases k <;> simp only [IsPlain] <;> decide +kernel

/-- The text of `k` is the end of this key. -/
def ParamKey.EndsIn (k' k : ParamKey) : Prop := k' = k ∨ (k' = .newId ∧ k = .id)

instance (k' k : ParamKey) : Decidable (k'.EndsIn k) := inferInstanceAs (Decidable (_ ∨ _))

/-! ## Searching -/

/-- What is found is the rest of the text from an occurrence on. -/
theorem strstr_spec {k t t' : List UInt8} (h : strstr k t = some t') : k <+: t' ∧ t' <:+ t := by
  induction t with
  | nil =>
    rw [strstr] at h
    split at h
    case isTrue hk =>
      obtain rfl := Option.some.inj h
      rw [List.isEmpty_iff.mp hk]
      exact ⟨List.nil_prefix, List.suffix_refl _⟩
    case isFalse => cases h
  | cons c t ih =>
    rw [strstr] at h
    split at h
    case isTrue hk =>
      obtain rfl := Option.some.inj h
      exact ⟨List.isPrefixOf_iff_prefix.mp hk, List.suffix_refl _⟩
    case isFalse =>
      obtain ⟨hp, hs⟩ := ih h
      exact ⟨hp, hs.trans (List.suffix_cons c t)⟩

/-- An occurrence in a text is found there, whatever follows. -/
theorem strstr_append_of_some {k t t' : List UInt8} (h : strstr k t = some t') (s : List UInt8) :
    strstr k (t ++ s) = some (t' ++ s) := by
  induction t with
  | nil =>
    rw [strstr] at h
    split at h
    case isTrue hk =>
      obtain rfl := Option.some.inj h
      rw [List.isEmpty_iff.mp hk]
      cases s <;> rfl
    case isFalse => cases h
  | cons c t ih =>
    rw [strstr] at h
    rw [List.cons_append, strstr]
    split at h
    case isTrue hk =>
      obtain rfl := Option.some.inj h
      have hp := List.isPrefixOf_iff_prefix.mp hk
      rw [← List.cons_append,
        if_pos (List.isPrefixOf_iff_prefix.mpr (List.prefix_append_of_prefix hp))]
    case isFalse hk =>
      rw [if_neg, ih h]
      -- an occurrence that starts here and ends behind `t` is longer than the one in `t`
      intro hpre
      have hpre := List.isPrefixOf_iff_prefix.mp hpre
      rw [← List.cons_append] at hpre
      obtain ⟨hp, hs⟩ := strstr_spec h
      have hlen := hp.length_le
      have hlen' := hs.length_le
      refine hk (List.isPrefixOf_iff_prefix.mpr (List.prefix_of_prefix_length_le hpre
        (List.prefix_append _ _) ?_))
      rw [List.length_cons]
      omega

/-- Where there is no occurrence, the search goes on behind the text and its separator. -/
theorem strstr_append_of_absent {k t : List UInt8} (h : ¬ k <:+: t) (hk : k ≠ []) {c : UInt8}
    (hc : c ∉ k) (s : List UInt8) : strstr k (t ++ c :: s) = strstr k s := by
  induction t with
  | nil =>
    rw [List.nil_append, strstr, if_neg]
    intro hp
    obtain ⟨b, k', rfl⟩ := List.exists_cons_of_ne_nil hk
    have := (List.cons_prefix_cons.mp (List.isPrefixOf_iff_prefix.mp hp)).1
    exact hc (this ▸ List.mem_cons_self)
  | cons b t ih =>
    rw [List.cons_append, strstr, if_neg, ih fun hi => h (List.infix_cons_iff.mpr (Or.inr hi))]
    intro hp
    have hp := List.isPrefixOf_iff_prefix.mp hp
    rw [← List.cons_append] at hp
    by_cases hlen : k.length ≤ (b :: t).length
    · exact h (List.prefix_of_prefix_length_le hp (List.prefix_append _ _) hlen).isInfix
    · -- the occurrence would go over the separator
      have hmem : (b :: t ++ [c]) <+: k := by
        have hsep : (b :: t ++ [c]) <+: b :: t ++ c :: s := ⟨s, by simp⟩
        apply List.prefix_of_prefix_length_le hsep hp
        rw [List.length_append, List.length_singleton]
        omega
      exact hc (hmem.subset (by simp))

theorem strstr_eq_none {k t : List UInt8} (h : ¬ k <:+: t) (hk : k ≠ []) : strstr k t = none := by
  induction t with
  | nil =>
    rw [strstr, if_neg]
    rw [List.isEmpty_iff]
    exact hk
  | cons b t ih =>
    rw [strstr, if_neg, ih fun hi => h (List.infix_cons_iff.mpr (Or.inr hi))]
    exact fun hp => h (List.isPrefixOf_iff_prefix.mp hp).isInfix

theorem exists_strstr {k t : List UInt8} (h : k <:+: t) : ∃ t', strstr k t = some t' := by
  induction t with
  | nil =>
    rw [List.infix_nil] at h
    exact ⟨[], by rw [strstr, if_pos (List.isEmpty_iff.mpr h)]⟩
  | cons b t ih =>
    rw [strstr]
    split
    · exact ⟨_, rfl⟩
    case isFalse hp =>
      rcases List.infix_cons_iff.mp h with hpre | hin
      · exact absurd (List.isPrefixOf_iff_prefix.mpr hpre) hp
      · exact ih hin

/-! ## Decoding -/

theorem urlDecode_cons {b : UInt8} (h : b ≠ 37) (t : List UInt8) :
    urlDecode (b :: t) = (if b = 43 then 32 else b) :: urlDecode t := by
  cases t with
  | nil => rfl
  | cons c t =>
    cases t with
    | nil => rfl
    | cons d t => rw [urlDecode, if_neg h]

theorem unreserved_ne {b : UInt8} (h : isUnreserved b = true) :
    b ≠ 37 ∧ b ≠ 43 ∧ b ≠ 38 ∧ b ≠ 61 ∧ b ≠ 0 := by
  refine ⟨?_, ?_, ?_, ?_, ?_⟩ <;> rintro rfl <;> exact absurd h (by decide)

/-- A digit of either case is read as the number it stands for. -/
theorem hexDigit_of_isHexOf {n c : UInt8} (hn : n < 16) (h : IsHexOf n c) :
    hexDigit c = n.toUInt32 := by
  have hall : ∀ k < 16, hexDigit (hexChar (UInt8.ofNat k)) = (UInt8.ofNat k).toUInt32 ∧
      hexDigit (lowerHexChar (UInt8.ofNat k)) = (UInt8.ofNat k).toUInt32 := by decide +kernel
  obtain ⟨hupper, hlower⟩ := hall n.toNat (UInt8.lt_iff_toNat_lt.mp hn)
  rw [UInt8.ofNat_toNat] at hupper hlower
  rcases h with rfl | rfl
  · exact hupper
  · exact hlower

/-- The two digits of an escape give the byte back. -/
theorem hexDigits_eq {b hi lo : UInt8} (hhi : IsHexOf (b / 16) hi) (hlo : IsHexOf (b % 16) lo) :
    ((hexDigit hi <<< 4) ||| hexDigit lo).toUInt8 = b := by
  have hall : ∀ n < 256, (((UInt8.ofNat n / 16).toUInt32 <<< 4) |||
      (UInt8.ofNat n % 16).toUInt32).toUInt8 = UInt8.ofNat n := by decide +kernel
  have hb := hall b.toNat b.toNat_lt
  rw [UInt8.ofNat_toNat] at hb
  rw [hexDigit_of_isHexOf (div_lt_sixteen b) hhi, hexDigit_of_isHexOf (mod_lt_sixteen b) hlo, hb]

/-- The decoder reads what encodes a component as this component. -/
theorem urlDecode_encodes_append {w e : List UInt8} (h : Encodes w e) (t : List UInt8) :
    urlDecode (e ++ t) = w ++ urlDecode t := by
  induction h with
  | nil => rfl
  | plain hb _ ih =>
    have hne := unreserved_ne hb
    rw [List.cons_append, urlDecode_cons hne.1, if_neg hne.2.1, ih]
    rfl
  | escape _ hhi hlo _ ih =>
    rw [List.cons_append, List.cons_append, List.cons_append, urlDecode, if_pos rfl,
      hexDigits_eq hhi hlo, ih]
    rfl

theorem urlDecode_encode_append (w t : List UInt8) :
    urlDecode (encode w ++ t) = w ++ urlDecode t := urlDecode_encodes_append (encodes_encode w) t

/-- Less than an escape stands for itself. -/
theorem urlDecode_take_encodeByte {b : UInt8} {j : Nat} (h : j < (encodeByte b).length) :
    urlDecode ((encodeByte b).take j) = (encodeByte b).take j := by
  cases hb : isUnreserved b with
  | true =>
    rw [encodeByte_unreserved hb, List.length_singleton, Nat.lt_one_iff] at h
    rw [h]
    rfl
  | false =>
    rw [encodeByte_escaped hb] at h ⊢
    have hhex : isUnreserved (hexChar (b / 16)) = true :=
      isUnreserved_of_isHexOf (div_lt_sixteen b) (.inl rfl)
    match j, h with
    | 0, _ => rfl
    | 1, _ => rfl
    | 2, _ =>
      have hne := unreserved_ne hhex
      simp only [List.take_succ_cons, List.take_zero, urlDecode, if_neg hne.2.1]
      rfl
    | j + 3, h => exact absurd h (by simp)

/-- `v` is what `v'` becomes when its encoding is cut to `m` bytes: `v'` itself, or the part
    whose encoding fits and what is left of the escape behind it. -/
def CutTo (m : Nat) (v' v : List UInt8) : Prop :=
  ((encode v').length ≤ m ∧ v = v') ∨
    ∃ w b rest, v' = w ++ b :: rest ∧ (encode w).length ≤ m ∧
      m < (encode w).length + (encodeByte b).length ∧
      v = w ++ (encodeByte b).take (m - (encode w).length)

theorem urlDecode_take_iff {m : Nat} {v' v : List UInt8} :
    urlDecode ((encode v').take m) = v ↔ CutTo m v' v := by
  have hwhole : (encode v').length ≤ m → urlDecode ((encode v').take m) = v' := by
    intro hle
    have := urlDecode_encode_append v' []
    rw [List.append_nil] at this
    rw [List.take_of_length_le hle, this]
    exact List.append_nil v'
  have hcut : ∀ w b rest, v' = w ++ b :: rest → (encode w).length ≤ m →
      m < (encode w).length + (encodeByte b).length →
      urlDecode ((encode v').take m) = w ++ (encodeByte b).take (m - (encode w).length) := by
    rintro w b rest rfl hle hlt
    rw [take_encode hle hlt, urlDecode_encode_append, urlDecode_take_encodeByte (by omega)]
  constructor
  · rintro rfl
    by_cases hle : (encode v').length ≤ m
    · exact Or.inl ⟨hle, hwhole hle⟩
    · obtain ⟨w, b, rest, hv, hw, hlt⟩ := exists_cut (Nat.not_le.mp hle)
      exact Or.inr ⟨w, b, rest, hv, hw, hlt, hcut w b rest hv hw hlt⟩
  · rintro (⟨hle, rfl⟩ | ⟨w, b, rest, hv, hw, hlt, rfl⟩)
    · exact hwhole hle
    · exact hcut w b rest hv hw hlt

/-! ## Reading a query -/

/-- Behind the end of a key comes the value. -/
theorem strstr_key {k' k : ParamKey} (h : k'.EndsIn k) :
    strstr k.text k'.text = some k.text := by
  rcases h with rfl | ⟨rfl, rfl⟩
  · cases k' <;> decide
  · decide

theorem key_absent {k' k : ParamKey} (h : ¬ k'.EndsIn k) : ¬ k.text <:+: k'.text := by
  revert h
  cases k' <;> cases k <;> decide

/-- No byte of a key is written between keys and values. -/
theorem ParamKey.notMem_text (k : ParamKey) {c : UInt8} (h : ¬ IsPlain c) : c ∉ k.text :=
  fun hc => h (k.text_plain c hc)

theorem separators_not_plain : ¬ IsPlain 38 ∧ ¬ IsPlain 61 ∧ ¬ IsPlain 63 := by
  refine ⟨fun h => ?_, fun h => ?_, fun h => ?_⟩
  · exact absurd h.1 (by decide)
  · exact absurd h.1 (by decide)
  · exact absurd h.1 (by decide)

theorem notMem_encode {c : UInt8} (h37 : c ≠ 37) (hu : isUnreserved c = false) (v : List UInt8) :
    c ∉ encode v := by
  intro h
  rcases mem_encode h with rfl | h'
  · exact h37 rfl
  · rw [hu] at h'
    cases h'

/-- The value behind `k=` ends at the next `&`. -/
theorem takeWhile_encode (v : List UInt8) {tail : List UInt8}
    (ht : tail = [] ∨ ∃ s, tail = 38 :: s) :
    (encode v ++ tail).takeWhile (· ≠ 38) = encode v := by
  have hall : ∀ c ∈ encode v, decide (c ≠ 38) = true := by
    rintro c hc
    rw [decide_eq_true_eq]
    rintro rfl
    exact notMem_encode (by decide) (by decide) v hc
  rcases ht with rfl | ⟨s, rfl⟩
  · rw [List.append_nil, List.takeWhile_eq_self_iff]
    exact hall
  · rw [List.takeWhile_append_of_pos hall, List.takeWhile_cons_of_neg (by decide), List.append_nil]

/-- What is read of a value with a buffer of `n` bytes. -/
def received (n : Nat) (v : List UInt8) : List UInt8 := urlDecode ((encode v).take (n - 1))

/-- What is left of a C string by a cut is one. -/
theorem cString_received (n : Nat) (p : Param) :
    cString (received n p.value) = received n p.value := by
  apply cString_of_noNul
  have hesc : ∀ {b : UInt8} {j : Nat}, (0 : UInt8) ∉ (encodeByte b).take j := by
    intro b j h
    have h := List.mem_of_mem_take h
    have h' : (0 : UInt8) ∈ encode [b] := by rwa [encode_cons, encode_nil, List.append_nil]
    exact notMem_encode (by decide) (by decide) [b] h'
  rcases (urlDecode_take_iff (v := received n p.value)).mp rfl with
    ⟨-, heq⟩ | ⟨w, b, rest, hv, -, -, heq⟩
  · rw [heq]
    exact p.noNul
  · have hw : (0 : UInt8) ∉ w := fun h => p.noNul (hv ▸ List.mem_append_left _ h)
    rw [heq, List.mem_append]
    exact fun h => h.elim hw hesc

/-- The step: a parameter answers the search, ends it without a value, or is passed over. -/
theorem getQueryVal_param (p : Param) (k : ParamKey) (n : Nat) {tail : List UInt8}
    (ht : tail = [] ∨ ∃ s, tail = 38 :: s) :
    getQueryVal (some (p.text ++ tail)) k.text n =
      if p.key.EndsIn k then some (received n p.value)
      else if k.text <:+: p.value then none
      else getQueryVal (some (tail.drop 1)) k.text n := by
  obtain ⟨h38, h61, -⟩ := separators_not_plain
  unfold Param.text
  rw [List.append_assoc, List.cons_append]
  split
  case isTrue hk =>
    unfold getQueryVal
    rw [Option.bind_some, strstr_append_of_some (strstr_key hk), Option.bind_some, List.drop_left]
    change some (cString (urlDecode
      (((encode p.value ++ tail).takeWhile (· ≠ 38)).take (n - 1)))) = _
    rw [takeWhile_encode p.value ht]
    exact congrArg some (cString_received n p)
  case isFalse hk =>
    have hskip : getQueryVal (some (p.key.text ++ 61 :: (encode p.value ++ tail))) k.text n =
        getQueryVal (some (encode p.value ++ tail)) k.text n := by
      unfold getQueryVal
      rw [Option.bind_some, Option.bind_some,
        strstr_append_of_absent (key_absent hk) k.text_ne_nil (k.notMem_text h61)]
    rw [hskip]
    have hoccurs := infix_encode_iff (v := p.value) k.text_plain k.text_ne_nil
    split
    case isTrue hv =>
      -- found in the value, where no `=` can follow
      obtain ⟨t', ht'⟩ := exists_strstr (hoccurs.mpr hv)
      obtain ⟨⟨r, rfl⟩, hsuffix⟩ := strstr_spec ht'
      unfold getQueryVal
      rw [Option.bind_some, strstr_append_of_some ht', Option.bind_some, List.append_assoc,
        List.drop_left]
      have hr : (61 : UInt8) ∉ r := fun h => notMem_encode (by decide) (by decide) p.value
        (hsuffix.subset (List.mem_append_right _ h))
      cases r with
      | nil => rcases ht with rfl | ⟨s, rfl⟩ <;> rfl
      | cons c r =>
        have hc : c ≠ 61 := fun e => hr (e ▸ List.mem_cons_self)
        rw [List.cons_append]
        split
        case h_1 heq => exact absurd (List.cons_eq_cons.mp heq).1 hc
        case h_2 => rfl
    case isFalse hv =>
      have hv := mt hoccurs.mp hv
      unfold getQueryVal
      rw [Option.bind_some, Option.bind_some]
      rcases ht with rfl | ⟨s, rfl⟩
      · have hnil : ¬ k.text <:+: [] := fun h => k.text_ne_nil (List.infix_nil.mp h)
        rw [List.append_nil, strstr_eq_none hv k.text_ne_nil, List.drop_nil,
          strstr_eq_none hnil k.text_ne_nil]
      · rw [strstr_append_of_absent hv k.text_ne_nil (k.notMem_text h38)]
        rfl

/-- The parameters in front of the first one whose key ends in `k`. -/
def before (k : ParamKey) (ps : List Param) : List Param :=
  ps.takeWhile fun p => !decide (p.key.EndsIn k)

/-- The first parameter whose key ends in `k`. -/
def taken (k : ParamKey) (ps : List Param) : Option Param :=
  ps.find? fun p => p.key.EndsIn k

section

variable {k : ParamKey} {p : Param}

theorem search_cons_of_endsIn (h : p.key.EndsIn k) (ps : List Param) :
    before k (p :: ps) = [] ∧ taken k (p :: ps) = some p := by
  unfold before taken
  exact ⟨List.takeWhile_cons_of_neg (by simpa using h), List.find?_cons_of_pos (by simpa using h)⟩

theorem search_cons_of_not (h : ¬ p.key.EndsIn k) (ps : List Param) :
    before k (p :: ps) = p :: before k ps ∧ taken k (p :: ps) = taken k ps := by
  unfold before taken
  exact ⟨List.takeWhile_cons_of_pos (by simpa using h), List.find?_cons_of_neg (by simpa using h)⟩

end

/-- What `get_query_val` finds in a query. -/
theorem getQueryVal_queryText (ps : List Param) (k : ParamKey) (n : Nat) :
    getQueryVal (some (queryText ps)) k.text n =
      if ∃ q ∈ before k ps, k.text <:+: q.value then none
      else (taken k ps).map fun p => received n p.value := by
  have hstart : getQueryVal (some (queryText ps)) k.text n =
      getQueryVal (some ([38].intercalate (ps.map Param.text))) k.text n := by
    have hnil : ¬ k.text <:+: [] := fun h => k.text_ne_nil (List.infix_nil.mp h)
    have hskip := strstr_append_of_absent hnil k.text_ne_nil
      (k.notMem_text separators_not_plain.2.2) ([38].intercalate (ps.map Param.text))
    unfold getQueryVal queryText
    rw [Option.bind_some, Option.bind_some, ← hskip]
    rfl
  rw [hstart]
  clear hstart
  induction ps with
  | nil =>
    have hnil : ¬ k.text <:+: [] := fun h => k.text_ne_nil (List.infix_nil.mp h)
    unfold getQueryVal
    rw [List.map_nil, List.intercalate_nil, Option.bind_some, strstr_eq_none hnil k.text_ne_nil]
    simp [before, taken]
  | cons p ps ih =>
    obtain ⟨tail, ht, hjoin, hdrop⟩ : ∃ tail : List UInt8, (tail = [] ∨ ∃ s, tail = 38 :: s) ∧
        [38].intercalate ((p :: ps).map Param.text) = p.text ++ tail ∧
        tail.drop 1 = [38].intercalate (ps.map Param.text) := by
      cases ps with
      | nil => exact ⟨[], Or.inl rfl, by simp, rfl⟩
      | cons q ps =>
        exact ⟨38 :: [38].intercalate ((q :: ps).map Param.text), Or.inr ⟨_, rfl⟩, by simp, rfl⟩
    rw [hjoin, getQueryVal_param p k n ht, hdrop, ih]
    by_cases hk : p.key.EndsIn k
    · obtain ⟨hbefore, htaken⟩ := search_cons_of_endsIn hk ps
      rw [if_pos hk, hbefore, htaken, if_neg (by simp)]
      rfl
    · obtain ⟨hbefore, htaken⟩ := search_cons_of_not hk ps
      rw [if_neg hk, hbefore, htaken]
      by_cases hv : k.text <:+: p.value
      · rw [if_pos hv, if_pos ⟨p, List.mem_cons_self, hv⟩]
      · rw [if_neg hv]
        simp only [List.exists_mem_cons_iff, hv, false_or]

/-! ## Round trips -/

/-- Every parameter that fits its buffer is read back, and no other key has a value. The buffer
    for key `k` has `outSz k` bytes. -/
def ParamsRoundTrip (outSz : ParamKey → Nat) (ps : List Param) : Prop :=
  (∀ p ∈ ps, p.value.length < outSz p.key →
    getQueryVal (some (queryText ps)) p.key.text (outSz p.key) = some p.value) ∧
  ∀ k, (∀ p ∈ ps, p.key ≠ k) → getQueryVal (some (queryText ps)) k.text (outSz k) = none

/-- No value in front of a parameter contains the text of its key, and its value is what is left
    of the value taken for the key by the cut to the buffer: its own, or for `id` that of
    `new_id` when it comes first. If there is a `new_id` and no `id`, a value in front of it
    contains `id`. -/
def Unambiguous (outSz : ParamKey → Nat) (ps : List Param) : Prop :=
  (∀ p ∈ ps, p.value.length < outSz p.key →
    (∀ q ∈ before p.key ps, ¬ p.key.text <:+: q.value) ∧
      ∃ q ∈ taken p.key ps, CutTo (outSz p.key - 1) q.value p.value) ∧
  ((∀ p ∈ ps, p.key ≠ .id) → (∃ p ∈ ps, p.key = .newId) →
    ∃ q ∈ before .id ps, ParamKey.id.text <:+: q.value)

/-- When a search finds the value `v`. -/
theorem getQueryVal_eq_some_iff {ps : List Param} {k : ParamKey} {n : Nat} {v : List UInt8} :
    getQueryVal (some (queryText ps)) k.text n = some v ↔
      (∀ q ∈ before k ps, ¬ k.text <:+: q.value) ∧
        ∃ q ∈ taken k ps, CutTo (n - 1) q.value v := by
  rw [getQueryVal_queryText]
  split
  case isTrue h =>
    obtain ⟨q, hq, hv⟩ := h
    exact iff_of_false (fun h => nomatch h) fun h => h.1 q hq hv
  case isFalse h =>
    have hnone : ∀ q ∈ before k ps, ¬ k.text <:+: q.value := fun q hq hv => h ⟨q, hq, hv⟩
    simp only [Option.map_eq_some_iff, Option.mem_def, ← urlDecode_take_iff, received]
    exact (and_iff_right hnone).symm

/-- When a search finds nothing: no key ends in `k`, or a value in front contains it. -/
theorem getQueryVal_eq_none_iff {ps : List Param} {k : ParamKey} {n : Nat} :
    getQueryVal (some (queryText ps)) k.text n = none ↔
      (∃ q ∈ before k ps, k.text <:+: q.value) ∨ ∀ p ∈ ps, ¬ p.key.EndsIn k := by
  rw [getQueryVal_queryText]
  split
  case isTrue h => exact iff_of_true rfl (Or.inl h)
  case isFalse h =>
    rw [Option.map_eq_none_iff, taken, List.find?_eq_none, or_iff_right h]
    simp

/-- **When query parameters round-trip.** For every list of parameters, in any order and with any
    values, and every choice of buffers: all of them are read back exactly when the query is
    unambiguous. -/
theorem query_round_trip_iff (outSz : ParamKey → Nat) (ps : List Param) :
    ParamsRoundTrip outSz ps ↔ Unambiguous outSz ps := by
  unfold ParamsRoundTrip Unambiguous
  simp only [getQueryVal_eq_some_iff, getQueryVal_eq_none_iff]
  refine and_congr_right fun _ => ?_
  constructor
  · intro h hid hnew
    obtain ⟨p, hp, hkey⟩ := hnew
    exact (h .id hid).resolve_right fun hno => hno p hp (Or.inr ⟨hkey, rfl⟩)
  · intro h k hk
    by_cases hends : ∃ p ∈ ps, p.key.EndsIn k
    · obtain ⟨p, hp, hkey | ⟨hkey, rfl⟩⟩ := hends
      · exact absurd hkey (hk p hp)
      · exact Or.inl (h hk ⟨p, hp, hkey⟩)
    · exact Or.inr fun p hp he => hends ⟨p, hp, he⟩

/-- The text of `id` is found in `new_id`: client 7 is asked for, and 5 is read. -/
theorem query_wrong_id :
    let ps : List Param := [⟨.newId, ascii "5", by decide⟩, ⟨.id, ascii "7", by decide⟩]
    (ps.map Param.key).Nodup ∧ queryText ps = ascii "?new_id=5&id=7" ∧
      getQueryVal (some (queryText ps)) (ascii "id") 32 = some (ascii "5") ∧
      ¬ ParamsRoundTrip (fun _ => 32) ps := by
  intro ps
  have hread : getQueryVal (some (queryText ps)) (ascii "id") 32 = some (ascii "5") := by
    decide +kernel
  refine ⟨by decide, by decide, hread, fun h => ?_⟩
  have hid := h.1 ⟨.id, ascii "7", by decide⟩ (by simp [ps]) (by decide)
  have := hread.symm.trans hid
  exact absurd this (by decide)

end IndoorLogger
