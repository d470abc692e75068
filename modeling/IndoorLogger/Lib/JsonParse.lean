import Mathlib.Algebra.Field.Rat
import Mathlib.Algebra.GroupWithZero.Basic
import Mathlib.Algebra.Order.BigOperators.Group.List
import Mathlib.Tactic.Ring
import Mathlib.Tactic.NormNum
import Mathlib.Tactic.FieldSimp
import IndoorLogger.Lib.Decimal
import IndoorLogger.Lib.Json

/-
  A parser for JSON texts, and what it reads: `Reads t v` says that text `t` is read as value
  `v` wherever it stands before a delimiter. The lemmas `reads_*` compose: a printed number, a
  plain string, an array and an object of texts that are read as values.
-/

namespace Json

open Decimal

/-! ## The parser -/

def isSpace (b : UInt8) : Bool := b = 32 || b = 9 || b = 10 || b = 13

def skipSpace (t : List UInt8) : List UInt8 := t.dropWhile isSpace

def hexValue (c : UInt8) : Option Nat :=
  if isDigit c then some (c.toNat - 48)
  else if 97 ≤ c && c ≤ 102 then some (c.toNat - 87)
  else if 65 ≤ c && c ≤ 70 then some (c.toNat - 55)
  else none

/-- Four hexadecimal digits. -/
def parseHex4 : List UInt8 → Option (Nat × List UInt8)
  | a :: b :: c :: d :: t => do
    let a ← hexValue a
    let b ← hexValue b
    let c ← hexValue c
    let d ← hexValue d
    some (((a * 16 + b) * 16 + c) * 16 + d, t)
  | _ => none

/-- A code point in UTF-8. -/
def utf8 (u : Nat) : List UInt8 :=
  if u < 0x80 then [UInt8.ofNat u]
  else if u < 0x800 then [UInt8.ofNat (0xC0 + u / 64), UInt8.ofNat (0x80 + u % 64)]
  else if u < 0x10000 then
    [UInt8.ofNat (0xE0 + u / 4096), UInt8.ofNat (0x80 + u / 64 % 64),
      UInt8.ofNat (0x80 + u % 64)]
  else
    [UInt8.ofNat (0xF0 + u / 262144), UInt8.ofNat (0x80 + u / 4096 % 64),
      UInt8.ofNat (0x80 + u / 64 % 64), UInt8.ofNat (0x80 + u % 64)]

/-- The byte a one-letter escape stands for. -/
def simpleEscape (c : UInt8) : Option UInt8 :=
  if c = 34 || c = 92 || c = 47 then some c
  else if c = 98 then some 8
  else if c = 102 then some 12
  else if c = 110 then some 10
  else if c = 114 then some 13
  else if c = 116 then some 9
  else none

/-- What follows a backslash. Above the basic plane a code point is a pair of surrogates. -/
def parseEscape : List UInt8 → Option (List UInt8 × List UInt8)
  | [] => none
  | c :: t =>
    if c ≠ 117 then (simpleEscape c).map fun b => ([b], t)
    else do
      let (u, t) ← parseHex4 t
      if 0xDC00 ≤ u && u < 0xE000 then none
      else if 0xD800 ≤ u && u < 0xDC00 then
        match t with
        | 92 :: 117 :: t => do
          let (l, t) ← parseHex4 t
          if 0xDC00 ≤ l && l < 0xE000 then
            some (utf8 (0x10000 + (u - 0xD800) * 1024 + (l - 0xDC00)), t)
          else none
        | _ => none
      else some (utf8 u, t)

/-- A string from behind its opening quote. -/
def parseString : Nat → List UInt8 → Option (List UInt8 × List UInt8)
  | 0, _ => none
  | _ + 1, [] => none
  | n + 1, c :: t =>
    if c = 34 then some ([], t)
    else if c < 32 then none
    else if c = 92 then do
      let (s, t) ← parseEscape t
      let (s', t) ← parseString n t
      some (s ++ s', t)
    else (parseString n t).map fun r => (c :: r.1, r.2)

/-- The digits of a fraction, none of them when there is no point. -/
def parseFraction : List UInt8 → Option (List UInt8 × List UInt8)
  | [] => some ([], [])
  | c :: t =>
    if c = 46 then
      if t.takeWhile isDigit = [] then none
      else some (t.takeWhile isDigit, t.dropWhile isDigit)
    else some ([], c :: t)

/-- The value of an exponent, zero when there is none. -/
def parseExponent : List UInt8 → Option (ℤ × List UInt8)
  | [] => some (0, [])
  | c :: t =>
    if c = 101 || c = 69 then
      let (neg, t) :=
        match t with
        | 45 :: t => (true, t)
        | 43 :: t => (false, t)
        | t => (false, t)
      if t.takeWhile isDigit = [] then none
      else
        let e : ℤ := value (t.takeWhile isDigit)
        some (if neg then -e else e, t.dropWhile isDigit)
    else some (0, c :: t)

def parseUnsigned (t : List UInt8) : Option (ℚ × List UInt8) :=
  let int := t.takeWhile isDigit
  if int = [] ∨ (int.head? = some 48 ∧ int ≠ [48]) then none
  else do
    let (frac, t) ← parseFraction (t.dropWhile isDigit)
    let (e, t) ← parseExponent t
    some ((value (int ++ frac) : ℚ) / 10 ^ frac.length * 10 ^ e, t)

def parseNumber : List UInt8 → Option (ℚ × List UInt8)
  | [] => none
  | c :: t =>
    if c = 45 then (parseUnsigned t).map fun r => (-r.1, r.2) else parseUnsigned (c :: t)

/-- `null`, `true` or `false`. -/
def parseLiteral (t : List UInt8) : Option (Json × List UInt8) :=
  if (ascii "null").isPrefixOf t then some (.null, t.drop 4)
  else if (ascii "true").isPrefixOf t then some (.bool true, t.drop 4)
  else if (ascii "false").isPrefixOf t then some (.bool false, t.drop 5)
  else none

mutual

/-- A value after white space; every nested value takes one unit of fuel. -/
def parseValue : Nat → List UInt8 → Option (Json × List UInt8)
  | 0, _ => none
  | n + 1, t =>
    match skipSpace t with
    | [] => none
    | c :: t =>
      if c = 123 then
        match skipSpace t with
        | 125 :: t => some (.obj [], t)
        | t => (parseMembers n t).map fun r => (.obj r.1, r.2)
      else if c = 91 then
        match skipSpace t with
        | 93 :: t => some (.arr [], t)
        | t => (parseItems n t).map fun r => (.arr r.1, r.2)
      else if c = 34 then (parseString n t).map fun r => (.str r.1, r.2)
      else if c = 45 || isDigit c then (parseNumber (c :: t)).map fun r => (.num r.1, r.2)
      else parseLiteral (c :: t)

/-- The items of an array up to its closing bracket. -/
def parseItems : Nat → List UInt8 → Option (List Json × List UInt8)
  | 0, _ => none
  | n + 1, t => do
    let (v, t) ← parseValue n t
    match skipSpace t with
    | 44 :: t => do
      let (vs, t) ← parseItems n t
      some (v :: vs, t)
    | 93 :: t => some ([v], t)
    | _ => none

/-- The members of an object up to its closing brace. -/
def parseMembers : Nat → List UInt8 → Option (List (List UInt8 × Json) × List UInt8)
  | 0, _ => none
  | n + 1, t =>
    match skipSpace t with
    | 34 :: t => do
      let (k, t) ← parseString n t
      match skipSpace t with
      | 58 :: t => do
        let (v, t) ← parseValue n t
        match skipSpace t with
        | 44 :: t => do
          let (ms, t) ← parseMembers n t
          some ((k, v) :: ms, t)
        | 125 :: t => some ([(k, v)], t)
        | _ => none
      | _ => none
    | _ => none

end

/-- The value of a JSON text, none when it is not one. -/
def parse (t : List UInt8) : Option Json :=
  match parseValue (t.length + 1) t with
  | some (v, rest) => if skipSpace rest = [] then some v else none
  | none => none

/-! ## Texts that are read as a value -/

/-- What may stand behind a value in an array or an object. -/
def Delimited (rest : List UInt8) : Prop := ∀ b ∈ rest.head?, b = 44 ∨ b = 93 ∨ b = 125

/-- Text `t` is read as `v`, whatever delimiter follows. -/
structure Reads (t : List UInt8) (v : Json) : Prop where
  head : ∃ c u, t = c :: u ∧ isSpace c = false ∧ c ≠ 93
  value : ∀ n rest, t.length ≤ n → Delimited rest → parseValue n (t ++ rest) = some (v, rest)

theorem skipSpace_cons {c : UInt8} (h : isSpace c = false) (t : List UInt8) :
    skipSpace (c :: t) = c :: t := by
  unfold skipSpace
  rw [List.dropWhile_cons_of_neg (by rw [h]; exact Bool.false_ne_true)]

theorem delimited_cons {c : UInt8} (h : c = 44 ∨ c = 93 ∨ c = 125) (t : List UInt8) :
    Delimited (c :: t) := by
  intro b hb
  rw [List.head?_cons, Option.mem_some_iff] at hb
  exact hb ▸ h

theorem Reads.parse_eq {t : List UInt8} {v : Json} (h : Reads t v) : parse t = some v := by
  have := h.value (t.length + 1) [] (Nat.le_succ _) (by intro b hb; cases hb)
  rw [List.append_nil] at this
  unfold parse
  rw [this]
  rfl

/-! ## Strings -/

/-- A byte that stands for itself in a string. -/
def isPlain (b : UInt8) : Bool := 32 ≤ b && b ≠ 34 && b ≠ 92

theorem parseString_plain {s : List UInt8} (h : ∀ b ∈ s, isPlain b = true) {n : Nat}
    (hn : s.length < n) (rest : List UInt8) :
    parseString n (s ++ 34 :: rest) = some (s, rest) := by
  induction s generalizing n with
  | nil =>
    obtain ⟨k, rfl⟩ : ∃ k, n = k + 1 := ⟨n - 1, by omega⟩
    rfl
  | cons c s ih =>
    obtain ⟨k, rfl⟩ : ∃ k, n = k + 1 := ⟨n - 1, by omega⟩
    have hc := h c (by simp)
    simp only [isPlain, Bool.and_eq_true, decide_eq_true_eq, ne_eq] at hc
    obtain ⟨⟨h32, h34⟩, h92⟩ := hc
    rw [List.cons_append, parseString, if_neg h34, if_neg (UInt8.not_lt.mpr h32), if_neg h92,
      ih (fun b hb => h b (by simp [hb])) (by rw [List.length_cons] at hn; omega)]
    rfl

theorem reads_str {s : List UInt8} (h : ∀ b ∈ s, isPlain b = true) :
    Reads (34 :: (s ++ [34])) (.str s) := by
  refine ⟨⟨34, _, rfl, rfl, by decide⟩, fun n rest hn _ => ?_⟩
  obtain ⟨k, rfl⟩ : ∃ k, n = k + 1 := ⟨n - 1, by rw [List.length_cons] at hn; omega⟩
  have hs := parseString_plain h (n := k) (by simp at hn; omega) rest
  rw [List.cons_append, List.append_assoc, List.singleton_append, parseValue,
    skipSpace_cons (by rfl)]
  dsimp only
  rw [if_neg (by decide), if_neg (by decide), if_pos rfl, hs]
  rfl

/-! ## Numbers -/

theorem takeWhile_digits {ds rest : List UInt8} (h : ∀ b ∈ ds, isDigit b = true)
    (hr : ∀ b ∈ rest.head?, isDigit b = false) :
    (ds ++ rest).takeWhile isDigit = ds ∧ (ds ++ rest).dropWhile isDigit = rest := by
  rw [List.takeWhile_append_of_pos h, List.dropWhile_append_of_pos h]
  cases rest with
  | nil => exact ⟨List.append_nil _, rfl⟩
  | cons b rest =>
    have hb := hr b rfl
    rw [List.takeWhile_cons_of_neg (by rw [hb]; decide), List.append_nil,
      List.dropWhile_cons_of_neg (by rw [hb]; decide)]
    exact ⟨rfl, rfl⟩

theorem Delimited.notDigit {rest : List UInt8} (h : Delimited rest) :
    ∀ b ∈ rest.head?, isDigit b = false := by
  intro b hb
  rcases h b hb with rfl | rfl | rfl <;> rfl

theorem Delimited.fraction {rest : List UInt8} (h : Delimited rest) :
    parseFraction rest = some ([], rest) := by
  cases rest with
  | nil => rfl
  | cons b rest => rcases h b rfl with rfl | rfl | rfl <;> rfl

theorem Delimited.exponent {rest : List UInt8} (h : Delimited rest) :
    parseExponent rest = some (0, rest) := by
  cases rest with
  | nil => rfl
  | cons b rest => rcases h b rfl with rfl | rfl | rfl <;> rfl

/-- A printed number starts no longer number with a leading zero. -/
theorem formatNat_noLeadingZero (n : Nat) :
    ¬(formatNat n = [] ∨ ((formatNat n).head? = some 48 ∧ formatNat n ≠ [48])) := by
  intro h'
  rcases h' with h | ⟨h, hne⟩
  · exact formatNat_ne_nil n h
  · by_cases hn : n = 0
    · subst hn
      exact hne rfl
    · exact head_formatNat hn h

theorem parseUnsigned_nat (n : Nat) {rest : List UInt8} (h : Delimited rest) :
    parseUnsigned (formatNat n ++ rest) = some ((n : ℚ), rest) := by
  obtain ⟨ht, hd⟩ := takeWhile_digits (isDigit_formatNat (n := n)) h.notDigit
  unfold parseUnsigned
  rw [ht, hd, if_neg (formatNat_noLeadingZero n), h.fraction]
  simp only [Option.bind_eq_bind, Option.bind_some, h.exponent, List.append_nil,
    value_formatNat, List.length_nil, pow_zero, div_one, zpow_zero, mul_one]

theorem parseUnsigned_decimal (n : Nat) {fs : List UInt8} (hfs : ∀ b ∈ fs, isDigit b = true)
    (hne : fs ≠ []) {rest : List UInt8} (h : Delimited rest) :
    parseUnsigned (formatNat n ++ 46 :: (fs ++ rest)) =
      some ((n : ℚ) + value fs / 10 ^ fs.length, rest) := by
  have hpoint : ∀ b ∈ (46 :: (fs ++ rest)).head?, isDigit b = false := by
    intro b hb
    cases hb
    rfl
  obtain ⟨ht, hd⟩ := takeWhile_digits (isDigit_formatNat (n := n)) hpoint
  obtain ⟨htf, hdf⟩ := takeWhile_digits hfs h.notDigit
  have hfrac : parseFraction (46 :: (fs ++ rest)) = some (fs, rest) := by
    rw [parseFraction, if_pos rfl, htf, hdf, if_neg hne]
  have h10 : (10 : ℚ) ^ fs.length ≠ 0 := pow_ne_zero _ (by norm_num)
  unfold parseUnsigned
  rw [ht, hd, if_neg (formatNat_noLeadingZero n), hfrac]
  simp only [Option.bind_eq_bind, Option.bind_some, h.exponent, value_append, value_formatNat,
    zpow_zero, mul_one, Nat.cast_add, Nat.cast_mul, Nat.cast_pow, Nat.cast_ofNat]
  congr 2
  field_simp

/-- A number text is read as a value if the parser for numbers reads it. -/
theorem reads_num {c : UInt8} {u : List UInt8} {q : ℚ} (hc : c = 45 ∨ isDigit c = true)
    (h : ∀ rest, Delimited rest → parseNumber (c :: u ++ rest) = some (q, rest)) :
    Reads (c :: u) (.num q) := by
  have hd : isSpace c = false ∧ c ≠ 123 ∧ c ≠ 91 ∧ c ≠ 34 ∧ c ≠ 93 := by
    rcases hc with rfl | hc
    · decide
    · rw [isDigit_iff] at hc
      refine ⟨?_, ?_, ?_, ?_, ?_⟩
      · simp only [isSpace, Bool.or_eq_false_iff, decide_eq_false_iff_not]
        refine ⟨⟨⟨?_, ?_⟩, ?_⟩, ?_⟩ <;> rintro rfl <;> exact absurd hc (by decide)
      all_goals
        rintro rfl
        exact absurd hc (by decide)
  obtain ⟨hsp, h123, h91, h34, h93⟩ := hd
  refine ⟨⟨c, u, rfl, hsp, h93⟩, fun n rest hn hr => ?_⟩
  obtain ⟨k, rfl⟩ : ∃ k, n = k + 1 := ⟨n - 1, by rw [List.length_cons] at hn; omega⟩
  have hnum := h rest hr
  rw [List.cons_append] at hnum ⊢
  unfold parseValue
  rw [skipSpace_cons hsp]
  dsimp only
  rw [if_neg h123, if_neg h91, if_neg h34, if_pos (by simpa using hc), hnum]
  rfl

theorem formatNat_cons (n : Nat) :
    ∃ c u, formatNat n = c :: u ∧ isDigit c = true ∧ c ≠ 45 := by
  obtain ⟨c, u, hcu⟩ := List.exists_cons_of_ne_nil (formatNat_ne_nil n)
  have hc := isDigit_formatNat (n := n) c (by rw [hcu]; simp)
  refine ⟨c, u, hcu, hc, ?_⟩
  rintro rfl
  exact absurd hc (by decide)

/-- The texts `%u` and `%d.%d` print, with the sign the number has. -/
theorem reads_signed {n : Nat} (fs : List UInt8) {q : ℚ}
    (h : ∀ rest, Delimited rest → parseUnsigned (formatNat n ++ (fs ++ rest)) = some (q, rest)) :
    Reads (formatNat n ++ fs) (.num q) ∧ Reads (45 :: (formatNat n ++ fs)) (.num (-q)) := by
  constructor
  · obtain ⟨c, u, hcu, hc, hne⟩ := formatNat_cons n
    rw [hcu, List.cons_append]
    refine reads_num (Or.inr hc) fun rest hr => ?_
    rw [List.cons_append, parseNumber, if_neg hne, ← List.cons_append, ← List.cons_append, ← hcu,
      List.append_assoc]
    exact h rest hr
  · refine reads_num (Or.inl rfl) fun rest hr => ?_
    rw [List.cons_append, parseNumber, if_pos rfl, List.append_assoc, h rest hr]
    rfl

theorem reads_int (n : ℤ) : Reads (formatInt n) (.num n) := by
  obtain ⟨hpos, hneg⟩ := reads_signed [] fun rest hr => parseUnsigned_nat n.natAbs hr
  rw [List.append_nil] at hpos hneg
  rw [formatInt]
  split
  case isTrue h =>
    have hn : (n : ℚ) = -(n.natAbs : ℚ) := by
      rw [← Int.cast_natCast, Int.ofNat_natAbs_of_nonpos (by omega), Int.cast_neg, neg_neg]
    rw [hn]
    exact hneg
  case isFalse h =>
    have hn : (n : ℚ) = (n.natAbs : ℚ) := by
      rw [← Int.cast_natCast, Int.natAbs_of_nonneg (by omega)]
    rw [hn]
    exact hpos

theorem reads_nat (n : Nat) : Reads (formatNat n) (.num n) := by
  obtain ⟨hpos, -⟩ := reads_signed [] fun rest hr => parseUnsigned_nat n hr
  rwa [List.append_nil] at hpos

/-- The number that `%d`, a point and digits `fs` denote: the sign is that of the integer part
    as printed. -/
def pointNumber (n : ℤ) (fs : List UInt8) : ℚ :=
  let q : ℚ := n.natAbs + value fs / 10 ^ fs.length
  if n < 0 then -q else q

/-- The integer part and the digits of `k / 10 ^ w` apart: a negative number whose integer part
    is zero loses its sign. -/
theorem pointNumber_split (k : ℤ) (fs : List UInt8)
    (h : value fs = k.natAbs % 10 ^ fs.length) :
    pointNumber (k.tdiv (10 ^ fs.length : ℕ)) fs =
      (if -(10 ^ fs.length : ℕ) < k ∧ k < 0 then -k else k : ℤ) / (10 ^ fs.length : ℕ) := by
  have hcast : (10 : ℚ) ^ fs.length = (10 ^ fs.length : ℕ) := by push_cast; rfl
  have hpos : 0 < 10 ^ fs.length := Nat.pow_pos (by decide)
  unfold pointNumber
  rw [h, hcast, Int.natAbs_tdiv, Int.natAbs_natCast,
    show k.natAbs.div (10 ^ fs.length) = k.natAbs / 10 ^ fs.length from rfl]
  generalize 10 ^ fs.length = p at *
  have hp : (p : ℚ) ≠ 0 := by exact_mod_cast hpos.ne'
  have hmag : ((k.natAbs / p : ℕ) : ℚ) + (k.natAbs % p : ℕ) / p = k.natAbs / p := by
    rw [eq_div_iff hp, add_mul, div_mul_cancel₀ _ hp]
    exact_mod_cast Nat.div_add_mod' k.natAbs p
  dsimp only
  rw [hmag]
  rcases lt_or_ge k 0 with hk | hk
  · have habs : (k.natAbs : ℤ) = -k := Int.ofNat_natAbs_of_nonpos hk.le
    have htdiv : k.tdiv p = -((k.natAbs / p : ℕ) : ℤ) := by
      rw [← Int.neg_neg k, ← habs, Int.neg_tdiv, Int.natAbs_neg, Int.natAbs_natCast]
      rfl
    have hq : (k.natAbs : ℚ) = ((-k : ℤ) : ℚ) := by rw [← habs, Int.cast_natCast]
    rcases Nat.lt_or_ge k.natAbs p with hlt | hge
    · rw [htdiv, Nat.div_eq_of_lt hlt, if_neg (by decide), if_pos ⟨by omega, hk⟩, hq]
    · have hdiv : 0 < k.natAbs / p := Nat.div_pos hge hpos
      rw [htdiv, if_pos (by omega), if_neg (by omega), hq, Int.cast_neg, neg_div, neg_neg]
  · have habs : (k.natAbs : ℤ) = k := Int.natAbs_of_nonneg hk
    have hq : (k.natAbs : ℚ) = ((k : ℤ) : ℚ) := by rw [← Int.cast_natCast, habs]
    rw [if_neg (not_lt.mpr (Int.tdiv_nonneg hk (Int.natCast_nonneg p))), if_neg (by omega), hq]

theorem reads_point (n : ℤ) (fs : List UInt8) (hfs : ∀ b ∈ fs, isDigit b = true)
    (hne : fs ≠ []) : Reads (formatInt n ++ 46 :: fs) (.num (pointNumber n fs)) := by
  obtain ⟨hpos, hneg⟩ := reads_signed (46 :: fs) fun rest hr =>
    parseUnsigned_decimal n.natAbs hfs hne hr
  unfold formatInt
  rw [pointNumber]
  split
  · exact hneg
  · exact hpos

/-! ## Arrays and objects -/

/-- Texts with commas between them. -/
def commaSep : List (List UInt8) → List UInt8
  | [] => []
  | t :: ts => t ++ (ts.map (44 :: ·)).flatten

theorem commaSep_cons_cons (t u : List UInt8) (ts : List (List UInt8)) :
    commaSep (t :: u :: ts) = t ++ 44 :: commaSep (u :: ts) := by
  rw [commaSep, commaSep, List.map_cons, List.flatten_cons, List.cons_append]

theorem length_commaSep_le (ts : List (List UInt8)) (k : ℕ) (h : ∀ t ∈ ts, t.length ≤ k) :
    (commaSep ts).length ≤ ts.length * (k + 1) := by
  cases ts with
  | nil => exact Nat.zero_le _
  | cons t ts =>
    have ht := h t List.mem_cons_self
    have hts : ((ts.map (44 :: ·)).flatten).length ≤ ts.length * (k + 1) := by
      rw [List.length_flatten, List.map_map, ← List.length_map (f := List.length ∘ (44 :: ·))]
      refine List.sum_le_card_nsmul _ _ fun n hn => ?_
      obtain ⟨u, hu, rfl⟩ := List.mem_map.mp hn
      exact Nat.succ_le_succ (h u (List.mem_cons_of_mem _ hu))
    unfold commaSep
    rw [List.length_append, List.length_cons, Nat.succ_mul]
    omega

theorem parseItems_reads {t : List UInt8} {v : Json} (h : Reads t v) {ts : List (List UInt8)}
    {vs : List Json} (hs : List.Forall₂ Reads ts vs) {n : Nat}
    (hn : (commaSep (t :: ts)).length < n) (rest : List UInt8) :
    parseItems n (commaSep (t :: ts) ++ 93 :: rest) = some (v :: vs, rest) := by
  induction hs generalizing t v n with
  | nil =>
    obtain ⟨k, rfl⟩ : ∃ k, n = k + 1 := ⟨n - 1, by omega⟩
    have ht : commaSep [t] = t := List.append_nil t
    rw [ht] at hn ⊢
    unfold parseItems
    rw [h.value k _ (by omega) (delimited_cons (by decide) rest)]
    rfl
  | cons hu _ ih =>
    obtain ⟨k, rfl⟩ : ∃ k, n = k + 1 := ⟨n - 1, by omega⟩
    rw [commaSep_cons_cons] at hn ⊢
    rw [List.length_append, List.length_cons] at hn
    rw [List.append_assoc, List.cons_append, parseItems,
      h.value k _ (by omega) (delimited_cons (by decide) _)]
    simp only [Option.bind_eq_bind, Option.bind_some]
    rw [skipSpace_cons (by rfl)]
    simp only [ih hu (n := k) (by omega), Option.bind_some]

theorem reads_arr {ts : List (List UInt8)} {vs : List Json} (hs : List.Forall₂ Reads ts vs) :
    Reads (91 :: (commaSep ts ++ [93])) (.arr vs) := by
  refine ⟨⟨91, _, rfl, rfl, by decide⟩, fun n rest hn _ => ?_⟩
  obtain ⟨k, rfl⟩ : ∃ k, n = k + 1 := ⟨n - 1, by rw [List.length_cons] at hn; omega⟩
  rw [List.cons_append, List.append_assoc, List.singleton_append, parseValue,
    skipSpace_cons (by rfl)]
  dsimp only
  rw [if_neg (by decide), if_pos rfl]
  cases hs with
  | nil => rfl
  | cons h hs =>
    have hitems := parseItems_reads h hs (n := k) (by simp at hn; omega) rest
    obtain ⟨c, u, hc, hsp, h93⟩ := h.head
    rw [commaSep, hc, List.cons_append, List.cons_append, skipSpace_cons hsp]
    split
    case h_1 heq => exact absurd (List.cons.inj heq).1 h93
    case h_2 =>
      rw [commaSep, hc, List.cons_append, List.cons_append] at hitems
      rw [hitems]
      rfl

/-- A member's text: its name, a colon and its value's text. -/
def memberText (m : List UInt8 × List UInt8) : List UInt8 := 34 :: (m.1 ++ 34 :: 58 :: m.2)

/-- A text is read as a member: the name is plain and the value's text is read as its value. -/
def ReadsMember (m : List UInt8 × List UInt8) (v : List UInt8 × Json) : Prop :=
  v.1 = m.1 ∧ (∀ b ∈ m.1, isPlain b = true) ∧ Reads m.2 v.2

theorem readsMember {name t : List UInt8} {v : Json} (hname : name.all isPlain = true)
    (h : Reads t v) : ReadsMember (name, t) (name, v) :=
  ⟨rfl, List.all_eq_true.mp hname, h⟩

theorem parseMembers_reads {m : List UInt8 × List UInt8} {v : List UInt8 × Json}
    (h : ReadsMember m v) {ms : List (List UInt8 × List UInt8)} {vs : List (List UInt8 × Json)}
    (hs : List.Forall₂ ReadsMember ms vs) {n : Nat}
    (hn : (commaSep ((m :: ms).map memberText)).length < n) (rest : List UInt8) :
    parseMembers n (commaSep ((m :: ms).map memberText) ++ 125 :: rest) =
      some (v :: vs, rest) := by
  induction hs generalizing m v n with
  | nil =>
    obtain ⟨k, rfl⟩ : ∃ k, n = k + 1 := ⟨n - 1, by omega⟩
    obtain ⟨name, val⟩ := v
    obtain ⟨hk, hp, hv⟩ := h
    obtain rfl : name = m.1 := hk
    have ht : commaSep ([m].map memberText) = memberText m := List.append_nil _
    rw [ht, memberText] at hn ⊢
    simp only [List.length_cons, List.length_append] at hn
    have hstr := parseString_plain hp (n := k) (by omega) (58 :: (m.2 ++ 125 :: rest))
    have hval := hv.value k (125 :: rest) (by omega) (delimited_cons (by decide) rest)
    simp only [List.cons_append, List.append_assoc] at hstr ⊢
    unfold parseMembers
    rw [skipSpace_cons (by rfl)]
    simp only [Option.bind_eq_bind, Option.bind_some, hstr, skipSpace_cons (c := 58) (by rfl),
      hval, skipSpace_cons (c := 125) (by rfl),]
  | cons hu _ ih =>
    obtain ⟨k, rfl⟩ : ∃ k, n = k + 1 := ⟨n - 1, by omega⟩
    obtain ⟨name, val⟩ := v
    obtain ⟨hk, hp, hv⟩ := h
    obtain rfl : name = m.1 := hk
    rw [List.map_cons, List.map_cons, commaSep_cons_cons] at hn ⊢
    have hrec := ih hu (n := k) (by
      rw [List.map_cons]
      simp only [memberText, List.length_cons, List.length_append] at hn ⊢
      omega)
    rw [List.map_cons] at hrec
    rw [memberText] at hn ⊢
    simp only [List.length_cons, List.length_append] at hn
    generalize commaSep _ = tail at *
    have hstr := parseString_plain hp (n := k) (by omega)
      (58 :: (m.2 ++ 44 :: (tail ++ 125 :: rest)))
    have hval := hv.value k (44 :: (tail ++ 125 :: rest)) (by omega)
      (delimited_cons (by decide) _)
    simp only [List.cons_append, List.append_assoc] at hstr ⊢
    unfold parseMembers
    rw [skipSpace_cons (by rfl)]
    simp only [Option.bind_eq_bind, Option.bind_some, hstr, skipSpace_cons (c := 58) (by rfl),
      hval, skipSpace_cons (c := 44) (by rfl), hrec]

theorem reads_obj {m : List UInt8 × List UInt8} {v : List UInt8 × Json} (h : ReadsMember m v)
    {ms : List (List UInt8 × List UInt8)} {vs : List (List UInt8 × Json)}
    (hs : List.Forall₂ ReadsMember ms vs) :
    Reads (123 :: (commaSep ((m :: ms).map memberText) ++ [125])) (.obj (v :: vs)) := by
  refine ⟨⟨123, _, rfl, rfl, by decide⟩, fun n rest hn _ => ?_⟩
  obtain ⟨k, rfl⟩ : ∃ k, n = k + 1 := ⟨n - 1, by rw [List.length_cons] at hn; omega⟩
  have hmem := parseMembers_reads h hs (n := k) (by simp at hn; simp; omega) rest
  rw [List.cons_append, List.append_assoc, List.singleton_append, parseValue,
    skipSpace_cons (by rfl)]
  dsimp only
  rw [if_pos rfl]
  rw [List.map_cons, commaSep, memberText] at hmem ⊢
  rw [List.cons_append, List.cons_append] at hmem ⊢
  rw [skipSpace_cons (by rfl)]
  split
  case h_1 heq => exact absurd (List.cons.inj heq).1 (by decide)
  case h_2 =>
    rw [hmem]
    rfl

/-! ## Literals -/

/-- `true` and `false` are read as they are. -/
theorem reads_bool (b : Bool) :
    Reads (if b then ascii "true" else ascii "false") (.bool b) := by
  have hvalue : ∀ (t : List UInt8) (n : Nat) (rest : List UInt8), 0 < n →
      t = ascii "true" ∧ b = true ∨ t = ascii "false" ∧ b = false →
        parseValue n (t ++ rest) = some (.bool b, rest) := by
    intro t n rest hn ht
    obtain ⟨k, rfl⟩ : ∃ k, n = k + 1 := ⟨n - 1, by omega⟩
    rcases ht with ⟨rfl, rfl⟩ | ⟨rfl, rfl⟩ <;> rfl
  cases b with
  | true =>
    refine ⟨⟨116, _, rfl, rfl, by decide⟩, fun n rest hn _ => ?_⟩
    have hlen : (ascii "true").length = 4 := rfl
    rw [if_pos rfl, hlen] at hn
    exact hvalue _ n rest (by omega) (Or.inl ⟨rfl, rfl⟩)
  | false =>
    refine ⟨⟨102, _, rfl, rfl, by decide⟩, fun n rest hn _ => ?_⟩
    have hlen : (ascii "false").length = 5 := rfl
    rw [if_neg Bool.false_ne_true, hlen] at hn
    exact hvalue _ n rest (by omega) (Or.inr ⟨rfl, rfl⟩)

/-! ## The size of what is parsed -/

/-- Every item takes one unit of fuel. -/
theorem length_parseItems {n : Nat} {t : List UInt8} {vs : List Json} {rest : List UInt8}
    (h : parseItems n t = some (vs, rest)) : vs.length ≤ n := by
  induction n generalizing t vs rest with
  | zero => cases h
  | succ n ih =>
    unfold parseItems at h
    obtain ⟨⟨v, t'⟩, -, h⟩ := Option.bind_eq_some_iff.mp h
    dsimp only at h
    split at h
    · obtain ⟨⟨vs', t''⟩, hvs, h⟩ := Option.bind_eq_some_iff.mp h
      cases h
      exact Nat.succ_le_succ (ih hvs)
    · cases h
      exact Nat.succ_le_succ (Nat.zero_le n)
    · cases h

/-- The values of an object's members are parsed with less fuel. -/
theorem parseMembers_value {n : Nat} {t : List UInt8} {ms : List (List UInt8 × Json)}
    {rest : List UInt8} (h : parseMembers n t = some (ms, rest)) {m : List UInt8 × Json}
    (hm : m ∈ ms) : ∃ k ≤ n, ∃ t' rest', parseValue k t' = some (m.2, rest') := by
  induction n generalizing t ms rest with
  | zero => cases h
  | succ n ih =>
    unfold parseMembers at h
    split at h
    case h_2 => cases h
    case h_1 =>
      obtain ⟨⟨k, t₁⟩, -, h⟩ := Option.bind_eq_some_iff.mp h
      dsimp only at h
      split at h
      case h_2 => cases h
      case h_1 =>
        obtain ⟨⟨v, t₂⟩, hv, h⟩ := Option.bind_eq_some_iff.mp h
        dsimp only at h
        split at h
        · obtain ⟨⟨ms', t₃⟩, hms, h⟩ := Option.bind_eq_some_iff.mp h
          cases h
          rcases List.mem_cons.mp hm with rfl | hm
          · exact ⟨n, Nat.le_succ n, _, _, hv⟩
          · obtain ⟨k, hk, hval⟩ := ih hms hm
            exact ⟨k, Nat.le_succ_of_le hk, hval⟩
        · cases h
          obtain rfl := List.mem_singleton.mp hm
          exact ⟨n, Nat.le_succ n, _, _, hv⟩
        · cases h

/-- An array and an object of a text: no more items than fuel, and members parsed within it. -/
theorem parseValue_cases {n : Nat} {t : List UInt8} {v : Json} {rest : List UInt8}
    (h : parseValue n t = some (v, rest)) :
    (∀ items, v = .arr items → items.length ≤ n) ∧
      ∀ ms, v = .obj ms → ∀ m ∈ ms, ∃ k ≤ n, ∃ t' rest', parseValue k t' = some (m.2, rest') := by
  cases n with
  | zero => cases h
  | succ n =>
    unfold parseValue at h
    split at h
    · cases h
    · split at h
      · split at h
        · cases h
          exact ⟨fun _ => nofun, fun ms h m hm => by cases h; cases hm⟩
        · obtain ⟨r, hr, h⟩ := Option.map_eq_some_iff.mp h
          cases h
          refine ⟨fun _ => nofun, fun ms h m hm => ?_⟩
          cases h
          obtain ⟨k, hk, hval⟩ := parseMembers_value hr hm
          exact ⟨k, Nat.le_succ_of_le hk, hval⟩
      · split at h
        · split at h
          · cases h
            exact ⟨fun items h => by cases h; exact Nat.zero_le _, fun _ => nofun⟩
          · obtain ⟨r, hr, h⟩ := Option.map_eq_some_iff.mp h
            cases h
            refine ⟨fun items h => ?_, fun _ => nofun⟩
            cases h
            exact Nat.le_succ_of_le (length_parseItems hr)
        · have scalar : ∀ {v : Json}, (∀ items, v ≠ .arr items) → (∀ ms, v ≠ .obj ms) →
              (∀ items, v = .arr items → items.length ≤ n + 1) ∧
                ∀ ms, v = .obj ms → ∀ m ∈ ms, ∃ k ≤ n + 1, ∃ t' rest',
                  parseValue k t' = some (m.2, rest') :=
            fun ha ho => ⟨fun items h => absurd h (ha items), fun ms h => absurd h (ho ms)⟩
          split at h
          · obtain ⟨r, -, h⟩ := Option.map_eq_some_iff.mp h
            cases h
            exact scalar (fun _ => nofun) fun _ => nofun
          · split at h
            · obtain ⟨r, -, h⟩ := Option.map_eq_some_iff.mp h
              cases h
              exact scalar (fun _ => nofun) fun _ => nofun
            · unfold parseLiteral at h
              split at h
              · cases h
                exact scalar (fun _ => nofun) fun _ => nofun
              · split at h
                · cases h
                  exact scalar (fun _ => nofun) fun _ => nofun
                · split at h
                  · cases h
                    exact scalar (fun _ => nofun) fun _ => nofun
                  · cases h

/-- A document's array, or the array of a member of it, has no more items than the text bytes,
    and one. -/
theorem length_items_of_parse {t : List UInt8} {v : Json} (h : parse t = some v)
    {items : List Json}
    (hitems : v.items? = some items ∨ ∃ name, (v.getObjectItem name).bind items? = some items) :
    items.length ≤ t.length + 1 := by
  have harr : ∀ {w : Json}, w.items? = some items → w = .arr items := by
    intro w hw
    cases w with
    | arr l => exact congrArg Json.arr (Option.some.inj hw)
    | _ => cases hw
  unfold parse at h
  split at h
  case h_2 => cases h
  case h_1 v' rest hv =>
    split at h
    case isFalse => cases h
    case isTrue =>
      cases h
      obtain ⟨hitem, hmember⟩ := parseValue_cases hv
      rcases hitems with htop | ⟨name, hin⟩
      · exact hitem items (harr htop)
      · obtain ⟨w, hw, hwi⟩ := Option.bind_eq_some_iff.mp hin
        unfold getObjectItem at hw
        split at hw
        case h_2 => cases hw
        case h_1 ms =>
          obtain ⟨m, hm, rfl⟩ := Option.map_eq_some_iff.mp hw
          obtain ⟨k, hk, t', rest', hval⟩ := hmember ms rfl m (List.mem_of_find?_eq_some hm)
          exact ((parseValue_cases hval).1 items (harr hwi)).trans hk

end Json
