import IndoorLogger.Lib.ByteMemory
import IndoorLogger.Server.QueryString

/-
  `url_decode` on memory: a read cursor and a write cursor in buffers that may be one and the
  same. The loop computes what the decoder on lists does (`urlDecodeLoop_spec`): the write
  cursor is never ahead of the read cursor, or it is in a buffer behind the text.
-/

namespace IndoorLogger

open ByteMemory PercentEncoding

/-! ## The loop -/

/-- The two characters behind a `%`. The second is looked at only when the first is not the
    terminator. -/
def escapeAt (m : Memory) (src : Nat) (c : UInt8) : Except Fault (Option (UInt8 × UInt8)) :=
  if c = 37 then do
    let hi ← m.load (src + 1)
    if hi = 0 then return none
    let lo ← m.load (src + 2)
    if lo = 0 then return none
    return some (hi, lo)
  else return none

/-- The loop of `url_decode`, with `fuel` for its rounds. -/
def urlDecodeLoop (fuel dst src : Nat) (m : Memory) : Except Fault Memory :=
  match fuel with
  | 0 => .error .outOfFuel
  | fuel + 1 => do
    let c ← m.load src
    if c = 0 then m.store dst 0
    else
      match ← escapeAt m src c with
      | some (hi, lo) =>
        urlDecodeLoop fuel (dst + 1) (src + 3)
          (← m.store dst ((hexDigit hi <<< 4) ||| hexDigit lo).toUInt8)
      | none =>
        urlDecodeLoop fuel (dst + 1) (src + 1) (← m.store dst (if c = 43 then 32 else c))

/-! ## The loop and the decoder on lists -/

/-- Bytes that may be loaded. -/
def Readable (m : Memory) (src n : Nat) : Prop := ∀ a, src ≤ a → a < src + n → m.readable a = true

/-- Bytes that may be stored. -/
def Writable (m : Memory) (dst n : Nat) : Prop := ∀ a, dst ≤ a → a < dst + n → m.writable a = true

variable {m : Memory} {src dst : Nat}

/-- The test for an escape on a string: what it finds, and what the decoder makes of it. -/
theorem escapeAt_cases {c : UInt8} {t : List UInt8} (hnul : 0 ∉ c :: t)
    (hstr : BytesAt m src (c :: t ++ [0])) (hread : Readable m src (t.length + 2)) :
    (escapeAt m src c = .ok none ∧
        urlDecode (c :: t) = (if c = 43 then 32 else c) :: urlDecode t) ∨
      ∃ hi lo u, t = hi :: lo :: u ∧ escapeAt m src c = .ok (some (hi, lo)) ∧
        urlDecode (c :: t) = ((hexDigit hi <<< 4) ||| hexDigit lo).toUInt8 :: urlDecode u := by
  by_cases hc : c = 37
  · subst hc
    have hload1 := Memory.load_eq (hread (src + 1) (by omega) (by omega))
    match t, hnul, hstr with
    | [], _, ⟨_, h1, _⟩ =>
      left
      rw [h1] at hload1
      exact ⟨by rw [escapeAt, if_pos rfl, hload1]; rfl, rfl⟩
    | [hi], hnul, ⟨_, h1, h2, _⟩ =>
      left
      have hhi : hi ≠ 0 := fun h => hnul (by simp [h])
      have hload2 := Memory.load_eq (hread (src + 2) (by omega) (by simp))
      rw [h1] at hload1
      rw [h2] at hload2
      refine ⟨?_, rfl⟩
      rw [escapeAt, if_pos rfl, hload1]
      change (if hi = 0 then _ else _) = _
      rw [if_neg hhi, hload2]
      rfl
    | hi :: lo :: u, hnul, ⟨_, h1, h2, _⟩ =>
      right
      have hhi : hi ≠ 0 := fun h => hnul (by simp [h])
      have hlo : lo ≠ 0 := fun h => hnul (by simp [h])
      have hload2 := Memory.load_eq (hread (src + 2) (by omega) (by simp))
      rw [h1] at hload1
      rw [h2] at hload2
      refine ⟨hi, lo, u, rfl, ?_, by rw [urlDecode, if_pos rfl]⟩
      rw [escapeAt, if_pos rfl, hload1]
      change (if hi = 0 then _ else _) = _
      rw [if_neg hhi, hload2]
      change (if lo = 0 then _ else _) = _
      rw [if_neg hlo]
      rfl
  · exact Or.inl ⟨by rw [escapeAt, if_neg hc]; rfl, urlDecode_cons hc t⟩

theorem length_urlDecode_le (t : List UInt8) : (urlDecode t).length ≤ t.length := by
  fun_induction urlDecode t with
  | case1 => exact Nat.le_refl 0
  | case2 => exact Nat.le_refl 1
  | case3 c d ih => exact Nat.succ_le_succ ih
  | case4 hi lo u ih =>
    simp only [List.length_cons]
    omega
  | case5 c hi lo u _ ih => exact Nat.succ_le_succ ih

/-- The loop on a string of which it may load the bytes up to the terminator: with fuel for one
    round a byte it ends, and leaves the decoded text and a terminator. The text may start at
    the write cursor or behind it, or end before it. -/
theorem urlDecodeLoop_spec {fuel : Nat} {t : List UInt8} (hfuel : t.length < fuel) (hnul : 0 ∉ t)
    (hstr : BytesAt m src (t ++ [0])) (hread : Readable m src (t.length + 1))
    (hwrite : Writable m dst (t.length + 1)) (hapart : dst ≤ src ∨ src + t.length < dst) :
    ∃ m', urlDecodeLoop fuel dst src m = .ok m' ∧ BytesAt m' dst (urlDecode t ++ [0]) ∧
      ∀ a, a < dst ∨ dst + (urlDecode t).length < a → m'.byte a = m.byte a := by
  induction fuel generalizing t m src dst with
  | zero => omega
  | succ fuel ih =>
    have hload := Memory.load_eq (hread src (Nat.le_refl src) (by omega))
    cases t with
    | nil =>
      have hstore := Memory.store_eq (hwrite dst (Nat.le_refl dst) (by simp)) 0
      rw [hstr.1] at hload
      refine ⟨m.set dst 0, ?_, ⟨m.byte_set_self dst 0, trivial⟩, fun a ha => ?_⟩
      · rw [urlDecodeLoop, hload]
        exact hstore
      · exact m.byte_set_of_ne (by rw [urlDecode, List.length_nil] at ha; omega) 0
    | cons c t =>
      have hc : c ≠ 0 := fun h => hnul (by simp [h])
      rw [List.length_cons] at hfuel hapart hread hwrite
      rw [hstr.1] at hload
      -- one round stores a byte and leaves a shorter string that is not written to
      have hround : ∀ (x : UInt8) (k : Nat) (u : List UInt8), 1 ≤ k →
          k + u.length = t.length + 1 → 0 ∉ u → BytesAt m (src + k) (u ++ [0]) →
          urlDecode (c :: t) = x :: urlDecode u →
          urlDecodeLoop (fuel + 1) dst src m =
            urlDecodeLoop fuel (dst + 1) (src + k) (m.set dst x) →
          ∃ m', urlDecodeLoop (fuel + 1) dst src m = .ok m' ∧
            BytesAt m' dst (urlDecode (c :: t) ++ [0]) ∧
            ∀ a, a < dst ∨ dst + (urlDecode (c :: t)).length < a → m'.byte a = m.byte a := by
        intro x k u hk hlen hnul' hstr' hdec hrun
        have hread' : Readable (m.set dst x) (src + k) (u.length + 1) :=
          fun a h h' => hread a (by omega) (by omega)
        have hwrite' : Writable (m.set dst x) (dst + 1) (u.length + 1) :=
          fun a h h' => hwrite a (by omega) (by omega)
        obtain ⟨m', hok, hholds, hframe⟩ := ih (by omega) hnul'
          (hstr'.set (by simp; omega) x) hread' hwrite' (by omega)
        rw [hdec, hrun]
        refine ⟨m', hok, ⟨?_, hholds⟩, fun a ha => ?_⟩
        · rw [hframe dst (Or.inl (Nat.lt_succ_self dst)), Memory.byte_set_self]
        · rw [List.length_cons] at ha
          rw [hframe a (by omega), m.byte_set_of_ne (by omega) x]
      have hstore := fun x => Memory.store_eq (hwrite dst (Nat.le_refl dst) (by omega)) x
      rcases escapeAt_cases hnul hstr hread with ⟨hesc, hdec⟩ | ⟨hi, lo, u, rfl, hesc, hdec⟩
      · refine hround _ 1 t le_rfl (by omega) (fun h => hnul (List.mem_cons_of_mem _ h)) hstr.2
          hdec ?_
        rw [urlDecodeLoop, hload]
        change (if c = 0 then _ else _) = _
        rw [if_neg hc, hesc]
        change (do urlDecodeLoop fuel (dst + 1) (src + 1) (← m.store dst _)) = _
        rw [hstore]
        rfl
      · refine hround _ 3 u (by omega) (by simp; omega)
          (fun h => hnul (by simp [h])) hstr.2.2.2 hdec ?_
        rw [urlDecodeLoop, hload]
        change (if c = 0 then _ else _) = _
        rw [if_neg hc, hesc]
        change (do urlDecodeLoop fuel (dst + 1) (src + 3) (← m.store dst _)) = _
        rw [hstore]
        rfl

/-! ## Percent-decoding -/

/-- `url_decode` on the string of `n` bytes at `src` leaves `out` at `dst`, in any number of
    rounds above `n`. It loads nothing behind the terminator of its string, and stores nothing
    behind the terminator of `out`. -/
def DecodesTo (m : Memory) (dst src n : Nat) (out : List UInt8) : Prop :=
  ∀ fuel > n, ∃ m', urlDecodeLoop fuel dst src (m.guarded dst src (n + 1)) = .ok m' ∧
    BytesAt m' dst (out ++ [0]) ∧ ∀ a, a < dst ∨ dst + out.length < a → m'.byte a = m.byte a

theorem decodesTo_urlDecode {t : List UInt8} (hnul : 0 ∉ t) (hstr : BytesAt m src (t ++ [0]))
    (hapart : dst ≤ src ∨ src + t.length < dst) : DecodesTo m dst src t.length (urlDecode t) := by
  intro fuel hfuel
  have hguarded : BytesAt (m.guarded dst src (t.length + 1)) src (t ++ [0]) :=
    hstr.congr fun _ _ _ => rfl
  refine urlDecodeLoop_spec hfuel hnul hguarded ?_ ?_ hapart
  · intro a h h'
    exact Bool.and_eq_true_iff.mpr ⟨decide_eq_true h, decide_eq_true h'⟩
  · intro a h h'
    exact Bool.and_eq_true_iff.mpr ⟨decide_eq_true h, decide_eq_true h'⟩

/-- **Percent-decoding.** What encodes a component is a string, and is decoded to the component.
    Every string in memory is decoded without a fault to a text that is not longer, in place as
    well as into a buffer of its own. -/
theorem url_decode_inverts_encoding :
    (∀ s t : List UInt8, Encodes s t → 0 ∉ t ∧ urlDecode t = s) ∧
      ∀ (t : List UInt8) (m : Memory) (src : Nat), 0 ∉ t → BytesAt m src (t ++ [0]) →
        (urlDecode t).length ≤ t.length ∧
        DecodesTo m src src t.length (urlDecode t) ∧
        ∀ dst, dst + t.length < src ∨ src + t.length < dst →
          DecodesTo m dst src t.length (urlDecode t) := by
  constructor
  · intro s t henc
    refine ⟨fun h => ?_, ?_⟩
    · rcases henc.mem 0 h with h0 | h0
      · exact absurd h0 (by decide)
      · exact absurd h0 (by decide)
    · have hdec := urlDecode_encodes_append henc []
      rwa [List.append_nil, urlDecode, List.append_nil] at hdec
  · intro t m src hnul hstr
    exact ⟨length_urlDecode_le t, decodesTo_urlDecode hnul hstr (Or.inl (Nat.le_refl src)),
      fun dst h => decodesTo_urlDecode hnul hstr (h.imp_left fun h => by omega)⟩

/-- A slash and a byte above 127, the digits in both cases, decoded in place. -/
theorem url_decode_inverts_encoding_slash :
    let t : List UInt8 := [37, 50, 102, 37, 67, 51]
    let m : Memory := ⟨fun a => t[a]?.getD 0, fun _ => false, fun _ => false⟩
    (Encodes [47, 195] t ∧ 0 ∉ t ∧ BytesAt m 0 (t ++ [0])) ∧ urlDecode t = [47, 195] ∧
      DecodesTo m 0 0 6 (urlDecode t) := by
  intro t m
  have henc : Encodes [47, 195] t :=
    .escape (by decide) (.inl (by decide)) (.inr (by decide))
      (.escape (by decide) (.inl (by decide)) (.inl (by decide)) .nil)
  have hstr : BytesAt m 0 (t ++ [0]) := ⟨rfl, rfl, rfl, rfl, rfl, rfl, rfl, trivial⟩
  obtain ⟨hnul, hdec⟩ := url_decode_inverts_encoding.1 _ _ henc
  exact ⟨⟨henc, hnul, hstr⟩, hdec, (url_decode_inverts_encoding.2 t m 0 hnul hstr).2.1⟩

/-! ## Query values -/

end IndoorLogger
