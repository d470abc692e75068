import IndoorLogger.Lib.Machine
import IndoorLogger.Lib.Runs
import IndoorLogger.Client.ClientTask

/-
  `button_is_pressed_debounced` of `apps/client/main/button.c`. What it reports is one press for
  each stretch of pressed samples that lasts long enough: a released sample ends the stretch at
  once, without being debounced itself, so that a glitch in a press makes two of it
  (`one_report_per_press_iff`).
-/

namespace IndoorLogger

open Machine Runs

/-! ## The debouncer -/

/-- The variables of `button.c` that are read. -/
structure Button where
  lastButtonState : Bool
  lastStateChangeTime : UInt32
  debouncedState : Bool
  longPressIgnore : Bool
  pressStartTime : UInt32
  pressReported : Bool
  pressPending : Bool
  deriving DecidableEq

/-- `button_is_pressed` and the tick count of a call. -/
structure ButtonSample where
  pressed : Bool
  now : UInt32
  deriving DecidableEq

/-- `button_init`. -/
def buttonInit (pressed : Bool) (b : Button) : Button :=
  { b with
    lastButtonState := pressed
    debouncedState := pressed
    longPressIgnore := false
    pressReported := false
    pressPending := false }

/-- `DEBOUNCE_TIME_MS` in ticks. -/
def debounceTicks (hz : UInt32) : UInt32 := pdMsToTicks hz 50

/-- `LONG_PRESS_IGNORE_MS` in ticks. -/
def longPressTicks (hz : UInt32) : UInt32 := pdMsToTicks hz 5000

/-- The raw edge, or the stable level, of a call. -/
def buttonEdge (hz : UInt32) (b : Button) (s : ButtonSample) : Button × Bool :=
  if s.pressed ≠ b.lastButtonState then
    let b := { b with lastButtonState := s.pressed, lastStateChangeTime := s.now }
    if s.pressed then
      ({ b with
          pressStartTime := s.now
          debouncedState := false
          pressReported := false
          longPressIgnore := false }, false)
    else ({ b with longPressIgnore := false, pressReported := false }, false)
  else if s.now - b.lastStateChangeTime ≥ debounceTicks hz then
    let b := { b with debouncedState := s.pressed }
    if b.debouncedState && !b.pressReported && !b.longPressIgnore then
      ({ b with pressReported := true, pressPending := true }, true)
    else (b, false)
  else (b, false)

/-- What a call does behind the edge: a press that lasts is ignored from then on, and without a
    debounced press nothing is. -/
def buttonLongPress (hz : UInt32) (now : UInt32) (b : Button) : Button :=
  let b := if b.debouncedState && now - b.pressStartTime ≥ longPressTicks hz then
    { b with longPressIgnore := true } else b
  if !b.debouncedState then { b with longPressIgnore := false, pressReported := false } else b

/-- `button_is_pressed_debounced`. -/
def buttonIsPressedDebounced (hz : UInt32) (b : Button) (s : ButtonSample) : Button × Bool :=
  let (b, result) := buttonEdge hz b s
  (buttonLongPress hz s.now b, result)

/-! ## What the debouncer is for -/

/-- A stretch of pressed samples: when it began, and whether it is reported. -/
structure Press where
  start : UInt32
  reported : Bool
  deriving DecidableEq

/-- A stretch is reported at its first sample that is `ticks` behind its start. -/
def pressStep (ticks : UInt32) (p : Option Press) (s : ButtonSample) : Option Press × Bool :=
  if s.pressed then
    match p with
    | none => (some ⟨s.now, false⟩, false)
    | some p =>
      if ticks ≤ s.now - p.start then (some { p with reported := true }, !p.reported)
      else (some p, false)
  else (none, false)

/-- The debouncer follows the stretch. Of a release it keeps the level only. -/
def FollowsPress (b : Button) : Option Press → Prop
  | none => b.lastButtonState = false
  | some p => b.lastButtonState = true ∧ b.lastStateChangeTime = p.start ∧
      b.debouncedState = p.reported ∧ b.pressReported = p.reported ∧
      (p.reported = false → b.longPressIgnore = false)

/-- What is left alone behind the edge. -/
theorem buttonLongPress_keeps (hz now : UInt32) (b : Button) :
    (buttonLongPress hz now b).lastButtonState = b.lastButtonState ∧
      (buttonLongPress hz now b).lastStateChangeTime = b.lastStateChangeTime ∧
      (buttonLongPress hz now b).debouncedState = b.debouncedState ∧
      (buttonLongPress hz now b).pressReported = (b.debouncedState && b.pressReported) ∧
      (b.debouncedState = false → (buttonLongPress hz now b).longPressIgnore = false) := by
  unfold buttonLongPress
  cases hd : b.debouncedState with
  | false => simp [hd]
  | true => by_cases hl : now - b.pressStartTime ≥ longPressTicks hz <;> simp [hd, hl]

/-- A released sample ends the stretch and reports nothing. -/
theorem buttonEdge_released (hz : UInt32) (b : Button) (now : UInt32) :
    (buttonEdge hz b ⟨false, now⟩).2 = false ∧
      (buttonEdge hz b ⟨false, now⟩).1.lastButtonState = false := by
  unfold buttonEdge
  cases hlevel : b.lastButtonState with
  | true => exact ⟨rfl, rfl⟩
  | false =>
    rw [if_neg (not_not_intro rfl)]
    split
    · exact ⟨rfl, rfl⟩
    · exact ⟨rfl, hlevel⟩

/-- The first pressed sample begins a stretch. -/
theorem buttonEdge_began {b : Button} (h : b.lastButtonState = false) (hz now : UInt32) :
    buttonEdge hz b ⟨true, now⟩ =
      ({ b with
          lastButtonState := true
          lastStateChangeTime := now
          pressStartTime := now
          debouncedState := false
          pressReported := false
          longPressIgnore := false }, false) := by
  unfold buttonEdge
  rw [h]
  rfl

/-- A later one is reported when the stretch lasts long enough, once. -/
theorem buttonEdge_pressed {b : Button} {p : Press} (h : FollowsPress b (some p))
    (hz now : UInt32) :
    buttonEdge hz b ⟨true, now⟩ =
      if debounceTicks hz ≤ now - p.start then
        ({ b with
            debouncedState := true
            pressReported := true
            pressPending := b.pressPending || !p.reported }, !p.reported)
      else (b, false) := by
  obtain ⟨level, change, debounced, ignore, start, reported, pending⟩ := b
  obtain ⟨began, done⟩ := p
  obtain ⟨hlevel, hchange, hdebounced, hreported, hignore⟩ := h
  dsimp only at hlevel hchange hdebounced hreported hignore
  subst hlevel hchange hdebounced hreported
  unfold buttonEdge
  rw [if_neg (not_not_intro rfl)]
  refine if_congr Iff.rfl ?_ rfl
  cases reported with
  | false =>
    obtain rfl := hignore rfl
    cases pending <;> rfl
  | true => cases pending <;> rfl

/-- The debouncer reports what the stretches report. -/
theorem followsPress_step (hz : UInt32) {b : Button} {p : Option Press} (h : FollowsPress b p)
    (s : ButtonSample) :
    (buttonIsPressedDebounced hz b s).2 = (pressStep (debounceTicks hz) p s).2 ∧
      FollowsPress (buttonIsPressedDebounced hz b s).1 (pressStep (debounceTicks hz) p s).1 := by
  obtain ⟨pressed, now⟩ := s
  obtain ⟨hlevel, hchange, hdebounced, hreported, hignore⟩ :=
    buttonLongPress_keeps hz now (buttonEdge hz b ⟨pressed, now⟩).1
  unfold buttonIsPressedDebounced pressStep
  dsimp only
  cases pressed with
  | false =>
    obtain ⟨hresult, hreleased⟩ := buttonEdge_released hz b now
    exact ⟨hresult, hlevel.trans hreleased⟩
  | true =>
    cases p with
    | none =>
      rw [buttonEdge_began h hz now] at hlevel hchange hdebounced hreported hignore ⊢
      exact ⟨rfl, hlevel, hchange, hdebounced, hreported, fun _ => hignore rfl⟩
    | some p =>
      rw [buttonEdge_pressed h hz now] at hlevel hchange hdebounced hreported hignore ⊢
      obtain ⟨hon, hbegan, hdone, hreport, hlong⟩ := h
      dsimp only
      rw [if_pos rfl]
      by_cases hd : debounceTicks hz ≤ now - p.start
      · rw [if_pos hd] at hlevel hchange hdebounced hreported hignore ⊢
        rw [if_pos hd]
        exact ⟨rfl, hlevel.trans hon, hchange.trans hbegan, hdebounced, hreported, nofun⟩
      · rw [if_neg hd] at hlevel hchange hdebounced hreported hignore ⊢
        rw [if_neg hd]
        refine ⟨rfl, hlevel.trans hon, hchange.trans hbegan, hdebounced.trans hdone, ?_,
          fun hr => hignore (hdone.trans hr)⟩
        rw [hreported, hdone, hreport, Bool.and_self]

/-! ## Samples -/

section

variable (hz : UInt32) (b : Button) (samples : List ButtonSample)

/-- The level of sample `k`. -/
def pressedAt (k : Nat) : Option Bool := samples[k]?.map ButtonSample.pressed

/-- The tick count of sample `k`. -/
def tickAt (k : Nat) : UInt32 := (samples[k]?.map ButtonSample.now).getD 0

/-- Call `k` returns true. -/
def Reports (k : Nat) : Prop :=
  (outputs (buttonIsPressedDebounced hz) b samples)[k]? = some true

instance (k : Nat) : Decidable (Reports hz b samples k) := inferInstanceAs (Decidable (_ = _))

/-- Between samples `k` and `l` a release is long enough to be debounced. -/
def ReleaseBetween (k l : Nat) : Prop :=
  ∃ i j, k < i ∧ j < l ∧ Maximal (pressedAt samples) (some false) i j ∧
    debounceTicks hz ≤ tickAt samples j - tickAt samples i

/-- Two reports have a debounced release between them. -/
def OneReportPerPress : Prop :=
  ∀ k l, k < l → Reports hz b samples k → Reports hz b samples l → ReleaseBetween hz samples k l

/-- A press that is long enough to be debounced. -/
def DebouncedPress (i j : Nat) : Prop :=
  Maximal (pressedAt samples) (some true) i j ∧ i < j ∧
    debounceTicks hz ≤ tickAt samples j - tickAt samples i

/-- Two debounced presses have a debounced release between them: what interrupts a press for
    less is followed by no debounced press. -/
def NoGlitch : Prop :=
  ∀ i j i' j', DebouncedPress hz samples i j → DebouncedPress hz samples i' j' → j < i' →
    ReleaseBetween hz samples j i'

end

variable {hz ticks : UInt32} {b : Button} {samples : List ButtonSample} {i j k : Nat}

theorem pressedAt_eq {level : Bool} (h : pressedAt samples k = some level) :
    samples[k]? = some ⟨level, tickAt samples k⟩ := by
  obtain ⟨s, hs, rfl⟩ := Option.map_eq_some_iff.mp h
  unfold tickAt
  rw [hs]
  rfl

theorem pressedAt_false (h : pressedAt samples k ≠ some true) (hk : k < samples.length) :
    pressedAt samples k = some false := by
  unfold pressedAt at h ⊢
  rw [List.getElem?_eq_getElem hk] at h ⊢
  exact congrArg some (Bool.eq_false_of_not_eq_true fun ht => h (congrArg some ht))

theorem pressedAt_lt {level : Bool} (h : pressedAt samples k = some level) :
    k < samples.length :=
  (List.getElem?_eq_some_iff.mp (pressedAt_eq h)).1

theorem pressedAt_length (level : Bool) : pressedAt samples samples.length ≠ some level := by
  unfold pressedAt
  rw [List.getElem?_eq_none (Nat.le_refl _)]
  exact Option.some_ne_none _ ∘ Eq.symm

/-- Behind a released sample there is no stretch. -/
theorem final_pressStep_released (h : pressedAt samples k = some false) :
    final (pressStep ticks) none (samples.take (k + 1)) = none := by
  rw [final_take_succ (pressedAt_eq h)]
  rfl

/-- Behind a pressed one there is the stretch that began where the run of pressed samples starts,
    reported once one of them was late enough. -/
theorem final_pressStep_pressed (h : StartsAt (pressedAt samples) (some true) i k) :
    ∃ p : Press, final (pressStep ticks) none (samples.take (k + 1)) = some p ∧
      p.start = tickAt samples i ∧
      (p.reported = true ↔
        ∃ m, i < m ∧ m ≤ k ∧ ticks ≤ tickAt samples m - tickAt samples i) := by
  induction k with
  | zero =>
    obtain rfl := Nat.le_zero.mp h.le
    refine ⟨⟨tickAt samples 0, false⟩, ?_, rfl, iff_of_false Bool.false_ne_true ?_⟩
    · rw [final_take_succ (pressedAt_eq h.last)]
      rfl
    · rintro ⟨m, hpos, hm, -⟩
      exact absurd hm (Nat.not_le.mpr hpos)
  | succ k ih =>
    have hsample := pressedAt_eq h.last
    rw [final_take_succ hsample]
    by_cases hk : pressedAt samples k = some true
    · have hik : i ≤ k := by
        by_contra hlt
        exact h.start k (Nat.le_antisymm h.le (Nat.not_le.mp hlt)) hk
      obtain ⟨p, hp, hstart, hreported⟩ :=
        ih ⟨hik, fun m him hmk => h.all m him (hmk.trans (Nat.le_succ k)), h.start⟩
      rw [hp]
      unfold pressStep
      dsimp only
      rw [if_pos rfl, hstart]
      by_cases hd : ticks ≤ tickAt samples (k + 1) - tickAt samples i
      · rw [if_pos hd]
        refine ⟨_, rfl, rfl, iff_of_true rfl ?_⟩
        exact ⟨k + 1, Nat.lt_succ_of_le hik, Nat.le_refl _, hd⟩
      · rw [if_neg hd]
        refine ⟨p, rfl, hstart, hreported.trans ⟨?_, ?_⟩⟩
        · rintro ⟨m, him, hmk, hm⟩
          exact ⟨m, him, hmk.trans (Nat.le_succ k), hm⟩
        · rintro ⟨m, him, hmk, hm⟩
          refine ⟨m, him, ?_, hm⟩
          refine Nat.le_of_lt_succ (lt_of_le_of_ne hmk ?_)
          rintro rfl
          exact hd hm
    · have hlt : k < samples.length := (Nat.lt_succ_self k).trans (pressedAt_lt h.last)
      rw [final_pressStep_released (pressedAt_false hk hlt)]
      obtain rfl := h.eq_of_overlap (startsAt_succ hk h.last) h.le (Nat.le_refl _)
      refine ⟨⟨tickAt samples (k + 1), false⟩, rfl, rfl, iff_of_false Bool.false_ne_true ?_⟩
      rintro ⟨m, hlt, hm, -⟩
      exact absurd hm (Nat.not_le.mpr hlt)

/-- What a call on a pressed sample returns. -/
theorem pressStep_iff (h : StartsAt (pressedAt samples) (some true) i k) :
    (pressStep ticks (final (pressStep ticks) none (samples.take k)) ⟨true, tickAt samples k⟩).2 =
        true ↔
      i < k ∧ ticks ≤ tickAt samples k - tickAt samples i ∧
        ∀ m, i < m → m < k → ¬ticks ≤ tickAt samples m - tickAt samples i := by
  rcases Nat.lt_or_ge i k with hik | hki
  · obtain ⟨k, rfl⟩ := Nat.exists_eq_succ_of_ne_zero (Nat.ne_of_gt (Nat.zero_lt_of_lt hik))
    obtain ⟨p, hp, hstart, hreported⟩ := @final_pressStep_pressed ticks samples i k
      ⟨Nat.le_of_lt_succ hik, fun m him hmk => h.all m him (hmk.trans (Nat.le_succ k)), h.start⟩
    rw [hp]
    unfold pressStep
    dsimp only
    rw [if_pos rfl, hstart]
    have hfirst : (!p.reported) = true ↔
        ∀ m, i < m → m < k + 1 → ¬ticks ≤ tickAt samples m - tickAt samples i := by
      rw [Bool.not_eq_true', ← Bool.not_eq_true, hreported]
      constructor
      · exact fun hno m him hmk hm => hno ⟨m, him, Nat.le_of_lt_succ hmk, hm⟩
      · rintro hno ⟨m, him, hmk, hm⟩
        exact hno m him (Nat.lt_succ_of_le hmk) hm
    by_cases hd : ticks ≤ tickAt samples (k + 1) - tickAt samples i
    · rw [if_pos hd]
      exact hfirst.trans ⟨fun hf => ⟨hik, hd, hf⟩, fun hf => hf.2.2⟩
    · rw [if_neg hd]
      exact iff_of_false Bool.false_ne_true fun hf => hd hf.2.1
  · obtain rfl := Nat.le_antisymm hki h.le
    have hnone : final (pressStep ticks) none (samples.take k) = none := by
      cases k with
      | zero => rfl
      | succ k =>
        have hlt := (Nat.lt_succ_self k).trans (pressedAt_lt h.last)
        exact final_pressStep_released (pressedAt_false (h.start k rfl) hlt)
    rw [hnone]
    exact iff_of_false Bool.false_ne_true fun hf => Nat.lt_irrefl k hf.1

/-- A call reports a press exactly if it is the first one late enough behind the start of the
    run of pressed samples it is in. -/
theorem reports_iff (hinit : FollowsPress b none) :
    Reports hz b samples k ↔ ∃ i, StartsAt (pressedAt samples) (some true) i k ∧ i < k ∧
      debounceTicks hz ≤ tickAt samples k - tickAt samples i ∧
      ∀ m, i < m → m < k → ¬debounceTicks hz ≤ tickAt samples m - tickAt samples i := by
  have hsim : outputs (buttonIsPressedDebounced hz) b samples =
      outputs (pressStep (debounceTicks hz)) none samples :=
    outputs_eq_of_simulation (R := FollowsPress) (fun _ _ s h _ _ => followsPress_step hz h s) hinit
      (meets_of_forall (C := fun _ _ => True) fun _ _ _ => trivial)
      (meets_of_forall (C := fun _ _ => True) fun _ _ _ => trivial)
  unfold Reports
  rw [hsim, getElem?_outputs, Option.map_eq_some_iff]
  constructor
  · rintro ⟨⟨pressed, now⟩, hs, hreport⟩
    cases pressed with
    | false => exact absurd hreport Bool.false_ne_true
    | true =>
      have hpressed : pressedAt samples k = some true := by
        unfold pressedAt
        rw [hs]
        rfl
      obtain ⟨i, hi⟩ := exists_startsAt hpressed
      obtain rfl : now = tickAt samples k := by
        have hsame := hs.symm.trans (pressedAt_eq hpressed)
        exact congrArg ButtonSample.now (Option.some.inj hsame)
      exact ⟨i, hi, (pressStep_iff hi).mp hreport⟩
  · rintro ⟨i, hi, hreport⟩
    exact ⟨_, pressedAt_eq hi.last, (pressStep_iff hi).mpr hreport⟩

/-! ## Reports and presses -/

theorem tickAt_le (h : samples.Pairwise fun s s' => s.now ≤ s'.now) (hij : i ≤ j)
    (hj : j < samples.length) : tickAt samples i ≤ tickAt samples j := by
  unfold tickAt
  rw [List.getElem?_eq_getElem hj, List.getElem?_eq_getElem (hij.trans_lt hj)]
  rcases Nat.eq_or_lt_of_le hij with rfl | hlt
  · exact UInt32.le_refl _
  · exact List.pairwise_iff_getElem.mp h i j _ hj hlt

/-- Time only passes. -/
theorem elapsed_mono (h : samples.Pairwise fun s s' => s.now ≤ s'.now) (hij : i ≤ j) (hjk : j ≤ k)
    (hk : k < samples.length) :
    tickAt samples j - tickAt samples i ≤ tickAt samples k - tickAt samples i := by
  have hi := tickAt_le h hij (hjk.trans_lt hk)
  have hj := tickAt_le h hjk hk
  rw [UInt32.le_iff_toNat_le, UInt32.toNat_sub_of_le _ _ hi,
    UInt32.toNat_sub_of_le _ _ (UInt32.le_trans hi hj)]
  exact Nat.sub_le_sub_right (UInt32.le_iff_toNat_le.mp hj) _

/-- A debounced press is reported. -/
theorem DebouncedPress.exists_reports (hinit : FollowsPress b none)
    (h : DebouncedPress hz samples i j) : ∃ k, i < k ∧ k ≤ j ∧ Reports hz b samples k := by
  classical
  obtain ⟨hmax, hij, hd⟩ := h
  have hlate : ∃ k, i < k ∧ debounceTicks hz ≤ tickAt samples k - tickAt samples i := ⟨j, hij, hd⟩
  obtain ⟨hik, hk⟩ := Nat.find_spec hlate
  have hkj : Nat.find hlate ≤ j := Nat.find_min' hlate ⟨hij, hd⟩
  refine ⟨_, hik, hkj, (reports_iff hinit).mpr ⟨i, ⟨hik.le, fun m him hmk => ?_, hmax.start⟩, hik,
    hk, fun m him hmk hm => Nat.find_min hlate hmk ⟨him, hm⟩⟩⟩
  exact hmax.all m him (hmk.trans hkj)

/-- A report is about a debounced press, and about it no earlier call was. -/
theorem Reports.exists_press (h : samples.Pairwise fun s s' => s.now ≤ s'.now)
    (hinit : FollowsPress b none) (hr : Reports hz b samples k) :
    ∃ i j, DebouncedPress hz samples i j ∧ i < k ∧ k ≤ j ∧
      ∀ m, i < m → m < k → ¬Reports hz b samples m := by
  obtain ⟨i, hi, hik, hd, hfirst⟩ := (reports_iff hinit).mp hr
  obtain ⟨j, hkj, hmax⟩ := hi.exists_maximal
    ⟨samples.length, (pressedAt_lt hi.last).le, pressedAt_length true⟩
  have hlong := elapsed_mono h hik.le hkj (pressedAt_lt hmax.last)
  refine ⟨i, j, ⟨hmax, hik.trans_le hkj, UInt32.le_trans hd hlong⟩, hik, hkj,
    fun m him hmk hm => ?_⟩
  obtain ⟨i', hi', him', hd', -⟩ := (reports_iff hinit).mp hm
  obtain rfl := hi'.eq_of_overlap hi (him'.le.trans hmk.le) him.le
  exact hfirst m him hmk hd'

/-- **One report for each press.** With non-decreasing ticks, two reports have a debounced
    release between them exactly when two debounced presses have one. -/
theorem one_report_per_press_iff (hz : UInt32) (b : Button) {samples : List ButtonSample}
    (h : samples.Pairwise fun s s' => s.now ≤ s'.now) :
    OneReportPerPress hz (buttonInit false b) samples ↔ NoGlitch hz samples := by
  have hinit : FollowsPress (buttonInit false b) none := rfl
  constructor
  · intro hone i j i' j' hpress hpress' hlt
    obtain ⟨k, hik, hkj, hk⟩ := hpress.exists_reports hinit
    obtain ⟨l, hil, hlj, hl⟩ := hpress'.exists_reports hinit
    obtain ⟨c, d, hkc, hdl, hmax, hd⟩ := hone k l (hkj.trans_lt (hlt.trans hil)) hk hl
    refine ⟨c, d, ?_, ?_, hmax, hd⟩
    · have hout := hpress.1.lt_or_lt (m := c) (by
        rw [hmax.all c (Nat.le_refl c) hmax.le]
        decide)
      omega
    · have hout := hpress'.1.lt_or_lt (m := d) (by
        rw [hmax.last]
        decide)
      omega
  · intro hglitch k l hkl hk hl
    obtain ⟨i, j, hpress, hik, hkj, -⟩ := hk.exists_press h hinit
    obtain ⟨i', j', hpress', hil, hlj, hfirst⟩ := hl.exists_press h hinit
    have hii : i < i' := by
      rcases Nat.lt_trichotomy i i' with hlt | rfl | hgt
      · exact hlt
      · exact absurd hk (hfirst k hik hkl)
      · have hend := hpress'.1.lt_of_lt hpress.1.toStartsAt hgt
        omega
    have hji : j < i' := hpress.1.lt_of_lt hpress'.1.toStartsAt hii
    obtain ⟨c, d, hjc, hdi, hmax, hd⟩ := hglitch i j i' j' hpress hpress' hji
    exact ⟨c, d, hkj.trans_lt hjc, hdi.trans hil, hmax, hd⟩

/-- The variables at boot. -/
def Button.boot : Button := ⟨false, 0, false, false, 0, false, false⟩

/-- A press with a release long enough between its two reports. -/
theorem one_report_per_press_released :
    let samples := [⟨true, 0⟩, ⟨true, 5⟩, ⟨false, 6⟩, ⟨false, 11⟩, ⟨true, 12⟩, ⟨true, 17⟩]
    OneReportPerPress 100 (buttonInit false Button.boot) samples ↔ NoGlitch 100 samples :=
  one_report_per_press_iff 100 Button.boot (by decide)

/-- A press of 120 ms that one released sample interrupts. -/
def glitchedPress : List ButtonSample :=
  [⟨true, 0⟩, ⟨true, 5⟩, ⟨false, 6⟩, ⟨true, 7⟩, ⟨true, 12⟩]

/-- The press is reported twice. -/
theorem glitch_reported_twice :
    glitchedPress.Pairwise (fun s s' => s.now ≤ s'.now) ∧
      ¬OneReportPerPress 100 (buttonInit false Button.boot) glitchedPress := by
  refine ⟨by decide, fun hone => ?_⟩
  obtain ⟨i, j, hi, hj, hmax, hd⟩ := hone 1 4 (by decide) (by decide +kernel) (by decide +kernel)
  have hle := hmax.le
  have hlast := hmax.last
  obtain rfl : j = 2 := by
    rcases Nat.lt_or_ge j 3 with h3 | h3
    · omega
    · obtain rfl : j = 3 := by omega
      exact absurd hlast (by decide)
  obtain rfl : i = 2 := by omega
  exact absurd hd (by decide)

end IndoorLogger
