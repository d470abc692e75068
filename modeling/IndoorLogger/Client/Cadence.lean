import IndoorLogger.Client.ClientTask
import IndoorLogger.Lib.Machine

/-
  How far apart the uploads of the client are. Of the four places where it uploads only one
  looks at the interval; the interval holds as long as the test made there would pass at the
  others too, and none of its products overflows (`uploads_spaced`).
-/

namespace IndoorLogger

open Machine

/-! ## The client and its last upload -/

/-- A pass of the client, with the last upload that no button asked for. -/
def observedStep (cfg : TaskConfig) (st : ClientTask × Option UploadCall) (io : LoopIo) :
    (ClientTask × Option UploadCall) × Option UploadCall :=
  let r := clientTask cfg io st.1
  ((r.1, (r.2.filter fun c => c.site ≠ .buttonCycle).or st.2), r.2)

/-- The seconds between two uploads. -/
def requiredInterval (interval : UInt32) : Nat := max 60 interval.toNat

/-- An upload that no button asked for comes as long after the last one as required. -/
def Spaced (cfg : TaskConfig) (st : ClientTask × Option UploadCall) (io : LoopIo) : Prop :=
  ∀ c ∈ (observedStep cfg st io).2, c.site ≠ .buttonCycle → ∀ p ∈ st.2,
    p.time + requiredInterval c.interval * cfg.hz.toNat ≤ c.time

/-- The ticks by which the test of CONNECTED passes. -/
def overdueTicks (cfg : TaskConfig) (s : ClientTask) : Nat :=
  (s.now - s.lastUploadAttempt).toNat - (pdMsToTicks cfg.hz (syncIntervalMs s)).toNat

/-- An upload that no button asked for, after another one: it comes when the test of CONNECTED
    would pass, the conversion of the interval does not overflow, and it is not reached sooner in
    its pass than the last one was by more ticks than the test passes by. -/
def InTime (cfg : TaskConfig) (st : ClientTask × Option UploadCall) (io : LoopIo) : Prop :=
  ∀ c ∈ (observedStep cfg st io).2, c.site ≠ .buttonCycle → ∀ p ∈ st.2,
    (c.site ≠ .connected → uploadDue cfg st.1 = true) ∧
      requiredInterval st.1.syncInterval * 1000 * cfg.hz.toNat < 2 ^ 32 ∧
      p.wait ≤ io.before + overdueTicks cfg st.1

instance (cfg : TaskConfig) (st : ClientTask × Option UploadCall) (io : LoopIo) :
    Decidable (Spaced cfg st io) := inferInstanceAs (Decidable (∀ c ∈ _, _ → ∀ p ∈ st.2, _))

instance (cfg : TaskConfig) (st : ClientTask × Option UploadCall) (io : LoopIo) :
    Decidable (InTime cfg st io) := inferInstanceAs (Decidable (∀ c ∈ _, _ → ∀ p ∈ st.2, _ ∧ _))

/-! ## One pass -/

/-- Nothing that the test of CONNECTED reads changes. -/
structure SameClock (s s' : ClientTask) : Prop where
  real : s'.real = s.real
  counted : s'.counted = s.counted
  lastUploadAttempt : s'.lastUploadAttempt = s.lastUploadAttempt
  syncInterval : s'.syncInterval = s.syncInterval

/-- What a part of a pass does: an upload is a new attempt, and CONNECTED looks at the interval. -/
structure PassSpec (cfg : TaskConfig) (io : LoopIo) (s : ClientTask)
    (r : ClientTask × Option UploadCall) : Prop where
  real : r.1.real = s.real
  counted : r.1.counted = s.counted
  attempt : r.1.lastUploadAttempt = s.lastUploadAttempt ∨ r.1.lastUploadAttempt = s.now
  call : ∀ c ∈ r.2, c.start = s.real ∧ c.wait = io.before ∧ c.interval = s.syncInterval ∧
    r.1.lastUploadAttempt = s.now ∧ (c.site = .connected → uploadDue cfg s = true)

variable {cfg : TaskConfig} {io : LoopIo} {s s' : ClientTask}

theorem uploadDue_congr (h : SameClock s s') : uploadDue cfg s' = uploadDue cfg s := by
  unfold uploadDue syncIntervalMs ClientTask.now
  rw [h.counted, h.lastUploadAttempt, h.syncInterval]

theorem PassSpec.of_sameClock {r : ClientTask × Option UploadCall} (h : SameClock s s')
    (hr : PassSpec cfg io s' r) : PassSpec cfg io s r := by
  have hnow : s'.now = s.now := congrArg UInt32.ofNat h.counted
  refine ⟨hr.real.trans h.real, hr.counted.trans h.counted, ?_, fun c hc => ?_⟩
  · rw [← hnow, ← h.lastUploadAttempt]
    exact hr.attempt
  · obtain ⟨hstart, hwait, hinterval, hlast, hdue⟩ := hr.call c hc
    rw [← uploadDue_congr h]
    exact ⟨hstart.trans h.real, hwait, hinterval.trans h.syncInterval, hlast.trans hnow, hdue⟩

/-- A part that uploads nothing and attempts nothing. -/
theorem passSpec_none (h : SameClock s s') : PassSpec cfg io s (s', none) :=
  ⟨h.real, h.counted, Or.inl h.lastUploadAttempt, nofun⟩

/-- The answer to an upload changes the interval only. -/
theorem uploadUnsynced_keeps (io : LoopIo) (s : ClientTask) :
    (uploadUnsynced io s).real = s.real ∧ (uploadUnsynced io s).counted = s.counted ∧
      (uploadUnsynced io s).lastUploadAttempt = s.lastUploadAttempt := by
  unfold uploadUnsynced
  split
  · split <;> exact ⟨rfl, rfl, rfl⟩
  · exact ⟨rfl, rfl, rfl⟩

/-- A part that uploads from state `a`. -/
theorem passSpec_upload {site : UploadSite} {a : ClientTask} (hs : a.real = s.real)
    (hi : a.syncInterval = s.syncInterval) (hreal : s'.real = s.real)
    (hcounted : s'.counted = s.counted) (hlast : s'.lastUploadAttempt = s.now)
    (hdue : site = .connected → uploadDue cfg s = true) :
    PassSpec cfg io s (s', some (uploadCall io a site)) := by
  refine ⟨hreal, hcounted, Or.inr hlast, fun c hc => ?_⟩
  obtain rfl := Option.some.inj hc
  exact ⟨hs, rfl, hi, hlast, hdue⟩

theorem passSpec_buttonCycle : PassSpec cfg io s (buttonCycle cfg io s) := by
  unfold buttonCycle
  dsimp only
  split
  · exact passSpec_none ⟨rfl, rfl, rfl, rfl⟩
  · split
    · obtain ⟨hreal, hcounted, hlast⟩ := uploadUnsynced_keeps io { s with
        lastSensorRead := s.now
        displayActive := false
        wokeByButton := false
        displayOnUntil := s.now + displayTicks cfg io
        lastUploadAttempt := s.now }
      exact passSpec_upload rfl rfl hreal hcounted hlast nofun
    · exact ⟨rfl, rfl, Or.inr rfl, nofun⟩

theorem passSpec_timerCycle : PassSpec cfg io s (timerCycle io s) := by
  unfold timerCycle
  dsimp only
  split
  · obtain ⟨hreal, hcounted, hlast⟩ := uploadUnsynced_keeps io { s with
      lastSensorRead := s.now
      lastUploadAttempt := s.now
      wokeByTimer := false }
    exact passSpec_upload rfl rfl hreal hcounted hlast nofun
  · exact ⟨rfl, rfl, Or.inr rfl, nofun⟩

theorem passSpec_enterConnected : PassSpec cfg io s (enterConnected io s) := by
  obtain ⟨hreal, hcounted, hlast⟩ := uploadUnsynced_keeps io { s with
    state := .connected
    stateEntered := s.now
    uploadFailures := 0
    lastUploadAttempt := s.now }
  exact passSpec_upload rfl rfl hreal hcounted hlast nofun

theorem passSpec_stepDiscovering : PassSpec cfg io s (stepDiscovering cfg io s) := by
  unfold stepDiscovering
  split
  · dsimp only
    split
    · have hsame : SameClock s { s with wifiInitialized := true } := ⟨rfl, rfl, rfl, rfl⟩
      exact .of_sameClock hsame passSpec_enterConnected
    · exact passSpec_none ⟨rfl, rfl, rfl, rfl⟩
  · split
    · exact passSpec_enterConnected
    · split
      · exact passSpec_none ⟨rfl, rfl, rfl, rfl⟩
      · exact passSpec_none ⟨rfl, rfl, rfl, rfl⟩

theorem endAttempt_keeps (ok : Bool) (s : ClientTask) :
    (endAttempt ok s).real = s.real ∧ (endAttempt ok s).counted = s.counted ∧
      (endAttempt ok s).lastUploadAttempt = s.now := by
  unfold endAttempt
  dsimp only
  split
  · exact ⟨rfl, rfl, rfl⟩
  · split <;> exact ⟨rfl, rfl, rfl⟩

theorem passSpec_stepConnected : PassSpec cfg io s (stepConnected cfg io s) := by
  unfold stepConnected
  split
  case isFalse => exact passSpec_none ⟨rfl, rfl, rfl, rfl⟩
  case isTrue hdue =>
    split
    · obtain ⟨hreal, hcounted, -⟩ := uploadUnsynced_keeps io s
      obtain ⟨hreal', hcounted', hlast⟩ := endAttempt_keeps io.uploadOk (uploadUnsynced io s)
      have hnow : (uploadUnsynced io s).now = s.now := congrArg UInt32.ofNat hcounted
      exact passSpec_upload rfl rfl (hreal'.trans hreal) (hcounted'.trans hcounted)
        (hlast.trans hnow) fun _ => hdue
    · obtain ⟨hreal, hcounted, hlast⟩ := endAttempt_keeps false s
      exact ⟨hreal, hcounted, Or.inr hlast, nofun⟩

theorem passSpec_stepState : PassSpec cfg io s (stepState cfg io s) := by
  unfold stepState
  split
  · exact passSpec_stepDiscovering
  · exact passSpec_stepConnected
  · unfold stepAutonomous
    split
    · exact passSpec_none ⟨rfl, rfl, rfl, rfl⟩
    · exact passSpec_none ⟨rfl, rfl, rfl, rfl⟩

/-- What follows the switch keeps the clock. -/
theorem sameClock_lightSleep : SameClock s (lightSleep cfg io (stepButton cfg io s)) := by
  have hbutton : SameClock s (stepButton cfg io s) := by
    unfold stepButton
    dsimp only
    split <;> exact ⟨rfl, rfl, rfl, rfl⟩
  have hsleep : ∀ s : ClientTask, SameClock s (lightSleep cfg io s) := by
    intro s
    unfold lightSleep
    dsimp only
    split
    · split <;> exact ⟨rfl, rfl, rfl, rfl⟩
    · exact ⟨rfl, rfl, rfl, rfl⟩
  obtain ⟨hr, hc, hl, hi⟩ := hsleep (stepButton cfg io s)
  exact ⟨hr.trans hbutton.1, hc.trans hbutton.2, hl.trans hbutton.3, hi.trans hbutton.4⟩

theorem passSpec_stepLoop : PassSpec cfg io s (stepLoop cfg io s) := by
  have hpass : ∀ s, PassSpec cfg io s
      (lightSleep cfg io (stepButton cfg io (stepState cfg io s).1), (stepState cfg io s).2) := by
    intro s
    obtain ⟨hr, hc, ha, hcall⟩ : PassSpec cfg io s (stepState cfg io s) := passSpec_stepState
    obtain ⟨hr', hc', hl', -⟩ : SameClock (stepState cfg io s).1
      (lightSleep cfg io (stepButton cfg io (stepState cfg io s).1)) := sameClock_lightSleep
    refine ⟨hr'.trans hr, hc'.trans hc, ?_, fun c h => ?_⟩
    · rw [hl']
      exact ha
    · rw [hl']
      exact hcall c h
  unfold stepLoop
  dsimp only
  split
  · have hsame : SameClock s { s with lastSensorRead := s.now } := ⟨rfl, rfl, rfl, rfl⟩
    exact .of_sameClock hsame (hpass _)
  · exact hpass s

/-- A pass is its parts, and then time goes on. -/
theorem clientTask_eq (cfg : TaskConfig) (io : LoopIo) (s : ClientTask) :
    ∃ r, PassSpec cfg io s r ∧ clientTask cfg io s =
      ({ r.1 with
          real := r.1.real + io.before + io.after.real
          counted := r.1.counted + io.before + io.after.counted }, r.2) := by
  have hparts : ∀ s : ClientTask, PassSpec cfg io s
      (if s.wokeByButton then buttonCycle cfg io s
        else if s.wokeByTimer then timerCycle io s else stepLoop cfg io s) := by
    intro s
    split
    · exact passSpec_buttonCycle
    · split
      · exact passSpec_timerCycle
      · exact passSpec_stepLoop
  unfold clientTask
  dsimp only
  split
  · have hsame : SameClock s { s with displayActive := false } := ⟨rfl, rfl, rfl, rfl⟩
    exact ⟨_, .of_sameClock hsame (hparts _), rfl⟩
  · exact ⟨_, hparts s, rfl⟩

/-! ## The time between two uploads -/

/-- The last upload no button asked for was not after the last attempt, as far as the tick count
    tells. -/
def AttemptKnown (st : ClientTask × Option UploadCall) : Prop :=
  ∀ p ∈ st.2, ∃ n ≤ st.1.counted, st.1.lastUploadAttempt = UInt32.ofNat n ∧
    p.start + st.1.counted ≤ st.1.real + n

/-- The interval in ticks, when nothing overflows. -/
theorem toNat_intervalTicks {hz : UInt32}
    (h : requiredInterval s.syncInterval * 1000 * hz.toNat < 2 ^ 32) :
    (pdMsToTicks hz (syncIntervalMs s)).toNat = requiredInterval s.syncInterval * hz.toNat := by
  have hticks : ∀ ms : UInt32, ms.toNat * hz.toNat < 2 ^ 32 →
      (pdMsToTicks hz ms).toNat = ms.toNat * hz.toNat / 1000 := by
    intro ms hms
    have h1000 : (1000 : UInt32).toNat = 1000 := rfl
    rw [pdMsToTicks, UInt32.toNat_div, UInt32.toNat_mul, Nat.mod_eq_of_lt hms, h1000]
  rcases Nat.eq_zero_or_pos hz.toNat with hz0 | hzpos
  · rw [hticks (syncIntervalMs s) (by rw [hz0]; omega), hz0, Nat.mul_zero, Nat.mul_zero]
  · have hms : (syncIntervalMs s).toNat = requiredInterval s.syncInterval * 1000 := by
      have hfits : requiredInterval s.syncInterval * 1000 < 2 ^ 32 :=
        (Nat.le_mul_of_pos_right _ hzpos).trans_lt h
      unfold requiredInterval at hfits ⊢
      have hmul : (s.syncInterval * 1000).toNat = s.syncInterval.toNat * 1000 := by
        have h1000 : (1000 : UInt32).toNat = 1000 := rfl
        have hlt : s.syncInterval.toNat * 1000 < 2 ^ 32 :=
          (Nat.mul_le_mul_right 1000 (Nat.le_max_right 60 _)).trans_lt hfits
        rw [UInt32.toNat_mul, h1000, Nat.mod_eq_of_lt hlt]
      have h60 : (60000 : UInt32).toNat = 60000 := rfl
      unfold syncIntervalMs
      dsimp only
      split
      case isTrue hlt =>
        rw [UInt32.lt_iff_toNat_lt, hmul, h60] at hlt
        rw [h60]
        omega
      case isFalse hge =>
        rw [UInt32.lt_iff_toNat_lt, hmul, h60] at hge
        rw [hmul]
        omega
    rw [hticks _ (by rw [hms]; exact h), hms, Nat.mul_right_comm, Nat.mul_div_cancel _ (by decide)]

/-- Ticks counted since an attempt are no more than the time that passed. -/
theorem toNat_sub_ofNat_le {m n : Nat} (h : n ≤ m) :
    (UInt32.ofNat m - UInt32.ofNat n).toNat ≤ m - n := by
  rw [UInt32.toNat_sub, UInt32.toNat_ofNat', UInt32.toNat_ofNat']
  omega

theorem spaced_of_inTime {st : ClientTask × Option UploadCall} (h : AttemptKnown st)
    (hc : InTime cfg st io) : Spaced cfg st io := by
  intro c hmem hsite p hp
  obtain ⟨hdue, hfits, hwait⟩ := hc c hmem hsite p hp
  obtain ⟨r, hr, heq⟩ := clientTask_eq cfg io st.1
  have hcall : c ∈ r.2 := by
    unfold observedStep at hmem
    rw [heq] at hmem
    exact hmem
  obtain ⟨hstart, hcwait, hinterval, -, hconnected⟩ := hr.call c hcall
  have hdue' : uploadDue cfg st.1 = true := by
    by_cases hs : c.site = .connected
    · exact hconnected hs
    · exact hdue hs
  obtain ⟨n, hn, hlast, hreal⟩ := h p hp
  have hticks := of_decide_eq_true hdue'
  rw [ge_iff_le, UInt32.le_iff_toNat_le, toNat_intervalTicks hfits, ClientTask.now, hlast]
    at hticks
  rw [overdueTicks, toNat_intervalTicks hfits, ClientTask.now, hlast] at hwait
  have hle := toNat_sub_ofNat_le hn
  unfold UploadCall.time
  rw [hstart, hcwait, hinterval]
  omega

theorem attemptKnown_step {st : ClientTask × Option UploadCall} (h : AttemptKnown st) :
    AttemptKnown (observedStep cfg st io).1 := by
  obtain ⟨r, hr, heq⟩ := clientTask_eq cfg io st.1
  have hafter := io.after.counted_le
  intro p hp
  unfold observedStep at hp ⊢
  rw [heq] at hp ⊢
  dsimp only at hp ⊢
  rw [hr.real, hr.counted]
  rcases Option.or_eq_some_iff.mp hp with hnew | ⟨-, hold⟩
  · obtain ⟨hstart, -, -, hlast, -⟩ := hr.call p (Option.filter_eq_some_iff.mp hnew).1
    refine ⟨st.1.counted, by omega, hlast, ?_⟩
    rw [hstart]
    omega
  · obtain ⟨n, hn, hlast, hreal⟩ := h p hold
    rcases hr.attempt with ha | ha
    · exact ⟨n, by omega, ha.trans hlast, by omega⟩
    · exact ⟨st.1.counted, by omega, ha, by omega⟩

/-- **Upload cadence.** In every run of the client in which each upload that no button asked for
    is in time, any two of them in a row are at least the interval apart. -/
theorem uploads_spaced (cfg : TaskConfig) (start : Nat) (ios : List LoopIo)
    (h : Meets (observedStep cfg) (InTime cfg) (clientTaskStart start, none) ios) :
    Meets (observedStep cfg) (Spaced cfg) (clientTaskStart start, none) ios := by
  have hstart : AttemptKnown (clientTaskStart start, none) := by
    intro p hp
    cases hp
  have hrun : Always (observedStep cfg) AttemptKnown (clientTaskStart start, none) ios := by
    refine always_of_step (fun st io hk => ?_) ios hstart
    exact attemptKnown_step hk
  refine hrun.meets (fun st io hk hc => ?_) h
  exact spaced_of_inTime hk hc

/-- The configuration of the build: a tick is ten milliseconds. -/
def buildConfig : TaskConfig := ⟨100, 30000, 3600000⟩

/-- A pass of so many ticks, all counted. -/
def ticks (n : Nat) : Elapsed := ⟨n, n, Nat.le_refl n⟩

/-- The answer to the first upload asks for an interval of a minute; the button wakes the client
    from its first sleep, and the timer six minutes later. The first upload waits longer for the
    network in its pass than the later one. -/
theorem uploads_spaced_button :
    Meets (observedStep buildConfig) (Spaced buildConfig) (clientTaskStart 0, none)
      [{ before := 40, after := ticks 510, buttonDown := true, syncInterval := some 60 },
        { after := ticks 30010 }, { after := ticks 510 }, { after := ticks 30010 }] :=
  uploads_spaced buildConfig 0 _ (by decide +kernel)

/-- The first sleep takes five seconds, and the wake-up by the timer uploads again. -/
theorem uploads_too_close :
    outputs (observedStep buildConfig) (clientTaskStart 0, none)
        [{ after := ticks 510 }, { after := ticks 30010 }] =
        [some ⟨.discovering, 0, 0, 600⟩, some ⟨.timerCycle, 510, 0, 600⟩] ∧
      ¬Meets (observedStep buildConfig) (Spaced buildConfig) (clientTaskStart 0, none)
        [{ after := ticks 510 }, { after := ticks 30010 }] := by
  decide +kernel

end IndoorLogger
