import IndoorLogger.Lib.Machine
import IndoorLogger.Client.Progress

/-
  Whether the client's panel is lit. The task turns it off where `display_active` runs out, but an
  id that the server has changed lights it without `display_active`: it then stays lit, with no
  time limit, until the button is used (`left_lit_iff`).
-/

namespace IndoorLogger

open Machine

/-! ## The panel -/

/-- Whether the last call was `display_on` or `display_off`, and `s_id_changed` of `wifi_sync.c`. -/
structure Panel where
  on : Bool
  idChanged : Bool
  deriving DecidableEq

def displayOn (p : Panel) : Panel := { p with on := true }

def displayOff (p : Panel) : Panel := { p with on := false }

/-- `client_check_id_change_and_show`. -/
def clientCheckIdChangeAndShow (p : Panel) : Panel :=
  if !p.idChanged then p else displayOn { p with idChanged := false }

/-- `wifi_sync_upload_unsynced`, whose answer may change the id, and the check that follows all of
    its calls. -/
def uploadAndShow (newId : Bool) (p : Panel) : Panel :=
  clientCheckIdChangeAndShow { p with idChanged := p.idChanged || newId }

section

variable (cfg : TaskConfig) (io : LoopIo) (newId : Bool) (s : ClientTask) (p : Panel)

def displayTimeoutPanel : Panel :=
  if s.displayActive && s.now ≥ s.displayOnUntil then displayOff p else p

/-- The cycle after a wake-up by the button: the panel shows the error, or the readings before and
    after the upload. -/
def buttonCyclePanel : Panel :=
  if !io.sensorOk then displayOff (displayOn p)
  else displayOff (if io.wifiOk then uploadAndShow newId (displayOn p) else displayOn p)

def timerCyclePanel : Panel := if io.wifiOk then uploadAndShow newId p else p

def stepButtonPanel : Panel := if pressed io s && !s.displayActive then displayOn p else p

/-- A pass without a wake-up before it. -/
def stepLoopPanel : Panel :=
  let (s, call) := stepState cfg io (readSensors cfg s)
  stepButtonPanel io s (if call.isSome then uploadAndShow newId p else p)

/-- The calls on the display in one pass through the loop of `client_task`. -/
def clientTaskPanel : Panel :=
  let p := displayTimeoutPanel s (clientCheckIdChangeAndShow p)
  let s := displayTimeout s
  if s.wokeByButton then buttonCyclePanel io newId p
  else if s.wokeByTimer then timerCyclePanel io newId p
  else stepLoopPanel cfg io newId s p

end

/-- The task with its panel. -/
structure DisplayTask where
  task : ClientTask
  panel : Panel
  deriving DecidableEq

/-- The display is turned off before the loop. -/
def displayTaskStart (start : Nat) : DisplayTask := ⟨clientTaskStart start, ⟨false, false⟩⟩

/-- A pass, and whether the answer to its upload has a new id. -/
structure DisplayIo where
  io : LoopIo
  newId : Bool

def displayStep (cfg : TaskConfig) (s : DisplayTask) (i : DisplayIo) :
    DisplayTask × Option UploadCall :=
  let (task, call) := clientTask cfg i.io s.task
  (⟨task, clientTaskPanel cfg i.io i.newId s.task s.panel⟩, call)

/-! ## One pass -/

/-- The pass has a new id to show, and ends with the display inactive without the button. -/
def ShowsIdInactive (cfg : TaskConfig) (s : DisplayTask) (i : DisplayIo) : Prop :=
  s.task.wokeByButton = false ∧ i.newId = true ∧ (displayStep cfg s i).2.isSome = true ∧
    (displayStep cfg s i).1.task.displayActive = false

/-- The pass is the cycle of the button, or its loop sees the button pressed. -/
def UsesButton (s : DisplayTask) (i : DisplayIo) : Prop :=
  s.task.wokeByButton = true ∨ (s.task.wokeByTimer = false ∧ pressed i.io s.task = true)

/-- The panel is lit although the display is inactive. -/
def LeftLit (s : DisplayTask) : Prop := s.panel.on = true ∧ s.task.displayActive = false

/-- No id waits to be shown between two passes, and an active display is lit. -/
structure DisplayTask.Consistent (s : DisplayTask) : Prop where
  shown : s.panel.idChanged = false
  lit : s.task.displayActive = true → s.panel.on = true

variable {cfg : TaskConfig} {io : LoopIo} {newId : Bool} {s : ClientTask} {p : Panel}

/-- An answer's id is shown at once. -/
theorem uploadAndShow_eq (h : p.idChanged = false) :
    uploadAndShow newId p = ⟨p.on || newId, false⟩ := by
  obtain ⟨on, idChanged⟩ := p
  have hnone : idChanged = false := h
  rw [hnone]
  cases newId with
  | true => exact congrArg (Panel.mk · false) (Bool.or_true on).symm
  | false => exact congrArg (Panel.mk · false) (Bool.or_false on).symm

/-- Display and panel after the check for the timeout. -/
theorem displayTimeoutPanel_eq (h : p.idChanged = false)
    (hlit : s.displayActive = true → p.on = true) :
    displayTimeoutPanel s (clientCheckIdChangeAndShow p) =
      ⟨(displayTimeout s).displayActive || (p.on && !s.displayActive), false⟩ := by
  have hcheck : clientCheckIdChangeAndShow p = p := by
    unfold clientCheckIdChangeAndShow
    rw [h]
    rfl
  rw [hcheck]
  unfold displayTimeout displayTimeoutPanel displayOff
  split
  case isTrue hdue =>
    obtain ⟨hactive, -⟩ := Bool.and_eq_true_iff.mp hdue
    rw [h, hactive, Bool.not_true, Bool.and_false]
    rfl
  case isFalse =>
    cases hactive : s.displayActive with
    | true => rw [Bool.true_or, ← hlit hactive, ← h]
    | false => rw [Bool.false_or, Bool.not_false, Bool.and_true, ← h]

/-- The cycle of the button ends with the display inactive and dark. -/
theorem buttonCycle_display (h : p.idChanged = false) :
    (buttonCycle cfg io s).1.displayActive = false ∧
      buttonCyclePanel io newId p = ⟨false, false⟩ := by
  have hdark : ∀ q : Panel, q.idChanged = false → displayOff q = ⟨false, false⟩ := fun q hq =>
    congrArg (Panel.mk false) hq
  have hon : (displayOn p).idChanged = false := h
  constructor
  · unfold buttonCycle
    dsimp only
    split
    · rfl
    · split
      · exact (uploadUnsynced_screen io _).1.displayActive
      · rfl
  · unfold buttonCyclePanel
    split
    · exact hdark _ hon
    · split
      · rw [uploadAndShow_eq hon]
        rfl
      · exact hdark _ hon

/-- The cycle of the timer leaves the display as it is, and shows a new id. -/
theorem timerCycle_display (h : p.idChanged = false) :
    (timerCycle io s).1.displayActive = s.displayActive ∧
      timerCyclePanel io newId p = ⟨p.on || (newId && (timerCycle io s).2.isSome), false⟩ := by
  unfold timerCycle timerCyclePanel
  dsimp only
  split
  · refine ⟨(uploadUnsynced_screen io _).1.displayActive, ?_⟩
    rw [uploadAndShow_eq h, Option.isSome_some, Bool.and_true]
  · refine ⟨rfl, ?_⟩
    rw [Option.isSome_none, Bool.and_false, Bool.or_false, ← h]

/-- The button turns an inactive display on. -/
theorem stepButton_display (hlit : s.displayActive = true → p.on = true) :
    (stepButton cfg io s).displayActive = (s.displayActive || pressed io s) ∧
      stepButtonPanel io s p = ⟨p.on || pressed io s, p.idChanged⟩ := by
  have hactive : (stepButton cfg io s).displayActive =
      if pressed io s && !s.displayActive then true else s.displayActive := by
    unfold stepButton
    dsimp only
    split <;> rfl
  rw [hactive]
  unfold stepButtonPanel displayOn
  cases hpressed : pressed io s with
  | false => rw [Bool.or_false, Bool.or_false]; exact ⟨rfl, rfl⟩
  | true =>
    rw [Bool.or_true, Bool.or_true]
    cases hbefore : s.displayActive with
    | false => exact ⟨rfl, rfl⟩
    | true => exact ⟨rfl, congrArg (Panel.mk · p.idChanged) (hlit hbefore)⟩

/-- A pass of the loop turns the display on with the button, and shows a new id. -/
theorem stepLoop_display (h : p.idChanged = false) (hlit : s.displayActive = true → p.on = true) :
    (stepLoop cfg io s).1.displayActive = (s.displayActive || pressed io s) ∧
      stepLoopPanel cfg io newId s p =
        ⟨p.on || (newId && (stepLoop cfg io s).2.isSome) || pressed io s, false⟩ := by
  have hsleep : ∀ a : ClientTask, (lightSleep cfg io a).displayActive = a.displayActive := by
    intro a
    unfold lightSleep
    dsimp only
    split
    · split <;> rfl
    · rfl
  have hread : (readSensors cfg s).displayActive = s.displayActive ∧
      (readSensors cfg s).prevButtonRaw = s.prevButtonRaw := by
    unfold readSensors
    split <;> exact ⟨rfl, rfl⟩
  obtain ⟨hkeeps, -⟩ := stepState_screen cfg io (readSensors cfg s)
  have hactive := hkeeps.displayActive.trans hread.1
  have hpressed : pressed io (stepState cfg io (readSensors cfg s)).1 = pressed io s :=
    pressed_congr io (hkeeps.prevButtonRaw.trans hread.2)
  have hshown : (if (stepState cfg io (readSensors cfg s)).2.isSome then uploadAndShow newId p
      else p) = ⟨p.on || (newId && (stepState cfg io (readSensors cfg s)).2.isSome), false⟩ := by
    split
    case isTrue hcall => rw [uploadAndShow_eq h, hcall, Bool.and_true]
    case isFalse hcall =>
      rw [Bool.eq_false_of_not_eq_true hcall, Bool.and_false, Bool.or_false, ← h]
  rw [stepLoop_eq, hsleep]
  unfold stepLoopPanel
  dsimp only
  rw [hshown, ← hactive, ← hpressed]
  refine stepButton_display fun hbefore => ?_
  rw [hactive] at hbefore
  exact Bool.or_eq_true_iff.mpr (Or.inl (hlit hbefore))

/-- What a pass leaves of display and panel. -/
theorem displayStep_spec {s : DisplayTask} (h : s.Consistent) (i : DisplayIo) :
    let active := (displayTimeout s.task).displayActive
    let r := displayStep cfg s i
    r.1.task.displayActive =
        (!s.task.wokeByButton && (active || (!s.task.wokeByTimer && pressed i.io s.task))) ∧
      r.1.panel =
        ⟨!s.task.wokeByButton && (active || (s.panel.on && !s.task.displayActive) ||
          (i.newId && r.2.isSome) || (!s.task.wokeByTimer && pressed i.io s.task)), false⟩ := by
  obtain ⟨hbutton, htimer, hraw⟩ := displayTimeout_keeps s.task
  obtain ⟨hcall, hactive⟩ := clientTask_afterWakeUp cfg i.io s.task
  have hpressed : pressed i.io (displayTimeout s.task) = pressed i.io s.task :=
    pressed_congr i.io hraw
  intro active r
  have hcalls : r.1.panel = clientTaskPanel cfg i.io i.newId s.task s.panel := rfl
  rw [clientTaskPanel, displayTimeoutPanel_eq h.shown h.lit] at hcalls
  change r.2 = _ at hcall
  change r.1.task.displayActive = _ at hactive
  rw [hcalls, hcall, hactive, afterWakeUp, hbutton, htimer]
  cases hb : s.task.wokeByButton with
  | true => exact buttonCycle_display rfl
  | false =>
    cases ht : s.task.wokeByTimer with
    | true =>
      have hcycle := @timerCycle_display i.io i.newId (displayTimeout s.task)
        ⟨active || (s.panel.on && !s.task.displayActive), false⟩ rfl
      simpa using hcycle
    | false =>
      have hloop := @stepLoop_display cfg i.io i.newId (displayTimeout s.task)
        ⟨active || (s.panel.on && !s.task.displayActive), false⟩ rfl
        fun hactive => Bool.or_eq_true_iff.mpr (Or.inl hactive)
      rw [hpressed] at hloop
      simpa using hloop

theorem consistent_displayStep {s : DisplayTask} (h : s.Consistent) (i : DisplayIo) :
    (displayStep cfg s i).1.Consistent := by
  obtain ⟨hactive, hpanel⟩ := @displayStep_spec cfg s h i
  refine ⟨congrArg Panel.idChanged hpanel, fun hafter => ?_⟩
  rw [hactive, Bool.and_eq_true, Bool.or_eq_true] at hafter
  rw [hpanel]
  obtain ⟨hbutton, hkept | hpressed⟩ := hafter
  · rw [hbutton, hkept]
    rfl
  · rw [hbutton, hpressed, Bool.or_true]
    rfl

/-- A pass leaves the panel lit with a new id, and else only where it was left lit before. -/
theorem leftLit_displayStep {s : DisplayTask} (h : s.Consistent) (i : DisplayIo) :
    LeftLit (displayStep cfg s i).1 ↔
      ShowsIdInactive cfg s i ∨ (LeftLit s ∧ ¬UsesButton s i) := by
  obtain ⟨hactive, hpanel⟩ := @displayStep_spec cfg s h i
  have hoff : (displayTimeout s.task).displayActive = true → s.task.displayActive = true := by
    unfold displayTimeout
    split
    · intro hnone
      cases hnone
    · exact id
  unfold LeftLit ShowsIdInactive UsesButton
  rw [hpanel, hactive]
  grind

/-! ## Runs -/

/-- **An id that the server changes leaves the panel lit until the button is used.** In every run
    of the task each new id is shown in the pass that receives it, and the panel is lit while the
    display is active. The panel is lit although the display is inactive exactly if some pass
    showed a new id and ended with the display inactive, and no pass since used the button: no
    time limit turns it off. -/
theorem left_lit_iff (cfg : TaskConfig) (start : Nat) (is : List DisplayIo) :
    let run := final (displayStep cfg) (displayTaskStart start)
    (run is).Consistent ∧
      (LeftLit (run is) ↔ ∃ is₁ i is₂, is = is₁ ++ i :: is₂ ∧ ShowsIdInactive cfg (run is₁) i ∧
        Meets (displayStep cfg) (fun s i => ¬UsesButton s i)
          (displayStep cfg (run is₁) i).1 is₂) := by
  have hstart : (displayTaskStart start).Consistent := ⟨rfl, fun hactive => by cases hactive⟩
  have hdark : ¬LeftLit (displayTaskStart start) := fun hlit => by cases hlit.1
  have hrun : Always (displayStep cfg) DisplayTask.Consistent (displayTaskStart start) is :=
    always_of_step (fun s i hs => consistent_displayStep hs i) is hstart
  intro run
  refine ⟨hrun.final, ?_⟩
  have hlatched := final_iff_latched (fun s i hs => consistent_displayStep hs i)
    (fun s i hs => @leftLit_displayStep cfg s hs i) hstart is
  refine hlatched.trans ⟨fun h => ?_, Or.inr⟩
  rcases h with ⟨hlit, -⟩ | hsince
  · exact absurd hlit hdark
  · exact hsince

/-- An id that arrives while WiFi is searched for: the panel is still lit after an hour of cycles,
    and dark after the cycle that the button wakes the client for. -/
example :
    let id : DisplayIo := ⟨{ after := ticks 500 }, true⟩
    let pass : DisplayIo := ⟨{ after := ticks 30000 }, false⟩
    let woken : DisplayIo := ⟨{ buttonDown := true, after := ticks 100 }, false⟩
    let run := final (displayStep buildConfig) (displayTaskStart 0)
    (run (id :: List.replicate 12 pass)).panel.on = true ∧
      (run (id :: List.replicate 12 pass)).task.counted = 360500 ∧
      (run (id :: List.replicate 12 pass ++ [woken, woken, woken])).panel.on = false := by
  decide +kernel

end IndoorLogger
