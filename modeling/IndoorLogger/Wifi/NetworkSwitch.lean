import IndoorLogger.Lib.Machine
import IndoorLogger.Wifi.WifiManager

/-
  A switch to another network is decided by the event handler and reaches the driver with the
  next request that the retry task serves. The request is one slot: a disconnect that decides no
  switch overwrites it, and the switch is lost (`reconnects_use_selected_network`).
-/

namespace IndoorLogger

open Machine

/-- Whether the task applies the active network before it connects. -/
def RetryTask.switched : RetryTask → Bool
  | .waiting switched _ _ => switched
  | .waited switched => switched
  | .taking => false
  | .absent => false

/-- The driver has the configuration of the active network, or the request that is served next
    will give it to it. -/
def NoSwitchLost (w : Wifi) : Prop :=
  w.driver = w.activeConfig ∨
    (if w.retryPending then w.retrySwitchNetwork else w.task.switched) = true

/-- A disconnect that selects no other network comes when the driver has the configuration of
    the active one. -/
def SwitchSettled (w : Wifi) : WifiInput → Prop
  | .staDisconnected reason io =>
    (staDisconnected reason io w).2 = false → w.driver = w.activeConfig
  | _ => True

/-- The task connects with the configuration of the active network. -/
def ConnectsSelected (w : Wifi) (i : WifiInput) : Prop :=
  (wifiStep w i).2 = .connected → (wifiStep w i).1.driver = (wifiStep w i).1.activeConfig

instance (w : Wifi) : Decidable (NoSwitchLost w) := inferInstanceAs (Decidable (_ ∨ _))

instance (w : Wifi) : ∀ i, Decidable (SwitchSettled w i)
  | .staDisconnected _ _ => inferInstanceAs (Decidable (_ → _))
  | .retryTask => inferInstanceAs (Decidable True)
  | .staStart => inferInstanceAs (Decidable True)
  | .staGotIp => inferInstanceAs (Decidable True)
  | .rescan _ => inferInstanceAs (Decidable True)

instance (w : Wifi) (i : WifiInput) : Decidable (ConnectsSelected w i) :=
  inferInstanceAs (Decidable (_ → _))

variable {w : Wifi}

/-! ## Steps -/

/-- Nothing is lost by a step that leaves the request alone, and either the configurations too
    or gives the driver the active one. -/
theorem NoSwitchLost.of_keeps {w' : Wifi} (h : NoSwitchLost w) (hk : KeepsRetry w w')
    (hc : w'.driver = w'.activeConfig ∨
      w'.driver = w.driver ∧ w'.activeConfig = w.activeConfig) : NoSwitchLost w' := by
  rcases hc with hc | ⟨hd, ha⟩
  · exact Or.inl hc
  · unfold NoSwitchLost
    rw [hd, ha, hk.pending, hk.switchNetwork, hk.task]
    exact h

theorem noSwitchLost_rescan (hcount : 0 < w.networkCount) (h : NoSwitchLost w) (io : ScanIo) :
    NoSwitchLost (wifiManagerRescanAndSwitch io w) := by
  refine h.of_keeps (keepsRetry_rescan io w) ?_
  obtain ⟨hk, -, hdriver, hactive⟩ := scanAndSelectBest_keeps io w
  unfold wifiManagerRescanAndSwitch
  split
  · exact Or.inr ⟨rfl, rfl⟩
  · split
    · exact Or.inr ⟨rfl, rfl⟩
    · split
      case h_1 heq =>
        rw [heq] at hk
        exact Or.inl (driver_applyActiveConfig (hk.networkCount ▸ hcount))
      case h_2 heq =>
        rw [heq] at hdriver hactive
        exact Or.inr ⟨hdriver, hactive rfl⟩

/-- The request of a disconnect stands for a switch exactly when the disconnect decides one. -/
theorem noSwitchLost_staDisconnected (reason : UInt8) (io : ScanIo) :
    NoSwitchLost (staDisconnected reason io w).1 ↔
      ((staDisconnected reason io w).2 = false → w.driver = w.activeConfig) := by
  obtain ⟨w', hk, hdriver, hactive, heq, -⟩ := staDisconnected_eq reason io w
  obtain ⟨hpending, hswitch, -⟩ := requestRetry_fields (staDisconnected reason io w).2 w'
  rw [← heq] at hpending hswitch
  unfold NoSwitchLost
  rw [hpending, hswitch, if_pos rfl]
  cases hs : (staDisconnected reason io w).2 with
  | true => exact iff_of_true (Or.inr rfl) nofun
  | false =>
    rw [hs] at heq hactive
    have hsame : (staDisconnected reason io w).1.driver = w.driver ∧
        (staDisconnected reason io w).1.activeConfig = w.activeConfig := by
      rw [heq, ← hdriver, ← hactive rfl]
      unfold requestRetry
      dsimp only
      split
      · exact ⟨rfl, rfl⟩
      · exact ⟨rfl, rfl⟩
    rw [hsame.1, hsame.2]
    constructor
    · intro h _
      exact h.resolve_right Bool.false_ne_true
    · intro h
      exact Or.inl (h rfl)

/-- A step of the task takes a switch along. -/
theorem noSwitchLost_wifiRetryTask (hcount : 0 < w.networkCount) (h : NoSwitchLost w) :
    NoSwitchLost (wifiRetryTask w).1 ∧
      ((wifiRetryTask w).2 = .connected →
        (wifiRetryTask w).1.driver = (wifiRetryTask w).1.activeConfig) := by
  cases ht : w.task with
  | absent =>
    rw [wifiRetryTask_absent ht]
    exact ⟨h, nofun⟩
  | taking =>
    rw [wifiRetryTask_taking ht]
    split
    case isTrue hp =>
      refine ⟨h.imp_right fun hs => ?_, nofun⟩
      rw [if_pos hp.2] at hs
      rw [if_neg Bool.false_ne_true, loopTest]
      split
      · exact hs
      · exact hs
    case isFalse =>
      refine ⟨h.imp_right fun hs => ?_, nofun⟩
      rw [ht] at hs
      rw [ht]
      exact hs
  | waiting switched delaySec i =>
    unfold NoSwitchLost at h
    rw [ht] at h
    rw [wifiRetryTask_waiting ht]
    split
    case isTrue hp =>
      refine ⟨h.imp_right fun hs => ?_, nofun⟩
      rw [if_pos hp] at hs ⊢
      exact hs
    case isFalse hp =>
      refine ⟨h.imp_right fun hs => ?_, nofun⟩
      rw [if_neg hp] at hs ⊢
      exact hs
  | waited switched =>
    unfold NoSwitchLost at h
    rw [ht] at h
    rw [wifiRetryTask_waited ht]
    split
    case isTrue hp =>
      refine ⟨h.imp_right fun hs => ?_, nofun⟩
      rw [if_pos hp] at hs ⊢
      exact hs
    case isFalse hp =>
      rw [if_neg hp] at h
      have hd : (if switched then applyActiveConfig w else w).driver =
          (if switched then applyActiveConfig w else w).activeConfig := by
        cases switched with
        | true => exact driver_applyActiveConfig hcount
        | false => exact h.resolve_right Bool.false_ne_true
      exact ⟨Or.inl hd, fun _ => hd⟩

theorem networkCount_wifiStep (i : WifiInput) : (wifiStep w i).1.networkCount = w.networkCount := by
  cases i with
  | staStart => exact (keepsRetry_staStart w).networkCount
  | staDisconnected reason io =>
    obtain ⟨w', hk, -, -, heq, -⟩ := staDisconnected_eq reason io w
    obtain ⟨-, -, -, -, hcount, -⟩ := requestRetry_fields (staDisconnected reason io w).2 w'
    exact (congrArg Wifi.networkCount heq).trans (hcount.trans hk.networkCount)
  | staGotIp => exact (keepsRetry_staGotIp w).networkCount
  | rescan io => exact (keepsRetry_rescan io w).networkCount
  | retryTask =>
    rw [wifiStep]
    cases ht : w.task with
    | absent => rw [wifiRetryTask_absent ht]
    | taking =>
      rw [wifiRetryTask_taking ht]
      split <;> rfl
    | waiting switched delaySec i =>
      rw [wifiRetryTask_waiting ht]
      split <;> rfl
    | waited switched =>
      rw [wifiRetryTask_waited ht]
      split
      · rfl
      · cases switched with
        | true => exact (keepsRetry_applyActiveConfig w).networkCount
        | false => rfl

/-- A step keeps every switch exactly when no disconnect overwrites one. -/
theorem noSwitchLost_wifiStep (hcount : 0 < w.networkCount) (h : NoSwitchLost w) (i : WifiInput) :
    NoSwitchLost (wifiStep w i).1 ↔ SwitchSettled w i := by
  cases i with
  | staStart =>
    have happly : staStart w = applyActiveConfig w := if_pos hcount
    have hdriver : (staStart w).driver = (staStart w).activeConfig := by
      rw [happly]
      exact driver_applyActiveConfig hcount
    exact iff_of_true (h.of_keeps (keepsRetry_staStart w) (Or.inl hdriver)) trivial
  | staDisconnected reason io => exact noSwitchLost_staDisconnected reason io
  | staGotIp =>
    refine iff_of_true (h.of_keeps (keepsRetry_staGotIp w) (Or.inr ?_)) trivial
    exact driver_setFailures { w with connected := true } fun _ => 0
  | rescan io => exact iff_of_true (noSwitchLost_rescan hcount h io) trivial
  | retryTask => exact iff_of_true (noSwitchLost_wifiRetryTask hcount h).1 trivial

theorem connectsSelected_of_noSwitchLost (hcount : 0 < w.networkCount) (h : NoSwitchLost w)
    (i : WifiInput) : ConnectsSelected w i := by
  cases i with
  | retryTask => exact (noSwitchLost_wifiRetryTask hcount h).2
  | staStart => exact nofun
  | staDisconnected reason io => exact nofun
  | staGotIp => exact nofun
  | rescan io => exact nofun

/-! ## Runs -/

/-- **Selected network.** In a run from the start no switch is lost exactly when every
    disconnect that selects no other network comes when the driver has the configuration of the
    active one; in such a run the task connects to the selected network each time. -/
theorem reconnects_use_selected_network {ssid1 pass1 ssid2 pass2 : List UInt8} {io : ScanIo}
    {taskCreated : Bool} {w : Wifi}
    (h : wifiManagerInitStaDual ssid1 pass1 ssid2 pass2 io taskCreated = some w)
    (is : List WifiInput) :
    (Always wifiStep NoSwitchLost w is ↔ Meets wifiStep SwitchSettled w is) ∧
      (Meets wifiStep SwitchSettled w is → Meets wifiStep ConnectsSelected w is) := by
  obtain ⟨hcount, -, -, hdriver⟩ := wifiManagerInitStaDual_start h
  have hiff : Always wifiStep NoSwitchLost w is ↔ Meets wifiStep SwitchSettled w is :=
    always_iff_meets (J := fun w => 0 < w.networkCount) (G := fun _ _ => True)
      (fun _ i hj _ _ _ => by rw [networkCount_wifiStep i]; exact hj)
      (fun _ i hj hn _ => noSwitchLost_wifiStep hj hn i) hcount (Or.inl hdriver)
      (meets_of_forall fun _ _ _ => trivial)
  refine ⟨hiff, fun hc => ?_⟩
  have hrun : Always wifiStep (fun w => 0 < w.networkCount ∧ NoSwitchLost w) w is := by
    refine always_of_meets (fun w i hj hc => ?_) ⟨hcount, Or.inl hdriver⟩ hc
    rw [networkCount_wifiStep i]
    exact ⟨hj.1, (noSwitchLost_wifiStep hj.1 hj.2 i).mpr hc⟩
  exact hrun.meets (fun _ i hj _ => connectsSelected_of_noSwitchLost hj.1 hj.2 i)
    (meets_of_forall fun _ _ _ => trivial)

/-- Nothing is in sight. -/
def noneVisible : ScanIo := { records := fun _ => none }

/-- The second network is in sight. -/
def atticVisible : ScanIo :=
  { records := fun _ => some [⟨⟨ascii "attic", by decide, by decide⟩, -50⟩] }

theorem twoNetworks_isSome :
    (wifiManagerInitStaDual (ascii "home") (ascii "secret") (ascii "attic") (ascii "hidden")
      noneVisible true).isSome := by decide +kernel

/-- The manager with two networks, the first of them active. -/
def twoNetworks : Wifi :=
  (wifiManagerInitStaDual (ascii "home") (ascii "secret") (ascii "attic") (ascii "hidden")
    noneVisible true).get twoNetworks_isSome

/-- A switch that is applied before anything else happens. -/
theorem reconnects_use_selected_network_switch :
    Meets wifiStep ConnectsSelected twoNetworks
      [.staDisconnected 201 noneVisible, .staDisconnected 201 atticVisible, .retryTask, .retryTask,
        .retryTask, .staGotIp] :=
  (reconnects_use_selected_network (Option.some_get twoNetworks_isSome).symm _).2
    (by decide +kernel)

/-- A third disconnect overwrites the request of the switch: the task connects to the first
    network while the second is the active one. -/
theorem switch_overwritten :
    let w := final wifiStep twoNetworks
      [.staDisconnected 201 noneVisible, .staDisconnected 201 atticVisible,
        .staDisconnected 201 noneVisible, .retryTask, .retryTask]
    (wifiStep w .retryTask).2 = .connected ∧ (wifiStep w .retryTask).1.activeIdx = 1 ∧
      (wifiStep w .retryTask).1.driver =
        ⟨CStr.strncpy (ascii "home"), CStr.strncpy (ascii "secret")⟩ ∧
      ¬ConnectsSelected w .retryTask := by
  decide +kernel

end IndoorLogger
