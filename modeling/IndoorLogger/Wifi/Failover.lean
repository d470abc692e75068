import IndoorLogger.Wifi.ActiveNetwork

/-
  When a disconnect starts a failover scan. The counter of the active network is compared with
  the history of the run: it counts the disconnects since it was last cleared
  (`failover_scan_iff`), whichever network is active by then.
-/

namespace IndoorLogger

open Machine

/-! ## The history of a run -/

/-- The test of a disconnect for a failover, behind the switch over its reason. -/
def FailoverDue (w : Wifi) : Prop :=
  w.networkCount > 1 ∧ (networkAt w.networks w.activeIdx).consecutiveFailures ≥ failoverThreshold

instance (w : Wifi) : Decidable (FailoverDue w) := inferInstanceAs (Decidable (_ ∧ _))

/-- A step starts a failover scan. -/
def StartsFailoverScan (w : Wifi) : WifiInput → Prop
  | .staDisconnected reason _ => FailoverDue (disconnectReason reason { w with connected := false })
  | _ => False

instance (w : Wifi) : ∀ i, Decidable (StartsFailoverScan w i)
  | .staDisconnected _ _ => inferInstanceAs (Decidable (FailoverDue _))
  | .staStart => inferInstanceAs (Decidable False)
  | .staGotIp => inferInstanceAs (Decidable False)
  | .rescan _ => inferInstanceAs (Decidable False)
  | .retryTask => inferInstanceAs (Decidable False)

/-- The reasons of an authentication failure. -/
def AuthReason (reason : UInt8) : Prop := reason = 2 ∨ reason = 4 ∨ reason = 204

instance (reason : UInt8) : Decidable (AuthReason reason) :=
  inferInstanceAs (Decidable (_ ∨ _ ∨ _))

/-- A disconnect that is not an authentication failure. -/
def WifiInput.failure : WifiInput → Bool
  | .staDisconnected reason _ => !decide (AuthReason reason)
  | _ => false

/-- An IP address, or an authentication failure. -/
def WifiInput.clears : WifiInput → Bool
  | .staGotIp => true
  | .staDisconnected reason _ => decide (AuthReason reason)
  | _ => false

/-- An event of the past: whether it started a failover scan, and whether it activated another
    network. -/
structure WifiRecord where
  input : WifiInput
  scanned : Bool
  activated : Bool

/-- The count starts again behind this event. -/
def WifiRecord.resets (e : WifiRecord) : Bool := e.scanned || e.activated || e.input.clears

/-- The disconnects since the count was started last; the newest event is the first. -/
def recentFailures (history : List WifiRecord) : Nat :=
  (history.takeWhile fun e => !e.resets).countP fun e => e.input.failure

/-- What a step adds to the history. -/
def wifiRecord (w : Wifi) (i : WifiInput) : WifiRecord where
  input := i
  scanned := decide (StartsFailoverScan w i)
  activated := decide ((wifiStep w i).1.activeIdx ≠ w.activeIdx)

/-- The station with its history. -/
def recordedStep (s : Wifi × List WifiRecord) (i : WifiInput) :
    (Wifi × List WifiRecord) × RetryAct :=
  (((wifiStep s.1 i).1, wifiRecord s.1 i :: s.2), (wifiStep s.1 i).2)

theorem recentFailures_reset {e : WifiRecord} (h : e.resets = true) (history : List WifiRecord) :
    recentFailures (e :: history) = 0 := by
  unfold recentFailures
  rw [List.takeWhile_cons_of_neg (by rw [h]; decide), List.countP_nil]

theorem recentFailures_cons {e : WifiRecord} (h : e.resets = false) (history : List WifiRecord) :
    recentFailures (e :: history) = recentFailures history + if e.input.failure then 1 else 0 := by
  unfold recentFailures
  rw [List.takeWhile_cons_of_pos (by rw [h]; rfl), List.countP_cons]

/-! ## The counter of the active network -/

/-- The counter of the active network. -/
def Wifi.failures (w : Wifi) : UInt32 := (networkAt w.networks w.activeIdx).consecutiveFailures

/-- Two networks, a valid active index, and `n` failures of the active network. -/
structure Counted (n : Nat) (w : Wifi) : Prop where
  networkCount : w.networkCount = 2
  activeIdx : w.activeIdx < 2
  failures : w.failures.toNat = n

variable {n : Nat} {w w' : Wifi}

theorem Counted.of_keeps (h : Counted n w) (hk : KeepsNetworks w w') : Counted n w' where
  networkCount := hk.networkCount.trans h.networkCount
  activeIdx := hk.activeIdx ▸ h.activeIdx
  failures := by
    unfold Wifi.failures
    rw [hk.networks, hk.activeIdx]
    exact h.failures

theorem Counted.valid (h : Counted n w) : w.activeIdx < w.networkCount :=
  h.networkCount ▸ h.activeIdx

/-- A write to the counter of the active network. -/
theorem Counted.modify (h : Counted n w) (f : UInt32 → UInt32) :
    Counted (f w.failures).toNat { w with
      networks := modifyNetwork w.networks w.activeIdx fun n =>
        { n with consecutiveFailures := f n.consecutiveFailures } } where
  networkCount := h.networkCount
  activeIdx := h.activeIdx
  failures := by
    unfold Wifi.failures
    rw [networkAt_modifyNetwork_self w.networks h.activeIdx]

theorem Counted.setFailures (h : Counted n w) (f : UInt32 → UInt32) :
    Counted (f w.failures).toNat (w.setFailures f) ∧
      (w.setFailures f).activeIdx = w.activeIdx := by
  have hcount : w.networkCount > 0 ∧ w.activeIdx < w.networkCount :=
    ⟨(Nat.zero_le w.activeIdx).trans_lt h.valid, h.valid⟩
  unfold Wifi.setFailures
  rw [if_pos hcount]
  exact ⟨h.modify f, rfl⟩

/-- A scan keeps the counter, or activates another network with its counter cleared. -/
theorem Counted.scanAndSelectBest (h : Counted n w) (io : ScanIo) :
    Counted (if (scanAndSelectBest io w).1.activeIdx = w.activeIdx then n else 0)
      (scanAndSelectBest io w).1 := by
  obtain ⟨networks', hstored, ⟨heq, -⟩ | ⟨idx, heq, hidx, hlt, -⟩⟩ := scanAndSelectBest_cases io w
  · rw [heq, if_pos rfl]
    refine ⟨h.networkCount, h.activeIdx, ?_⟩
    have hkept := congrArg (fun t => t.2.2.2) (hstored w.activeIdx)
    exact (congrArg UInt32.toNat hkept).trans h.failures
  · rw [heq, if_neg hidx]
    have hlt2 : idx < 2 := h.networkCount ▸ hlt
    refine ⟨h.networkCount, hlt2, ?_⟩
    unfold Wifi.failures
    rw [networkAt_modifyNetwork_self networks' hlt2]
    rfl

/-- The switch over the reason counts a failure, or clears the counter. -/
theorem Counted.disconnectReason (h : Counted n w) (hn : n < 2) (reason : UInt8) :
    Counted (if AuthReason reason then 0 else n + 1) (disconnectReason reason w) ∧
      (disconnectReason reason w).activeIdx = w.activeIdx := by
  have hdelay : ∀ d : UInt32, Counted n { w with retryDelaySec := d } := fun _ =>
    h.of_keeps ⟨rfl, rfl, rfl⟩
  have hsucc : ∀ d : UInt32,
      Counted (n + 1) ({ w with retryDelaySec := d }.setFailures (· + 1)) ∧
        ({ w with retryDelaySec := d }.setFailures (· + 1)).activeIdx = w.activeIdx := by
    intro d
    have hfailures : (w.failures + 1).toNat = n + 1 := by
      rw [UInt32.toNat_add, h.failures]
      exact Nat.mod_eq_of_lt (by change n + 1 < _; omega)
    have hset := (hdelay d).setFailures (· + 1)
    exact ⟨hfailures ▸ hset.1, hset.2⟩
  unfold IndoorLogger.disconnectReason
  by_cases h201 : reason = 201
  · rw [if_pos h201, if_neg (by rw [h201]; decide)]
    exact hsucc 60
  · rw [if_neg h201]
    by_cases hauth : AuthReason reason
    · have hreason : reason = 2 ∨ reason = 4 ∨ reason = 204 := hauth
      rw [if_pos hauth, if_pos hreason]
      exact (hdelay 3600).setFailures fun _ => 0
    · have hreason : ¬(reason = 2 ∨ reason = 4 ∨ reason = 204) := hauth
      rw [if_neg hauth, if_neg hreason]
      exact hsucc 60

theorem failover_eq (io : ScanIo) (w : Wifi) :
    failover io w =
      if FailoverDue w then
        scanAndSelectBest io { w with networks := modifyNetwork w.networks w.activeIdx fun n =>
          { n with consecutiveFailures := 0 } }
      else (w, false) := rfl

theorem Counted.failoverDue_iff (h : Counted n w) : FailoverDue w ↔ 2 ≤ n := by
  unfold FailoverDue
  rw [h.networkCount, ← h.failures, ge_iff_le, UInt32.le_iff_toNat_le]
  exact ⟨fun hd => hd.2, fun hn => ⟨by decide, hn⟩⟩

/-- The failover clears the counter when it is due. -/
theorem Counted.failover (h : Counted n w) (io : ScanIo) :
    Counted (if 2 ≤ n then 0 else n) (failover io w).1 ∧
      (¬2 ≤ n → (IndoorLogger.failover io w).1.activeIdx = w.activeIdx) := by
  rw [failover_eq]
  by_cases hn : 2 ≤ n
  · rw [if_pos hn, if_pos (h.failoverDue_iff.mpr hn)]
    have hscan := (h.modify fun _ => 0).scanAndSelectBest io
    have hzero : ∀ p : Prop, [Decidable p] → (if p then (0 : UInt32).toNat else 0) = 0 :=
      fun p => ite_self 0
    rw [hzero] at hscan
    exact ⟨hscan, fun hc => absurd hn hc⟩
  · rw [if_neg hn, if_neg fun hd => hn (h.failoverDue_iff.mp hd)]
    exact ⟨h, fun _ => rfl⟩

/-! ## Steps -/

/-- The counter of the active network agrees with the history. -/
def Tracked (s : Wifi × List WifiRecord) : Prop :=
  Counted (recentFailures s.2) s.1 ∧ recentFailures s.2 < 2

variable {history : List WifiRecord}

/-- What a step that is no disconnect does to the count. -/
theorem tracked_of_counted (h : Tracked (w, history)) {i : WifiInput}
    (hs : ¬StartsFailoverScan w i) (hf : i.failure = false)
    (hc : Counted (if i.clears ∨ (wifiStep w i).1.activeIdx ≠ w.activeIdx then 0
      else recentFailures history) (wifiStep w i).1) :
    Tracked (recordedStep (w, history) i).1 := by
  unfold Tracked recordedStep
  dsimp only
  by_cases hr : i.clears = true ∨ (wifiStep w i).1.activeIdx ≠ w.activeIdx
  · rw [if_pos hr] at hc
    have hreset : (wifiRecord w i).resets = true := by
      simp only [WifiRecord.resets, wifiRecord, Bool.or_eq_true, decide_eq_true_eq]
      rcases hr with hr | hr
      · exact Or.inr hr
      · exact Or.inl (Or.inr hr)
    rw [recentFailures_reset hreset]
    exact ⟨hc, Nat.two_pos⟩
  · rw [if_neg hr] at hc
    obtain ⟨hclears, hidx⟩ := not_or.mp hr
    have hreset : (wifiRecord w i).resets = false := by
      simp only [WifiRecord.resets, wifiRecord, decide_eq_false hs, decide_eq_false hidx,
        Bool.eq_false_of_not_eq_true hclears, Bool.or_self]
    rw [recentFailures_cons hreset]
    have hinput : (wifiRecord w i).input.failure = false := hf
    rw [hinput]
    exact ⟨hc, h.2⟩

/-- A disconnect starts a scan when the count has come to the threshold. -/
theorem tracked_staDisconnected (h : Tracked (w, history)) (reason : UInt8) (io : ScanIo) :
    (StartsFailoverScan w (.staDisconnected reason io) ↔
        ¬AuthReason reason ∧ recentFailures history + 1 = 2) ∧
      Tracked (recordedStep (w, history) (.staDisconnected reason io)).1 := by
  obtain ⟨hcounted, hlt⟩ := h
  dsimp only at hcounted hlt
  generalize hn : recentFailures history = n at hcounted hlt
  have hlost : Counted n { w with connected := false } := hcounted.of_keeps ⟨rfl, rfl, rfl⟩
  obtain ⟨hreason, hidx⟩ := hlost.disconnectReason hlt reason
  have hscan : StartsFailoverScan w (.staDisconnected reason io) ↔
      ¬AuthReason reason ∧ n + 1 = 2 := by
    refine hreason.failoverDue_iff.trans ?_
    split
    case isTrue hauth => exact iff_of_false (by decide) fun hc => hc.1 hauth
    case isFalse hauth => exact ⟨fun h2 => ⟨hauth, by omega⟩, fun hc => by omega⟩
  refine ⟨hscan, ?_⟩
  obtain ⟨hfail, hkeep⟩ := hreason.failover io
  have hrequest := keepsNetworks_requestRetry (fun _ => hfail.valid)
    (failover io (disconnectReason reason { w with connected := false })).2
  have hafter := hfail.of_keeps hrequest
  have hidx' := hrequest.activeIdx
  unfold Tracked recordedStep
  dsimp only
  by_cases hreset : (wifiRecord w (.staDisconnected reason io)).resets = true
  · rw [recentFailures_reset hreset]
    have hzero : (if 2 ≤ (if AuthReason reason then 0 else n + 1) then 0
        else if AuthReason reason then 0 else n + 1) = 0 := by
      by_cases hauth : AuthReason reason
      · rw [if_pos hauth]
        rfl
      · rw [if_neg hauth]
        refine if_pos ?_
        by_contra hsmall
        rw [if_neg hauth] at hkeep
        -- without a scan nothing is activated, and no reason clears
        have hact := (hidx'.trans (hkeep hsmall)).trans hidx
        have hno : ¬StartsFailoverScan w (.staDisconnected reason io) := fun hs => by
          have := (hscan.mp hs).2
          omega
        have hsame : (wifiStep w (.staDisconnected reason io)).1.activeIdx = w.activeIdx := hact
        simp only [WifiRecord.resets, wifiRecord, decide_eq_false hno, hsame, WifiInput.clears,
          decide_eq_false hauth] at hreset
        simp at hreset
    rw [hzero] at hafter
    exact ⟨hafter, Nat.two_pos⟩
  · have hfalse := Bool.eq_false_of_not_eq_true hreset
    rw [recentFailures_cons hfalse, hn]
    simp only [WifiRecord.resets, wifiRecord, Bool.or_eq_false_iff, decide_eq_false_iff_not]
      at hfalse
    obtain ⟨⟨hno, -⟩, hclears⟩ := hfalse
    have hauth : ¬AuthReason reason := of_decide_eq_false hclears
    have hsmall : ¬2 ≤ n + 1 := fun h2 => hno (hscan.mpr ⟨hauth, by omega⟩)
    have hone : (wifiRecord w (.staDisconnected reason io)).input.failure = true := by
      change (!decide (AuthReason reason)) = true
      rw [decide_eq_false hauth]
      rfl
    rw [hone, if_pos rfl]
    rw [if_neg hauth, if_neg hsmall] at hafter
    exact ⟨hafter, Nat.lt_of_not_le hsmall⟩

/-- A step starts a failover scan exactly at the disconnect that brings the count to the
    threshold, and counts on. -/
theorem tracked_recordedStep {s : Wifi × List WifiRecord} (h : Tracked s) (i : WifiInput) :
    (StartsFailoverScan s.1 i ↔
        i.failure = true ∧ recentFailures s.2 + 1 = failoverThreshold.toNat) ∧
      Tracked (recordedStep s i).1 := by
  obtain ⟨w, history⟩ := s
  have hnever : ∀ p : Prop, (False ↔ false = true ∧ p) := fun p =>
    iff_of_false id fun hc => Bool.false_ne_true hc.1
  cases i with
  | staStart =>
    refine ⟨hnever _, tracked_of_counted h id rfl ?_⟩
    have hstart := keepsNetworks_staStart fun _ => h.1.valid
    rw [wifiStep, if_neg (by rw [hstart.activeIdx]; simp [WifiInput.clears])]
    exact h.1.of_keeps hstart
  | staDisconnected reason io =>
    obtain ⟨hscan, htracked⟩ := tracked_staDisconnected h reason io
    refine ⟨hscan.trans (and_congr_left fun _ => ?_), htracked⟩
    rw [WifiInput.failure, Bool.not_eq_true', decide_eq_false_iff_not]
  | staGotIp =>
    refine ⟨hnever _, tracked_of_counted h id rfl ?_⟩
    rw [if_pos (Or.inl (by rfl))]
    have hup : Counted (recentFailures history) { w with connected := true } :=
      h.1.of_keeps ⟨rfl, rfl, rfl⟩
    exact (hup.setFailures fun _ => 0).1
  | rescan io =>
    refine ⟨hnever _, tracked_of_counted h id rfl ?_⟩
    have hscan := h.1.scanAndSelectBest io
    have hrescan : Counted (if (wifiManagerRescanAndSwitch io w).activeIdx = w.activeIdx then
        recentFailures history else 0) (wifiManagerRescanAndSwitch io w) := by
      unfold wifiManagerRescanAndSwitch
      split
      · rw [if_pos rfl]
        exact h.1
      · split
        · rw [if_pos rfl]
          exact h.1
        · split
          case h_1 heq =>
            rw [heq] at hscan
            have happly := keepsNetworks_applyActiveConfig fun _ => hscan.valid
            rw [happly.activeIdx]
            exact hscan.of_keeps happly
          case h_2 heq =>
            rw [heq] at hscan
            exact hscan
    rw [wifiStep]
    by_cases hidx : (wifiManagerRescanAndSwitch io w).activeIdx = w.activeIdx
    · rw [if_pos hidx] at hrescan
      rw [if_neg (by simp [WifiInput.clears, hidx])]
      exact hrescan
    · rw [if_neg hidx] at hrescan
      rw [if_pos (Or.inr hidx)]
      exact hrescan
  | retryTask =>
    refine ⟨hnever _, tracked_of_counted h id rfl ?_⟩
    have htask := keepsNetworks_wifiRetryTask fun _ => h.1.valid
    rw [wifiStep, if_neg (by simp [WifiInput.clears, htask.activeIdx])]
    exact h.1.of_keeps htask

/-! ## Runs -/

/-- Two networks as they are initialised. -/
theorem tracked_initStaDual {ssid1 ssid2 : List UInt8} (pass1 pass2 : List UInt8) (io : ScanIo)
    (taskCreated deinit : Bool) (m : WifiManager) (h1 : cString ssid1 ≠ [])
    (h2 : cString ssid2 ≠ []) :
    Tracked
      ((wifiManagerInitStaDualAgain ssid1 pass1 ssid2 pass2 io taskCreated deinit m).1.wifi,
        []) := by
  obtain ⟨hidx, hcount⟩ := storeNetworks_counts ssid1 pass1 ssid2 pass2 m.wifi
  have hfirst := storeNetworks_networkAt ssid1 pass1 ssid2 pass2 m.wifi 0
  rw [if_neg (by simp), if_pos ⟨rfl, h1⟩] at hfirst
  rw [if_pos h2] at hcount
  unfold wifiManagerInitStaDualAgain
  generalize storeNetworks ssid1 pass1 ssid2 pass2 m.wifi = w at hidx hcount hfirst
  have hstored : Counted 0 w := by
    refine ⟨hcount, hidx ▸ Nat.two_pos, ?_⟩
    unfold Wifi.failures
    rw [hidx, hfirst]
    rfl
  have htask := hstored.of_keeps
    (keepsNetworks_startTask (!m.inited || deinit) taskCreated w)
  have hscan := htask.scanAndSelectBest io
  rw [ite_self] at hscan
  dsimp only
  rw [if_neg (by rw [hcount]; decide)]
  exact ⟨hscan.of_keeps (keepsNetworks_applyActiveConfig fun _ => hscan.valid), Nat.two_pos⟩

/-- **When a failover scan starts.** In every run from an initialisation with two networks, a
    step starts one exactly if it is the disconnect that brings the failures since the last
    reset to the threshold; the counter of the active network stays below it. -/
theorem failover_scan_iff {ssid1 ssid2 : List UInt8} (pass1 pass2 : List UInt8) (io : ScanIo)
    (taskCreated deinit : Bool) (m : WifiManager) (h1 : cString ssid1 ≠ [])
    (h2 : cString ssid2 ≠ []) (is : List WifiInput) :
    let w := (wifiManagerInitStaDualAgain ssid1 pass1 ssid2 pass2 io taskCreated deinit m).1.wifi
    Meets recordedStep (fun s i => StartsFailoverScan s.1 i ↔
        i.failure = true ∧ recentFailures s.2 + 1 = failoverThreshold.toNat) (w, []) is ∧
      Always recordedStep (fun s => s.1.activeIdx < s.1.networkCount ∧
        (networkAt s.1.networks s.1.activeIdx).consecutiveFailures < failoverThreshold)
        (w, []) is := by
  dsimp only
  have htracked : Always recordedStep Tracked _ is :=
    always_of_step (fun s i h => (tracked_recordedStep h i).2) is
      (tracked_initStaDual pass1 pass2 io taskCreated deinit m h1 h2)
  refine ⟨htracked.meets (fun s i h _ => (tracked_recordedStep h i).1)
    (meets_of_forall fun _ _ _ => trivial), htracked.mono fun s h => ⟨h.1.valid, ?_⟩⟩
  rw [UInt32.lt_iff_toNat_lt]
  exact h.1.failures.trans_lt h.2

/-- The second of two disconnects starts a scan. -/
theorem failover_scan_second :
    let io : ScanIo := { records := fun _ => none }
    let w := (wifiManagerInitStaDualAgain (ascii "home") (ascii "secret") (ascii "attic")
      (ascii "hidden") io true false WifiManager.boot).1.wifi
    Meets recordedStep (fun s i => StartsFailoverScan s.1 i ↔
        i.failure = true ∧ recentFailures s.2 + 1 = failoverThreshold.toNat)
        (w, []) [.staDisconnected 201 io, .staDisconnected 8 io] ∧
      Always recordedStep (fun s => s.1.activeIdx < s.1.networkCount ∧
        (networkAt s.1.networks s.1.activeIdx).consecutiveFailures < failoverThreshold)
        (w, []) [.staDisconnected 201 io, .staDisconnected 8 io] :=
  failover_scan_iff (ascii "secret") (ascii "hidden") { records := fun _ => none } true false
    WifiManager.boot (by decide +kernel) (by decide +kernel) _

end IndoorLogger
