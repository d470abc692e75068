import IndoorLogger.Lib.Machine
import IndoorLogger.Wifi.WifiManager

/-
  The active network is a configured one. The networks are positional and the count is one past
  the last of them: a first network that is left out leaves a hole the active index points at,
  and taking the second one away cuts the count under the index. `active_configured_iff` names
  the calls that do so.
-/

namespace IndoorLogger

open Machine

/-- Calls of the manager, and events. -/
inductive WifiCall where
  | initStaDual (ssid1 pass1 ssid2 pass2 : List UInt8) (io : ScanIo) (taskCreated deinit : Bool)
  | setBackup (ssid password : List UInt8)
  | event (i : WifiInput)

/-- A rescan is skipped as long as nothing was initialised. -/
def wifiCall (m : WifiManager) : WifiCall → WifiManager × Unit
  | .initStaDual ssid1 pass1 ssid2 pass2 io taskCreated deinit =>
    ((wifiManagerInitStaDualAgain ssid1 pass1 ssid2 pass2 io taskCreated deinit m).1, ())
  | .setBackup ssid password => ({ m with wifi := wifiManagerSetBackup ssid password m.wifi }, ())
  | .event (.rescan io) =>
    (if m.inited then { m with wifi := (wifiStep m.wifi (.rescan io)).1 } else m, ())
  | .event i => ({ m with wifi := (wifiStep m.wifi i).1 }, ())

/-- The active index is in range, and its network is configured with an SSID. -/
def Wifi.ActiveConfigured (w : Wifi) : Prop :=
  0 < w.networkCount → w.activeIdx < w.networkCount ∧
    (networkAt w.networks w.activeIdx).configured = true ∧
    (networkAt w.networks w.activeIdx).ssid ≠ CStr.empty

instance (w : Wifi) : Decidable w.ActiveConfigured := inferInstanceAs (Decidable (_ → _))

/-- The scan sees the second network. -/
def SecondVisible (io : ScanIo) (ssid2 : List UInt8) : Prop :=
  io.startFails = false ∧ findRssiForSsid (io.records 1) (CStr.strncpy ssid2) ≠ 0

/-- A network is left out only if it is the second one, or the second one is in sight; the
    backup is taken away only while the first one is active, and is not the first network to be
    given. -/
def LeavesNoHole (m : WifiManager) : WifiCall → Prop
  | .initStaDual ssid1 _ ssid2 _ io _ _ =>
    cString ssid1 ≠ [] ∨ cString ssid2 = [] ∨ SecondVisible io ssid2
  | .setBackup ssid _ =>
    if cString ssid = [] then m.wifi.networkCount = 2 → m.wifi.activeIdx = 0
    else 0 < m.wifi.networkCount
  | .event _ => True

instance (io : ScanIo) (ssid2 : List UInt8) : Decidable (SecondVisible io ssid2) :=
  inferInstanceAs (Decidable (_ ∧ _))

instance (m : WifiManager) : ∀ c, Decidable (LeavesNoHole m c)
  | .initStaDual _ _ _ _ _ _ _ => inferInstanceAs (Decidable (_ ∨ _ ∨ _))
  | .setBackup _ _ => inferInstanceAs (Decidable (ite _ _ _))
  | .event _ => inferInstanceAs (Decidable True)

/-! ## A scan -/

/-- What a scan does not change of a network. -/
def StaNetwork.stored (n : StaNetwork) : CStr 32 × CStr 64 × Bool × UInt32 :=
  (n.ssid, n.pass, n.configured, n.consecutiveFailures)

/-- The RSSI a scan finds for network `i`. -/
def rssiAt (records : Nat → Option (List ApRecord)) (networks : Vector StaNetwork 2) (i : Nat) :
    Int8 :=
  findRssiForSsid (records i) (networkAt networks i).ssid

/-- What the loop of a scan has found among the first `n` networks. -/
structure Scanned (records : Nat → Option (List ApRecord)) (networks : Vector StaNetwork 2)
    (n : Nat) (acc : Vector StaNetwork 2 × Option (Nat × Int8)) : Prop where
  stored : ∀ j, (networkAt acc.1 j).stored = (networkAt networks j).stored
  best : ∀ j rssi, acc.2 = some (j, rssi) → j < n ∧ (networkAt networks j).configured = true
  none : acc.2 = none ↔
    ∀ j < n, (networkAt networks j).configured = true → rssiAt records networks j = 0

variable {records : Nat → Option (List ApRecord)} {networks : Vector StaNetwork 2}

theorem scanned_step {n : Nat} {acc : Vector StaNetwork 2 × Option (Nat × Int8)}
    (h : Scanned records networks n acc) :
    Scanned records networks (n + 1) (scanNetwork records acc n) := by
  have hconf : (networkAt acc.1 n).configured = (networkAt networks n).configured :=
    congrArg (fun t => t.2.2.1) (h.stored n)
  have hssid : (networkAt acc.1 n).ssid = (networkAt networks n).ssid :=
    congrArg (fun t => t.1) (h.stored n)
  have hbest : ∀ j rssi, acc.2 = some (j, rssi) →
      j < n + 1 ∧ (networkAt networks j).configured = true := fun j rssi hj =>
    ⟨(h.best j rssi hj).1.trans (Nat.lt_succ_self n), (h.best j rssi hj).2⟩
  unfold scanNetwork
  rw [hconf, hssid]
  cases hc : (networkAt networks n).configured with
  | false =>
    refine ⟨h.stored, hbest, ?_⟩
    rw [if_pos (by rfl), h.none, Nat.forall_lt_succ_right]
    simp [hc]
  | true =>
    rw [if_neg (by decide)]
    dsimp only
    have hstored : ∀ rssi : Int8, ∀ j, (networkAt (modifyNetwork acc.1 n fun n =>
        { n with lastRssi := rssi }) j).stored = (networkAt networks j).stored := by
      intro rssi j
      have hrssi : ∀ n : StaNetwork, ({ n with lastRssi := rssi } : StaNetwork).stored = n.stored :=
        fun _ => rfl
      exact (networkAt_modifyNetwork hrssi acc.1 n j).trans (h.stored j)
    rw [← rssiAt]
    by_cases hr : rssiAt records networks n = 0
    · rw [if_neg (not_not_intro hr)]
      refine ⟨hstored _, hbest, ?_⟩
      rw [h.none, Nat.forall_lt_succ_right]
      simp [hr]
    · rw [if_pos hr]
      have hseen : ¬∀ j < n + 1, (networkAt networks j).configured = true →
          rssiAt records networks j = 0 := fun hall => hr (hall n (Nat.lt_succ_self n) hc)
      cases hb : acc.2 with
      | none =>
        refine ⟨hstored _, fun j rssi hj => ?_, iff_of_false nofun hseen⟩
        cases hj
        exact ⟨Nat.lt_succ_self n, hc⟩
      | some b =>
        refine ⟨hstored _, fun j rssi hj => ?_, ?_⟩
        · dsimp only at hj
          split at hj
          · cases hj
            exact ⟨Nat.lt_succ_self n, hc⟩
          · exact hbest j rssi (hb.trans hj)
        · refine iff_of_false ?_ hseen
          dsimp only
          split <;> exact Option.some_ne_none _

theorem scanned_range (n : Nat) :
    Scanned records networks n ((List.range n).foldl (scanNetwork records) (networks, none)) := by
  induction n with
  | zero => exact ⟨fun _ => rfl, nofun, by simp⟩
  | succ n ih =>
    rw [List.range_succ, List.foldl_append]
    exact scanned_step ih

/-- A configured network is in sight. -/
def InSight (io : ScanIo) (w : Wifi) : Prop :=
  io.startFails = false ∧ ∃ j < w.networkCount, (networkAt w.networks j).configured = true ∧
    rssiAt io.records w.networks j ≠ 0

/-- A scan leaves the active network, or selects a configured one and clears its failures. -/
theorem scanAndSelectBest_cases (io : ScanIo) (w : Wifi) :
    ∃ networks', (∀ j, (networkAt networks' j).stored = (networkAt w.networks j).stored) ∧
      ((scanAndSelectBest io w = ({ w with networks := networks' }, false) ∧
          ((networkAt w.networks w.activeIdx).configured = false → ¬InSight io w)) ∨
        ∃ idx, scanAndSelectBest io w =
            ({ w with
                networks := modifyNetwork networks' idx fun n => { n with consecutiveFailures := 0 }
                activeIdx := idx }, true) ∧
          idx ≠ w.activeIdx ∧ idx < w.networkCount ∧
          (networkAt w.networks idx).configured = true ∧ InSight io w) := by
  unfold scanAndSelectBest
  split
  case isTrue h0 =>
    refine ⟨w.networks, fun _ => rfl, Or.inl ⟨rfl, fun _ hsight => ?_⟩⟩
    obtain ⟨-, j, hj, -⟩ := hsight
    exact absurd (h0 ▸ hj) (Nat.not_lt_zero j)
  case isFalse =>
    split
    case isTrue hs =>
      refine ⟨w.networks, fun _ => rfl, Or.inl ⟨rfl, fun _ hsight => ?_⟩⟩
      exact absurd (hsight.1.symm.trans hs) Bool.false_ne_true
    case isFalse hs =>
      have hscan := @scanned_range io.records w.networks w.networkCount
      generalize (List.range w.networkCount).foldl (scanNetwork io.records) (w.networks, none) =
        acc at hscan
      obtain ⟨networks', best⟩ := acc
      obtain ⟨hstored, hbest, hnone⟩ := hscan
      dsimp only at hstored hbest hnone ⊢
      refine ⟨networks', hstored, ?_⟩
      cases best with
      | none =>
        refine Or.inl ⟨rfl, fun _ hsight => ?_⟩
        obtain ⟨-, j, hj, hc, hr⟩ := hsight
        exact hr (hnone.mp rfl j hj hc)
      | some b =>
        obtain ⟨idx, rssi⟩ := b
        obtain ⟨hidx, hc⟩ := hbest idx rssi rfl
        have hsight : InSight io w := by
          refine ⟨Bool.eq_false_of_not_eq_true hs, ?_⟩
          by_contra hno
          refine absurd (hnone.mpr fun j hj hconf => ?_) (Option.some_ne_none _)
          by_contra hr
          exact hno ⟨j, hj, hconf, hr⟩
        dsimp only
        by_cases hact : idx = w.activeIdx
        · rw [if_neg (not_not_intro hact)]
          refine Or.inl ⟨rfl, fun hfalse => ?_⟩
          rw [← hact, hc] at hfalse
          cases hfalse
        · rw [if_pos hact]
          exact Or.inr ⟨idx, rfl, hact, hidx, hc, hsight⟩

/-! ## Events -/

/-- The networks stay what they are, and the active one stays or another configured one is
    selected. -/
structure Moves (w w' : Wifi) : Prop where
  networkCount : w'.networkCount = w.networkCount
  kept : ∀ j, (networkAt w'.networks j).ssid = (networkAt w.networks j).ssid ∧
    (networkAt w'.networks j).configured = (networkAt w.networks j).configured
  activeIdx : w'.activeIdx = w.activeIdx ∨
    w'.activeIdx < w.networkCount ∧ (networkAt w.networks w'.activeIdx).configured = true

theorem Moves.refl (w : Wifi) : Moves w w := ⟨rfl, fun _ => ⟨rfl, rfl⟩, Or.inl rfl⟩

theorem Moves.trans {w w' w'' : Wifi} (h : Moves w w') (h' : Moves w' w'') : Moves w w'' where
  networkCount := h'.networkCount.trans h.networkCount
  kept j := ⟨(h'.kept j).1.trans (h.kept j).1, (h'.kept j).2.trans (h.kept j).2⟩
  activeIdx := by
    rcases h'.activeIdx with hsame | ⟨hlt, hc⟩
    · rw [hsame]
      exact h.activeIdx
    · rw [h.networkCount] at hlt
      rw [(h.kept _).2] at hc
      exact Or.inr ⟨hlt, hc⟩

/-- The active network is a configured one, and nothing is configured while none is counted. -/
structure Settled (w : Wifi) : Prop where
  count_le : w.networkCount ≤ 2
  ssid : ∀ j, (networkAt w.networks j).configured = true →
    (networkAt w.networks j).ssid ≠ CStr.empty
  idle : w.networkCount = 0 → w.activeIdx = 0 ∧ (networkAt w.networks 0).configured = false
  active : w.ActiveConfigured

variable {w w' : Wifi}

theorem Settled.of_moves (h : Settled w) (hm : Moves w w') : Settled w' := by
  refine ⟨hm.networkCount ▸ h.count_le, fun j hc => ?_, fun h0 => ?_, fun hpos => ?_⟩
  · rw [(hm.kept j).2] at hc
    rw [(hm.kept j).1]
    exact h.ssid j hc
  · rw [hm.networkCount] at h0
    rw [(hm.kept 0).2]
    refine ⟨?_, (h.idle h0).2⟩
    rcases hm.activeIdx with hsame | ⟨hlt, -⟩
    · exact hsame.trans (h.idle h0).1
    · exact absurd (h0 ▸ hlt) (Nat.not_lt_zero _)
  · rw [hm.networkCount] at hpos ⊢
    rw [(hm.kept _).1, (hm.kept _).2]
    rcases hm.activeIdx with hsame | ⟨hlt, hc⟩
    · rw [hsame]
      exact h.active hpos
    · exact ⟨hlt, hc, h.ssid _ hc⟩

theorem KeepsNetworks.moves (h : KeepsNetworks w w') : Moves w w' :=
  ⟨h.networkCount, fun _ => by rw [h.networks]; exact ⟨rfl, rfl⟩, Or.inl h.activeIdx⟩

/-- A selected network is in range. -/
theorem Settled.valid (h : Settled w) : 0 < w.networkCount → w.activeIdx < w.networkCount :=
  fun hpos => (h.active hpos).1

theorem Settled.of_keeps (h : Settled w) (hk : KeepsNetworks w w') : Settled w' :=
  h.of_moves hk.moves

theorem moves_modify (i : Nat) {f : StaNetwork → StaNetwork} (hs : ∀ n, (f n).ssid = n.ssid)
    (hc : ∀ n, (f n).configured = n.configured) :
    Moves w { w with networks := modifyNetwork w.networks i f } :=
  ⟨rfl, fun j => ⟨networkAt_modifyNetwork hs w.networks i j,
    networkAt_modifyNetwork hc w.networks i j⟩, Or.inl rfl⟩

theorem moves_setFailures (f : UInt32 → UInt32) : Moves w (w.setFailures f) := by
  unfold Wifi.setFailures
  split
  · exact moves_modify w.activeIdx (fun _ => rfl) (fun _ => rfl)
  · exact .refl w

theorem moves_scanAndSelectBest (io : ScanIo) : Moves w (scanAndSelectBest io w).1 := by
  obtain ⟨networks', hstored, ⟨heq, -⟩ | ⟨idx, heq, -, hlt, hc, -⟩⟩ := scanAndSelectBest_cases io w
  all_goals
    have hkept : ∀ j, (networkAt networks' j).ssid = (networkAt w.networks j).ssid ∧
        (networkAt networks' j).configured = (networkAt w.networks j).configured := fun j =>
      ⟨congrArg (fun t => t.1) (hstored j), congrArg (fun t => t.2.2.1) (hstored j)⟩
    rw [heq]
  · exact ⟨rfl, hkept, Or.inl rfl⟩
  · have hclear := @moves_modify { w with networks := networks' } idx
      (fun n => { n with consecutiveFailures := 0 }) (fun _ => rfl) (fun _ => rfl)
    exact ⟨rfl, fun j => ⟨(hclear.kept j).1.trans (hkept j).1, (hclear.kept j).2.trans (hkept j).2⟩,
      Or.inr ⟨hlt, hc⟩⟩

theorem moves_disconnectReason (reason : UInt8) : Moves w (disconnectReason reason w) := by
  have hset : ∀ (d : UInt32) (f : UInt32 → UInt32),
      Moves w ({ w with retryDelaySec := d }.setFailures f) := by
    intro d f
    have hdelay : Moves w { w with retryDelaySec := d } := ⟨rfl, fun _ => ⟨rfl, rfl⟩, Or.inl rfl⟩
    exact hdelay.trans (moves_setFailures f)
  unfold disconnectReason
  split
  · exact hset _ _
  · split
    · exact hset _ _
    · exact hset _ _

theorem moves_failover (io : ScanIo) : Moves w (failover io w).1 := by
  unfold failover
  split
  · have hclear := @moves_modify w w.activeIdx (fun n => { n with consecutiveFailures := 0 })
      (fun _ => rfl) (fun _ => rfl)
    exact hclear.trans (moves_scanAndSelectBest io)
  · exact .refl w

/-- No event and no scan takes the active network away. -/
theorem Settled.wifiStep (h : Settled w) (i : WifiInput) : Settled (wifiStep w i).1 := by
  cases i with
  | staStart =>
    exact h.of_keeps (keepsNetworks_staStart h.valid)
  | staDisconnected reason io =>
    have hlost : Moves w { w with connected := false } := ⟨rfl, fun _ => ⟨rfl, rfl⟩, Or.inl rfl⟩
    have hmoves := hlost.trans ((moves_disconnectReason reason).trans (moves_failover io))
    have hscanned := h.of_moves hmoves
    exact hscanned.of_keeps (keepsNetworks_requestRetry hscanned.valid _)
  | staGotIp =>
    have hset : Moves w { w with connected := true } := ⟨rfl, fun _ => ⟨rfl, rfl⟩, Or.inl rfl⟩
    exact h.of_moves (hset.trans (moves_setFailures fun _ => 0))
  | rescan io =>
    have hscan := h.of_moves (moves_scanAndSelectBest io)
    rw [IndoorLogger.wifiStep, wifiManagerRescanAndSwitch]
    split
    · exact h
    · split
      · exact h
      · split
        case h_1 heq =>
          rw [heq] at hscan
          exact hscan.of_keeps (keepsNetworks_applyActiveConfig hscan.valid)
        case h_2 heq =>
          rw [heq] at hscan
          exact hscan
  | retryTask => exact h.of_keeps (keepsNetworks_wifiRetryTask h.valid)

/-! ## Calls -/

theorem strncpy_ne_empty {ssid : List UInt8} (h : cString ssid ≠ []) :
    (CStr.strncpy ssid : CStr 32) ≠ CStr.empty := by
  intro he
  have hbytes : (cString ssid).take 31 = [] := congrArg CStr.bytes he
  rcases List.take_eq_nil_iff.mp hbytes with h31 | hnil
  · cases h31
  · exact h hnil

theorem networkAt_storeNetwork (networks : Vector StaNetwork 2) {i : Nat} (hi : i < 2)
    (ssid pass : List UInt8) (j : Nat) :
    networkAt (storeNetwork networks i ssid pass) j =
      if i = j then ⟨CStr.strncpy ssid, CStr.strncpy pass, true, 0, 0⟩
      else networkAt networks j := by
  unfold networkAt storeNetwork
  rw [Vector.getElem?_setIfInBounds]
  split <;> rfl

theorem networkAt_zero (j : Nat) :
    networkAt (Vector.replicate 2 StaNetwork.zero) j = StaNetwork.zero := by
  unfold networkAt
  rw [Vector.getElem?_replicate]
  split <;> rfl

/-- The end of the initialisation, once the networks are stored. -/
def initialise (io : ScanIo) (startTask taskCreated : Bool) (w : Wifi) : Wifi :=
  applyActiveConfig (scanAndSelectBest io
    (if startTask then startRetryTaskIfNeeded taskCreated w else w)).1

theorem Settled.initialise (h : Settled w) (io : ScanIo) (startTask taskCreated : Bool) :
    Settled (initialise io startTask taskCreated w) := by
  have hscan := (h.of_keeps (keepsNetworks_startTask startTask taskCreated w)).of_moves
    (moves_scanAndSelectBest io)
  exact hscan.of_keeps (keepsNetworks_applyActiveConfig hscan.valid)

/-- The first network is left out: the active index is at a hole. -/
structure Hole (ssid2 : List UInt8) (w : Wifi) : Prop where
  networkCount : w.networkCount = 2
  activeIdx : w.activeIdx = 0
  first : (networkAt w.networks 0).configured = false
  second : (networkAt w.networks 1).configured = true ∧
    (networkAt w.networks 1).ssid = CStr.strncpy ssid2
  ssid : ∀ j, (networkAt w.networks j).configured = true →
    (networkAt w.networks j).ssid ≠ CStr.empty

theorem Hole.inSight_iff {ssid2 : List UInt8} (h : Hole ssid2 w) (io : ScanIo) :
    InSight io w ↔ SecondVisible io ssid2 := by
  unfold InSight SecondVisible
  rw [h.networkCount]
  refine and_congr_right fun _ => ?_
  constructor
  · rintro ⟨j, hj, hc, hr⟩
    have hj1 : j = 1 := by
      have hj0 : j ≠ 0 := by
        rintro rfl
        exact Bool.false_ne_true (h.first.symm.trans hc)
      omega
    rw [hj1, rssiAt, h.second.2] at hr
    exact hr
  · intro hr
    refine ⟨1, by decide, h.second.1, ?_⟩
    rw [rssiAt, h.second.2]
    exact hr

/-- A hole is settled by the scan exactly when it sees the second network. -/
theorem Hole.initialise_iff {ssid2 : List UInt8} (h : Hole ssid2 w)
    (io : ScanIo) (startTask taskCreated : Bool) :
    (SecondVisible io ssid2 → Settled (initialise io startTask taskCreated w)) ∧
      ((initialise io startTask taskCreated w).ActiveConfigured → SecondVisible io ssid2) := by
  have htask : Hole ssid2 (if startTask then startRetryTaskIfNeeded taskCreated w else w) := by
    unfold startRetryTaskIfNeeded
    split
    · split
      · exact ⟨h.networkCount, h.activeIdx, h.first, h.second, h.ssid⟩
      · exact h
    · exact h
  unfold initialise
  generalize (if startTask then startRetryTaskIfNeeded taskCreated w else w) = w₁ at htask
  rw [← htask.inSight_iff io]
  have hscan := moves_scanAndSelectBest (w := w₁) io
  obtain ⟨networks', -, ⟨heq, hsight⟩ | ⟨idx, heq, hidx, hlt, hc, hsight⟩⟩ :=
    scanAndSelectBest_cases io w₁
  · -- the active index stays at the hole
    have hfirst : (networkAt (scanAndSelectBest io w₁).1.networks 0).configured = false :=
      (hscan.kept 0).2.trans htask.first
    have hidle := hsight (htask.activeIdx ▸ htask.first)
    refine ⟨fun hs => absurd hs hidle, fun ha => absurd ha ?_⟩
    rw [heq] at hfirst ⊢
    have hcount : 0 < ({ w₁ with networks := networks' } : Wifi).networkCount := by
      rw [htask.networkCount]
      decide
    unfold Wifi.ActiveConfigured applyActiveConfig
    rw [if_neg hcount.ne', if_neg (by rw [htask.activeIdx, htask.networkCount]; decide)]
    intro ha
    have hact := (ha hcount).2.1
    rw [htask.activeIdx, hfirst] at hact
    cases hact
  · refine ⟨fun _ => ?_, fun _ => hsight⟩
    have hssid : ∀ j, (networkAt (scanAndSelectBest io w₁).1.networks j).configured = true →
        (networkAt (scanAndSelectBest io w₁).1.networks j).ssid ≠ CStr.empty := by
      intro j hj
      rw [(hscan.kept j).2] at hj
      rw [(hscan.kept j).1]
      exact htask.ssid j hj
    have hact : (scanAndSelectBest io w₁).1.activeIdx = idx := by rw [heq]
    have hmoved : Settled (scanAndSelectBest io w₁).1 := by
      refine ⟨?_, hssid, fun h0 => ?_, fun _ => ?_⟩
      · rw [hscan.networkCount, htask.networkCount]
      · rw [hscan.networkCount, htask.networkCount] at h0
        cases h0
      · have hconf := ((hscan.kept idx).2.trans hc)
        rw [hact, hscan.networkCount]
        exact ⟨hlt, hconf, hssid idx hconf⟩
    exact hmoved.of_keeps (keepsNetworks_applyActiveConfig hmoved.valid)

section

variable (ssid1 pass1 ssid2 pass2 : List UInt8)

/-- The networks as they are stored. -/
theorem storeNetworks_networkAt (w : Wifi) (j : Nat) :
    networkAt (storeNetworks ssid1 pass1 ssid2 pass2 w).networks j =
      if j = 1 ∧ cString ssid2 ≠ [] then
        ⟨CStr.strncpy ssid2, CStr.strncpy pass2, true, 0, 0⟩
      else if j = 0 ∧ cString ssid1 ≠ [] then
        ⟨CStr.strncpy ssid1, CStr.strncpy pass1, true, 0, 0⟩
      else StaNetwork.zero := by
  unfold storeNetworks
  by_cases h1 : cString ssid1 = []
  · by_cases h2 : cString ssid2 = []
    · simp [h1, h2, networkAt_zero]
    · simp [h1, h2, networkAt_zero, networkAt_storeNetwork, eq_comm]
  · by_cases h2 : cString ssid2 = []
    · simp [h1, h2, networkAt_zero, networkAt_storeNetwork, eq_comm]
    · simp [h1, h2, networkAt_zero, networkAt_storeNetwork, eq_comm]

theorem storeNetworks_counts (w : Wifi) :
    (storeNetworks ssid1 pass1 ssid2 pass2 w).activeIdx = 0 ∧
      (storeNetworks ssid1 pass1 ssid2 pass2 w).networkCount =
        if cString ssid2 ≠ [] then 2 else if cString ssid1 ≠ [] then 1 else 0 := by
  unfold storeNetworks
  dsimp only
  split
  · split <;> exact ⟨rfl, rfl⟩
  · split <;> exact ⟨rfl, rfl⟩

/-- The stored networks are settled unless the first one is left out, and then they have a
    hole. -/
theorem storeNetworks_cases (w : Wifi) :
    (cString ssid1 ≠ [] ∨
          cString ssid2 = [] ∧ (storeNetworks ssid1 pass1 ssid2 pass2 w).networkCount = 0) ∧
        Settled (storeNetworks ssid1 pass1 ssid2 pass2 w) ∨
      cString ssid1 = [] ∧ cString ssid2 ≠ [] ∧
        Hole ssid2 (storeNetworks ssid1 pass1 ssid2 pass2 w) := by
  obtain ⟨hidx, hcount⟩ := storeNetworks_counts ssid1 pass1 ssid2 pass2 w
  have hnet := storeNetworks_networkAt ssid1 pass1 ssid2 pass2 w
  have hssid : ∀ j, (networkAt (storeNetworks ssid1 pass1 ssid2 pass2 w).networks j).configured =
      true → (networkAt (storeNetworks ssid1 pass1 ssid2 pass2 w).networks j).ssid ≠
        CStr.empty := by
    intro j
    rw [hnet]
    split
    case isTrue h => exact fun _ => strncpy_ne_empty h.2
    case isFalse =>
      split
      case isTrue h => exact fun _ => strncpy_ne_empty h.2
      case isFalse => exact fun hfalse => absurd hfalse Bool.false_ne_true
  have hcountLe : (storeNetworks ssid1 pass1 ssid2 pass2 w).networkCount ≤ 2 := by
    rw [hcount]
    split
    · exact Nat.le_refl 2
    · split <;> decide
  have hfirst := hnet 0
  rw [if_neg (by simp)] at hfirst
  by_cases h1 : cString ssid1 = []
  · rw [if_neg fun h => h.2 h1] at hfirst
    by_cases h2 : cString ssid2 = []
    · rw [if_neg (not_not_intro h2), if_neg (not_not_intro h1)] at hcount
      have hidle : ¬0 < (storeNetworks ssid1 pass1 ssid2 pass2 w).networkCount := by
        rw [hcount]
        exact Nat.lt_irrefl 0
      exact Or.inl ⟨Or.inr ⟨h2, hcount⟩, hcountLe, hssid, fun _ => ⟨hidx, by rw [hfirst]; rfl⟩,
        fun hpos => absurd hpos hidle⟩
    · rw [if_pos h2] at hcount
      have hsecond := hnet 1
      rw [if_pos ⟨rfl, h2⟩] at hsecond
      exact Or.inr ⟨h1, h2, hcount, hidx, by rw [hfirst]; rfl, by rw [hsecond]; exact ⟨rfl, rfl⟩,
        hssid⟩
  · rw [if_pos ⟨rfl, h1⟩] at hfirst
    have hpos : 0 < (storeNetworks ssid1 pass1 ssid2 pass2 w).networkCount := by
      rw [hcount, if_pos h1]
      split <;> decide
    refine Or.inl ⟨Or.inl h1, hcountLe, hssid, fun h0 => absurd h0 hpos.ne', fun _ => ?_⟩
    rw [hidx]
    exact ⟨hpos, by rw [hfirst], hssid 0 (by rw [hfirst])⟩

/-- The initialisation settles the networks exactly when it leaves no hole. -/
theorem initStaDual_iff (m : WifiManager) (io : ScanIo) (taskCreated deinit : Bool) :
    let m' := (wifiManagerInitStaDualAgain ssid1 pass1 ssid2 pass2 io taskCreated deinit m).1
    (LeavesNoHole m (.initStaDual ssid1 pass1 ssid2 pass2 io taskCreated deinit) →
        Settled m'.wifi) ∧
      (m'.wifi.ActiveConfigured →
        LeavesNoHole m (.initStaDual ssid1 pass1 ssid2 pass2 io taskCreated deinit)) := by
  dsimp only [wifiManagerInitStaDualAgain, LeavesNoHole]
  rcases storeNetworks_cases ssid1 pass1 ssid2 pass2 m.wifi with ⟨hgiven, hset⟩ | ⟨h1, h2, hhole⟩
  · refine ⟨fun _ => ?_, fun _ => hgiven.imp_right fun h => Or.inl h.1⟩
    split
    · exact hset
    · exact hset.initialise io _ taskCreated
  · rw [if_neg (by rw [hhole.networkCount]; decide)]
    obtain ⟨hsettled, hvisible⟩ := hhole.initialise_iff io (!m.inited || deinit) taskCreated
    refine ⟨fun hc => hsettled ?_, fun ha => Or.inr (Or.inr (hvisible ha))⟩
    exact (hc.resolve_left (not_not_intro h1)).resolve_left h2

end

/-- What is set in the second network leaves the first one alone. -/
theorem Settled.removeBackup_iff (h : Settled w) {ssid : List UInt8} (hs : cString ssid = [])
    (password : List UInt8) :
    ((w.networkCount = 2 → w.activeIdx = 0) → Settled (wifiManagerSetBackup ssid password w)) ∧
      ((wifiManagerSetBackup ssid password w).ActiveConfigured →
        w.networkCount = 2 → w.activeIdx = 0) := by
  unfold wifiManagerSetBackup
  rw [if_pos hs]
  have hkept : ∀ {α : Type} (g : StaNetwork → α) (j : Nat), j ≠ 1 →
      g (networkAt (modifyNetwork w.networks 1 fun n =>
          { n with configured := false, ssid := CStr.empty, pass := CStr.empty }) j) =
        g (networkAt w.networks j) := fun g j hj => by
    rw [networkAt_modifyNetwork_ne _ hj.symm]
  have hgone := networkAt_modifyNetwork_self w.networks (i := 1) (by decide) fun n =>
    { n with configured := false, ssid := CStr.empty, pass := CStr.empty }
  refine ⟨fun hc => ⟨?_, fun j hj => ?_, fun h0 => ?_, fun hpos => ?_⟩, fun ha h2 => ?_⟩
  · dsimp only
    split
    · decide
    · exact h.count_le
  · by_cases hj1 : j = 1
    · rw [hj1, hgone] at hj
      cases hj
    · dsimp only at hj ⊢
      rw [hkept StaNetwork.configured j hj1] at hj
      rw [hkept StaNetwork.ssid j hj1]
      exact h.ssid j hj
  · dsimp only at h0 ⊢
    rw [hkept StaNetwork.configured 0 (by decide)]
    refine h.idle ?_
    split at h0
    · cases h0
    · exact h0
  · dsimp only at hpos ⊢
    have hold : 0 < w.networkCount := by
      split at hpos
      · omega
      · exact hpos
    obtain ⟨-, hconf, hssid⟩ := h.active hold
    have hidx : w.activeIdx = 0 := by
      have hlt := (h.active hold).1
      have hle := h.count_le
      by_cases h2 : w.networkCount = 2
      · exact hc h2
      · omega
    rw [hkept StaNetwork.configured _ (by rw [hidx]; decide),
      hkept StaNetwork.ssid _ (by rw [hidx]; decide)]
    refine ⟨?_, hconf, hssid⟩
    rw [hidx]
    exact hpos
  · dsimp only [Wifi.ActiveConfigured] at ha
    rw [if_pos (by omega)] at ha
    exact Nat.lt_one_iff.mp (ha Nat.one_pos).1

/-- As the first network that is given, the backup stands behind a hole. -/
theorem Settled.addBackup_iff (h : Settled w) {ssid : List UInt8} (hs : cString ssid ≠ [])
    (password : List UInt8) :
    (0 < w.networkCount → Settled (wifiManagerSetBackup ssid password w)) ∧
      ((wifiManagerSetBackup ssid password w).ActiveConfigured → 0 < w.networkCount) := by
  have hnet := networkAt_storeNetwork w.networks (i := 1) (by decide) ssid password
  have hcount : (if w.networkCount < 2 then 2 else w.networkCount) = 2 := by
    have hle := h.count_le
    split <;> omega
  unfold wifiManagerSetBackup
  rw [if_neg hs, hcount]
  refine ⟨fun hc => ⟨Nat.le_refl 2, fun j hj => ?_, nofun, fun _ => ?_⟩, fun ha => ?_⟩
  · dsimp only at hj ⊢
    rw [hnet] at hj ⊢
    split
    · exact strncpy_ne_empty hs
    case isFalse hj1 =>
      rw [if_neg hj1] at hj
      exact h.ssid j hj
  · obtain ⟨hlt, hconf, hssid⟩ := h.active hc
    dsimp only
    rw [hnet]
    refine ⟨hlt.trans_le h.count_le, ?_⟩
    split
    · exact ⟨rfl, strncpy_ne_empty hs⟩
    · exact ⟨hconf, hssid⟩
  · by_contra h0
    obtain ⟨hidx, hconf⟩ := h.idle (Nat.eq_zero_of_not_pos h0)
    have hact := (ha Nat.two_pos).2.1
    dsimp only at hact
    rw [hidx, hnet, if_neg (by decide), hconf] at hact
    cases hact

/-- The backup keeps the networks settled exactly when it leaves no hole. -/
theorem Settled.setBackup_iff {m : WifiManager} (h : Settled m.wifi) (ssid password : List UInt8) :
    (LeavesNoHole m (.setBackup ssid password) →
        Settled (wifiManagerSetBackup ssid password m.wifi)) ∧
      ((wifiManagerSetBackup ssid password m.wifi).ActiveConfigured →
        LeavesNoHole m (.setBackup ssid password)) := by
  dsimp only [LeavesNoHole]
  by_cases hs : cString ssid = []
  · rw [if_pos hs]
    exact h.removeBackup_iff hs password
  · rw [if_neg hs]
    exact h.addBackup_iff hs password

/-! ## Runs -/

theorem settled_wifiCall {m : WifiManager} (h : Settled m.wifi) (c : WifiCall) :
    (LeavesNoHole m c → Settled (wifiCall m c).1.wifi) ∧
      ((wifiCall m c).1.wifi.ActiveConfigured → LeavesNoHole m c) := by
  cases c with
  | initStaDual ssid1 pass1 ssid2 pass2 io taskCreated deinit =>
    exact initStaDual_iff ssid1 pass1 ssid2 pass2 m io taskCreated deinit
  | setBackup ssid password => exact h.setBackup_iff ssid password
  | event i =>
    refine ⟨fun _ => ?_, fun _ => trivial⟩
    cases i with
    | rescan io =>
      rw [wifiCall]
      split
      · exact h.wifiStep (.rescan io)
      · exact h
    | staStart => exact h.wifiStep .staStart
    | staDisconnected reason io => exact h.wifiStep (.staDisconnected reason io)
    | staGotIp => exact h.wifiStep .staGotIp
    | retryTask => exact h.wifiStep .retryTask

theorem settled_boot : Settled WifiManager.boot.wifi := by
  refine ⟨by decide, fun j hj => ?_, fun _ => ⟨rfl, ?_⟩, fun hpos => absurd hpos (by decide)⟩
  · have hzero : networkAt WifiManager.boot.wifi.networks j = StaNetwork.zero := networkAt_zero j
    rw [hzero] at hj
    cases hj
  · exact congrArg StaNetwork.configured (networkAt_zero 0)

/-- **The active network is a configured one.** From boot on, in every run of calls and events,
    exactly when every call leaves no hole at the active index. -/
theorem active_configured_iff (cs : List WifiCall) :
    Always wifiCall (fun m => m.wifi.ActiveConfigured) WifiManager.boot cs ↔
      Meets wifiCall LeavesNoHole WifiManager.boot cs := by
  refine always_iff_meets (J := fun m => Settled m.wifi) (G := fun _ _ => True)
    (fun m c hset _ _ hc => (settled_wifiCall hset c).1 hc) (fun m c hset _ _ => ?_) settled_boot
    settled_boot.active (meets_of_forall fun _ _ _ => trivial)
  obtain ⟨hsettled, hhole⟩ := settled_wifiCall hset c
  exact ⟨hhole, fun hc => (hsettled hc).active⟩

/-- With the first network left out and the second one out of sight, the active network is the
    one left out. -/
theorem not_always_active_configured :
    ¬Always wifiCall (fun m => m.wifi.ActiveConfigured) WifiManager.boot
      [.initStaDual [] [] [0x62] [] { records := fun _ => some [] } true false] := by
  rintro ⟨-, hactive⟩
  exact absurd (hactive (by decide)).2.1 (by decide)

end IndoorLogger
