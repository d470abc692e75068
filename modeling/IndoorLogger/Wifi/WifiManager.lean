import IndoorLogger.Lib.CString

/-
  The station side of `wifi_manager.c`: two networks, the choice between them by a scan, the
  event handler, and the task that reconnects after a delay. Atomic are the handler and each
  step of the task from one blocking call, or one test of the pending flag, to the next.
-/

namespace IndoorLogger

/-! ## State -/

/-- `sta_network_t`. -/
structure StaNetwork where
  ssid : CStr 32
  pass : CStr 64
  configured : Bool
  lastRssi : Int8
  consecutiveFailures : UInt32
  deriving DecidableEq

/-- A zeroed `sta_network_t`. -/
def StaNetwork.zero : StaNetwork := ⟨CStr.empty, CStr.empty, false, 0, 0⟩

/-- The station's part of a `wifi_config_t`. -/
structure StaConfig where
  ssid : CStr 32
  password : CStr 64
  deriving DecidableEq

/-- What is written into a `wifi_config_t` for a network. -/
def StaNetwork.config (n : StaNetwork) : StaConfig := ⟨n.ssid, n.pass⟩

/-- Where the retry task stands: not created, in `ulTaskNotifyTake`, in a wait of one second,
    or behind the loop. -/
inductive RetryTask where
  | absent
  | taking
  | waiting (switched : Bool) (delaySec i : UInt32)
  | waited (switched : Bool)
  deriving DecidableEq

/-- The static variables, the configuration last given to `esp_wifi_set_config`, and the retry
    task with its notification. -/
structure Wifi where
  networks : Vector StaNetwork 2
  activeIdx : Nat
  networkCount : Nat
  connected : Bool
  retryDelaySec : UInt32
  retryPending : Bool
  retryDelayPendingSec : UInt32
  retrySwitchNetwork : Bool
  driver : StaConfig
  task : RetryTask
  notified : Bool
  deriving DecidableEq

/-- `s_networks[i]`. -/
def networkAt (networks : Vector StaNetwork 2) (i : Nat) : StaNetwork :=
  networks[i]?.getD StaNetwork.zero

/-- Write through `s_networks[i]`. -/
def modifyNetwork (networks : Vector StaNetwork 2) (i : Nat) (f : StaNetwork → StaNetwork) :
    Vector StaNetwork 2 :=
  networks.setIfInBounds i (f (networkAt networks i))

/-- The configuration of `s_networks[s_active_idx]`. -/
def Wifi.activeConfig (w : Wifi) : StaConfig := (networkAt w.networks w.activeIdx).config

/-- `apply_active_config`. -/
def applyActiveConfig (w : Wifi) : Wifi :=
  if w.networkCount = 0 then w
  else
    let w := if w.activeIdx ≥ w.networkCount then { w with activeIdx := 0 } else w
    { w with driver := w.activeConfig }

/-! ## Scan -/

/-- The fields of a `wifi_ap_record_t` that are read. -/
structure ApRecord where
  ssid : CStr 33
  rssi : Int8

/-- What a scan yields: whether it starts, and for each network the records that are got, none
    when a call fails or there are none. -/
structure ScanIo where
  startFails : Bool := false
  records : Nat → Option (List ApRecord)

/-- `find_rssi_for_ssid`. -/
def findRssiForSsid (records : Option (List ApRecord)) (ssid : CStr 32) : Int8 :=
  let best := (records.getD []).foldl (fun best ap =>
    if ap.ssid.bytes = ssid.bytes then
      match best with
      | none => some ap.rssi
      | some rssi => if ap.rssi > rssi then some ap.rssi else some rssi
    else best) none
  best.getD 0

/-- The body of the loop of `scan_and_select_best`: the networks, and the best one so far with
    its RSSI. -/
def scanNetwork (records : Nat → Option (List ApRecord))
    (acc : Vector StaNetwork 2 × Option (Nat × Int8)) (i : Nat) :
    Vector StaNetwork 2 × Option (Nat × Int8) :=
  if !(networkAt acc.1 i).configured then acc
  else
    let rssi := findRssiForSsid (records i) (networkAt acc.1 i).ssid
    let networks := modifyNetwork acc.1 i fun n => { n with lastRssi := rssi }
    if rssi ≠ 0 then
      match acc.2 with
      | none => (networks, some (i, rssi))
      | some (j, best) => (networks, if rssi > best then some (i, rssi) else some (j, best))
    else (networks, acc.2)

/-- `scan_and_select_best`. -/
def scanAndSelectBest (io : ScanIo) (w : Wifi) : Wifi × Bool :=
  if w.networkCount = 0 then (w, false)
  else if io.startFails then (w, false)
  else
    let (networks, best) :=
      (List.range w.networkCount).foldl (scanNetwork io.records) (w.networks, none)
    match best with
    | none => ({ w with networks := networks }, false)
    | some (bestIdx, _) =>
      if bestIdx ≠ w.activeIdx then
        ({ w with
            networks := modifyNetwork networks bestIdx fun n => { n with consecutiveFailures := 0 }
            activeIdx := bestIdx }, true)
      else ({ w with networks := networks }, false)

/-! ## Events -/

/-- An update of the failure counter of the active network. -/
def Wifi.setFailures (w : Wifi) (f : UInt32 → UInt32) : Wifi :=
  if w.networkCount > 0 ∧ w.activeIdx < w.networkCount then
    { w with networks := modifyNetwork w.networks w.activeIdx fun n =>
        { n with consecutiveFailures := f n.consecutiveFailures } }
  else w

/-- `WIFI_EVENT_STA_START`. -/
def staStart (w : Wifi) : Wifi := if w.networkCount > 0 then applyActiveConfig w else w

/-- The switch over the reason of a disconnect. -/
def disconnectReason (reason : UInt8) (w : Wifi) : Wifi :=
  if reason = 201 then { w with retryDelaySec := 60 }.setFailures (· + 1)
  else if reason = 2 ∨ reason = 4 ∨ reason = 204 then
    { w with retryDelaySec := 3600 }.setFailures fun _ => 0
  else { w with retryDelaySec := 60 }.setFailures (· + 1)

/-- `FAILOVER_THRESHOLD`. -/
def failoverThreshold : UInt32 := 2

/-- The failover of a disconnect: whether another network was selected. -/
def failover (io : ScanIo) (w : Wifi) : Wifi × Bool :=
  if w.networkCount > 1 ∧
      (networkAt w.networks w.activeIdx).consecutiveFailures ≥ failoverThreshold then
    scanAndSelectBest io { w with networks := modifyNetwork w.networks w.activeIdx fun n =>
      { n with consecutiveFailures := 0 } }
  else (w, false)

/-- The request to the retry task. Without the task the handler reconnects itself. -/
def requestRetry (switched : Bool) (w : Wifi) : Wifi :=
  let w := { w with
    retryDelayPendingSec := if switched then 5 else w.retryDelaySec
    retrySwitchNetwork := switched
    retryPending := true }
  if w.task ≠ .absent then { w with notified := true }
  else if switched then applyActiveConfig w
  else w

/-- `WIFI_EVENT_STA_DISCONNECTED`. -/
def staDisconnected (reason : UInt8) (io : ScanIo) (w : Wifi) : Wifi × Bool :=
  let w := disconnectReason reason { w with connected := false }
  let (w, switched) := failover io w
  (requestRetry switched w, switched)

/-- `IP_EVENT_STA_GOT_IP`. -/
def staGotIp (w : Wifi) : Wifi := { w with connected := true }.setFailures fun _ => 0

/-- `wifi_manager_rescan_and_switch`. -/
def wifiManagerRescanAndSwitch (io : ScanIo) (w : Wifi) : Wifi :=
  if w.networkCount < 2 then w
  else if !w.connected then w
  else
    match scanAndSelectBest io w with
    | (w, true) => applyActiveConfig w
    | (w, false) => w

/-! ## The retry task -/

/-- What the task does in a step, and a disconnect. -/
inductive RetryAct where
  | requested (reason : UInt8) (switched : Bool)
  | blocked
  | served (delaySec : UInt32)
  | second (more : Bool)
  | abandoned
  | connected
  | other
  deriving DecidableEq

/-- `i < delay_sec`. -/
def loopTest (switched : Bool) (delaySec i : UInt32) : RetryTask :=
  if i < delaySec then .waiting switched delaySec i else .waited switched

/-- `wifi_retry_task`, up to where it blocks next or tests the pending flag again. -/
def wifiRetryTask (w : Wifi) : Wifi × RetryAct :=
  match w.task with
  | .absent => (w, .other)
  | .taking =>
    if !w.notified then (w, .blocked)
    else if !w.retryPending then ({ w with notified := false }, .blocked)
    else
      ({ w with
          notified := false
          retryPending := false
          retrySwitchNetwork := false
          retryDelayPendingSec := 0
          task := loopTest w.retrySwitchNetwork w.retryDelayPendingSec 0 },
        .served w.retryDelayPendingSec)
  | .waiting switched delaySec i =>
    -- the loop is left when nothing is pending, and goes on when a newer request is
    if !w.retryPending then ({ w with task := .waited switched }, .second false)
    else ({ w with task := loopTest switched delaySec (i + 1) }, .second (i + 1 < delaySec))
  | .waited switched =>
    if w.retryPending then ({ w with task := .taking }, .abandoned)
    else
      let w := if switched then applyActiveConfig w else w
      ({ w with task := .taking }, .connected)

/-! ## Runs -/

inductive WifiInput where
  | staStart
  | staDisconnected (reason : UInt8) (io : ScanIo)
  | staGotIp
  | rescan (io : ScanIo)
  | retryTask

def wifiStep (w : Wifi) : WifiInput → Wifi × RetryAct
  | .staStart => (staStart w, .other)
  | .staDisconnected reason io =>
    let (w, switched) := staDisconnected reason io w
    (w, .requested reason switched)
  | .staGotIp => (staGotIp w, .other)
  | .rescan io => (wifiManagerRescanAndSwitch io w, .other)
  | .retryTask => wifiRetryTask w

/-! ## Start -/

/-- `store_network`, with an SSID that is not empty. -/
def storeNetwork (networks : Vector StaNetwork 2) (idx : Nat) (ssid pass : List UInt8) :
    Vector StaNetwork 2 :=
  networks.setIfInBounds idx ⟨CStr.strncpy ssid, CStr.strncpy pass, true, 0, 0⟩

/-- The variables of the station at boot. -/
def Wifi.boot : Wifi where
  networks := Vector.replicate 2 StaNetwork.zero
  activeIdx := 0
  networkCount := 0
  connected := false
  retryDelaySec := 60
  retryPending := false
  retryDelayPendingSec := 0
  retrySwitchNetwork := false
  driver := ⟨CStr.empty, CStr.empty⟩
  task := .absent
  notified := false

/-- The station and `s_wifi_inited`. -/
structure WifiManager where
  wifi : Wifi
  inited : Bool
  deriving DecidableEq

def WifiManager.boot : WifiManager := ⟨Wifi.boot, false⟩

/-- `start_retry_task_if_needed`. -/
def startRetryTaskIfNeeded (taskCreated : Bool) (w : Wifi) : Wifi :=
  if w.task = .absent ∧ taskCreated then { w with task := .taking } else w

/-- The start of `wifi_manager_init_sta_dual`: what is reset, and the networks stored. -/
def storeNetworks (ssid1 pass1 ssid2 pass2 : List UInt8) (w : Wifi) : Wifi :=
  let w := { w with
    networks := Vector.replicate 2 StaNetwork.zero
    networkCount := 0
    activeIdx := 0
    connected := false }
  let w := if cString ssid1 ≠ [] then
    { w with networks := storeNetwork w.networks 0 ssid1 pass1, networkCount := 1 } else w
  if cString ssid2 ≠ [] then
    { w with networks := storeNetwork w.networks 1 ssid2 pass2, networkCount := 2 } else w

/-- `wifi_manager_init_sta_dual`, and whether it returns `ESP_OK`. NULL is the empty string;
    `deinit` is the test for `WIFI_STATE_DEINIT`. -/
def wifiManagerInitStaDualAgain (ssid1 pass1 ssid2 pass2 : List UInt8) (io : ScanIo)
    (taskCreated deinit : Bool) (m : WifiManager) : WifiManager × Bool :=
  let w := storeNetworks ssid1 pass1 ssid2 pass2 m.wifi
  if w.networkCount = 0 then ({ m with wifi := w }, false)
  else
    let w := if !m.inited || deinit then startRetryTaskIfNeeded taskCreated w else w
    (⟨applyActiveConfig (scanAndSelectBest io w).1, true⟩, true)

/-- The first `wifi_manager_init_sta_dual` after boot, none when no network is given. -/
def wifiManagerInitStaDual (ssid1 pass1 ssid2 pass2 : List UInt8) (io : ScanIo)
    (taskCreated : Bool) : Option Wifi :=
  let r := wifiManagerInitStaDualAgain ssid1 pass1 ssid2 pass2 io taskCreated false
    WifiManager.boot
  if r.2 then some r.1.wifi else none

/-! ## The backup network -/

/-- `wifi_manager_set_backup`. -/
def wifiManagerSetBackup (ssid password : List UInt8) (w : Wifi) : Wifi :=
  if cString ssid = [] then
    { w with
      networks := modifyNetwork w.networks 1 fun n =>
        { n with configured := false, ssid := CStr.empty, pass := CStr.empty }
      networkCount := if w.networkCount > 1 then 1 else w.networkCount }
  else
    { w with
      networks := storeNetwork w.networks 1 ssid password
      networkCount := if w.networkCount < 2 then 2 else w.networkCount }

/-! ## What each part leaves alone -/

/-- Neither the request nor the task changes. -/
structure KeepsRetry (w w' : Wifi) : Prop where
  networkCount : w'.networkCount = w.networkCount
  pending : w'.retryPending = w.retryPending
  delay : w'.retryDelayPendingSec = w.retryDelayPendingSec
  switchNetwork : w'.retrySwitchNetwork = w.retrySwitchNetwork
  task : w'.task = w.task
  notified : w'.notified = w.notified

theorem KeepsRetry.refl (w : Wifi) : KeepsRetry w w := ⟨rfl, rfl, rfl, rfl, rfl, rfl⟩

theorem KeepsRetry.trans {w w' w'' : Wifi} (h : KeepsRetry w w') (h' : KeepsRetry w' w'') :
    KeepsRetry w w'' where
  networkCount := h'.networkCount.trans h.networkCount
  pending := h'.pending.trans h.pending
  delay := h'.delay.trans h.delay
  switchNetwork := h'.switchNetwork.trans h.switchNetwork
  task := h'.task.trans h.task
  notified := h'.notified.trans h.notified

theorem keepsRetry_applyActiveConfig (w : Wifi) : KeepsRetry w (applyActiveConfig w) := by
  unfold applyActiveConfig
  dsimp only
  split
  · exact .refl w
  · split <;> exact ⟨rfl, rfl, rfl, rfl, rfl, rfl⟩

/-- The driver has the active network's configuration once it is applied. -/
theorem driver_applyActiveConfig {w : Wifi} (h : 0 < w.networkCount) :
    (applyActiveConfig w).driver = (applyActiveConfig w).activeConfig := by
  unfold applyActiveConfig
  rw [if_neg h.ne']
  rfl

theorem keepsRetry_setFailures (w : Wifi) (f : UInt32 → UInt32) :
    KeepsRetry w (w.setFailures f) := by
  unfold Wifi.setFailures
  split
  · exact ⟨rfl, rfl, rfl, rfl, rfl, rfl⟩
  · exact .refl w

/-- What an update of one network leaves alone in every network. -/
theorem networkAt_modifyNetwork {α : Type} {g : StaNetwork → α} {f : StaNetwork → StaNetwork}
    (hf : ∀ n, g (f n) = g n) (networks : Vector StaNetwork 2) (i j : Nat) :
    g (networkAt (modifyNetwork networks i f) j) = g (networkAt networks j) := by
  unfold networkAt modifyNetwork
  rw [Vector.getElem?_setIfInBounds]
  split
  case isTrue h =>
    subst h
    split
    case isTrue hi =>
      rw [Option.getD_some, hf, networkAt]
    case isFalse hi =>
      rw [Vector.getElem?_eq_none (Nat.not_lt.mp hi)]
  case isFalse => rfl

theorem networkAt_modifyNetwork_ne (networks : Vector StaNetwork 2) {i j : Nat} (hij : i ≠ j)
    (f : StaNetwork → StaNetwork) :
    networkAt (modifyNetwork networks i f) j = networkAt networks j := by
  unfold networkAt modifyNetwork
  rw [Vector.getElem?_setIfInBounds, if_neg hij]

theorem networkAt_modifyNetwork_self (networks : Vector StaNetwork 2) {i : Nat} (hi : i < 2)
    (f : StaNetwork → StaNetwork) :
    networkAt (modifyNetwork networks i f) i = f (networkAt networks i) := by
  unfold networkAt modifyNetwork
  rw [Vector.getElem?_setIfInBounds, if_pos rfl, if_pos hi]
  rfl

/-- The counters are not part of a configuration. -/
theorem driver_setFailures (w : Wifi) (f : UInt32 → UInt32) :
    (w.setFailures f).driver = w.driver ∧ (w.setFailures f).activeConfig = w.activeConfig := by
  have hcount : ∀ n : StaNetwork,
      ({ n with consecutiveFailures := f n.consecutiveFailures } : StaNetwork).config = n.config :=
    fun _ => rfl
  unfold Wifi.setFailures
  split
  · exact ⟨rfl, networkAt_modifyNetwork hcount w.networks w.activeIdx w.activeIdx⟩
  · exact ⟨rfl, rfl⟩

/-- A scan writes no configuration. -/
theorem networkAt_scanNetworks (records : Nat → Option (List ApRecord)) (is : List Nat)
    (acc : Vector StaNetwork 2 × Option (Nat × Int8)) (j : Nat) :
    (networkAt (is.foldl (scanNetwork records) acc).1 j).config = (networkAt acc.1 j).config := by
  induction is generalizing acc with
  | nil => rfl
  | cons i is ih =>
    have hstep : (networkAt (scanNetwork records acc i).1 j).config =
        (networkAt acc.1 j).config := by
      have hmodify : ∀ rssi : Int8, (networkAt (modifyNetwork acc.1 i fun n =>
          { n with lastRssi := rssi }) j).config = (networkAt acc.1 j).config := by
        intro rssi
        have hrssi : ∀ n : StaNetwork,
            ({ n with lastRssi := rssi } : StaNetwork).config = n.config := fun _ => rfl
        exact networkAt_modifyNetwork hrssi acc.1 i j
      unfold scanNetwork
      split
      · rfl
      · dsimp only
        split
        · split <;> exact hmodify _
        · exact hmodify _
    rw [List.foldl_cons, ih, hstep]

/-- A scan selects another network, or leaves all configurations as they are. -/
theorem scanAndSelectBest_keeps (io : ScanIo) (w : Wifi) :
    KeepsRetry w (scanAndSelectBest io w).1 ∧
      (scanAndSelectBest io w).1.retryDelaySec = w.retryDelaySec ∧
      (scanAndSelectBest io w).1.driver = w.driver ∧
      ((scanAndSelectBest io w).2 = false →
        (scanAndSelectBest io w).1.activeConfig = w.activeConfig) := by
  unfold scanAndSelectBest
  split
  · exact ⟨.refl w, rfl, rfl, fun _ => rfl⟩
  · split
    · exact ⟨.refl w, rfl, rfl, fun _ => rfl⟩
    · have hconfig := networkAt_scanNetworks io.records (List.range w.networkCount)
        (w.networks, none) w.activeIdx
      dsimp only
      split
      · exact ⟨⟨rfl, rfl, rfl, rfl, rfl, rfl⟩, rfl, rfl, fun _ => hconfig⟩
      · split
        · exact ⟨⟨rfl, rfl, rfl, rfl, rfl, rfl⟩, rfl, rfl, fun h => nomatch h⟩
        · exact ⟨⟨rfl, rfl, rfl, rfl, rfl, rfl⟩, rfl, rfl, fun _ => hconfig⟩

/-- What a disconnect asks for: five seconds after a switch, an hour when the network refuses
    the password, a minute otherwise. -/
def requestedDelay (reason : UInt8) (switched : Bool) : UInt32 :=
  if switched then 5 else if reason = 2 ∨ reason = 4 ∨ reason = 204 then 3600 else 60

theorem disconnectReason_keeps (reason : UInt8) (w : Wifi) :
    KeepsRetry w (disconnectReason reason w) ∧
      (disconnectReason reason w).retryDelaySec = requestedDelay reason false ∧
      (disconnectReason reason w).driver = w.driver ∧
      (disconnectReason reason w).activeConfig = w.activeConfig := by
  have hset : ∀ (d : UInt32) (f : UInt32 → UInt32),
      KeepsRetry w ({ w with retryDelaySec := d }.setFailures f) ∧
        ({ w with retryDelaySec := d }.setFailures f).retryDelaySec = d ∧
        ({ w with retryDelaySec := d }.setFailures f).driver = w.driver ∧
        ({ w with retryDelaySec := d }.setFailures f).activeConfig = w.activeConfig := by
    intro d f
    have hdelay : KeepsRetry w { w with retryDelaySec := d } := ⟨rfl, rfl, rfl, rfl, rfl, rfl⟩
    have hkeeps := hdelay.trans (keepsRetry_setFailures { w with retryDelaySec := d } f)
    obtain ⟨hdriver, hactive⟩ := driver_setFailures { w with retryDelaySec := d } f
    refine ⟨hkeeps, ?_, hdriver, hactive⟩
    unfold Wifi.setFailures
    split <;> rfl
  unfold disconnectReason requestedDelay
  rw [if_neg Bool.false_ne_true]
  by_cases h201 : reason = 201
  · rw [if_pos h201, if_neg (by rw [h201]; decide)]
    exact hset _ _
  · rw [if_neg h201]
    split
    · exact hset _ _
    · exact hset _ _

theorem failover_keeps (io : ScanIo) (w : Wifi) :
    KeepsRetry w (failover io w).1 ∧ (failover io w).1.retryDelaySec = w.retryDelaySec ∧
      (failover io w).1.driver = w.driver ∧
      ((failover io w).2 = false → (failover io w).1.activeConfig = w.activeConfig) := by
  unfold failover
  split
  · obtain ⟨hkeeps, hdelay, hdriver, hactive⟩ := scanAndSelectBest_keeps io
      { w with networks := modifyNetwork w.networks w.activeIdx fun n =>
        { n with consecutiveFailures := 0 } }
    have hcount : ∀ n : StaNetwork,
        ({ n with consecutiveFailures := 0 } : StaNetwork).config = n.config := fun _ => rfl
    have hclear : KeepsRetry w { w with networks := modifyNetwork w.networks w.activeIdx fun n =>
        { n with consecutiveFailures := 0 } } := ⟨rfl, rfl, rfl, rfl, rfl, rfl⟩
    refine ⟨hclear.trans hkeeps, hdelay, hdriver, fun h => (hactive h).trans ?_⟩
    exact networkAt_modifyNetwork hcount w.networks w.activeIdx w.activeIdx
  · exact ⟨.refl w, rfl, rfl, fun _ => rfl⟩

/-- A disconnect leaves a request, and wakes the task or applies a switch itself. -/
theorem staDisconnected_eq (reason : UInt8) (io : ScanIo) (w : Wifi) :
    ∃ w', KeepsRetry w w' ∧ w'.driver = w.driver ∧
      ((staDisconnected reason io w).2 = false → w'.activeConfig = w.activeConfig) ∧
      (staDisconnected reason io w).1 = requestRetry (staDisconnected reason io w).2 w' ∧
      w'.retryDelaySec = requestedDelay reason false := by
  obtain ⟨hk, hdelay, hdriver, hactive⟩ :=
    disconnectReason_keeps reason { w with connected := false }
  obtain ⟨hk', hdelay', hdriver', hactive'⟩ :=
    failover_keeps io (disconnectReason reason { w with connected := false })
  have hlost : KeepsRetry w { w with connected := false } := ⟨rfl, rfl, rfl, rfl, rfl, rfl⟩
  exact ⟨_, hlost.trans (hk.trans hk'), hdriver'.trans hdriver,
    fun h => (hactive' h).trans hactive, rfl, hdelay'.trans hdelay⟩

/-- The request of a disconnect. -/
theorem requestRetry_fields (switched : Bool) (w : Wifi) :
    (requestRetry switched w).retryPending = true ∧
      (requestRetry switched w).retrySwitchNetwork = switched ∧
      (requestRetry switched w).retryDelayPendingSec = (if switched then 5 else w.retryDelaySec) ∧
      (requestRetry switched w).task = w.task ∧
      (requestRetry switched w).networkCount = w.networkCount ∧
      (w.task ≠ .absent → (requestRetry switched w).notified = true) := by
  unfold requestRetry
  cases switched with
  | false =>
    dsimp only
    split
    · exact ⟨rfl, rfl, rfl, rfl, rfl, fun _ => rfl⟩
    case isFalse h => exact ⟨rfl, rfl, rfl, rfl, rfl, fun hn => absurd hn h⟩
  | true =>
    dsimp only
    split
    · exact ⟨rfl, rfl, rfl, rfl, rfl, fun _ => rfl⟩
    case isFalse h =>
      have hk := keepsRetry_applyActiveConfig
        { w with retryDelayPendingSec := 5, retrySwitchNetwork := true, retryPending := true }
      exact ⟨hk.pending, hk.switchNetwork, hk.delay, hk.task, hk.networkCount,
        fun hn => absurd hn h⟩

theorem keepsRetry_staGotIp (w : Wifi) : KeepsRetry w (staGotIp w) := by
  have hset : KeepsRetry w { w with connected := true } := ⟨rfl, rfl, rfl, rfl, rfl, rfl⟩
  exact hset.trans (keepsRetry_setFailures { w with connected := true } fun _ => 0)

theorem keepsRetry_staStart (w : Wifi) : KeepsRetry w (staStart w) := by
  unfold staStart
  split
  · exact keepsRetry_applyActiveConfig w
  · exact .refl w

theorem keepsRetry_rescan (io : ScanIo) (w : Wifi) :
    KeepsRetry w (wifiManagerRescanAndSwitch io w) := by
  have hscan := (scanAndSelectBest_keeps io w).1
  unfold wifiManagerRescanAndSwitch
  split
  · exact .refl w
  · split
    · exact .refl w
    · split
      case h_1 heq =>
        rw [heq] at hscan
        exact hscan.trans (keepsRetry_applyActiveConfig _)
      case h_2 heq =>
        rw [heq] at hscan
        exact hscan

/-- The manager as it starts: no request, and the driver has the active network's
    configuration. -/
structure WifiStart (w : Wifi) : Prop where
  networkCount : 0 < w.networkCount
  pending : w.retryPending = false
  task : w.task = .taking ∨ w.task = .absent
  driver : w.driver = w.activeConfig

theorem startRetryTask_networkCount (taskCreated : Bool) (w : Wifi) :
    (startRetryTaskIfNeeded taskCreated w).networkCount = w.networkCount := by
  unfold startRetryTaskIfNeeded
  split
  · rfl
  · rfl

/-- What is stored at boot has no request yet. -/
theorem stored_retry (ssid1 pass1 ssid2 pass2 : List UInt8) (taskCreated : Bool) :
    let stored := startRetryTaskIfNeeded taskCreated
      (storeNetworks ssid1 pass1 ssid2 pass2 Wifi.boot)
    stored.task = (if taskCreated then .taking else .absent) ∧ stored.retryPending = false ∧
      stored.retryDelayPendingSec = 0 := by
  have hnetworks : ∃ networks count, storeNetworks ssid1 pass1 ssid2 pass2 Wifi.boot =
      { Wifi.boot with networks := networks, networkCount := count } := by
    unfold storeNetworks
    dsimp only
    split
    · split
      · exact ⟨_, _, rfl⟩
      · exact ⟨_, _, rfl⟩
    · split
      · exact ⟨_, _, rfl⟩
      · exact ⟨_, _, rfl⟩
  obtain ⟨networks, count, heq⟩ := hnetworks
  dsimp only
  rw [heq]
  cases taskCreated with
  | true => exact ⟨rfl, rfl, rfl⟩
  | false => exact ⟨rfl, rfl, rfl⟩

/-- The networks are stored and the task is created before one of them is chosen. -/
theorem wifiManagerInitStaDual_eq_some {ssid1 pass1 ssid2 pass2 : List UInt8} {io : ScanIo}
    {taskCreated : Bool} {w : Wifi}
    (h : wifiManagerInitStaDual ssid1 pass1 ssid2 pass2 io taskCreated = some w) :
    let stored := startRetryTaskIfNeeded taskCreated
      (storeNetworks ssid1 pass1 ssid2 pass2 Wifi.boot)
    0 < stored.networkCount ∧ w = applyActiveConfig (scanAndSelectBest io stored).1 := by
  intro stored
  unfold wifiManagerInitStaDual wifiManagerInitStaDualAgain at h
  dsimp only [WifiManager.boot] at h
  by_cases hcount : (storeNetworks ssid1 pass1 ssid2 pass2 Wifi.boot).networkCount = 0
  · rw [if_pos hcount] at h
    cases h
  · rw [if_neg hcount] at h
    refine ⟨?_, (Option.some.inj h).symm⟩
    rw [startRetryTask_networkCount]
    exact Nat.pos_of_ne_zero hcount

theorem wifiManagerInitStaDual_start {ssid1 pass1 ssid2 pass2 : List UInt8} {io : ScanIo}
    {taskCreated : Bool} {w : Wifi}
    (h : wifiManagerInitStaDual ssid1 pass1 ssid2 pass2 io taskCreated = some w) :
    WifiStart w := by
  obtain ⟨hcount, rfl⟩ := wifiManagerInitStaDual_eq_some h
  obtain ⟨htask, hpending, -⟩ := stored_retry ssid1 pass1 ssid2 pass2 taskCreated
  generalize startRetryTaskIfNeeded taskCreated
    (storeNetworks ssid1 pass1 ssid2 pass2 Wifi.boot) = stored at hcount htask hpending
  have hscan := (scanAndSelectBest_keeps io stored).1
  have hk := hscan.trans (keepsRetry_applyActiveConfig _)
  refine ⟨?_, hk.pending.trans hpending, ?_, driver_applyActiveConfig ?_⟩
  · rw [hk.networkCount]
    exact hcount
  · rw [hk.task, htask]
    cases taskCreated with
    | true => exact .inl rfl
    | false => exact .inr rfl
  · rw [hscan.networkCount]
    exact hcount

/-! ## The steps of the task -/

section

variable {w : Wifi} {switched : Bool} {delaySec i : UInt32}

theorem wifiRetryTask_absent (h : w.task = .absent) : wifiRetryTask w = (w, .other) := by
  unfold wifiRetryTask
  rw [h]

/-- A request is taken up, or the task blocks. -/
theorem wifiRetryTask_taking (h : w.task = .taking) :
    wifiRetryTask w =
      if w.notified = true ∧ w.retryPending = true then
        ({ w with
            notified := false
            retryPending := false
            retrySwitchNetwork := false
            retryDelayPendingSec := 0
            task := loopTest w.retrySwitchNetwork w.retryDelayPendingSec 0 },
          .served w.retryDelayPendingSec)
      else ({ w with notified := false }, .blocked) := by
  obtain ⟨_, _, _, _, _, pending, _, _, _, task, notified⟩ := w
  obtain rfl : task = .taking := h
  cases pending <;> cases notified <;> rfl

theorem wifiRetryTask_waiting (h : w.task = .waiting switched delaySec i) :
    wifiRetryTask w =
      if w.retryPending then
        ({ w with task := loopTest switched delaySec (i + 1) }, .second (i + 1 < delaySec))
      else ({ w with task := .waited switched }, .second false) := by
  unfold wifiRetryTask
  rw [h]
  dsimp only
  cases w.retryPending <;> rfl

theorem wifiRetryTask_waited (h : w.task = .waited switched) :
    wifiRetryTask w =
      if w.retryPending then ({ w with task := .taking }, .abandoned)
      else
        ({ (if switched then applyActiveConfig w else w) with task := .taking }, .connected) := by
  unfold wifiRetryTask
  rw [h]

end

/-! ## What keeps the networks -/

/-- Neither the networks nor the selection change. -/
structure KeepsNetworks (w w' : Wifi) : Prop where
  networkCount : w'.networkCount = w.networkCount
  activeIdx : w'.activeIdx = w.activeIdx
  networks : w'.networks = w.networks

theorem KeepsNetworks.refl (w : Wifi) : KeepsNetworks w w := ⟨rfl, rfl, rfl⟩

section

variable {w : Wifi}

theorem keepsNetworks_applyActiveConfig (h : 0 < w.networkCount → w.activeIdx < w.networkCount) :
    KeepsNetworks w (applyActiveConfig w) := by
  unfold applyActiveConfig
  split
  · exact .refl w
  case isFalse h0 =>
    rw [if_neg (Nat.not_le.mpr (h (Nat.pos_of_ne_zero h0)))]
    exact ⟨rfl, rfl, rfl⟩

theorem keepsNetworks_staStart (h : 0 < w.networkCount → w.activeIdx < w.networkCount) :
    KeepsNetworks w (staStart w) := by
  unfold staStart
  split
  · exact keepsNetworks_applyActiveConfig h
  · exact .refl w

theorem keepsNetworks_requestRetry (h : 0 < w.networkCount → w.activeIdx < w.networkCount)
    (switched : Bool) : KeepsNetworks w (requestRetry switched w) := by
  unfold requestRetry
  dsimp only
  split
  · exact ⟨rfl, rfl, rfl⟩
  · split
    · have happly := keepsNetworks_applyActiveConfig (w := { w with
        retryDelayPendingSec := 5
        retrySwitchNetwork := switched
        retryPending := true }) h
      exact ⟨happly.networkCount, happly.activeIdx, happly.networks⟩
    · exact ⟨rfl, rfl, rfl⟩

theorem keepsNetworks_wifiRetryTask (h : 0 < w.networkCount → w.activeIdx < w.networkCount) :
    KeepsNetworks w (wifiRetryTask w).1 := by
  cases ht : w.task with
  | absent =>
    rw [wifiRetryTask_absent ht]
    exact .refl w
  | taking =>
    rw [wifiRetryTask_taking ht]
    split <;> exact ⟨rfl, rfl, rfl⟩
  | waiting switched delaySec i =>
    rw [wifiRetryTask_waiting ht]
    split <;> exact ⟨rfl, rfl, rfl⟩
  | waited switched =>
    rw [wifiRetryTask_waited ht]
    split
    · exact ⟨rfl, rfl, rfl⟩
    · cases switched with
      | true =>
        have happly := keepsNetworks_applyActiveConfig h
        exact ⟨happly.networkCount, happly.activeIdx, happly.networks⟩
      | false => exact ⟨rfl, rfl, rfl⟩

end

theorem keepsNetworks_startTask (start taskCreated : Bool) (w : Wifi) :
    KeepsNetworks w (if start then startRetryTaskIfNeeded taskCreated w else w) := by
  unfold startRetryTaskIfNeeded
  split
  · split
    · exact ⟨rfl, rfl, rfl⟩
    · exact .refl w
  · exact .refl w

end IndoorLogger
