import IndoorLogger.Client.ServerUrl
import IndoorLogger.Lib.Machine

/-
  How a client finds the server. `udp_discovery_task` of the server reads the station's address
  when it starts to listen and answers every search with it until it sees the connection lost;
  the client broadcasts three times and takes the address in the first answer. Whatever answers
  the network delivers, late, twice or out of order, a search that succeeds ends with an address
  that the server was given (`discovery_finds_server`); it is the present one as long as the
  station gets no other address while the task listens (`answers_current_iff`).
-/

namespace IndoorLogger

open Decimal Machine

/-! ## Addresses -/

structure Ip4 where
  b0 : UInt8
  b1 : UInt8
  b2 : UInt8
  b3 : UInt8
  deriving DecidableEq

/-- An address in dotted decimal notation. -/
def Ip4.text (ip : Ip4) : List UInt8 :=
  formatNat ip.b0.toNat ++ ascii "." ++ formatNat ip.b1.toNat ++ ascii "." ++
    formatNat ip.b2.toNat ++ ascii "." ++ formatNat ip.b3.toNat

/-- A byte of an address text. -/
def isIpByte (b : UInt8) : Bool := isDigit b || b = 46

theorem all_ipText (ip : Ip4) : ∀ b ∈ ip.text, isIpByte b = true := by
  have hnum : ∀ n : Nat, ∀ b ∈ formatNat n, isIpByte b = true := fun n b hb => by
    rw [isIpByte, isDigit_formatNat b hb, Bool.true_or]
  have hdot : ∀ b ∈ ascii ".", isIpByte b = true := List.all_eq_true.mp rfl
  intro b hb
  simp only [Ip4.text, List.mem_append] at hb
  rcases hb with (((((hb | hb) | hb) | hb) | hb) | hb) | hb
  · exact hnum _ b hb
  · exact hdot b hb
  · exact hnum _ b hb
  · exact hdot b hb
  · exact hnum _ b hb
  · exact hdot b hb
  · exact hnum _ b hb

theorem notMem_ipText (ip : Ip4) {b : UInt8} (h : isIpByte b = false) : b ∉ ip.text :=
  fun hb => Bool.false_ne_true (h.symm.trans (all_ipText ip b hb))

theorem length_ipText_le (ip : Ip4) : ip.text.length ≤ 15 := by
  have hnum : ∀ b : UInt8, (formatNat b.toNat).length ≤ 3 := by
    intro b
    have := b.toNat_lt
    exact length_formatNat_of_lt (by decide) (by omega)
  have h0 := hnum ip.b0
  have h1 := hnum ip.b1
  have h2 := hnum ip.b2
  have h3 := hnum ip.b3
  have hdot : (ascii ".").length = 1 := rfl
  simp only [Ip4.text, List.length_append, hdot]
  omega

/-- `ip4addr_ntoa_r` into 16 bytes. -/
def ip4addrNtoa (ip : Ip4) : CStr 16 where
  bytes := ip.text
  noNul := notMem_ipText ip (by decide)
  fits := Nat.lt_succ_of_le (length_ipText_le ip)

theorem ip4addrNtoa_ne_empty (ip : Ip4) : ip4addrNtoa ip ≠ CStr.empty := by
  intro h
  have htext : ip.text = [] := CStr.bytes_eq_nil.mpr h
  simp only [Ip4.text, List.append_eq_nil_iff] at htext
  exact formatNat_ne_nil _ htext.2

/-! ## The server's task -/

/-- The station as the WiFi manager has it: `s_connected` and `s_ip_str`. -/
structure Station where
  connected : Bool
  ipStr : CStr 16
  deriving DecidableEq

/-- `wifi_manager_get_ip` into 16 bytes, which keep what they hold if there is no address. -/
def wifiManagerGetIp (w : Station) (ipStr : CStr 16) : CStr 16 :=
  if w.connected && !w.ipStr.isEmpty then CStr.strncpy w.ipStr.bytes else ipStr

/-- Where `udp_discovery_task` is: at the head of its outer loop, about to read the address, at
    the head of its inner loop, or in `recvfrom`. -/
inductive DiscoveryPc where
  | outer
  | reading
  | inner
  | receiving
  deriving DecidableEq

/-- The task and its `server_ip`. -/
structure DiscoveryTask where
  pc : DiscoveryPc
  serverIp : CStr 16
  deriving DecidableEq

/-- What a turn of the task meets: failing calls, or the datagram that `recvfrom` receives,
    nothing on an error. -/
structure TurnIo where
  socketFails : Bool := false
  bindFails : Bool := false
  datagram : List UInt8 := []

/-- The answer to a datagram, received into 63 bytes. -/
def discoveryResponse (serverIp : CStr 16) (datagram : List UInt8) : Option (List UInt8) :=
  if datagram = [] then none
  else
    let buf := cString (datagram.take 63)
    if ascii "AIRMON_DISCOVER" <+: buf then
      some (ascii "AIRMON_RESPONSE " ++ serverIp.bytes ++ [10])
    else none

/-- `udp_discovery_task`, from one wait or test of the connection to the next, and what it
    sends. -/
def udpDiscoveryTask (w : Station) (io : TurnIo) (t : DiscoveryTask) :
    DiscoveryTask × Option (List UInt8) :=
  match t.pc with
  | .outer => ({ t with pc := if w.connected then .reading else .outer }, none)
  | .reading =>
    let serverIp := wifiManagerGetIp w t.serverIp
    if serverIp.isEmpty || io.socketFails || io.bindFails then (⟨.outer, serverIp⟩, none)
    else (⟨.inner, serverIp⟩, none)
  | .inner => ({ t with pc := if w.connected then .receiving else .outer }, none)
  | .receiving => ({ t with pc := .inner }, discoveryResponse t.serverIp io.datagram)

/-- The server in its network. -/
structure ServerNet where
  station : Station
  task : DiscoveryTask
  deriving DecidableEq

/-- The station gets an address or loses the connection, or the task takes a turn. -/
inductive NetEvent where
  | gotIp (ip : Ip4)
  | disconnected
  | turn (io : TurnIo)

/-- One event, and the answer that is sent in it. -/
def netStep (s : ServerNet) : NetEvent → ServerNet × Option (List UInt8)
  | .gotIp ip => ({ s with station := ⟨true, ip4addrNtoa ip⟩ }, none)
  | .disconnected => ({ s with station := { s.station with connected := false } }, none)
  | .turn io =>
    let r := udpDiscoveryTask s.station io s.task
    ({ s with task := r.1 }, r.2)

/-- Before the station is connected. -/
def netStart : ServerNet := ⟨⟨false, CStr.empty⟩, ⟨.outer, CStr.empty⟩⟩

/-- The answers of a run. -/
def answers (es : List NetEvent) : List (List UInt8) :=
  (outputs netStep netStart es).filterMap id

/-! ## Answers -/

/-- The buffer of an answer has 64 bytes. -/
theorem length_discoveryResponse {serverIp : CStr 16} {datagram resp : List UInt8}
    (h : discoveryResponse serverIp datagram = some resp) : resp.length < 64 := by
  have hip := serverIp.fits
  have hlit : (ascii "AIRMON_RESPONSE ").length = 16 := by decide
  unfold discoveryResponse at h
  split at h
  case isTrue => cases h
  case isFalse =>
    dsimp only at h
    split at h
    case isTrue =>
      cases h
      simp only [List.length_append, hlit, List.length_cons, List.length_nil]
      omega
    case isFalse => cases h

/-- The client reads back the address that the server prints. -/
theorem responseIp_discoveryResponse {ip : Ip4} {datagram resp : List UInt8}
    (h : discoveryResponse (ip4addrNtoa ip) datagram = some resp) :
    responseIp resp = some ip.text := by
  have hlen := length_discoveryResponse h
  have hresp : resp = ascii "AIRMON_RESPONSE " ++ ip.text ++ [10] := by
    unfold discoveryResponse at h
    split at h
    case isTrue => cases h
    case isFalse =>
      dsimp only at h
      split at h
      case isTrue => exact (Option.some.inj h).symm
      case isFalse => cases h
  have hnoNul : (0 : UInt8) ∉ resp := by
    rw [hresp, List.mem_append, List.mem_append]
    rintro ((h0 | h0) | h0)
    · exact absurd h0 (by decide)
    · exact notMem_ipText ip (by decide) h0
    · exact absurd h0 (by decide)
  have hline : ∀ b ∈ ip.text, (b != 10) = true := fun b hb => by
    rw [bne_iff_ne]
    rintro rfl
    exact notMem_ipText ip (by decide) hb
  have hreturn : ∀ b ∈ ip.text, (b != 13) = true := fun b hb => by
    rw [bne_iff_ne]
    rintro rfl
    exact notMem_ipText ip (by decide) hb
  have hbuf : cString (resp.take 63) = ascii "AIRMON_RESPONSE " ++ (ip.text ++ [10]) := by
    rw [List.take_of_length_le (by omega), cString_of_noNul hnoNul, hresp, List.append_assoc]
  have hdrop : (ascii "AIRMON_RESPONSE " ++ (ip.text ++ [10])).drop 16 = ip.text ++ [10] := by
    have hlit : (ascii "AIRMON_RESPONSE ").length = 16 := by decide
    rw [← hlit]
    exact List.drop_left
  unfold responseIp
  rw [hbuf, if_pos (List.prefix_append _ _), hdrop]
  dsimp only
  rw [List.takeWhile_append_of_pos hline, List.takeWhile_cons_of_neg (by decide),
    List.append_nil, List.takeWhile_eq_self_iff.mpr hreturn]

/-! ## Where the addresses come from -/

/-- The strings the server holds are addresses of the list, and the task listens with one. -/
structure ServerNet.Knows (ips : List Ip4) (s : ServerNet) : Prop where
  station : s.station.ipStr = CStr.empty ∨ ∃ ip ∈ ips, s.station.ipStr = ip4addrNtoa ip
  task : s.task.serverIp = CStr.empty ∨ ∃ ip ∈ ips, s.task.serverIp = ip4addrNtoa ip
  listens : s.task.pc = .inner ∨ s.task.pc = .receiving → s.task.serverIp ≠ CStr.empty

section

variable {ips : List Ip4} {s : ServerNet}

theorem getIp_eq (w : Station) (ipStr : CStr 16) :
    wifiManagerGetIp w ipStr =
      if w.connected = true ∧ w.ipStr ≠ CStr.empty then w.ipStr else ipStr := by
  unfold wifiManagerGetIp
  simp only [Bool.and_eq_true, Bool.not_eq_true', CStr.isEmpty_eq_false, CStr.strncpy_bytes]

theorem knows_step (h : s.Knows ips) {e : NetEvent} (he : ∀ ip, e = .gotIp ip → ip ∈ ips) :
    (netStep s e).1.Knows ips := by
  cases e with
  | gotIp ip => exact ⟨.inr ⟨ip, he ip rfl, rfl⟩, h.task, h.listens⟩
  | disconnected => exact ⟨h.station, h.task, h.listens⟩
  | turn io =>
    unfold netStep udpDiscoveryTask
    cases hpc : s.task.pc with
    | outer =>
      refine ⟨h.station, h.task, fun hl => ?_⟩
      dsimp only at hl
      split at hl
      · exact absurd hl (by decide)
      · exact absurd hl (by decide)
    | reading =>
      have hip : wifiManagerGetIp s.station s.task.serverIp = CStr.empty ∨
          ∃ ip ∈ ips, wifiManagerGetIp s.station s.task.serverIp = ip4addrNtoa ip := by
        rw [getIp_eq]
        split
        · exact h.station
        · exact h.task
      dsimp only
      split
      case isTrue =>
        refine ⟨h.station, hip, fun hl => ?_⟩
        dsimp only at hl
        exact absurd hl (by decide)
      case isFalse hok =>
        refine ⟨h.station, hip, fun _ hempty => hok ?_⟩
        rw [CStr.isEmpty_iff.mpr hempty]
        rfl
    | inner =>
      exact ⟨h.station, h.task, fun _ => h.listens (.inl hpc)⟩
    | receiving => exact ⟨h.station, h.task, fun _ => h.listens (.inr hpc)⟩

/-- Every answer of a run can be read, and names an address that the station got in it. -/
theorem answers_known (h : s.Knows ips) {es : List NetEvent}
    (hes : ∀ ip, .gotIp ip ∈ es → ip ∈ ips) :
    ∀ resp, some resp ∈ outputs netStep s es → ∃ ip ∈ ips, responseIp resp = some ip.text := by
  induction es generalizing s with
  | nil => nofun
  | cons e es ih =>
    intro resp hresp
    rcases List.mem_cons.mp hresp with hnow | hlater
    · cases e with
      | gotIp ip => cases hnow
      | disconnected => cases hnow
      | turn io =>
        unfold netStep udpDiscoveryTask at hnow
        cases hpc : s.task.pc with
        | outer =>
          rw [hpc] at hnow
          cases hnow
        | reading =>
          rw [hpc] at hnow
          dsimp only at hnow
          split at hnow
          · cases hnow
          · cases hnow
        | inner =>
          rw [hpc] at hnow
          cases hnow
        | receiving =>
          rw [hpc] at hnow
          obtain hempty | ⟨ip, hip, hserver⟩ := h.task
          · exact absurd hempty (h.listens (.inr hpc))
          · dsimp only at hnow
            rw [hserver] at hnow
            exact ⟨ip, hip, responseIp_discoveryResponse hnow.symm⟩
    · exact ih (knows_step h fun ip he => hes ip (he ▸ List.mem_cons_self))
        (fun ip hip => hes ip (List.mem_cons_of_mem _ hip)) resp hlater

end

/-! ## The search -/

/-- What `k` probes on is sent, and an answer to it comes back. -/
def Answered (probe : Nat → ProbeIo) (k : Nat) : Prop :=
  (∀ q ≤ k, (probe q).sendFails = false) ∧ (probe k).datagram ≠ []

theorem responseIp_nil : responseIp [] = none := by decide

/-- An address that is found is that of an answer. -/
theorem probeServer_ok {probe : Nat → ProbeIo} {left p : Nat} {ip : List UInt8}
    (h : probeServer probe left p = .ok ip) : ∃ k, responseIp (probe k).datagram = some ip := by
  induction left generalizing p with
  | zero => cases h
  | succ left ih =>
    rw [probeServer] at h
    split at h
    · cases h
    · split at h
      case h_1 ip' hip =>
        cases h
        exact ⟨p, hip⟩
      case h_2 => exact ih h

theorem answered_succ {probe : Nat → ProbeIo} {k : Nat} :
    Answered probe (k + 1) ↔
      (probe 0).sendFails = false ∧ Answered (fun q => probe (q + 1)) k := by
  constructor
  · rintro ⟨hsent, hdata⟩
    exact ⟨hsent 0 (Nat.zero_le _), fun q hq => hsent (q + 1) (Nat.succ_le_succ hq), hdata⟩
  · rintro ⟨hfirst, hsent, hdata⟩
    refine ⟨fun q hq => ?_, hdata⟩
    cases q with
    | zero => exact hfirst
    | succ q => exact hsent q (Nat.le_of_succ_le_succ hq)

/-- Where every datagram received can be read, the probes find an address exactly when one of
    them is answered. -/
theorem probeServer_ok_iff (probe : Nat → ProbeIo)
    (hread : ∀ k, (probe k).datagram ≠ [] → ∃ ip, responseIp (probe k).datagram = some ip)
    (left p : Nat) :
    (∃ ip, probeServer probe left p = .ok ip) ↔
      ∃ k < left, Answered (fun q => probe (p + q)) k := by
  induction left generalizing p with
  | zero =>
    constructor
    · rintro ⟨ip, h⟩
      cases h
    · rintro ⟨k, hk, -⟩
      exact absurd hk (Nat.not_lt_zero k)
  | succ left ih =>
    have hshift : (fun q => probe (p + (q + 1))) = fun q => probe (p + 1 + q) :=
      funext fun q => by rw [Nat.add_assoc, Nat.add_comm 1]
    have hnext : ∀ k, Answered (fun q => probe (p + q)) (k + 1) ↔
        (probe p).sendFails = false ∧ Answered (fun q => probe (p + 1 + q)) k := by
      intro k
      rw [answered_succ, hshift, Nat.add_zero]
    rw [probeServer]
    cases hsend : (probe p).sendFails with
    | true =>
      rw [if_pos rfl]
      constructor
      · rintro ⟨ip, h⟩
        cases h
      · rintro ⟨k, -, hsent, -⟩
        exact absurd (hsend.symm.trans (hsent 0 (Nat.zero_le k))) (by decide)
    | false =>
      rw [if_neg Bool.false_ne_true]
      by_cases hnone : (probe p).datagram = []
      · rw [hnone, responseIp_nil]
        dsimp only
        rw [ih]
        -- the first probe gets no answer: the others count
        constructor
        · rintro ⟨k, hk, hans⟩
          exact ⟨k + 1, Nat.succ_lt_succ hk, (hnext k).mpr ⟨hsend, hans⟩⟩
        · rintro ⟨k, hk, hans⟩
          cases k with
          | zero => exact absurd hnone hans.2
          | succ k => exact ⟨k, Nat.lt_of_succ_lt_succ hk, ((hnext k).mp hans).2⟩
      · obtain ⟨ip, hip⟩ := hread p hnone
        rw [hip]
        refine iff_of_true ⟨ip, rfl⟩ ⟨0, left.succ_pos, fun q hq => ?_, hnone⟩
        rw [Nat.le_zero.mp hq]
        exact hsend

/-- **A search ends with an address of the server.** Let a client receive only what the server
    sent at some time in a run, in any order and any number of times. The search succeeds exactly
    when one of its three probes is answered, the client then has an address that the station
    got in the run and the upload URL for it, and a search that fails changes nothing. -/
theorem discovery_finds_server {es : List NetEvent} {io : DiscoverIo}
    (hio : ∀ p, (io.probe p).datagram = [] ∨ (io.probe p).datagram ∈ answers es)
    (m : DeviceMemory) :
    let r := wifiSyncDiscoverServer io m
    (r.2 = .ok ↔ io.socketFails = false ∧ ∃ p < 3, Answered io.probe p) ∧
      (r.2 = .ok → ∃ ip, .gotIp ip ∈ es ∧ r.1.ipResolved = true ∧
        r.1.serverIp.toCStr = ip4addrNtoa ip ∧
        r.1.serverUrl.toCStr.bytes = ascii "http://" ++ ip.text ++
          (ascii "/api/upload?id=" ++ m.clientId.toCStr.bytes)) ∧
      (r.2 ≠ .ok → r.1 = m) := by
  intro r
  let ips := es.filterMap fun e => match e with
    | .gotIp ip => some ip
    | _ => none
  have hips : ∀ ip, NetEvent.gotIp ip ∈ es ↔ ip ∈ ips := by
    intro ip
    rw [List.mem_filterMap]
    constructor
    · exact fun h => ⟨_, h, rfl⟩
    · rintro ⟨e, he, hip⟩
      cases e with
      | gotIp ip' => exact Option.some.inj hip ▸ he
      | disconnected => cases hip
      | turn io => cases hip
  have hknown : ∀ p, (io.probe p).datagram ≠ [] →
      ∃ ip ∈ ips, responseIp (io.probe p).datagram = some ip.text := by
    intro p hp
    obtain ⟨o, ho, hresp⟩ := List.mem_filterMap.mp ((hio p).resolve_left hp)
    have hstart : netStart.Knows ips := ⟨.inl rfl, .inl rfl, fun h => h.elim nofun nofun⟩
    exact answers_known hstart (fun ip hip => (hips ip).mp hip) _ (by rwa [← hresp])
  have hiff := probeServer_ok_iff io.probe (fun p hp => by
    obtain ⟨ip, -, hip⟩ := hknown p hp
    exact ⟨ip.text, hip⟩) 3 0
  simp only [Nat.zero_add] at hiff
  unfold r wifiSyncDiscoverServer
  cases hsocket : io.socketFails with
  | true =>
    rw [if_pos rfl]
    exact ⟨⟨nofun, fun h => absurd h.1 (by decide)⟩, nofun, fun _ => rfl⟩
  | false =>
    rw [if_neg Bool.false_ne_true, ← hiff]
    cases hprobe : probeServer io.probe 3 0 with
    | error err =>
      have herr := probeServer_error hprobe
      refine ⟨⟨fun h => absurd h herr, ?_⟩, fun h => absurd h herr, fun _ => rfl⟩
      rintro ⟨-, ip, h⟩
      cases h
    | ok ip =>
      refine ⟨⟨fun _ => ⟨rfl, ip, rfl⟩, fun _ => rfl⟩, fun _ => ?_, fun h => absurd rfl h⟩
      obtain ⟨k, hk⟩ := probeServer_ok hprobe
      have hdata : (io.probe k).datagram ≠ [] := fun h => by
        rw [h, responseIp_nil] at hk
        cases hk
      obtain ⟨addr, haddr, htext⟩ := hknown k hdata
      have hip : ip = addr.text := Option.some.inj (hk.symm.trans htext)
      have hstr : (m.serverIp.strncpy ip).toCStr = ip4addrNtoa addr := by
        rw [CharArray.toCStr_strncpy, hip]
        exact CStr.strncpy_bytes (ip4addrNtoa addr)
      refine ⟨addr, (hips addr).mpr haddr, rfl, hstr, ?_⟩
      have hview := congrArg Device.serverUrl
        (DeviceMemory.view_printUrl
          { m with serverIp := m.serverIp.strncpy ip, ipResolved := true })
      have hurl := hview.trans (congrArg (fun s => Device.uploadUrl s m.clientId.toCStr) hstr)
      exact (congrArg CStr.bytes hurl).trans (Device.uploadUrl_bytes _ _)

/-- The station's first address, a search that reaches the listening task, and its answer. -/
theorem discovery_finds_server_first :
    let es := [NetEvent.gotIp ⟨192, 168, 1, 5⟩, .turn {}, .turn {}, .turn {},
      .turn { datagram := ascii "AIRMON_DISCOVER" }]
    let io : DiscoverIo := { probe := fun p =>
      if p = 1 then { datagram := ascii "AIRMON_RESPONSE 192.168.1.5\n" } else {} }
    let m := DeviceMemory.boot ⟨none, none, none⟩
    let r := wifiSyncDiscoverServer io m
    (r.2 = .ok ↔ io.socketFails = false ∧ ∃ p < 3, Answered io.probe p) ∧
      (r.2 = .ok → ∃ ip, .gotIp ip ∈ es ∧ r.1.ipResolved = true ∧
        r.1.serverIp.toCStr = ip4addrNtoa ip ∧
        r.1.serverUrl.toCStr.bytes = ascii "http://" ++ ip.text ++
          (ascii "/api/upload?id=" ++ m.clientId.toCStr.bytes)) ∧
      (r.2 ≠ .ok → r.1 = m) := by
  intro es io m
  have hanswer : ascii "AIRMON_RESPONSE 192.168.1.5\n" ∈ answers es := by decide +kernel
  have hio : ∀ p, (io.probe p).datagram = [] ∨ (io.probe p).datagram ∈ answers es := by
    intro p
    by_cases hp : p = 1
    · refine .inr ?_
      unfold io
      dsimp only
      rw [if_pos hp]
      exact hanswer
    · refine .inl ?_
      unfold io
      dsimp only
      rw [if_neg hp]
  exact discovery_finds_server hio m

/-! ## The present address -/

/-- The task is in its inner loop. -/
def DiscoveryTask.Listening (t : DiscoveryTask) : Prop := t.pc = .inner ∨ t.pc = .receiving

/-- While the station is connected, the address that searches are answered with is its own. -/
def ServerNet.Current (s : ServerNet) : Prop :=
  s.station.connected = true → s.task.Listening → s.task.serverIp = s.station.ipStr

/-- The station gets an address that the listening task does not answer with. -/
def ServerNet.Readdressed (s : ServerNet) : NetEvent → Prop
  | .gotIp ip => s.task.Listening ∧ s.task.serverIp ≠ ip4addrNtoa ip
  | _ => False

theorem current_turn {s : ServerNet}
    (hip : s.station.connected = true → s.station.ipStr ≠ CStr.empty) (h : s.Current)
    (io : TurnIo) : (netStep s (.turn io)).1.Current := by
  intro hconn hlisten
  have hconn : s.station.connected = true := hconn
  unfold netStep udpDiscoveryTask at hlisten ⊢
  cases hpc : s.task.pc with
  | outer =>
    rw [hpc] at hlisten
    dsimp only at hlisten
    rw [if_pos hconn] at hlisten
    exact hlisten.elim nofun nofun
  | reading =>
    have hread : wifiManagerGetIp s.station s.task.serverIp = s.station.ipStr := by
      rw [getIp_eq, if_pos ⟨hconn, hip hconn⟩]
    dsimp only
    split
    · exact hread
    · exact hread
  | inner => exact h hconn (.inl hpc)
  | receiving => exact h hconn (.inr hpc)

/-- **When searches are answered with the present address.** It is so in every state of a run
    exactly when the station never gets another address while the task listens: the task reads
    its address once, and waits in `recvfrom` while the connection is lost and regained. -/
theorem answers_current_iff (es : List NetEvent) :
    Always netStep ServerNet.Current netStart es ↔
      Meets netStep (fun s e => ¬s.Readdressed e) netStart es := by
  refine always_iff_meets (G := fun _ _ => True)
    (J := fun s => s.station.connected = true → s.station.ipStr ≠ CStr.empty)
    (fun s e hip _ _ _ => ?_) (fun s e hip h _ => ?_) nofun nofun
    (meets_of_forall fun _ _ _ => trivial)
  · cases e with
    | gotIp ip => exact fun _ => ip4addrNtoa_ne_empty ip
    | disconnected => exact nofun
    | turn io => exact hip
  · cases e with
    | gotIp ip =>
      constructor
      · intro hcur hre
        exact hre.2 (hcur rfl hre.1)
      · intro hre _ hlisten
        by_contra hne
        exact hre ⟨hlisten, hne⟩
    | disconnected => exact iff_of_true nofun not_false
    | turn io => exact iff_of_true (current_turn hip h io) not_false

end IndoorLogger
