import IndoorLogger.Lib.Heartbeat
import IndoorLogger.Server.ClientFile
import IndoorLogger.Server.Responses

/-
  Which clients count as online. The server hears a client when it uploads, is named or is
  registered; the main loop checks all of them for how long that is ago. Whatever requests come
  in between, in whatever way their file and NVS calls fail, the flag of each client is the
  verdict of the last check (`online_iff_recently_seen`), and /api/health counts those flags.
-/

namespace IndoorLogger

open Decimal Heartbeat Machine

/-! ## health_get_handler -/

/-- The online clients `health_get_handler` counts, none when it cannot copy the registry. -/
def healthOnline (mallocFails : Bool) (reg : Registry) : Nat :=
  if mallocFails then 0
  else (clientRegistryGetAll reg clientRegistryMaxClients).countP ClientInfo.online

def healthText (uptime freeHeap : Int) (online : Nat) : List UInt8 :=
  ascii "\x7b\"status\":\"ok\",\"uptime\":" ++ formatInt uptime ++
    ascii ",\"free_heap\":" ++ formatInt freeHeap ++
    ascii ",\"clients_online\":" ++ formatNat online ++ ascii "\x7d"

/-- `health_get_handler`. -/
def healthGetHandler (mallocFails : Bool) (uptime freeHeap : Int) (reg : Registry) : Response :=
  .json 256 (healthText uptime freeHeap (healthOnline mallocFails reg))

/-! ## The clock of a run -/

/-- The time of a stale check. -/
def Request.checkTime : Request → Option UInt32
  | .checkStale now _ => some now
  | _ => none

/-- The last time that `f` finds in a run, `t` when there is none. -/
def latest (f : Request → Option UInt32) (t : UInt32) (rs : List Request) : UInt32 :=
  rs.foldl (fun t r => (f r).getD t) t

/-- The clock does not go back in the run. -/
def Clocked (cJSONParse : List UInt8 → Option Json) (rs : List Request) : Prop :=
  (rs.filterMap (Request.stamp cJSONParse)).Pairwise (· ≤ ·)

instance (cJSONParse : List UInt8 → Option Json) (rs : List Request) :
    Decidable (Clocked cJSONParse rs) :=
  inferInstanceAs (Decidable (List.Pairwise _ _))

/-! ## One entry -/

/-- What the monitor knows of a client. -/
def ClientInfo.peer (c : ClientInfo) : Peer := ⟨c.lastSeen.toNat, c.online⟩

/-- A check of the main loop is a check of the monitor. -/
theorem peer_markStale {now : UInt32} (timeoutSec : UInt32) {c : ClientInfo}
    (h : c.online = true → c.lastSeen ≤ now) :
    (c.markStale now timeoutSec).peer = c.peer.check timeoutSec.toNat now.toNat := by
  rw [ClientInfo.markStale, Peer.check]
  cases hon : c.online with
  | false =>
    have hpeer : c.peer.online = false := hon
    rw [hpeer, Bool.false_and, Bool.false_and, if_neg Bool.false_ne_true,
      if_neg Bool.false_ne_true]
  | true =>
    have hpeer : c.peer.online = true := hon
    have hsub : (now - c.lastSeen).toNat = now.toNat - c.peer.last :=
      UInt32.toNat_sub_of_le _ _ (h hon)
    have hlate : (now - c.lastSeen > timeoutSec) ↔
        timeoutSec.toNat < now.toNat - c.peer.last := by
      rw [← hsub]
      exact UInt32.lt_iff_toNat_lt
    rw [hpeer, Bool.true_and, Bool.true_and]
    by_cases hgt : now - c.lastSeen > timeoutSec
    · rw [if_pos (decide_eq_true hgt), if_pos (decide_eq_true (hlate.mp hgt))]
      rfl
    · rw [if_neg (mt of_decide_eq_true hgt),
        if_neg (mt of_decide_eq_true (mt hlate.mpr hgt))]

/-! ## All entries -/

/-- What the monitor knows of every client satisfies `P`. -/
def Registry.Each (P : Peer → Prop) (reg : Registry) : Prop :=
  ∀ i < reg.clientCount, P (reg.client i).peer

theorem client_setClient_ne (reg : Registry) {i k : Nat} (hk : i ≠ k)
    (f : ClientInfo → ClientInfo) : (reg.setClient i f).client k = reg.client k := by
  unfold Registry.client
  rw [Registry.setClient, Vector.getElem?_setIfInBounds_ne hk]

namespace Registry.Each

variable {P : Peer → Prop} {reg : Registry}

theorem congr {reg' : Registry} (h : reg.Each P) (hclients : reg'.clients = reg.clients)
    (hcount : reg'.clientCount = reg.clientCount) : reg'.Each P := by
  unfold Each Registry.client
  rw [hclients, hcount]
  exact h

theorem setClient (h : reg.Each P) (hin : reg.InRange) (i : Nat) {f : ClientInfo → ClientInfo}
    (hf : ∀ c : ClientInfo, P c.peer → P (f c).peer) : (reg.setClient i f).Each P := by
  intro k hk
  by_cases hik : i = k
  · subst hik
    rw [client_setClient reg (Nat.lt_of_lt_of_le hk hin.clientCount)]
    exact hf _ (h i hk)
  · rw [client_setClient_ne reg hik]
    exact h k hk

theorem removeClient (h : reg.Each P) (hin : reg.InRange) (i : Nat) :
    (reg.removeClient i).Each P := by
  intro k hk
  have hlt : k < reg.clientCount - 1 := hk
  unfold Registry.client
  rw [Registry.removeClient]
  rcases SlotArray.remove_getElem?_cases reg.clients ClientInfo.zero i hin.clientCount hlt
    with hslot | hslot
  · rw [hslot]
    exact h k (by omega)
  · rw [hslot]
    exact h (k + 1) (by omega)

theorem clearIdMapping (h : reg.Each P) (id : Id) :
    (clientRegistryClearIdMapping reg id).Each P := by
  unfold clientRegistryClearIdMapping
  split
  · exact h
  · split
    · exact h
    · exact h.congr rfl rfl

theorem dedupStep (h : reg.Each P) (hin : reg.InRange) (io : RenameIo) (fs : Fs) (id : Id)
    (ip : Option (List UInt8)) : (dedupStep io reg fs id ip).1.Each P := by
  unfold IndoorLogger.dedupStep
  split
  case h_1 i _ _ =>
    have hclear := hin.clearIdMapping (reg.client i).id
    rw [migrate]
    dsimp only
    have hset := (h.clearIdMapping (reg.client i).id).setClient hclear i
      (f := fun c => { c with id := CStr.empty, ipStr := CStr.empty }) fun _ hc => hc
    refine removeClient (hset.congr rfl rfl) ?_ i
    exact ⟨hclear.clientCount, hclear.idMappingCount⟩
  case h_2 => exact h

theorem enrollStep (h : reg.Each P) (hin : reg.InRange) {now : UInt32}
    (hheard : P (heard now.toNat)) (id : Id) (name ip : Option (List UInt8))
    (overwriteName : Bool) : (enrollStep now reg id name ip overwriteName).1.Each P := by
  unfold IndoorLogger.enrollStep
  split
  · exact h.setClient hin _ fun _ _ => hheard
  · split
    · exact h
    · rename_i hroom
      have hlt : reg.clientCount < 16 := Nat.lt_of_not_le hroom
      intro k hk
      by_cases hnew : reg.clientCount = k
      · subst hnew
        rw [client_setClient _ hlt]
        exact hheard
      · -- the slots in use before
        rw [client_setClient_ne _ hnew]
        have hold := h k (Nat.lt_of_le_of_ne (Nat.lt_succ_iff.mp hk) (Ne.symm hnew))
        have hkeep := client_setClient_ne { reg with clientCount := reg.clientCount + 1 } hnew
          fun c => { c with id := id }
        exact hkeep ▸ hold

theorem update (h : reg.Each P) (hin : reg.InRange) (io : RenameIo) {now : UInt32}
    (hheard : P (heard now.toNat)) (fs : Fs) (id : Id) (name ip : Option (List UInt8))
    (overwriteName : Bool) :
    (clientRegistryUpdate io now reg fs id name ip overwriteName).1.1.Each P :=
  (h.dedupStep hin io fs id ip).enrollStep (hin.dedupStep io fs id ip) hheard id name ip
    overwriteName

theorem delete (h : reg.Each P) (hin : reg.InRange) (io : SaveIo) (nvs : Nvs) (id : Id) :
    (clientRegistryDelete io reg nvs id).1.1.Each P := by
  unfold clientRegistryDelete
  split
  · exact h
  · split
    · exact h
    · exact h.removeClient hin _

theorem setBasicMode (h : reg.Each P) (id : Id) (value : Bool) :
    (clientRegistrySetBasicMode reg id value).1.Each P := by
  unfold clientRegistrySetBasicMode
  split
  · exact h.congr rfl rfl
  · exact h

theorem putMapping (h : reg.Each P) {oldId newId : Id} {reg' : Registry}
    (hp : putMapping reg oldId newId = some reg') : reg'.Each P := by
  unfold IndoorLogger.putMapping at hp
  split at hp
  · cases hp
    exact h.congr rfl rfl
  · split at hp
    · cases hp
    · cases hp
      exact h.congr rfl rfl

theorem renameId (h : reg.Each P) (hin : reg.InRange) (oldId newId : Id) :
    (clientRegistryRenameId reg oldId newId).1.Each P := by
  unfold clientRegistryRenameId
  split
  · exact h
  · split
    · exact h
    · split
      · exact h
      · split
        · exact h
        · split
          · exact h
          · rename_i hp
            exact (h.putMapping hp).setClient (hin.putMapping hp) _ fun _ hc => hc

theorem checkStale {Q : Peer → Prop} (h : reg.Each P) (hin : reg.InRange)
    {now timeoutSec : UInt32}
    (hcheck : ∀ c : ClientInfo, P c.peer → Q (c.markStale now timeoutSec).peer) :
    (clientRegistryCheckStale now timeoutSec reg).Each Q := by
  intro k hk
  have hlt : k < reg.clientCount := hk
  have hbound : k < 16 := Nat.lt_of_lt_of_le hlt hin.clientCount
  have hslot : reg.clients[k]? = some reg.clients[k] := Vector.getElem?_eq_getElem hbound
  have hold : P (reg.clients[k]?.getD ClientInfo.zero).peer := h k hlt
  unfold Registry.client clientRegistryCheckStale
  rw [SlotArray.forEach_getElem?, if_pos hlt, hslot]
  rw [hslot] at hold
  exact hcheck _ hold

end Registry.Each

section

variable {cJSONParse : List UInt8 → Option Json} {g : UInt32} {s : ServerState}

/-- A request that is no check leaves what is known of a client, or it hears one. -/
theorem serverStep_each {P : Peer → Prop} (h : s.reg.Each P) (hin : s.reg.InRange) {r : Request}
    (hcheck : r.checkTime = none) (hheard : ∀ t, r.stamp cJSONParse = some t → P (heard t.toNat)) :
    (serverStep cJSONParse g s r).1.reg.Each P := by
  have hboth : (serverStep cJSONParse g s r).1.reg.InRange ∧
      (serverStep cJSONParse g s r).1.reg.Each P := by
    refine serverStep_registry (P := fun reg => reg.InRange ∧ reg.Each P) ⟨hin, h⟩
      (fun reg h io now hnow fs id name ip overwriteName => ?_) (fun reg h id value => ?_)
      (fun reg h oldId newId => ?_) (fun reg h io nvs id => ?_) fun reg h now timeoutSec hr => ?_
    · exact ⟨h.1.update .., h.2.update h.1 io (hheard now hnow) fs id name ip overwriteName⟩
    · exact ⟨h.1.setBasicMode id value, h.2.setBasicMode id value⟩
    · exact ⟨h.1.renameId oldId newId, h.2.renameId h.1 oldId newId⟩
    · exact ⟨h.1.delete io nvs id, h.2.delete h.1 io nvs id⟩
    · rw [hr] at hcheck
      cases hcheck
  exact hboth.2

variable {Before : Nat → Prop} {timeout c now : UInt32}

/-- Every client stands as the last check at `c` found it, at the time `now`. -/
def Registry.Judged (Before : Nat → Prop) (timeout c now : UInt32) : Registry → Prop :=
  Registry.Each (Heartbeat.Judged Before timeout.toNat c.toNat now.toNat)

/-- One request: the clock moves on, and a check moves the verdict. -/
theorem judged_step (h : s.reg.Judged Before timeout c now) (hin : s.reg.InRange) (hcn : c ≤ now)
    {r : Request} (hclock : ∀ t, r.stamp cJSONParse = some t → now ≤ t)
    (htimeout : ∀ t T, r = .checkStale t T → T = timeout) :
    (serverStep cJSONParse g s r).1.reg.Judged Before timeout ((r.checkTime).getD c)
      ((r.stamp cJSONParse).getD now) := by
  have hlater : now.toNat ≤ ((r.stamp cJSONParse).getD now).toNat := by
    cases hs : r.stamp cJSONParse with
    | none => exact Nat.le_refl _
    | some t => exact UInt32.le_iff_toNat_le.mp (hclock t hs)
  have hother : r.checkTime = none → (serverStep cJSONParse g s r).1.reg.Judged Before timeout c
      ((r.stamp cJSONParse).getD now) := fun hcheck =>
    serverStep_each (fun i hi => (h i hi).later hlater) hin hcheck fun t ht => by
      rw [ht]
      exact judged_heard (UInt32.le_iff_toNat_le.mp (UInt32.le_trans hcn (hclock t ht)))
  cases r with
  | checkStale t T =>
    cases htimeout t T rfl
    have hnow : now ≤ t := hclock t rfl
    refine h.checkStale hin fun e hold => ?_
    rw [peer_markStale timeout fun hon =>
      UInt32.le_trans (UInt32.le_iff_toNat_le.mpr (hold.last_le hon)) hnow]
    exact hold.check (UInt32.le_iff_toNat_le.mp (UInt32.le_trans hcn hnow))
      (UInt32.le_iff_toNat_le.mp hnow)
  | _ => exact hother rfl

/-- A whole run. -/
theorem judged_run (h : s.reg.Judged Before timeout c now) (hin : s.reg.InRange) (hcn : c ≤ now)
    {rs : List Request} (hclock : Clocked cJSONParse rs)
    (hnow : ∀ t ∈ rs.filterMap (Request.stamp cJSONParse), now ≤ t)
    (htimeout : ∀ r ∈ rs, ∀ t T, r = .checkStale t T → T = timeout) :
    (final (serverStep cJSONParse g) s rs).reg.Judged Before timeout
      (latest Request.checkTime c rs) (latest (Request.stamp cJSONParse) now rs) := by
  induction rs generalizing s c now with
  | nil => exact h
  | cons r rs ih =>
    have hstamp : ∀ t, r.stamp cJSONParse = some t → now ≤ t := fun t ht =>
      hnow t (List.mem_filterMap.mpr ⟨r, List.mem_cons_self, ht⟩)
    have hstep := judged_step (g := g) h hin hcn hstamp (htimeout r List.mem_cons_self)
    have hrest : Clocked cJSONParse rs ∧
        ∀ t ∈ rs.filterMap (Request.stamp cJSONParse), (r.stamp cJSONParse).getD now ≤ t := by
      unfold Clocked at hclock
      rw [List.filterMap_cons] at hclock
      cases hs : r.stamp cJSONParse with
      | none =>
        rw [hs] at hclock
        exact ⟨hclock, fun t ht => hnow t (by rw [List.filterMap_cons, hs]; exact ht)⟩
      | some t =>
        rw [hs] at hclock
        exact ⟨(List.pairwise_cons.mp hclock).2, (List.pairwise_cons.mp hclock).1⟩
    have hcn' : (r.checkTime).getD c ≤ (r.stamp cJSONParse).getD now := by
      cases r with
      | checkStale t T => exact UInt32.le_refl t
      | upload io clock req =>
        cases hs : Request.stamp cJSONParse (.upload io clock req) with
        | none => exact hcn
        | some t => exact UInt32.le_trans hcn (hstamp t hs)
      | clientName io t uri => exact UInt32.le_trans hcn (hstamp t rfl)
      | basicModePost io t uri => exact UInt32.le_trans hcn (hstamp t rfl)
      | clientId io save uri => exact hcn
      | clientDelete io unlinkFails uri => exact hcn
      | syncIntervalPost uri => exact hcn
      | timezonePost uri => exact hcn
    exact ih hstep (serverStep_inRange hin r) hcn' hrest.1 hrest.2 fun r' hr' =>
      htimeout r' (List.mem_cons_of_mem _ hr')

end

/-! ## The registry -/

theorem mem_getAll {reg : Registry} (hin : reg.InRange) {c : ClientInfo} :
    c ∈ clientRegistryGetAll reg clientRegistryMaxClients ↔
      ∃ i < reg.clientCount, reg.client i = c := by
  rw [clientRegistryGetAll, clientRegistryMaxClients, Nat.min_eq_left hin.clientCount,
    List.mem_map]
  exact exists_congr fun i => and_congr_left' List.mem_range

theorem getAll_eq {m : RegMap} {reg : Registry} (h : reg.Lists m) :
    clientRegistryGetAll reg clientRegistryMaxClients = m.entries.map Entry.info := by
  refine List.ext_getElem ?_ fun i hi hi' => ?_
  · rw [clientRegistryGetAll, List.length_map, List.length_range, List.length_map, h.clientCount]
    exact Nat.min_eq_left m.entries_le
  · rw [List.length_map] at hi'
    have hentry : m.entries[i]? = some m.entries[i] := List.getElem?_eq_getElem hi'
    simp only [clientRegistryGetAll, List.getElem_map, List.getElem_range]
    exact h.client_eq hentry

/-- A boot finds nobody online. -/
theorem boot_offline (s : ServerState) :
    ∀ i < s.boot.reg.clientCount, (s.boot.reg.client i).online = false := by
  have hboot : s.boot.reg.offline = s.boot.reg := (boot_persisted s).restart_eq.symm
  intro i hi
  rw [← hboot, client_offline _ hi]

/-- **Online means heard recently.** After any boot, with whatever NVS holds, and any requests,
    with a clock that does not go back, a client counts as online only if the last check found
    it heard within the timeout, and as offline only if that check found it overdue or its time
    is still one that the boot loaded. If the boot found no clients, /api/health counts exactly
    those heard recently. -/
theorem online_iff_recently_seen (cJSONParse : List UInt8 → Option Json) (g : UInt32)
    (s₀ : ServerState) {timeout : UInt32} {rs : List Request} (hclock : Clocked cJSONParse rs)
    (htimeout : ∀ r ∈ rs, ∀ t T, r = .checkStale t T → T = timeout) :
    let reg := (final (serverStep cJSONParse g) s₀.boot rs).reg
    let clients := clientRegistryGetAll reg clientRegistryMaxClients
    let loaded := clientRegistryGetAll s₀.boot.reg clientRegistryMaxClients
    let lastCheck := (latest Request.checkTime 0 rs).toNat
    (∀ c ∈ clients,
      (c.online = true → lastCheck ≤ c.lastSeen.toNat + timeout.toNat) ∧
        (c.online = false → c.lastSeen.toNat + timeout.toNat < lastCheck ∨
          ∃ c₀ ∈ loaded, c₀.lastSeen = c.lastSeen)) ∧
      (loaded = [] → ∀ uptime freeHeap, healthGetHandler false uptime freeHeap reg =
        .json 256 (healthText uptime freeHeap
          (clients.countP fun c => lastCheck ≤ c.lastSeen.toNat + timeout.toNat))) := by
  intro reg clients loaded lastCheck
  let Before : Nat → Prop := fun t => ∃ c₀ ∈ loaded, c₀.lastSeen.toNat = t
  have hin₀ := (boot_persisted s₀).inRange
  have hstart : s₀.boot.reg.Judged Before timeout 0 0 := fun i hi =>
    judged_before (boot_offline s₀ i hi) ⟨_, (mem_getAll hin₀).mpr ⟨i, hi, rfl⟩, rfl⟩
  have hjudged := judged_run (g := g) hstart hin₀ (UInt32.le_refl 0) hclock
    (fun _ _ => UInt32.zero_le) htimeout
  have hin : Always (serverStep cJSONParse g) (fun s => s.reg.InRange) s₀.boot rs :=
    always_of_step (fun _ r h => serverStep_inRange h r) rs hin₀
  have hclients : ∀ c ∈ clients, Heartbeat.Judged Before timeout.toNat lastCheck
      (latest (Request.stamp cJSONParse) 0 rs).toNat c.peer := by
    intro c hc
    obtain ⟨i, hi, rfl⟩ := (mem_getAll hin.final).mp hc
    exact hjudged i hi
  refine ⟨fun c hc => ⟨(hclients c hc).recent, fun hoff => ?_⟩, fun hnone uptime freeHeap => ?_⟩
  · refine ((hclients c hc).overdue hoff).imp_right fun ⟨c₀, hc₀, ht⟩ => ?_
    exact ⟨c₀, hc₀, UInt32.toNat_inj.mp ht⟩
  · have hnew : ∀ t, ¬Before t := by
      rintro t ⟨c₀, hc₀, -⟩
      rw [hnone] at hc₀
      cases hc₀
    have hcount : clients.countP ClientInfo.online =
        clients.countP fun c => decide (lastCheck ≤ c.lastSeen.toNat + timeout.toNat) := by
      refine List.countP_congr fun c hc => ?_
      rw [decide_eq_true_eq]
      exact (hclients c hc).online_iff (hnew _)
    rw [healthGetHandler, healthOnline, if_neg Bool.false_ne_true, hcount]

/-- Flash after a deletion whose save was interrupted: one client, and the count of two. -/
def interruptedNvs : Nvs where
  clients := some ((Vector.replicate 16 ClientInfo.zero).setIfInBounds 0
    ⟨CStr.strncpy (ascii "1"), CStr.strncpy (ascii "attic"), 40, true, CStr.empty⟩)
  basicModes := none
  count := some 2
  idMappings := none
  idMappingCount := none

/-- After that boot the client is heard 400 seconds before the last check, and a new one 300
    seconds before it; the entry without a client is not heard. -/
theorem online_iff_recently_seen_three :
    let s₀ : ServerState := { bootState with nvs := interruptedNvs }
    let rs := [Request.clientName {} 100 (ascii "/?id=1&name=attic"),
      .clientName {} 200 (ascii "/?id=2&name=cellar"), .checkStale 500 360]
    let reg := (final (serverStep (fun _ => none) 100) s₀.boot rs).reg
    let clients := clientRegistryGetAll reg clientRegistryMaxClients
    clients.map (fun c => (c.lastSeen, c.online)) = [(100, false), (0, false), (200, true)] ∧
      ∀ c ∈ clients, c.online = false → c.lastSeen.toNat + 360 < 500 ∨
        ∃ c₀ ∈ clientRegistryGetAll s₀.boot.reg clientRegistryMaxClients,
          c₀.lastSeen = c.lastSeen := by
  intro s₀ rs reg clients
  have hclock : Clocked (fun _ => none) rs := by decide
  have htimeout : ∀ r ∈ rs, ∀ t T, r = .checkStale t T → T = 360 := by simp [rs]
  have hseen := online_iff_recently_seen (fun _ => none) 100 s₀ hclock htimeout
  exact ⟨by decide +kernel, fun c hc => (hseen.1 c hc).2⟩

end IndoorLogger
