import IndoorLogger.Lib.Machine
import IndoorLogger.Server.ServerRuns

/-
  The registry across restarts. A handler that changes the registry saves it before it returns,
  and one that refuses changes nothing, so that what `client_registry_load` reads back after
  any run is the registry in memory with every client offline.
-/

namespace IndoorLogger

open Machine

/-! ## Save and load -/

/-- What NVS holds after a complete `client_registry_save`. -/
def Registry.image (reg : Registry) : Nvs where
  clients := some reg.clients
  basicModes := some reg.basicModes
  count := some reg.clientCount
  idMappings := some reg.idMappings
  idMappingCount := some reg.idMappingCount

/-- Both counts are within the arrays. -/
structure Registry.InRange (reg : Registry) : Prop where
  clientCount : reg.clientCount ≤ 16
  idMappingCount : reg.idMappingCount ≤ 16

theorem save_eq_image (reg : Registry) (nvs : Nvs) :
    clientRegistrySave {} reg nvs = (reg.image, 0) := rfl

/-- The count that is loaded: 0 unless there is one in range. -/
def loadedCount (count : Option Nat) : Nat := (count.filter countInRange).getD 0

theorem loadedCount_some {c : Nat} (h : c ≤ 16) : loadedCount (some c) = c := by
  rw [loadedCount, Option.filter_some]
  by_cases hc : c = 0
  · rw [hc]
    rfl
  · have hin : countInRange c = true := by
      rw [countInRange, clientRegistryMaxClients, decide_eq_true h, Bool.and_true]
      exact decide_eq_true (Nat.pos_of_ne_zero hc)
    rw [if_pos hin, Option.getD_some]

/-- What a boot reads from NVS once the clients are there. -/
def Nvs.registry (nvs : Nvs) (clients : Vector ClientInfo 16) : Registry where
  clients := clients
  basicModes := nvs.basicModes.getD (Vector.replicate 16 true)
  clientCount := loadedCount nvs.count
  idMappings := nvs.idMappings.getD (Vector.replicate 16 IdChangeMapping.zero)
  idMappingCount := if nvs.idMappings.isSome then loadedCount nvs.idMappingCount else 0

theorem load_init (nvs : Nvs) :
    (clientRegistryLoad {} nvs clientRegistryInit).1 =
      match nvs.clients with
      | none => clientRegistryInit
      | some clients => (nvs.registry clients).offline := by
  obtain ⟨clients, basicModes, count, idMappings, idMappingCount⟩ := nvs
  cases clients with
  | none => rfl
  | some clients =>
    unfold clientRegistryLoad
    simp only [nvsGet, Bool.false_eq_true, if_false, Nvs.registry, loadedCount]
    -- each key is taken over or replaced by its default
    generalize count.filter countInRange = c
    generalize idMappingCount.filter countInRange = mc
    cases c <;> cases basicModes <;> cases idMappings <;> cases mc <;> rfl

theorem loadedCount_le (count : Option Nat) : loadedCount count ≤ 16 := by
  unfold loadedCount
  cases hf : count.filter countInRange with
  | none => exact Nat.zero_le _
  | some c =>
    obtain ⟨-, hc⟩ := Option.filter_eq_some_iff.mp hf
    rw [countInRange, Bool.and_eq_true, decide_eq_true_eq, decide_eq_true_eq] at hc
    exact hc.2

/-- A complete image is read back as it was saved, offline. -/
theorem load_image {reg : Registry} (h : reg.InRange) :
    (clientRegistryLoad {} reg.image clientRegistryInit).1 = reg.offline := by
  have hreg : reg.image.registry reg.clients = reg := by
    unfold Nvs.registry
    simp only [Registry.image, loadedCount_some h.clientCount, loadedCount_some h.idMappingCount]
    rfl
  rw [load_init, Registry.image]
  exact congrArg Registry.offline hreg

/-! ## Counts -/

namespace Registry.InRange

variable {reg : Registry}

theorem setClient (h : reg.InRange) (i : Nat) (f : ClientInfo → ClientInfo) :
    (reg.setClient i f).InRange := ⟨h.clientCount, h.idMappingCount⟩

theorem removeClient (h : reg.InRange) (i : Nat) : (reg.removeClient i).InRange :=
  ⟨(Nat.sub_le _ _).trans h.clientCount, h.idMappingCount⟩

theorem clearIdMapping (h : reg.InRange) (id : Id) :
    (clientRegistryClearIdMapping reg id).InRange := by
  unfold clientRegistryClearIdMapping
  split
  · exact h
  · split
    · exact h
    · exact ⟨h.clientCount, (Nat.sub_le _ _).trans h.idMappingCount⟩

theorem dedupStep (h : reg.InRange) (io : RenameIo) (fs : Fs) (id : Id)
    (ip : Option (List UInt8)) : (dedupStep io reg fs id ip).1.InRange := by
  unfold IndoorLogger.dedupStep
  split
  case h_1 i _ _ =>
    have hclear := h.clearIdMapping (reg.client i).id
    exact ⟨(Nat.sub_le _ _).trans hclear.clientCount, hclear.idMappingCount⟩
  case h_2 => exact h

theorem enrollStep (h : reg.InRange) (now : UInt32) (id : Id) (name ip : Option (List UInt8))
    (overwriteName : Bool) : (enrollStep now reg id name ip overwriteName).1.InRange := by
  unfold IndoorLogger.enrollStep
  split
  · exact h.setClient _ _
  · split
    · exact h
    · rename_i hroom
      rw [clientRegistryMaxClients] at hroom
      exact ⟨by change reg.clientCount + 1 ≤ 16; omega, h.idMappingCount⟩

theorem update (h : reg.InRange) (io : RenameIo) (now : UInt32) (fs : Fs) (id : Id)
    (name ip : Option (List UInt8)) (overwriteName : Bool) :
    (clientRegistryUpdate io now reg fs id name ip overwriteName).1.1.InRange :=
  (h.dedupStep io fs id ip).enrollStep now id name ip overwriteName

theorem delete (h : reg.InRange) (io : SaveIo) (nvs : Nvs) (id : Id) :
    (clientRegistryDelete io reg nvs id).1.1.InRange := by
  unfold clientRegistryDelete
  split
  · exact h
  · split
    · exact h
    · exact h.removeClient _

theorem setBasicMode (h : reg.InRange) (id : Id) (value : Bool) :
    (clientRegistrySetBasicMode reg id value).1.InRange := by
  unfold clientRegistrySetBasicMode
  split
  · exact ⟨h.clientCount, h.idMappingCount⟩
  · exact h

theorem putMapping (h : reg.InRange) {oldId newId : Id} {reg' : Registry}
    (hp : putMapping reg oldId newId = some reg') : reg'.InRange := by
  unfold IndoorLogger.putMapping at hp
  split at hp
  · cases hp
    exact ⟨h.clientCount, h.idMappingCount⟩
  · split at hp
    · cases hp
    · rename_i hroom
      rw [clientRegistryMaxClients] at hroom
      cases hp
      exact ⟨h.clientCount, by change reg.idMappingCount + 1 ≤ 16; omega⟩

theorem renameId (h : reg.InRange) (oldId newId : Id) :
    (clientRegistryRenameId reg oldId newId).1.InRange := by
  unfold clientRegistryRenameId
  split
  · exact h
  · split
    · exact h
    · split
      · exact h
      · split
        · exact h
        · split
          · exact h
          · rename_i hp
            have hput := h.putMapping hp
            exact ⟨hput.clientCount, hput.idMappingCount⟩

end Registry.InRange

/-! ## Calls that return -1 -/

theorem find_isSome {α : Type} {n : Nat} {v : Vector α n} {count i : Nat} {p : α → Bool} {x : α}
    (hi : i < count) (hx : v[i]? = some x) (hp : p x = true) :
    (SlotArray.find v count p).isSome := by
  unfold SlotArray.find
  rw [List.find?_isSome]
  exact ⟨i, List.mem_range.mpr hi, by rw [hx]; exact hp⟩

theorem client_setClient (reg : Registry) {i : Nat} (hi : i < 16)
    (f : ClientInfo → ClientInfo) : (reg.setClient i f).client i = f (reg.client i) := by
  unfold Registry.client
  rw [Registry.setClient, Vector.getElem?_setIfInBounds_self_of_lt hi]
  rfl

/-- Without an address nothing is deduplicated. -/
theorem update_none_ip (io : RenameIo) (now : UInt32) (reg : Registry) (fs : Fs) (id : Id)
    (name : Option (List UInt8)) (overwriteName : Bool) :
    clientRegistryUpdate io now reg fs id name none overwriteName =
      (((enrollStep now reg id name none overwriteName).1, fs),
        (enrollStep now reg id name none overwriteName).2) := by
  have hd : dedupStep io reg fs id none = (reg, fs) := by
    unfold dedupStep
    split
    case h_1 i _ hi => cases hi
    case h_2 => rfl
  unfold clientRegistryUpdate
  rw [hd]

/-- The client is in its slot afterwards, or nothing has changed. -/
theorem enrollStep_cases (now : UInt32) (reg : Registry) (id : Id)
    (name ip : Option (List UInt8)) (overwriteName : Bool) :
    let r := enrollStep now reg id name ip overwriteName
    (r = (reg, -1) ∧ clientRegistryGet reg id = none) ∨
      (r.2 = 0 ∧ (clientRegistryGet reg id = none → (clientRegistryGet r.1 id).isSome)) := by
  intro r
  have hr : r = enrollStep now reg id name ip overwriteName := rfl
  unfold enrollStep at hr
  cases hg : clientRegistryGet reg id with
  | some i =>
    rw [hg] at hr
    exact Or.inr ⟨by rw [hr], fun h => by cases h⟩
  | none =>
    rw [hg] at hr
    by_cases hroom : reg.clientCount ≥ clientRegistryMaxClients
    · rw [hr]
      exact Or.inl ⟨if_pos hroom, rfl⟩
    · have hlt : reg.clientCount < 16 := Nat.lt_of_not_le hroom
      rw [hr]
      dsimp only
      rw [if_neg hroom]
      refine Or.inr ⟨rfl, fun _ => ?_⟩
      -- the new slot carries the id
      refine find_isSome (Nat.lt_succ_self reg.clientCount)
        (Vector.getElem?_setIfInBounds_self_of_lt hlt) ?_
      exact decide_eq_true (congrArg ClientInfo.id (client_setClient
        { reg with clientCount := reg.clientCount + 1 } hlt fun c => { c with id := id }))

theorem setBasicMode_cases (reg : Registry) (id : Id) (value : Bool) :
    (clientRegistrySetBasicMode reg id value = (reg, -1) ∧ clientRegistryGet reg id = none) ∨
      ((clientRegistrySetBasicMode reg id value).2 = 0 ∧ (clientRegistryGet reg id).isSome) := by
  unfold clientRegistrySetBasicMode
  cases hg : clientRegistryGet reg id with
  | none => exact Or.inl ⟨rfl, rfl⟩
  | some i => exact Or.inr ⟨rfl, rfl⟩

theorem get_setBasicMode (reg : Registry) (id : Id) (value : Bool) :
    clientRegistryGet (clientRegistrySetBasicMode reg id value).1 id =
      clientRegistryGet reg id := by
  unfold clientRegistrySetBasicMode
  split
  · rfl
  · rfl

theorem delete_cases (reg : Registry) (nvs : Nvs) (id : Id) :
    clientRegistryDelete {} reg nvs id = ((reg, nvs), -1) ∨
      ∃ i, clientRegistryDelete {} reg nvs id =
        ((reg.removeClient i, (reg.removeClient i).image), 0) := by
  unfold clientRegistryDelete
  split
  · exact Or.inl rfl
  · split
    · exact Or.inl rfl
    · rename_i i _
      exact Or.inr ⟨i, rfl⟩

theorem renameId_cases (reg : Registry) (oldId newId : Id) :
    (clientRegistryRenameId reg oldId newId).1 = reg ∨
      (clientRegistryRenameId reg oldId newId).2 = 0 := by
  unfold clientRegistryRenameId
  split
  · exact Or.inl rfl
  · split
    · exact Or.inl rfl
    · split
      · exact Or.inl rfl
      · split
        · exact Or.inl rfl
        · split
          · exact Or.inl rfl
          · exact Or.inr rfl

/-! ## Offline -/

theorem offline_getElem? (reg : Registry) (k : Nat) :
    reg.offline.clients[k]? = if k < reg.clientCount
      then reg.clients[k]?.map fun c => { c with online := false } else reg.clients[k]? :=
  SlotArray.forEach_getElem? ..

/-- Registries that differ in online flags only are the same offline. -/
theorem offline_congr (reg reg' : Registry) (hcount : reg'.clientCount = reg.clientCount)
    (hmodes : reg'.basicModes = reg.basicModes) (hmap : reg'.idMappings = reg.idMappings)
    (hmc : reg'.idMappingCount = reg.idMappingCount)
    (h : ∀ k : Nat, reg'.offline.clients[k]? = reg.offline.clients[k]?) :
    reg'.offline = reg.offline := by
  have hclients : reg'.offline.clients = reg.offline.clients := by
    refine Vector.ext fun i hi => ?_
    have := h i
    rwa [Vector.getElem?_eq_getElem hi, Vector.getElem?_eq_getElem hi, Option.some.injEq] at this
  unfold Registry.offline at hclients ⊢
  rw [Registry.mk.injEq]
  exact ⟨hclients, hmodes, hcount, hmap, hmc⟩

theorem offline_offline (reg : Registry) : reg.offline.offline = reg.offline := by
  refine offline_congr reg reg.offline rfl rfl rfl rfl fun k => ?_
  rw [offline_getElem?, show reg.offline.clientCount = reg.clientCount from rfl,
    offline_getElem?]
  by_cases hk : k < reg.clientCount
  · rw [if_pos hk, if_pos hk, Option.map_map]
    rfl
  · rw [if_neg hk, if_neg hk]

theorem checkStale_offline (now timeoutSec : UInt32) (reg : Registry) :
    (clientRegistryCheckStale now timeoutSec reg).offline = reg.offline := by
  refine offline_congr reg (clientRegistryCheckStale now timeoutSec reg) rfl rfl rfl rfl
    fun k => ?_
  rw [offline_getElem?, offline_getElem?, clientRegistryCheckStale, SlotArray.forEach_getElem?]
  by_cases hk : k < reg.clientCount
  · rw [if_pos hk, if_pos hk, if_pos hk, Option.map_map]
    congr 1
    funext c
    simp only [Function.comp_apply, ClientInfo.markStale]
    split <;> rfl
  · rw [if_neg hk, if_neg hk, if_neg hk]

theorem client_offline (reg : Registry) {i : Nat} (hi : i < reg.clientCount) :
    reg.offline.client i = { reg.client i with online := false } := by
  unfold Registry.client
  rw [offline_getElem?, if_pos hi]
  cases reg.clients[i]? with
  | none => rfl
  | some c => rfl

/-! ## Requests -/

/-- The NVS calls of a request. -/
def Request.saveIo : Request → SaveIo
  | .upload io _ _ => io.save
  | .clientName io _ _ => io
  | .clientId _ save _ => save
  | .clientDelete io _ _ => io
  | .basicModePost io _ _ => io
  | .syncIntervalPost _ => {}
  | .timezonePost _ => {}
  | .checkStale _ _ => {}

/-- The registry after a restart: `client_registry_init`, then `client_registry_load`. -/
def ServerState.restart (s : ServerState) : Registry :=
  (clientRegistryLoad {} s.nvs clientRegistryInit).1

/-- The server after a boot with what its NVS and files hold. -/
def ServerState.boot (s : ServerState) : ServerState := { s with reg := s.restart }

/-- A restart brings back the clients in their order, each with its attributes and offline,
    and the pending renames. -/
structure ServerState.Survives (s : ServerState) : Prop where
  clientCount : s.restart.clientCount = s.reg.clientCount
  client : ∀ i < s.reg.clientCount, s.restart.client i = { s.reg.client i with online := false }
  basicModes : s.restart.basicModes = s.reg.basicModes
  idMappingCount : s.restart.idMappingCount = s.reg.idMappingCount
  idMappings : s.restart.idMappings = s.reg.idMappings

/-- NVS holds the registry in memory, but for the online flags. -/
structure ServerState.Persisted (s : ServerState) : Prop where
  inRange : s.reg.InRange
  restart_eq : s.restart = s.reg.offline

theorem ServerState.Persisted.survives {s : ServerState} (h : s.Persisted) : s.Survives := by
  refine ⟨?_, fun i hi => ?_, ?_, ?_, ?_⟩ <;> rw [h.restart_eq]
  · rfl
  · exact client_offline s.reg hi
  · rfl
  · rfl
  · rfl

/-- A request leaves registry and NVS alone, or NVS has the complete image in the end. -/
def SavedOrSame (s s' : ServerState) : Prop :=
  s'.reg.InRange ∧ (s'.nvs = s'.reg.image ∨ s'.reg = s.reg ∧ s'.nvs = s.nvs)

theorem ServerState.Persisted.step {s s' : ServerState} (h : s.Persisted)
    (hs : SavedOrSame s s') : s'.Persisted := by
  obtain ⟨hin, himage | ⟨hreg, hnvs⟩⟩ := hs
  · refine ⟨hin, ?_⟩
    unfold ServerState.restart
    rw [himage]
    exact load_image hin
  · refine ⟨hin, ?_⟩
    unfold ServerState.restart
    rw [hnvs, hreg]
    exact h.restart_eq

section

variable {cJSONParse : List UInt8 → Option Json} {gMax : UInt32} {s : ServerState}

theorem savedOrSame_refl (h : s.reg.InRange) : SavedOrSame s s := ⟨h, Or.inr ⟨rfl, rfl⟩⟩

theorem savedOrSame_saved {s' : ServerState} (nvs : Nvs) (h : s'.reg.InRange)
    (hn : s'.nvs = (clientRegistrySave {} s'.reg nvs).1) : SavedOrSame s s' := by
  rw [save_eq_image] at hn
  exact ⟨h, Or.inl hn⟩

theorem uploadPostHandler_saves (h : s.reg.InRange) {io : UploadIo} (hio : io.save = {})
    (clock : Nat → UInt32) (req : UploadRequest) :
    SavedOrSame s (uploadPostHandler cJSONParse gMax io clock s req).1 := by
  obtain ⟨resp, -, -, heq⟩ | ⟨id, root, -, heq⟩ :=
    uploadPostHandler_cases cJSONParse gMax io clock s req
  · rw [heq]
    exact savedOrSame_refl h
  · rw [heq]
    refine savedOrSame_saved s.nvs (h.update _ _ _ _ _ _ _) ?_
    unfold uploadStore
    rw [hio]

theorem clientNameGetHandler_saves (h : s.reg.InRange) (now : UInt32) (uri : List UInt8) :
    SavedOrSame s (clientNameGetHandler {} now s uri).1 := by
  unfold clientNameGetHandler
  dsimp only
  split
  · exact savedOrSame_refl h
  · rw [update_none_ip]
    dsimp only
    have hin := h.enrollStep now (clientRegistryResolveId s.reg (queryParam uri "id" 32))
      (some (queryParam uri "name" 32 : CStr 32).bytes) none true
    rcases enrollStep_cases now s.reg (clientRegistryResolveId s.reg (queryParam uri "id" 32))
      (some (queryParam uri "name" 32 : CStr 32).bytes) none true with ⟨hr, -⟩ | ⟨hr, -⟩
    · rw [hr, if_pos (show (-1 : Int) ≠ 0 by decide)]
      exact savedOrSame_refl h
    · rw [if_neg (not_not_intro hr)]
      exact savedOrSame_saved s.nvs hin rfl

theorem clientIdPostHandler_saves (h : s.reg.InRange) (io : RenameIo) (uri : List UInt8) :
    SavedOrSame s (clientIdPostHandler io {} s uri).1 := by
  unfold clientIdPostHandler
  dsimp only
  split
  · exact savedOrSame_refl h
  · split
    · exact savedOrSame_refl h
    · split
      · exact savedOrSame_refl h
      · split
        · exact savedOrSame_refl h
        · have hin := h.renameId (clientRegistryResolveId s.reg (queryParam uri "id" 32))
            (queryParam uri "new_id" 32)
          rcases renameId_cases s.reg (clientRegistryResolveId s.reg (queryParam uri "id" 32))
            (queryParam uri "new_id" 32) with hr | hr
          · split
            · rw [hr]
              exact savedOrSame_refl h
            · exact savedOrSame_saved s.nvs hin rfl
          · rw [if_neg (not_not_intro hr)]
            exact savedOrSame_saved s.nvs hin rfl

theorem clientDeleteHandler_saves (h : s.reg.InRange) (unlinkFails : Bool) (uri : List UInt8) :
    SavedOrSame s (clientDeleteHandler {} unlinkFails s uri).1 := by
  unfold clientDeleteHandler
  dsimp only
  split
  · exact savedOrSame_refl h
  · generalize (queryParam uri "id" 32 : Id) = id
    rcases delete_cases s.reg s.nvs id with hr | ⟨i, hr⟩
    · rw [hr]
      exact savedOrSame_refl h
    · rw [hr]
      exact savedOrSame_saved s.nvs (h.removeClient i) rfl

theorem clientBasicModePostHandler_saves (h : s.reg.InRange) (now : UInt32) (uri : List UInt8) :
    SavedOrSame s (clientBasicModePostHandler {} now s uri).1 := by
  unfold clientBasicModePostHandler
  dsimp only
  generalize (queryParam uri "id" 32 : Id) = id
  generalize (queryParam uri "value" 8 : CStr 8) = value
  split
  · exact savedOrSame_refl h
  · split
    · exact savedOrSame_refl h
    · generalize (decide (atoi value.bytes = 1)) = v
      rcases setBasicMode_cases s.reg id v with ⟨hr, hg⟩ | ⟨hr, hg⟩
      · rw [hr, if_pos (show (-1 : Int) ≠ 0 by decide), update_none_ip]
        dsimp only
        have hin := h.enrollStep now id none none false
        rcases enrollStep_cases now s.reg id none none false with ⟨he, -⟩ | ⟨-, hfound⟩
        · -- the table is full
          rw [he, hr, if_pos (show (-1 : Int) ≠ 0 by decide)]
          exact savedOrSame_refl h
        · rcases setBasicMode_cases (enrollStep now s.reg id none none false).1 id v with
            ⟨-, hnone⟩ | ⟨hr', -⟩
          · have := hfound hg
            rw [hnone] at this
            cases this
          · rw [if_neg (not_not_intro hr')]
            exact savedOrSame_saved s.nvs (hin.setBasicMode id v) rfl
      · -- the mode is set twice
        have hin := h.setBasicMode id v
        rw [if_neg (not_not_intro hr)]
        dsimp only
        rcases setBasicMode_cases (clientRegistrySetBasicMode s.reg id v).1 id v with
          ⟨-, hnone⟩ | ⟨hr', -⟩
        · rw [get_setBasicMode] at hnone
          rw [hnone] at hg
          cases hg
        · rw [if_neg (not_not_intro hr')]
          exact savedOrSame_saved s.nvs (hin.setBasicMode id v) rfl

theorem serverStep_persisted (h : s.Persisted) {r : Request} (hio : r.saveIo = {}) :
    (serverStep cJSONParse gMax s r).1.Persisted := by
  cases r with
  | upload io clock req => exact h.step (uploadPostHandler_saves h.inRange hio clock req)
  | clientName io now uri =>
    cases (show io = {} from hio)
    exact h.step (clientNameGetHandler_saves h.inRange now uri)
  | clientId io save uri =>
    cases (show save = {} from hio)
    exact h.step (clientIdPostHandler_saves h.inRange io uri)
  | clientDelete io unlinkFails uri =>
    cases (show io = {} from hio)
    exact h.step (clientDeleteHandler_saves h.inRange unlinkFails uri)
  | basicModePost io now uri =>
    cases (show io = {} from hio)
    exact h.step (clientBasicModePostHandler_saves h.inRange now uri)
  | syncIntervalPost uri =>
    obtain ⟨val, heq⟩ := syncIntervalPostHandler_eq s uri
    rw [serverStep]
    dsimp only
    rw [heq]
    exact h.step ⟨h.inRange, Or.inr ⟨rfl, rfl⟩⟩
  | timezonePost uri =>
    obtain ⟨tz, heq⟩ := timezonePostHandler_eq s uri
    rw [serverStep]
    dsimp only
    rw [heq]
    exact h.step ⟨h.inRange, Or.inr ⟨rfl, rfl⟩⟩
  | checkStale now timeoutSec =>
    refine ⟨⟨h.inRange.clientCount, h.inRange.idMappingCount⟩, ?_⟩
    exact h.restart_eq.trans (checkStale_offline now timeoutSec s.reg).symm

end

theorem boot_persisted (s : ServerState) : s.boot.Persisted := by
  have hload := load_init s.nvs
  unfold ServerState.boot
  cases hc : s.nvs.clients with
  | none =>
    rw [hc] at hload
    have hboot : s.restart = clientRegistryInit := hload
    rw [hboot]
    exact ⟨⟨Nat.zero_le _, Nat.zero_le _⟩, hboot⟩
  | some clients =>
    rw [hc] at hload
    have hboot : s.restart = (s.nvs.registry clients).offline := hload
    rw [hboot]
    refine ⟨⟨loadedCount_le _, ?_⟩, hboot.trans (offline_offline _).symm⟩
    change (if _ then _ else _) ≤ 16
    split
    · exact loadedCount_le _
    · exact Nat.zero_le _

/-- **The registry survives restarts.** From a boot with any NVS contents on, after any
    requests and stale checks whose NVS calls succeed, a restart loads the clients in their
    order with their names, addresses, times and modes, all offline, and the pending
    renames. -/
theorem registry_survives_restart (cJSONParse : List UInt8 → Option Json) (gMax : UInt32)
    (s : ServerState) (rs : List Request) (hio : ∀ r ∈ rs, r.saveIo = {}) :
    Always (serverStep cJSONParse gMax) ServerState.Survives s.boot rs := by
  have hmeets : Meets (serverStep cJSONParse gMax) (fun _ r => r.saveIo = {}) s.boot rs :=
    meets_of_forall fun r hr _ => hio r hr
  have hrun : Always (serverStep cJSONParse gMax) ServerState.Persisted s.boot rs :=
    always_of_meets (fun _ _ h hr => serverStep_persisted h hr) (boot_persisted s) hmeets
  exact hrun.mono fun _ h => h.survives

/-- A client named, set to the full mode and deleted again. -/
theorem registry_survives_restart_named :
    let name := Request.clientName {} 7 (ascii "/?id=11&name=attic")
    let mode := Request.basicModePost {} 8 (ascii "/?id=11&value=0")
    let delete := Request.clientDelete {} false (ascii "/?id=11")
    Always (serverStep (fun _ => none) 100) ServerState.Survives bootState.boot
      [name, mode, delete] :=
  registry_survives_restart (fun _ => none) 100 bootState _ (by simp [Request.saveIo])

end IndoorLogger
