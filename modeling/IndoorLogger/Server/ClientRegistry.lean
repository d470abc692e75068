import IndoorLogger.Lib.SlotArray
import IndoorLogger.Server.DataStore

/-
  The server's client registry (`client_registry.c`): the arrays `clients` and `basic_modes`
  with their common count, the array `id_mappings` of pending renames with its own, and their
  copy in NVS. A pointer into `clients` is the index of its slot.
-/

namespace IndoorLogger

def clientRegistryMaxClients : Nat := 16

/-- `client_info_t`. -/
structure ClientInfo where
  id : CStr 32
  name : CStr 32
  lastSeen : UInt32
  online : Bool
  ipStr : CStr 16
  deriving DecidableEq

/-- `id_change_mapping_t`. -/
structure IdChangeMapping where
  oldId : CStr 32
  newId : CStr 32
  deriving DecidableEq

/-- A zeroed `client_info_t`. -/
def ClientInfo.zero : ClientInfo := ⟨CStr.empty, CStr.empty, 0, false, CStr.empty⟩

/-- A zeroed `id_change_mapping_t`. -/
def IdChangeMapping.zero : IdChangeMapping := ⟨CStr.empty, CStr.empty⟩

/-- The static variables. -/
structure Registry where
  clients : Vector ClientInfo 16
  basicModes : Vector Bool 16
  clientCount : Nat
  idMappings : Vector IdChangeMapping 16
  idMappingCount : Nat
  deriving DecidableEq

/-- `client_registry_init`. -/
def clientRegistryInit : Registry where
  clients := Vector.replicate 16 ClientInfo.zero
  basicModes := Vector.replicate 16 true
  clientCount := 0
  idMappings := Vector.replicate 16 IdChangeMapping.zero
  idMappingCount := 0

/-! ## Slots -/

/-- The slot of a registered id: `client_registry_get`. -/
def clientRegistryGet (reg : Registry) (id : Id) : Option Nat :=
  SlotArray.find reg.clients reg.clientCount fun c => c.id = id

/-- The slot of the mapping with this old id. -/
def mappingSlot (reg : Registry) (oldId : Id) : Option Nat :=
  SlotArray.find reg.idMappings reg.idMappingCount fun m => m.oldId = oldId

/-- What `clients[i]` holds. -/
def Registry.client (reg : Registry) (i : Nat) : ClientInfo :=
  reg.clients[i]?.getD ClientInfo.zero

/-- Write through a pointer to `clients[i]`. -/
def Registry.setClient (reg : Registry) (i : Nat) (f : ClientInfo → ClientInfo) : Registry :=
  { reg with clients := reg.clients.setIfInBounds i (f (reg.client i)) }

/-- Shift the clients behind slot `i` down and zero the slot that falls free. -/
def Registry.removeClient (reg : Registry) (i : Nat) : Registry :=
  { reg with
    clients := SlotArray.remove reg.clients ClientInfo.zero i reg.clientCount
    basicModes := SlotArray.remove reg.basicModes true i reg.clientCount
    clientCount := reg.clientCount - 1 }

/-! ## Renames -/

/-- `client_registry_resolve_id`. -/
def clientRegistryResolveId (reg : Registry) (id : Id) : Id :=
  match (mappingSlot reg id).bind fun i => reg.idMappings[i]? with
  | some m => m.newId
  | none => id

/-- Enter `old_id -> new_id` into the mapping table, none when that is full. -/
def putMapping (reg : Registry) (oldId newId : Id) : Option Registry :=
  match mappingSlot reg oldId with
  | some i => some { reg with idMappings := reg.idMappings.setIfInBounds i ⟨oldId, newId⟩ }
  | none =>
    if reg.idMappingCount ≥ clientRegistryMaxClients then none
    else some { reg with
      idMappings := reg.idMappings.setIfInBounds reg.idMappingCount ⟨oldId, newId⟩
      idMappingCount := reg.idMappingCount + 1 }

/-- `client_registry_rename_id`. -/
def clientRegistryRenameId (reg : Registry) (oldId newId : Id) : Registry × Int :=
  if oldId.isEmpty || newId.isEmpty then (reg, -1)
  else if oldId = newId then (reg, 0)
  else
    match clientRegistryGet reg oldId with
    | none => (reg, -1)
    | some c =>
      if (clientRegistryGet reg newId).isSome then (reg, -1)
      else
        match putMapping reg oldId newId with
        | none => (reg, -1)
        | some reg => (reg.setClient c fun e => { e with id := newId }, 0)

/-- `client_registry_clear_id_mapping`. -/
def clientRegistryClearIdMapping (reg : Registry) (oldId : Id) : Registry :=
  if oldId.isEmpty then reg
  else
    match mappingSlot reg oldId with
    | none => reg
    | some i =>
      { reg with
        idMappings := SlotArray.remove reg.idMappings IdChangeMapping.zero i reg.idMappingCount
        idMappingCount := reg.idMappingCount - 1 }

/-! ## client_registry_update -/

/-- The bytes of an optional string argument, none when it is NULL or empty. -/
def given (s : Option (List UInt8)) : Option (List UInt8) :=
  (s.map cString).filter (· ≠ [])

/-- The slot the IP is bound to under another id. The `strncmp` is over 16 bytes. -/
def dedupSlot (reg : Registry) (id : Id) (ip : List UInt8) : Option Nat :=
  SlotArray.find reg.clients reg.clientCount fun c =>
    c.ipStr.bytes = ip.take 16 && c.id ≠ id

/-- Migrate the client in slot `i` to `id`: its data file is renamed, its pending rename
    forgotten and its slot removed. -/
def migrate (io : RenameIo) (reg : Registry) (fs : Fs) (id : Id) (i : Nat) : Registry × Fs :=
  let victim := (reg.client i).id
  let fs := (dataStoreRenameClient io fs victim id).1
  let reg := clientRegistryClearIdMapping reg victim
  let reg := reg.setClient i fun c => { c with id := CStr.empty, ipStr := CStr.empty }
  let reg := { reg with basicModes := reg.basicModes.setIfInBounds i true }
  (reg.removeClient i, fs)

/-- The fields `client_registry_update` writes in the client's slot. -/
def ClientInfo.touch (now : UInt32) (name ip : Option (List UInt8)) (overwriteName : Bool)
    (c : ClientInfo) : ClientInfo where
  id := c.id
  name :=
    match given name with
    | some name => if overwriteName || c.name.isEmpty then CStr.strncpy name else c.name
    | none => c.name
  lastSeen := now
  online := true
  ipStr :=
    match given ip with
    | some ip => CStr.strncpy ip
    | none => c.ipStr

/-- The deduplication in `client_registry_update`: an unregistered id takes over the slot its
    IP is bound to. -/
def dedupStep (io : RenameIo) (reg : Registry) (fs : Fs) (id : Id) (ip : Option (List UInt8)) :
    Registry × Fs :=
  match clientRegistryGet reg id, (given ip).bind (dedupSlot reg id) with
  | none, some i => migrate io reg fs id i
  | _, _ => (reg, fs)

/-- The rest of `client_registry_update`: find or add the client and write its fields. -/
def enrollStep (now : UInt32) (reg : Registry) (id : Id) (name ip : Option (List UInt8))
    (overwriteName : Bool) : Registry × Int :=
  match clientRegistryGet reg id with
  | some i => (reg.setClient i (ClientInfo.touch now name ip overwriteName), 0)
  | none =>
    if reg.clientCount ≥ clientRegistryMaxClients then (reg, -1)
    else
      let i := reg.clientCount
      let reg := { reg with clientCount := i + 1 }
      let reg := reg.setClient i fun c => { c with id := id }
      let reg := { reg with basicModes := reg.basicModes.setIfInBounds i true }
      (reg.setClient i (ClientInfo.touch now name ip overwriteName), 0)

/-- `client_registry_update` at the server time `now`. It calls the data store to migrate the
    file of a deduplicated client. -/
def clientRegistryUpdate (io : RenameIo) (now : UInt32) (reg : Registry) (fs : Fs) (id : Id)
    (name ip : Option (List UInt8)) (overwriteName : Bool) : (Registry × Fs) × Int :=
  let (reg, fs) := dedupStep io reg fs id ip
  let (reg, ret) := enrollStep now reg id name ip overwriteName
  ((reg, fs), ret)

/-! ## Flags -/

/-- `client_registry_get_basic_mode`: true for an unknown client. -/
def clientRegistryGetBasicMode (reg : Registry) (id : Id) : Bool :=
  ((clientRegistryGet reg id).bind fun i => reg.basicModes[i]?).getD true

/-- `client_registry_set_basic_mode`. -/
def clientRegistrySetBasicMode (reg : Registry) (id : Id) (value : Bool) : Registry × Int :=
  match clientRegistryGet reg id with
  | some i => ({ reg with basicModes := reg.basicModes.setIfInBounds i value }, 0)
  | none => (reg, -1)

/-- The body of the loop of `client_registry_check_stale`. -/
def ClientInfo.markStale (now timeoutSec : UInt32) (c : ClientInfo) : ClientInfo :=
  if c.online && now - c.lastSeen > timeoutSec then { c with online := false } else c

/-- `client_registry_check_stale` at the server time `now`. -/
def clientRegistryCheckStale (now timeoutSec : UInt32) (reg : Registry) : Registry :=
  { reg with
    clients := SlotArray.forEach reg.clients (ClientInfo.markStale now timeoutSec)
      reg.clientCount }

/-! ## NVS -/

/-- The NVS namespace "client_reg": the values last set, none for a key never set. -/
structure Nvs where
  clients : Option (Vector ClientInfo 16)
  basicModes : Option (Vector Bool 16)
  count : Option Nat
  idMappings : Option (Vector IdChangeMapping 16)
  idMappingCount : Option Nat
  deriving DecidableEq

/-- Which calls of one `client_registry_save` fail. -/
structure SaveIo where
  nvsOpen : Bool := false
  setClients : Bool := false
  setBasicModes : Bool := false
  setCount : Bool := false
  setIdMappings : Bool := false
  setIdMappingCount : Bool := false
  commit : Bool := false

/-- `client_registry_save`: it stops at the first call that fails. -/
def clientRegistrySave (io : SaveIo) (reg : Registry) (nvs : Nvs) : Nvs × Int :=
  if io.nvsOpen then (nvs, -1)
  else if io.setClients then (nvs, -1)
  else
    let nvs := { nvs with clients := some reg.clients }
    if io.setBasicModes then (nvs, -1)
    else
      let nvs := { nvs with basicModes := some reg.basicModes }
      if io.setCount then (nvs, -1)
      else
        let nvs := { nvs with count := some reg.clientCount }
        if io.setIdMappings then (nvs, -1)
        else
          let nvs := { nvs with idMappings := some reg.idMappings }
          if io.setIdMappingCount then (nvs, -1)
          else
            let nvs := { nvs with idMappingCount := some reg.idMappingCount }
            (nvs, if io.commit then -1 else 0)

/-- Which calls of one `client_registry_load` fail. -/
structure LoadIo where
  nvsOpen : Bool := false
  getClients : Bool := false
  getCount : Bool := false
  getBasicModes : Bool := false
  getIdMappings : Bool := false
  getIdMappingCount : Bool := false

/-- An `nvs_get` call. A blob is stored at its full size or not at all. -/
def nvsGet {α : Type} (fails : Bool) (value : Option α) : Option α := if fails then none else value

/-- A count that `client_registry_load` takes over. -/
def countInRange (c : Nat) : Bool := 0 < c && c ≤ clientRegistryMaxClients

/-- Clear the online flags of the registered clients. -/
def Registry.offline (reg : Registry) : Registry :=
  { reg with
    clients := SlotArray.forEach reg.clients (fun c => { c with online := false })
      reg.clientCount }

/-- `client_registry_load`. -/
def clientRegistryLoad (io : LoadIo) (nvs : Nvs) (reg : Registry) : Registry × Nat :=
  let unread := { reg with
    basicModes := Vector.replicate 16 true
    idMappings := Vector.replicate 16 IdChangeMapping.zero
    idMappingCount := 0 }
  if io.nvsOpen then (unread, 0)
  else
    match nvsGet io.getClients nvs.clients with
    | none => (unread, 0)
    | some clients =>
      let reg := { reg with clients := clients }
      let reg :=
        match (nvsGet io.getCount nvs.count).filter countInRange with
        | some count => { reg with clientCount := count }
        | none => reg
      let reg :=
        match nvsGet io.getBasicModes nvs.basicModes with
        | some modes => { reg with basicModes := modes }
        | none => { reg with basicModes := Vector.replicate 16 true }
      let reg :=
        match nvsGet io.getIdMappings nvs.idMappings with
        | none =>
          { reg with
            idMappings := Vector.replicate 16 IdChangeMapping.zero
            idMappingCount := 0 }
        | some mappings =>
          match (nvsGet io.getIdMappingCount nvs.idMappingCount).filter countInRange with
          | some mc => { reg with idMappings := mappings, idMappingCount := mc }
          | none => { reg with idMappings := mappings, idMappingCount := 0 }
      let reg := reg.offline
      (reg, reg.clientCount)

/-- `client_registry_delete`. -/
def clientRegistryDelete (io : SaveIo) (reg : Registry) (nvs : Nvs) (id : Id) :
    (Registry × Nvs) × Int :=
  if id.isEmpty then ((reg, nvs), -1)
  else
    match clientRegistryGet reg id with
    | none => ((reg, nvs), -1)
    | some i =>
      let reg := reg.removeClient i
      ((reg, (clientRegistrySave io reg nvs).1), 0)

end IndoorLogger
