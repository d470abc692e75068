import Mathlib.Data.List.InsertIdx
import IndoorLogger.Lib.KeyedList
import IndoorLogger.Server.ClientRegistry

/-
  What the registry is for: an ordered map of at most 16 clients by id, and at most 16 pending
  renames by old id. `RegMap` carries these bounds as fields; `Registry.Lists` relates it to
  the arrays, and each operation of the registry is the map operation of the same name.
-/

namespace IndoorLogger

/-! ## The map -/

/-- A non-empty id. -/
abbrev ClientId := { id : Id // id ≠ CStr.empty }

theorem ClientId.ne (id : ClientId) : id.1 ≠ CStr.empty := id.2

/-- A client's entry. -/
structure Entry where
  info : ClientInfo
  basicMode : Bool
  deriving DecidableEq

def Entry.id (e : Entry) : Id := e.info.id

@[ext] structure RegMap where
  entries : List Entry
  mappings : List IdChangeMapping
  entries_le : entries.length ≤ 16
  ids_nodup : (entries.map Entry.id).Nodup
  ids_ne : ∀ e ∈ entries, e.id ≠ CStr.empty
  mappings_le : mappings.length ≤ 16
  olds_nodup : (mappings.map IdChangeMapping.oldId).Nodup
  mappings_ne : ∀ p ∈ mappings, p.oldId ≠ p.newId
  news_ne : ∀ p ∈ mappings, p.newId ≠ CStr.empty

namespace RegMap

def empty : RegMap where
  entries := []
  mappings := []
  entries_le := by simp
  ids_nodup := by simp
  ids_ne := by simp
  mappings_le := by simp
  olds_nodup := by simp
  mappings_ne := by simp
  news_ne := by simp

variable (m : RegMap)

/-- The registered ids, in order. -/
def ids : List Id := m.entries.map Entry.id

instance decidableMemIds (id : Id) : Decidable (id ∈ m.ids) := inferInstance

def lookup (id : Id) : Option Entry := KeyedList.lookup Entry.id m.entries id

/-- The pending rename of an id. -/
def target (id : Id) : Option Id :=
  (KeyedList.lookup IdChangeMapping.oldId m.mappings id).map IdChangeMapping.newId

def resolve (id : Id) : Id := (m.target id).getD id

/-- Remove a client. -/
def erase (id : Id) : RegMap :=
  { m with
    entries := KeyedList.erase Entry.id m.entries id
    entries_le := (List.length_filter_le _ _).trans m.entries_le
    ids_nodup := KeyedList.nodup_erase m.ids_nodup
    ids_ne := fun e he => m.ids_ne e (List.mem_of_mem_filter he) }

/-- Change a client, keeping its id. -/
def modify (id : Id) (f : Entry → Entry) (hf : ∀ e, (f e).id = e.id) : RegMap :=
  { m with
    entries := KeyedList.modify Entry.id m.entries id f
    entries_le := by rw [KeyedList.modify, List.length_map]; exact m.entries_le
    ids_nodup := by
      rw [KeyedList.map_key_modify fun e he => (hf e).trans he]
      exact m.ids_nodup
    ids_ne := by
      intro e he
      obtain ⟨e', he', rfl⟩ := List.mem_map.mp he
      by_cases hid : e'.id = id
      · rw [if_pos hid, hf]
        exact m.ids_ne e' he'
      · rw [if_neg hid]
        exact m.ids_ne e' he' }

/-- Change every client, keeping the ids. -/
def map (f : Entry → Entry) (hf : ∀ e, (f e).id = e.id) : RegMap :=
  { m with
    entries := m.entries.map f
    entries_le := by rw [List.length_map]; exact m.entries_le
    ids_nodup := by
      rw [List.map_map, show Entry.id ∘ f = Entry.id from funext hf]
      exact m.ids_nodup
    ids_ne := by
      intro e he
      obtain ⟨e', he', rfl⟩ := List.mem_map.mp he
      rw [hf]
      exact m.ids_ne e' he' }

/-- Add a client at the end. -/
def append (e : Entry) (hroom : m.entries.length < 16) (hid : e.id ∉ m.ids)
    (hne : e.id ≠ CStr.empty) : RegMap :=
  { m with
    entries := m.entries ++ [e]
    entries_le := by rw [List.length_append, List.length_singleton]; omega
    ids_nodup := KeyedList.nodup_append_singleton m.ids_nodup hid
    ids_ne := by
      intro e' he'
      rcases List.mem_append.mp he' with h | h
      · exact m.ids_ne e' h
      · exact List.mem_singleton.mp h ▸ hne }

/-- Give a client a new id. -/
def rekey (old new : Id) (hnew : new ∉ m.ids) (hne : new ≠ CStr.empty) : RegMap :=
  { m with
    entries := KeyedList.modify Entry.id m.entries old
      fun e => { e with info := { e.info with id := new } }
    entries_le := by rw [KeyedList.modify, List.length_map]; exact m.entries_le
    ids_nodup := KeyedList.nodup_rekey m.ids_nodup hnew fun _ _ => rfl
    ids_ne := by
      intro e he
      obtain ⟨e', he', rfl⟩ := List.mem_map.mp he
      by_cases hid : e'.id = old
      · rw [if_pos hid]
        exact hne
      · rw [if_neg hid]
        exact m.ids_ne e' he' }

/-- Forget a pending rename. -/
def clearMapping (old : Id) : RegMap :=
  { m with
    mappings := KeyedList.erase IdChangeMapping.oldId m.mappings old
    mappings_le := (List.length_filter_le _ _).trans m.mappings_le
    olds_nodup := KeyedList.nodup_erase m.olds_nodup
    mappings_ne := fun p hp => m.mappings_ne p (List.mem_of_mem_filter hp)
    news_ne := fun p hp => m.news_ne p (List.mem_of_mem_filter hp) }

/-- Is there room for a mapping of `old`? -/
def MappingRoom (old : Id) : Prop :=
  old ∈ m.mappings.map IdChangeMapping.oldId ∨ m.mappings.length < 16

instance (old : Id) : Decidable (m.MappingRoom old) := inferInstanceAs (Decidable (_ ∨ _))

/-- Enter a pending rename, or redirect the one of the same old id. -/
def putMapping (old new : Id) (hne : old ≠ new) (hnew : new ≠ CStr.empty)
    (hroom : m.MappingRoom old) : RegMap :=
  { m with
    mappings := KeyedList.put IdChangeMapping.oldId m.mappings ⟨old, new⟩
    mappings_le := KeyedList.length_put_le hroom m.mappings_le
    olds_nodup := KeyedList.nodup_put m.olds_nodup
    mappings_ne := by
      intro p hp
      rcases KeyedList.mem_of_mem_put hp with rfl | hp
      · exact hne
      · exact m.mappings_ne p hp
    news_ne := by
      intro p hp
      rcases KeyedList.mem_of_mem_put hp with rfl | hp
      · exact hnew
      · exact m.news_ne p hp }

/-! ## Operations of the registry -/

/-- When a rename is accepted. -/
def CanRename (old new : Id) : Prop :=
  new ≠ CStr.empty ∧ old ≠ new ∧ old ∈ m.ids ∧ new ∉ m.ids ∧ m.MappingRoom old

instance (old new : Id) : Decidable (m.CanRename old new) :=
  inferInstanceAs (Decidable (_ ∧ _ ∧ _ ∧ _ ∧ _))

def rename (old new : Id) (h : m.CanRename old new) : RegMap :=
  let p := m.putMapping old new h.2.1 h.1 h.2.2.2.2
  { m.rekey old new h.2.2.2.1 h.1 with
    mappings := p.mappings
    mappings_le := p.mappings_le
    olds_nodup := p.olds_nodup
    mappings_ne := p.mappings_ne
    news_ne := p.news_ne }

/-- The client an update of `id` from this address replaces: the first one bound to the
    address, when `id` is not registered. -/
def victim (id : Id) (ip : Option (List UInt8)) : Option Entry :=
  if id ∈ m.ids then none
  else (given ip).bind fun ip =>
    m.entries.find? fun e => e.info.ipStr.bytes = ip.take 16 && e.id ≠ id

/-- The map after deduplication. -/
def dedup (id : Id) (ip : Option (List UInt8)) : RegMap :=
  match m.victim id ip with
  | none => m
  | some v => (m.erase v.id).clearMapping v.id

/-- What an update writes. -/
def touch (now : UInt32) (name ip : Option (List UInt8)) (overwriteName : Bool) (e : Entry) :
    Entry :=
  { e with info := e.info.touch now name ip overwriteName }

theorem touch_id (now : UInt32) (name ip : Option (List UInt8)) (overwriteName : Bool)
    (e : Entry) : (touch now name ip overwriteName e).id = e.id := rfl

/-- A client nothing is known of but its id: it starts in basic mode. -/
def blank (id : Id) : Entry := ⟨{ ClientInfo.zero with id := id }, true⟩

/-- A client registered for the first time. -/
def fresh (now : UInt32) (id : Id) (name ip : Option (List UInt8)) (overwriteName : Bool) :
    Entry :=
  touch now name ip overwriteName (blank id)

/-- Update or register a client, in the map that deduplication leaves. -/
def enroll (now : UInt32) (id : Id) (hid : id ≠ CStr.empty) (name ip : Option (List UInt8))
    (overwriteName : Bool) : RegMap × Int :=
  if h : id ∈ m.ids then (m.modify id (touch now name ip overwriteName) (touch_id _ _ _ _), 0)
  else if hroom : m.entries.length < 16 then
    (m.append (fresh now id name ip overwriteName) hroom h hid, 0)
  else (m, -1)

def update (now : UInt32) (id : Id) (hid : id ≠ CStr.empty) (name ip : Option (List UInt8))
    (overwriteName : Bool) : RegMap × Int :=
  (m.dedup id ip).enroll now id hid name ip overwriteName

def setBasicMode (id : Id) (value : Bool) : RegMap :=
  m.modify id (fun e => { e with basicMode := value }) fun _ => rfl

theorem markStale_id (now timeoutSec : UInt32) (c : ClientInfo) :
    (c.markStale now timeoutSec).id = c.id := by
  rw [ClientInfo.markStale]
  split <;> rfl

def checkStale (now timeoutSec : UInt32) : RegMap :=
  m.map (fun e => { e with info := e.info.markStale now timeoutSec })
    fun e => markStale_id now timeoutSec e.info

end RegMap

/-! ## Arrays -/

/-- The arrays hold the map: the slots in use are its lists, all others are blank. -/
structure Registry.Lists (reg : Registry) (m : RegMap) : Prop where
  clients : SlotArray.Holds reg.clients ClientInfo.zero (m.entries.map Entry.info)
  basicModes : SlotArray.Holds reg.basicModes true (m.entries.map Entry.basicMode)
  clientCount : reg.clientCount = m.entries.length
  idMappings : SlotArray.Holds reg.idMappings IdChangeMapping.zero m.mappings
  idMappingCount : reg.idMappingCount = m.mappings.length

theorem lists_init : clientRegistryInit.Lists RegMap.empty where
  clients := SlotArray.holds_replicate _
  basicModes := SlotArray.holds_replicate _
  clientCount := rfl
  idMappings := SlotArray.holds_replicate _
  idMappingCount := rfl

variable {reg : Registry} {m : RegMap}

/-- The arrays hold one map at most. -/
theorem Registry.Lists.unique {m' : RegMap} (h : reg.Lists m) (h' : reg.Lists m') : m = m' := by
  have hlen : m.entries.length = m'.entries.length := h.clientCount.symm.trans h'.clientCount
  have hzip : ∀ l : List Entry,
      List.zipWith Entry.mk (l.map Entry.info) (l.map Entry.basicMode) = l := by
    intro l
    rw [List.zipWith_map, List.zipWith_self]
    exact List.map_id _
  have hinfo := h.clients.unique h'.clients (by simpa using hlen)
  have hmode := h.basicModes.unique h'.basicModes (by simpa using hlen)
  refine RegMap.ext ?_ ?_
  · rw [← hzip m.entries, hinfo, hmode, hzip]
  · exact h.idMappings.unique h'.idMappings (h.idMappingCount.symm.trans h'.idMappingCount)

theorem Registry.Lists.find_eq (h : reg.Lists m) (p : ClientInfo → Bool) :
    SlotArray.find reg.clients reg.clientCount p = m.entries.findIdx? (p ∘ Entry.info) := by
  have := h.clients.find_eq p
  rwa [List.length_map, ← h.clientCount, List.findIdx?_map] at this

theorem Registry.Lists.get_eq (h : reg.Lists m) (id : Id) :
    clientRegistryGet reg id = m.entries.findIdx? fun e => e.id = id :=
  h.find_eq _

theorem Registry.Lists.mappingSlot_eq (h : reg.Lists m) (id : Id) :
    mappingSlot reg id = m.mappings.findIdx? fun p => p.oldId = id := by
  unfold mappingSlot
  rw [h.idMappingCount, h.idMappings.find_eq]

/-- Either the id is unknown, or it is found at the index of its entry. -/
theorem Registry.Lists.get_cases (h : reg.Lists m) (id : Id) :
    (clientRegistryGet reg id = none ∧ id ∉ m.ids) ∨
      ∃ i e, clientRegistryGet reg id = some i ∧ m.entries[i]? = some e ∧
        i < m.entries.length ∧ e.id = id ∧ m.lookup id = some e := by
  rw [h.get_eq]
  exact KeyedList.findIdx?_isSome_or Entry.id m.entries id

theorem Registry.Lists.mappingSlot_cases (h : reg.Lists m) (id : Id) :
    (mappingSlot reg id = none ∧ id ∉ m.mappings.map IdChangeMapping.oldId) ∨
      ∃ i p, mappingSlot reg id = some i ∧ m.mappings[i]? = some p ∧
        i < m.mappings.length ∧ p.oldId = id ∧
        KeyedList.lookup IdChangeMapping.oldId m.mappings id = some p := by
  rw [h.mappingSlot_eq]
  exact KeyedList.findIdx?_isSome_or IdChangeMapping.oldId m.mappings id

theorem RegMap.lookup_eq_none {id : Id} : m.lookup id = none ↔ id ∉ m.ids :=
  KeyedList.lookup_eq_none

theorem Registry.Lists.isSome_get (h : reg.Lists m) (id : Id) :
    (clientRegistryGet reg id).isSome ↔ id ∈ m.ids := by
  rcases h.get_cases id with ⟨hg, hid⟩ | ⟨i, e, hg, -, -, -, he⟩
  · simp [hg, hid]
  · rw [hg]
    simp only [Option.isSome_some, true_iff]
    exact KeyedList.mem_keys_of_lookup he

theorem Registry.Lists.client_eq (h : reg.Lists m) {i : Nat} {e : Entry}
    (hi : m.entries[i]? = some e) : reg.client i = e.info := by
  obtain ⟨hlt, -⟩ := List.getElem?_eq_some_iff.mp hi
  unfold Registry.client
  rw [h.clients.getElem?_eq (by rwa [List.length_map]), List.getElem?_map, hi]
  rfl

theorem resolveId_eq (h : reg.Lists m) (id : Id) :
    clientRegistryResolveId reg id = m.resolve id := by
  unfold clientRegistryResolveId
  rw [RegMap.resolve, RegMap.target]
  rcases h.mappingSlot_cases id with ⟨hg, hid⟩ | ⟨i, p, hg, hi, hlt, -, hp⟩
  · rw [hg, KeyedList.lookup_eq_none.mpr hid]
    rfl
  · rw [hg, hp, Option.bind_some, h.idMappings.getElem?_eq hlt, hi]
    rfl

theorem getBasicMode_eq (h : reg.Lists m) (id : Id) :
    clientRegistryGetBasicMode reg id = ((m.lookup id).map Entry.basicMode).getD true := by
  rw [clientRegistryGetBasicMode]
  rcases h.get_cases id with ⟨hg, hid⟩ | ⟨i, e, hg, hi, hlt, -, he⟩
  · rw [hg, RegMap.lookup_eq_none.mpr hid]
    rfl
  · rw [hg, he, Option.bind_some, h.basicModes.getElem?_eq (by rwa [List.length_map]),
      List.getElem?_map, hi]

/-! ## Single slots -/

theorem setClient_lists (h : reg.Lists m) {i : Nat} {e : Entry} (hi : m.entries[i]? = some e)
    {id : Id} (hid : e.id = id) {f : ClientInfo → ClientInfo} {m' : RegMap}
    (hm : m'.mappings = m.mappings)
    (he : m'.entries = KeyedList.modify Entry.id m.entries id
      fun e => { e with info := f e.info }) :
    (reg.setClient i f).Lists m' := by
  obtain ⟨hlt, hei⟩ := List.getElem?_eq_some_iff.mp hi
  have hset : m'.entries = m.entries.set i { e with info := f e.info } := by
    rw [he, ← KeyedList.set_eq_modify m.ids_nodup hi hid]
  refine ⟨?_, ?_, ?_, ?_, ?_⟩
  · rw [hset, List.map_set, Registry.setClient, h.client_eq hi]
    exact h.clients.set (by rwa [List.length_map]) _
  · rw [hset, List.map_set]
    have hb : (m.entries.map Entry.basicMode).set i e.basicMode = m.entries.map Entry.basicMode :=
      by rw [← List.map_set, ← hei, List.set_getElem_self]
    rw [show Entry.basicMode { e with info := f e.info } = e.basicMode from rfl, hb]
    exact h.basicModes
  · rw [hset, List.length_set]
    exact h.clientCount
  · rw [hm]
    exact h.idMappings
  · rw [hm]
    exact h.idMappingCount

theorem removeClient_lists (h : reg.Lists m) {i : Nat} {e : Entry}
    (hi : m.entries[i]? = some e) : (reg.removeClient i).Lists (m.erase e.id) := by
  obtain ⟨hlt, -⟩ := List.getElem?_eq_some_iff.mp hi
  have herase : (m.erase e.id).entries = m.entries.eraseIdx i :=
    (KeyedList.eraseIdx_eq_erase m.ids_nodup hi rfl).symm
  refine ⟨?_, ?_, ?_, h.idMappings, h.idMappingCount⟩
  · rw [herase, ← List.eraseIdx_map, Registry.removeClient, h.clientCount]
    simpa using h.clients.remove (by rwa [List.length_map])
  · rw [herase, ← List.eraseIdx_map, Registry.removeClient, h.clientCount]
    simpa using h.basicModes.remove (by rwa [List.length_map])
  · rw [herase, List.length_eraseIdx_of_lt hlt, Registry.removeClient, h.clientCount]

/-! ## Operations -/

theorem setBasicMode_lists (h : reg.Lists m) (id : Id) (value : Bool) :
    (clientRegistrySetBasicMode reg id value).1.Lists (m.setBasicMode id value) ∧
      (clientRegistrySetBasicMode reg id value).2 = if id ∈ m.ids then 0 else -1 := by
  rw [clientRegistrySetBasicMode]
  rcases h.get_cases id with ⟨hg, hid⟩ | ⟨i, e, hg, hi, hlt, hei, he⟩
  · have hsame : m.setBasicMode id value = m :=
      RegMap.ext (KeyedList.modify_of_notMem hid) rfl
    rw [hg, if_neg hid, hsame]
    exact ⟨h, rfl⟩
  · have hset : (m.setBasicMode id value).entries = m.entries.set i { e with basicMode := value } :=
      (KeyedList.set_eq_modify m.ids_nodup hi hei).symm
    have hinfo : (m.entries.map Entry.info).set i e.info = m.entries.map Entry.info := by
      obtain ⟨_, hget⟩ := List.getElem?_eq_some_iff.mp hi
      rw [← List.map_set, ← hget, List.set_getElem_self]
    have hmem : id ∈ m.ids := KeyedList.mem_keys_of_lookup he
    rw [hg, if_pos hmem]
    refine ⟨⟨?_, ?_, ?_, h.idMappings, h.idMappingCount⟩, rfl⟩
    · rw [hset, List.map_set, hinfo]
      exact h.clients
    · rw [hset, List.map_set]
      exact h.basicModes.set (by rwa [List.length_map]) value
    · rw [hset, List.length_set]
      exact h.clientCount

theorem clearIdMapping_lists (h : reg.Lists m) {id : Id} (hid : id ≠ CStr.empty) :
    (clientRegistryClearIdMapping reg id).Lists (m.clearMapping id) := by
  unfold clientRegistryClearIdMapping
  rw [CStr.isEmpty_eq_false.mpr hid]
  rcases h.mappingSlot_cases id with ⟨hg, hn⟩ | ⟨i, p, hg, hi, hlt, hp, -⟩
  · have hsame : m.clearMapping id = m := RegMap.ext rfl (KeyedList.erase_of_notMem hn)
    rw [hg, hsame]
    exact h
  · have herase : (m.clearMapping id).mappings = m.mappings.eraseIdx i :=
      (KeyedList.eraseIdx_eq_erase m.olds_nodup hi hp).symm
    rw [hg]
    refine ⟨h.clients, h.basicModes, h.clientCount, ?_, ?_⟩
    · rw [herase]
      simpa [h.idMappingCount] using h.idMappings.remove hlt
    · rw [herase, List.length_eraseIdx_of_lt hlt, ← h.idMappingCount]
      rfl

theorem putMapping_lists (h : reg.Lists m) {old new : Id} (hne : old ≠ new)
    (hnew : new ≠ CStr.empty) (hroom : m.MappingRoom old) :
    ∃ reg', putMapping reg old new = some reg' ∧
      reg'.Lists (m.putMapping old new hne hnew hroom) := by
  rw [IndoorLogger.putMapping]
  rcases h.mappingSlot_cases old with ⟨hg, hn⟩ | ⟨i, p, hg, hi, hlt, hp, hlook⟩
  · have hput : (m.putMapping old new hne hnew hroom).mappings = m.mappings ++ [⟨old, new⟩] :=
      if_neg hn
    have hlt : m.mappings.length < 16 := hroom.resolve_left hn
    rw [hg, h.idMappingCount, if_neg (by rw [clientRegistryMaxClients]; omega)]
    refine ⟨_, rfl, h.clients, h.basicModes, h.clientCount, ?_, ?_⟩
    · rw [hput]
      exact h.idMappings.push hlt _
    · rw [hput, List.length_append]
      rfl
  · have hput : (m.putMapping old new hne hnew hroom).mappings = m.mappings.set i ⟨old, new⟩ :=
      (if_pos (KeyedList.mem_keys_of_lookup hlook)).trans
        (KeyedList.set_eq_modify m.olds_nodup hi hp).symm
    rw [hg]
    refine ⟨_, rfl, h.clients, h.basicModes, h.clientCount, ?_, ?_⟩
    · rw [hput]
      exact h.idMappings.set hlt _
    · rw [hput, List.length_set]
      exact h.idMappingCount

theorem putMapping_none (h : reg.Lists m) {old new : Id} (hroom : ¬m.MappingRoom old) :
    putMapping reg old new = none := by
  rw [IndoorLogger.putMapping]
  rcases h.mappingSlot_cases old with ⟨hg, -⟩ | ⟨i, p, -, -, -, -, hlook⟩
  · have hge : ¬m.mappings.length < 16 := fun hlt => hroom (Or.inr hlt)
    rw [hg, h.idMappingCount, if_pos (by rw [clientRegistryMaxClients]; omega)]
  · exact absurd (Or.inl (KeyedList.mem_keys_of_lookup hlook)) hroom

theorem renameId_lists (h : reg.Lists m) {old new : Id} (hc : m.CanRename old new) :
    (clientRegistryRenameId reg old new).1.Lists (m.rename old new hc) ∧
      (clientRegistryRenameId reg old new).2 = 0 := by
  obtain ⟨hnew, hne, hold, hfresh, hroom⟩ := id hc
  obtain ⟨i, e, hg, hi, hlt, hei, he⟩ :=
    (h.get_cases old).resolve_left fun hn => hn.2 hold
  have holdne : old ≠ CStr.empty := hei ▸ m.ids_ne e (List.mem_of_getElem? hi)
  obtain ⟨reg', hput, hreg'⟩ := putMapping_lists h hne hnew hroom
  have hr : clientRegistryRenameId reg old new =
      (reg'.setClient i fun e => { e with id := new }, 0) := by
    unfold clientRegistryRenameId
    rw [CStr.isEmpty_eq_false.mpr holdne, CStr.isEmpty_eq_false.mpr hnew,
      Bool.or_self, if_neg Bool.false_ne_true, if_neg hne, hg]
    dsimp only
    rw [if_neg (mt (h.isSome_get new).mp hfresh), hput]
  rw [hr]
  exact ⟨setClient_lists (f := fun c => { c with id := new }) hreg' hi hei rfl rfl, rfl⟩

/-- A refused rename returns -1, except that renaming an id to itself returns 0. -/
theorem renameId_refused (h : reg.Lists m) {old new : Id} (hc : ¬m.CanRename old new) :
    clientRegistryRenameId reg old new =
      (reg, if old = new ∧ old ≠ CStr.empty then 0 else -1) := by
  rw [clientRegistryRenameId]
  by_cases hemp : old = CStr.empty ∨ new = CStr.empty
  · have hb : (old.isEmpty || new.isEmpty) = true := by simpa using hemp
    rw [if_pos hb, if_neg]
    intro h'
    obtain ⟨rfl, hold⟩ := h'
    exact hold (hemp.elim id id)
  · obtain ⟨hold, hnew⟩ := not_or.mp hemp
    rw [CStr.isEmpty_eq_false.mpr hold, CStr.isEmpty_eq_false.mpr hnew, Bool.or_self,
      if_neg Bool.false_ne_true]
    by_cases hne : old = new
    · rw [if_pos hne, if_pos ⟨hne, hold⟩]
    · rw [if_neg hne, if_neg fun h => hne h.1]
      rcases h.get_cases old with ⟨hg, -⟩ | ⟨i, e, hg, -, -, -, he⟩
      · rw [hg]
      · rw [hg]
        dsimp only
        by_cases hfresh : new ∈ m.ids
        · rw [if_pos ((h.isSome_get new).mpr hfresh)]
        · rw [if_neg (mt (h.isSome_get new).mp hfresh), putMapping_none h]
          exact fun hroom => hc ⟨hnew, hne, KeyedList.mem_keys_of_lookup he, hfresh, hroom⟩

/-- A change of every client's information that keeps the ids. -/
theorem forEach_lists (h : reg.Lists m) (f : ClientInfo → ClientInfo)
    (hf : ∀ e : Entry, (f e.info).id = e.id) :
    Registry.Lists { reg with clients := SlotArray.forEach reg.clients f reg.clientCount }
      (m.map (fun e => { e with info := f e.info }) hf) := by
  have hentries : (m.map (fun e => { e with info := f e.info }) hf).entries =
      m.entries.map fun e => { e with info := f e.info } := rfl
  refine ⟨?_, ?_, ?_, h.idMappings, h.idMappingCount⟩
  · have := h.clients.forEach f
    rw [List.map_map, List.length_map, ← h.clientCount] at this
    rw [hentries, List.map_map]
    exact this
  · rw [hentries, List.map_map]
    exact h.basicModes
  · rw [hentries, List.length_map]
    exact h.clientCount

theorem checkStale_lists (h : reg.Lists m) (now timeoutSec : UInt32) :
    (clientRegistryCheckStale now timeoutSec reg).Lists (m.checkStale now timeoutSec) :=
  forEach_lists h (ClientInfo.markStale now timeoutSec) fun e =>
    RegMap.markStale_id now timeoutSec e.info

theorem delete_lists (h : reg.Lists m) (io : SaveIo) (nvs : Nvs) {id : Id} (hid : id ∈ m.ids) :
    (clientRegistryDelete io reg nvs id).1.1.Lists (m.erase id) ∧
      (clientRegistryDelete io reg nvs id).2 = 0 := by
  obtain ⟨i, e, hg, hi, hlt, hei, he⟩ := (h.get_cases id).resolve_left fun hn => hn.2 hid
  have hne : id ≠ CStr.empty := hei ▸ m.ids_ne e (List.mem_of_getElem? hi)
  unfold clientRegistryDelete
  rw [CStr.isEmpty_eq_false.mpr hne, hg]
  exact ⟨hei ▸ removeClient_lists h hi, rfl⟩

theorem delete_refused (h : reg.Lists m) (io : SaveIo) (nvs : Nvs) {id : Id} (hid : id ∉ m.ids) :
    clientRegistryDelete io reg nvs id = ((reg, nvs), -1) := by
  rw [clientRegistryDelete]
  rcases h.get_cases id with ⟨hg, -⟩ | ⟨i, e, -, -, -, -, he⟩
  · rw [hg]
    split <;> rfl
  · exact absurd (KeyedList.mem_keys_of_lookup he) hid

/-! ## client_registry_update -/

/-- What deduplication does to the files: the victim's is renamed. -/
def dedupFs (io : RenameIo) (m : RegMap) (fs : Fs) (id : Id) (ip : Option (List UInt8)) : Fs :=
  match m.victim id ip with
  | none => fs
  | some v => (dataStoreRenameClient io fs v.id id).1

theorem dedupSlot_cases (h : reg.Lists m) {id : Id} (hid : id ∉ m.ids)
    (ip : Option (List UInt8)) :
    ((given ip).bind (dedupSlot reg id) = none ∧ m.victim id ip = none) ∨
      ∃ i v, (given ip).bind (dedupSlot reg id) = some i ∧ m.victim id ip = some v ∧
        m.entries[i]? = some v := by
  rw [RegMap.victim, if_neg hid]
  cases given ip with
  | none => exact Or.inl ⟨rfl, rfl⟩
  | some ip =>
    have hslot : dedupSlot reg id ip =
        m.entries.findIdx? fun e => e.info.ipStr.bytes = ip.take 16 && e.id ≠ id := h.find_eq _
    simp only [Option.bind_some]
    rw [hslot, List.find?_eq_bind_findIdx?_getElem?]
    cases hf : m.entries.findIdx? fun e => e.info.ipStr.bytes = ip.take 16 && e.id ≠ id with
    | none => exact Or.inl ⟨rfl, rfl⟩
    | some i =>
      obtain ⟨hi, -⟩ := List.findIdx?_eq_some_iff_getElem.mp hf
      have hget : m.entries[i]? = some m.entries[i] := List.getElem?_eq_getElem hi
      exact Or.inr ⟨i, _, rfl, hget, hget⟩

theorem migrate_lists (h : reg.Lists m) (io : RenameIo) (fs : Fs) (id : Id) {i : Nat} {v : Entry}
    (hi : m.entries[i]? = some v) :
    (migrate io reg fs id i).1.Lists ((m.erase v.id).clearMapping v.id) ∧
      (migrate io reg fs id i).2 = (dataStoreRenameClient io fs v.id id).1 := by
  obtain ⟨hlt, -⟩ := List.getElem?_eq_some_iff.mp hi
  have hclient : (reg.client i).id = v.id := by
    rw [h.client_eq hi]
    rfl
  have hc := clearIdMapping_lists h (m.ids_ne v (List.mem_of_getElem? hi))
  have herase : ((m.erase v.id).clearMapping v.id).entries = m.entries.eraseIdx i :=
    (KeyedList.eraseIdx_eq_erase m.ids_nodup hi rfl).symm
  simp only [migrate, hclient, and_true]
  refine ⟨?_, ?_, ?_, hc.idMappings, hc.idMappingCount⟩
  · have := hc.clients.set_remove (i := i) (by rwa [List.length_map])
      ({ (clientRegistryClearIdMapping reg v.id).client i with
        id := CStr.empty, ipStr := CStr.empty } : ClientInfo)
    rw [List.length_map, ← hc.clientCount] at this
    rw [herase, ← List.eraseIdx_map]
    exact this
  · have := hc.basicModes.set_remove (i := i) (by rwa [List.length_map]) true
    rw [List.length_map, ← hc.clientCount] at this
    rw [herase, ← List.eraseIdx_map]
    exact this
  · rw [herase, List.length_eraseIdx_of_lt hlt, ← show _ = m.entries.length from hc.clientCount]
    rfl

theorem dedupStep_lists (h : reg.Lists m) (io : RenameIo) (fs : Fs) (id : Id)
    (ip : Option (List UInt8)) :
    (dedupStep io reg fs id ip).1.Lists (m.dedup id ip) ∧
      (dedupStep io reg fs id ip).2 = dedupFs io m fs id ip := by
  unfold dedupStep
  rw [RegMap.dedup, dedupFs]
  rcases h.get_cases id with ⟨hg, hid⟩ | ⟨i, e, hg, -, -, -, he⟩
  · rw [hg]
    rcases dedupSlot_cases h hid ip with ⟨hs, hv⟩ | ⟨i, v, hs, hv, hi⟩
    · rw [hs, hv]
      exact ⟨h, rfl⟩
    · rw [hs, hv]
      exact migrate_lists h io fs id hi
  · have hmem : id ∈ m.ids := KeyedList.mem_keys_of_lookup he
    have hv : m.victim id ip = none := by rw [RegMap.victim, if_pos hmem]
    rw [hg, hv]
    exact ⟨h, rfl⟩

/-- The slot that a new client takes is blank, but for its id. -/
theorem addClient_lists (h : reg.Lists m) {id : Id} (hid : id ≠ CStr.empty) (hn : id ∉ m.ids)
    (hroom : m.entries.length < 16) :
    ({ ({ reg with clientCount := m.entries.length + 1 } : Registry).setClient m.entries.length
          (fun c => { c with id := id }) with
        basicModes := reg.basicModes.setIfInBounds m.entries.length true } : Registry).Lists
      (m.append (RegMap.blank id) hroom hn hid) := by
  have hentries : (m.append (RegMap.blank id) hroom hn hid).entries =
      m.entries ++ [RegMap.blank id] := rfl
  have hblank : reg.clients[m.entries.length]? = some ClientInfo.zero :=
    h.clients.blank (by rw [List.length_map]) hroom
  refine ⟨?_, ?_, ?_, h.idMappings, h.idMappingCount⟩
  · have := h.clients.push (by rwa [List.length_map]) { ClientInfo.zero with id := id }
    rw [hentries, List.map_append]
    simpa [Registry.setClient, Registry.client, hblank, RegMap.blank] using this
  · have := h.basicModes.push (by rwa [List.length_map]) true
    rw [hentries, List.map_append]
    simpa [RegMap.blank] using this
  · rw [hentries, List.length_append]
    rfl

theorem enrollStep_lists (h : reg.Lists m) (now : UInt32) {id : Id} (hid : id ≠ CStr.empty)
    (name ip : Option (List UInt8)) (overwriteName : Bool) :
    (enrollStep now reg id name ip overwriteName).1.Lists
        (m.enroll now id hid name ip overwriteName).1 ∧
      (enrollStep now reg id name ip overwriteName).2 =
        (m.enroll now id hid name ip overwriteName).2 := by
  unfold enrollStep
  rw [RegMap.enroll]
  rcases h.get_cases id with ⟨hg, hn⟩ | ⟨i, e, hg, hi, hlt, hei, he⟩
  · rw [hg, dif_neg hn, h.clientCount]
    by_cases hroom : m.entries.length < 16
    · rw [dif_pos hroom]
      dsimp only
      rw [if_neg (by rw [clientRegistryMaxClients]; omega)]
      refine ⟨setClient_lists (addClient_lists h hid hn hroom)
        (List.getElem?_concat_length ..) rfl rfl ?_, rfl⟩
      exact (KeyedList.modify_append_singleton (x := RegMap.blank id)
        (f := RegMap.touch now name ip overwriteName) hn rfl).symm
    · rw [dif_neg hroom]
      dsimp only
      rw [if_pos (by rw [clientRegistryMaxClients]; omega)]
      exact ⟨h, rfl⟩
  · have hmem : id ∈ m.ids := KeyedList.mem_keys_of_lookup he
    rw [hg, dif_pos hmem]
    exact ⟨setClient_lists h hi hei rfl rfl, rfl⟩

theorem update_lists (h : reg.Lists m) (io : RenameIo) (now : UInt32) (fs : Fs) {id : Id}
    (hid : id ≠ CStr.empty) (name ip : Option (List UInt8)) (overwriteName : Bool) :
    (clientRegistryUpdate io now reg fs id name ip overwriteName).1.1.Lists
        (m.update now id hid name ip overwriteName).1 ∧
      (clientRegistryUpdate io now reg fs id name ip overwriteName).1.2 =
        dedupFs io m fs id ip ∧
      (clientRegistryUpdate io now reg fs id name ip overwriteName).2 =
        (m.update now id hid name ip overwriteName).2 := by
  obtain ⟨hd, hfs⟩ := dedupStep_lists h io fs id ip
  obtain ⟨ha, hret⟩ := enrollStep_lists hd now hid name ip overwriteName
  exact ⟨ha, hfs, hret⟩

/-! ## When the registry is full -/

namespace RegMap

theorem victim_of_mem {id : Id} (h : id ∈ m.ids) (ip : Option (List UInt8)) :
    m.victim id ip = none := by
  unfold victim
  rw [if_pos h]

theorem mem_of_victim {id : Id} {ip : Option (List UInt8)} {v : Entry}
    (h : m.victim id ip = some v) : v ∈ m.entries := by
  rw [victim] at h
  split at h
  · cases h
  · obtain ⟨a, -, ha⟩ := Option.bind_eq_some_iff.mp h
    exact List.mem_of_find?_eq_some ha

theorem dedup_of_victim_none {id : Id} {ip : Option (List UInt8)} (h : m.victim id ip = none) :
    m.dedup id ip = m := by
  unfold dedup
  rw [h]

theorem mem_dedup_ids {id : Id} {ip : Option (List UInt8)} :
    id ∈ (m.dedup id ip).ids ↔ id ∈ m.ids := by
  by_cases h : id ∈ m.ids
  · rw [dedup_of_victim_none (victim_of_mem h ip)]
  · rw [dedup]
    cases m.victim id ip with
    | none => exact Iff.rfl
    | some v =>
      have : id ∈ ((m.erase v.id).clearMapping v.id).ids ↔ id ∈ m.ids ∧ id ≠ v.id :=
        KeyedList.mem_map_key_erase
      simp only [this, h, false_and]

theorem length_erase_lt {v : Entry} (h : v ∈ m.entries) :
    (m.erase v.id).entries.length < m.entries.length :=
  List.length_filter_lt_length_iff_exists.mpr ⟨v, h, by simp⟩

/-- An update is refused exactly when the client is new, no client gives up its slot and all
    slots are taken. -/
theorem update_refused_iff (now : UInt32) {id : Id} (hid : id ≠ CStr.empty)
    (name ip : Option (List UInt8)) (overwriteName : Bool) :
    (m.update now id hid name ip overwriteName).2 = -1 ↔
      id ∉ m.ids ∧ m.victim id ip = none ∧ m.entries.length = 16 := by
  have hle := m.entries_le
  unfold update
  rw [enroll]
  by_cases hmem : id ∈ m.ids
  · rw [dif_pos (mem_dedup_ids.mpr hmem)]
    simp [hmem]
  · rw [dif_neg (mt mem_dedup_ids.mp hmem)]
    cases hv : m.victim id ip with
    | none =>
      simp only [dedup_of_victim_none hv]
      by_cases hroom : m.entries.length < 16
      · rw [dif_pos hroom]
        simp only [Int.reduceNeg, reduceCtorEq, hmem, not_false_eq_true, true_and, false_iff]
        omega
      · rw [dif_neg hroom]
        simp only [hmem, not_false_eq_true, true_and, true_iff]
        omega
    | some v =>
      have hlt := length_erase_lt (mem_of_victim hv)
      have hroom : (m.dedup id ip).entries.length < 16 := by
        unfold dedup
        rw [hv]
        exact Nat.lt_of_lt_of_le hlt hle
      rw [dif_pos hroom]
      simp

end RegMap

theorem dedupStep_of_victim_none (h : reg.Lists m) (io : RenameIo) (fs : Fs) {id : Id}
    {ip : Option (List UInt8)} (hv : m.victim id ip = none) :
    dedupStep io reg fs id ip = (reg, fs) := by
  rw [dedupStep]
  rcases h.get_cases id with ⟨hg, hid⟩ | ⟨i, e, hg, -, -, -, he⟩
  · rw [hg]
    rcases dedupSlot_cases h hid ip with ⟨hs, -⟩ | ⟨i, v, -, hv', -⟩
    · rw [hs]
    · rw [hv] at hv'
      cases hv'
  · rw [hg]

/-- A refused update changes neither registry nor files. -/
theorem update_refused (h : reg.Lists m) (io : RenameIo) (now : UInt32) (fs : Fs) {id : Id}
    (hid : id ≠ CStr.empty) (name ip : Option (List UInt8)) (overwriteName : Bool)
    (hret : (clientRegistryUpdate io now reg fs id name ip overwriteName).2 = -1) :
    clientRegistryUpdate io now reg fs id name ip overwriteName = ((reg, fs), -1) := by
  obtain ⟨-, -, hr⟩ := update_lists h io now fs hid name ip overwriteName
  obtain ⟨hn, hv, -⟩ := (RegMap.update_refused_iff now hid name ip overwriteName).mp (hr ▸ hret)
  rw [clientRegistryUpdate, dedupStep_of_victim_none h io fs hv] at hret ⊢
  obtain ⟨hg, -⟩ := (h.get_cases id).resolve_right fun ⟨_, _, _, _, _, _, he⟩ =>
    hn (KeyedList.mem_keys_of_lookup he)
  simp only [enrollStep, hg] at hret ⊢
  split at hret
  case isTrue hfull => rw [if_pos hfull]
  case isFalse => cases hret

end IndoorLogger
