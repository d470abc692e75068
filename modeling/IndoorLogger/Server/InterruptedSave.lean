import IndoorLogger.Server.Restart

/-
  A `client_registry_save` that stops between its five keys. The arrays are written before
  the counts that say how much of them is in use, so that what is loaded pairs new arrays with
  old counts, and new clients with old modes. `interrupted_save_iff` says after which cuts
  this still is one of the two registries.
-/

namespace IndoorLogger

/-! ## What a client keeps -/

/-- The id, name and mode of a client. -/
structure Profile where
  id : Id
  name : CStr 32
  basicMode : Bool
  deriving DecidableEq

def profileOf (c : ClientInfo) (basicMode : Bool) : Profile := ⟨c.id, c.name, basicMode⟩

def Entry.profile (e : Entry) : Profile := profileOf e.info e.basicMode

/-- The profiles of the registered clients, in order. -/
def Registry.profiles (reg : Registry) : List Profile :=
  List.zipWith profileOf (reg.clients.toList.take reg.clientCount)
    (reg.basicModes.toList.take reg.clientCount)

def RegMap.profiles (m : RegMap) : List Profile := m.entries.map Entry.profile

/-- The id that a table of renames sends `id` to. -/
def resolveIn (l : List IdChangeMapping) (id : Id) : Id :=
  ((KeyedList.lookup IdChangeMapping.oldId l id).map IdChangeMapping.newId).getD id

/-- Two lists have the same members. -/
def SameMembers {α : Type} (l l' : List α) : Prop := l ⊆ l' ∧ l' ⊆ l

instance {α : Type} [DecidableEq α] (l l' : List α) : Decidable (SameMembers l l') :=
  inferInstanceAs (Decidable (_ ∧ _))

/-- The registry has the clients and the renames of the map, in any order. -/
structure LoadsAs (m : RegMap) (reg : Registry) : Prop where
  profiles : SameMembers reg.profiles m.profiles
  resolve : ∀ id, clientRegistryResolveId reg id = m.resolve id

/-- The registry is one of the two, and no client has an empty id. -/
structure OldOrNew (old new : RegMap) (reg : Registry) : Prop where
  loadsAs : LoadsAs old reg ∨ LoadsAs new reg
  ids_ne : ∀ x ∈ reg.profiles, x.id ≠ CStr.empty

/-! ## Where a save stops -/

/-- How many of the five `nvs_set` calls complete. -/
def SaveIo.completed (io : SaveIo) : Nat :=
  if io.nvsOpen || io.setClients then 0
  else if io.setBasicModes then 1
  else if io.setCount then 2
  else if io.setIdMappings then 3
  else if io.setIdMappingCount then 4
  else 5

/-- The image of `old` after the first `p` calls of a save of `new`. -/
def Registry.overwritten (old new : Registry) (p : Nat) : Registry where
  clients := if 1 ≤ p then new.clients else old.clients
  basicModes := if 2 ≤ p then new.basicModes else old.basicModes
  clientCount := if 3 ≤ p then new.clientCount else old.clientCount
  idMappings := if 4 ≤ p then new.idMappings else old.idMappings
  idMappingCount := if 5 ≤ p then new.idMappingCount else old.idMappingCount

theorem save_eq_overwritten (old new : Registry) (io : SaveIo) :
    (clientRegistrySave io new old.image).1 = (old.overwritten new io.completed).image := by
  obtain ⟨nvsOpen, setClients, setBasicModes, setCount, setIdMappings, setIdMappingCount,
    commit⟩ := io
  cases nvsOpen
  case true => rfl
  cases setClients
  case true => rfl
  cases setBasicModes
  case true => rfl
  cases setCount
  case true => rfl
  cases setIdMappings
  case true => rfl
  cases setIdMappingCount
  case true => rfl
  case false => rfl

/-- The new clients with the old modes. -/
def RegMap.mixedProfiles (old new : RegMap) : List Profile :=
  List.zipWith (fun e e' => profileOf e.info e'.basicMode) new.entries old.entries

/-- The same ids are renamed to the same ids. -/
def SameRenames (old new : RegMap) : Prop := ∀ id, old.resolve id = new.resolve id

/-- When a save of `new` over `old` may stop after `p` calls. Before the count is written the
    new array must not be shorter than the old count, nor the old table of renames longer than
    the new one after its array is written, and what is loaded has all changes or none. -/
def SafeCut (old new : RegMap) : Nat → Prop
  | 0 => True
  | 1 => old.entries.length ≤ new.entries.length ∧
      (SameMembers (old.mixedProfiles new) old.profiles ∨
        old.entries.length = new.entries.length ∧
          old.entries.map Entry.basicMode = new.entries.map Entry.basicMode ∧
          SameRenames old new)
  | 2 => old.entries.length ≤ new.entries.length ∧
      (SameMembers (new.profiles.take old.entries.length) old.profiles ∨
        old.entries.length = new.entries.length ∧ SameRenames old new)
  | 3 => SameMembers new.profiles old.profiles ∨ SameRenames old new
  | 4 => new.mappings.length ≤ old.mappings.length ∨
      SameMembers new.profiles old.profiles ∧
        ∀ id, resolveIn (new.mappings.take old.mappings.length) id = old.resolve id
  | _ => True

/-! ## What is loaded -/

section

variable {reg : Registry}

theorem profiles_offline (reg : Registry) : reg.offline.profiles = reg.profiles := by
  have hclients : reg.offline.clients.toList.take reg.clientCount =
      (reg.clients.toList.take reg.clientCount).map fun c => { c with online := false } := by
    apply List.ext_getElem?
    intro i
    rw [List.getElem?_map]
    by_cases hi : i < reg.clientCount
    · rw [List.getElem?_take_of_lt hi, List.getElem?_take_of_lt hi, Vector.getElem?_toList,
        offline_getElem?, if_pos hi, Vector.getElem?_toList]
    · rw [List.getElem?_take, if_neg hi, List.getElem?_take, if_neg hi]
      rfl
  have : reg.offline.profiles = List.zipWith profileOf
      (reg.offline.clients.toList.take reg.clientCount)
      (reg.basicModes.toList.take reg.clientCount) := rfl
  rw [this, hclients, List.zipWith_map_left]
  rfl

/-- The first `count` slots of an array that holds at least as many. -/
theorem take_toList {α : Type} {v : Vector α 16} {z : α} {l : List α}
    (h : SlotArray.Holds v z l) {count : Nat} (hc : count ≤ l.length) :
    v.toList.take count = l.take count := by
  rw [h.toList_eq, List.take_append_of_le_length hc]

theorem ids_of_profiles (m : RegMap) : m.profiles.map Profile.id = m.ids := by
  unfold RegMap.profiles
  rw [List.map_map]
  rfl

theorem profile_ids_ne (m : RegMap) : ∀ x ∈ m.profiles, x.id ≠ CStr.empty := by
  intro x hx
  obtain ⟨e, he, rfl⟩ := List.mem_map.mp hx
  exact m.ids_ne e he

/-- A count beyond the clients takes in a blank slot. -/
theorem blank_profile {m : RegMap}
    (h : SlotArray.Holds reg.clients ClientInfo.zero (m.entries.map Entry.info))
    (hlt : m.entries.length < reg.clientCount) (hc : reg.clientCount ≤ 16) :
    ∃ x ∈ reg.profiles, x.id = CStr.empty := by
  have hn : m.entries.length < 16 := by omega
  have hslot : (reg.clients.toList.take reg.clientCount)[m.entries.length]? =
      some ClientInfo.zero := by
    rw [List.getElem?_take_of_lt hlt, Vector.getElem?_toList]
    exact h.blank (by rw [List.length_map]) hn
  have hmode : (reg.basicModes.toList.take reg.clientCount)[m.entries.length]? =
      some reg.basicModes[m.entries.length] := by
    rw [List.getElem?_take_of_lt hlt, Vector.getElem?_toList, Vector.getElem?_eq_getElem hn]
  refine ⟨profileOf ClientInfo.zero reg.basicModes[m.entries.length], ?_, rfl⟩
  apply List.mem_of_getElem? (i := m.entries.length)
  unfold Registry.profiles
  rw [List.getElem?_zipWith, hslot, hmode]

theorem resolveIn_append_blank (l : List IdChangeMapping) (n : Nat) (id : Id) :
    resolveIn (l ++ List.replicate n IdChangeMapping.zero) id = resolveIn l id := by
  unfold resolveIn KeyedList.lookup
  rw [List.find?_append]
  cases l.find? fun p => p.oldId = id with
  | some p => rfl
  | none =>
    rw [Option.none_or]
    cases hf : (List.replicate n IdChangeMapping.zero).find? fun p => p.oldId = id with
    | none => rfl
    | some p =>
      have hz : p = IdChangeMapping.zero := List.eq_of_mem_replicate (List.mem_of_find?_eq_some hf)
      have hid : p.oldId = id := by simpa using List.find?_some hf
      rw [← hid, hz]
      rfl

/-- The renames that a count takes in. Blank slots do not matter. -/
theorem resolve_taken {l : List IdChangeMapping}
    (h : SlotArray.Holds reg.idMappings IdChangeMapping.zero l) (hc : reg.idMappingCount ≤ 16)
    (id : Id) : clientRegistryResolveId reg id = resolveIn (l.take reg.idMappingCount) id := by
  have hslots : clientRegistryResolveId reg id =
      resolveIn (reg.idMappings.toList.take reg.idMappingCount) id := by
    unfold clientRegistryResolveId mappingSlot
    rw [SlotArray.find_eq_findIdx? _ hc, resolveIn]
    rcases KeyedList.findIdx?_isSome_or IdChangeMapping.oldId
      (reg.idMappings.toList.take reg.idMappingCount) id with ⟨hn, hid⟩ | ⟨i, p, hf, hi, hlt, -, hp⟩
    · rw [hn, KeyedList.lookup_eq_none.mpr hid]
      rfl
    · rw [List.length_take] at hlt
      rw [List.getElem?_take_of_lt (by omega), Vector.getElem?_toList] at hi
      rw [hf, hp, Option.bind_some, hi]
      rfl
  rw [hslots, h.toList_eq, List.take_append, List.take_replicate, resolveIn_append_blank]

theorem oldOrNew_offline {old new : RegMap} :
    OldOrNew old new reg.offline ↔ OldOrNew old new reg := by
  have hloads : ∀ m, LoadsAs m reg.offline ↔ LoadsAs m reg := by
    intro m
    constructor
    · rintro ⟨hp, hr⟩
      exact ⟨profiles_offline reg ▸ hp, hr⟩
    · rintro ⟨hp, hr⟩
      exact ⟨(profiles_offline reg).symm ▸ hp, hr⟩
  constructor
  · rintro ⟨hl, hne⟩
    exact ⟨hl.imp (hloads old).mp (hloads new).mp, profiles_offline reg ▸ hne⟩
  · rintro ⟨hl, hne⟩
    exact ⟨hl.imp (hloads old).mpr (hloads new).mpr, (profiles_offline reg).symm ▸ hne⟩

/-- Which of the two registries has these clients and these renames. -/
theorem oldOrNew_iff {old new : RegMap} {ps : List Profile} (hp : reg.profiles = ps)
    (hne : ∀ x ∈ ps, x.id ≠ CStr.empty) {rename : Id → Id}
    (hr : ∀ id, clientRegistryResolveId reg id = rename id) :
    OldOrNew old new reg ↔
      SameMembers ps old.profiles ∧ (∀ id, rename id = old.resolve id) ∨
      SameMembers ps new.profiles ∧ (∀ id, rename id = new.resolve id) := by
  constructor
  · rintro ⟨⟨hps, hres⟩ | ⟨hps, hres⟩, -⟩
    · exact Or.inl ⟨hp ▸ hps, fun id => (hr id).symm.trans (hres id)⟩
    · exact Or.inr ⟨hp ▸ hps, fun id => (hr id).symm.trans (hres id)⟩
  · rintro (⟨hps, hres⟩ | ⟨hps, hres⟩)
    · exact ⟨Or.inl ⟨hp.symm ▸ hps, fun id => (hr id).trans (hres id)⟩, hp.symm ▸ hne⟩
    · exact ⟨Or.inr ⟨hp.symm ▸ hps, fun id => (hr id).trans (hres id)⟩, hp.symm ▸ hne⟩

end

/-! ## Cut by cut -/

section

variable {R N : Registry} {old new : RegMap}

theorem Registry.Lists.inRange (h : R.Lists old) : R.InRange :=
  ⟨h.clientCount ▸ old.entries_le, h.idMappingCount ▸ old.mappings_le⟩

theorem resolve_lists (h : R.Lists old) {reg : Registry} (hm : reg.idMappings = R.idMappings)
    (hc : reg.idMappingCount = R.idMappingCount) (id : Id) :
    clientRegistryResolveId reg id = old.resolve id := by
  rw [← resolveId_eq h, clientRegistryResolveId, mappingSlot, hm, hc]
  rfl

/-- Clients of the new array under a count that it covers. -/
theorem profiles_lists (h : N.Lists new) (reg : Registry) (hclients : reg.clients = N.clients)
    (hmodes : reg.basicModes = N.basicModes) (hc : reg.clientCount ≤ new.entries.length) :
    reg.profiles = new.profiles.take reg.clientCount := by
  unfold Registry.profiles
  rw [hclients, hmodes, take_toList h.clients (by rwa [List.length_map]),
    take_toList h.basicModes (by rwa [List.length_map]), ← List.take_zipWith, List.zipWith_map,
    List.zipWith_self]
  rfl

/-- A list with all profiles of a map is at least as long. -/
theorem length_le_of_profiles {ps : List Profile} (h : new.profiles ⊆ ps) :
    new.entries.length ≤ ps.length := by
  have hsub : new.ids ⊆ ps.map Profile.id := by
    rw [← ids_of_profiles]
    exact List.map_subset _ h
  have := (List.subperm_of_subset new.ids_nodup hsub).length_le
  rwa [List.length_map, List.length_map] at this

theorem sameMembers_refl {α : Type} (l : List α) : SameMembers l l :=
  ⟨List.Subset.refl _, List.Subset.refl _⟩

theorem sameMembers_take {k : Nat} (hk : k ≤ new.entries.length) :
    SameMembers (new.profiles.take k) new.profiles ↔ k = new.entries.length := by
  have hlen : new.profiles.length = new.entries.length := List.length_map _
  constructor
  · rintro ⟨-, hsub⟩
    have := length_le_of_profiles hsub
    rw [List.length_take] at this
    omega
  · intro hkn
    rw [List.take_of_length_le (by omega)]
    exact sameMembers_refl _

/-- The new clients with the old modes are the new registry's only if no mode has changed. -/
theorem sameMembers_mixed (hk : old.entries.length ≤ new.entries.length) :
    SameMembers (old.mixedProfiles new) new.profiles ↔
      old.entries.length = new.entries.length ∧
        old.entries.map Entry.basicMode = new.entries.map Entry.basicMode := by
  have hlen : (old.mixedProfiles new).length = old.entries.length := by
    rw [RegMap.mixedProfiles, List.length_zipWith]
    omega
  constructor
  · rintro ⟨hsub, hsup⟩
    have hle := length_le_of_profiles hsup
    have heq : old.entries.length = new.entries.length := by omega
    refine ⟨heq, List.ext_getElem (by simpa using heq) fun i hi hi' => ?_⟩
    rw [List.length_map] at hi hi'
    -- the profile in place `i` is that of a new client, and ids are distinct
    have hmem : profileOf new.entries[i].info old.entries[i].basicMode ∈ old.mixedProfiles new := by
      apply List.mem_of_getElem? (i := i)
      rw [RegMap.mixedProfiles, List.getElem?_zipWith, List.getElem?_eq_getElem hi,
        List.getElem?_eq_getElem hi']
    obtain ⟨e, he, hprofile⟩ := List.mem_map.mp (hsub hmem)
    have hid : e.id = new.entries[i].id := congrArg Profile.id hprofile
    have hee : e = new.entries[i] :=
      KeyedList.eq_of_key_eq new.ids_nodup he (List.getElem_mem hi') hid
    rw [List.getElem_map, List.getElem_map, ← hee]
    exact (congrArg Profile.basicMode hprofile).symm
  · rintro ⟨-, hmodes⟩
    have : old.mixedProfiles new = new.profiles := by
      have hzip : old.mixedProfiles new = List.zipWith profileOf (new.entries.map Entry.info)
          (old.entries.map Entry.basicMode) := by
        rw [List.zipWith_map]
        rfl
      rw [hzip, hmodes, List.zipWith_map, List.zipWith_self]
      rfl
    rw [this]
    exact sameMembers_refl _

/-- A count that the new array does not cover. -/
theorem not_oldOrNew (hN : N.Lists new) {reg : Registry} (hclients : reg.clients = N.clients)
    (hlt : new.entries.length < reg.clientCount) (hc : reg.clientCount ≤ 16) :
    ¬OldOrNew old new reg := by
  intro h
  obtain ⟨x, hx, hid⟩ := blank_profile (hclients ▸ hN.clients) hlt hc
  exact h.ids_ne x hx hid

theorem oldOrNew_zero (hR : R.Lists old) : OldOrNew old new (R.overwritten N 0) := by
  have hc : R.clientCount = old.entries.length := hR.clientCount
  have hp : (R.overwritten N 0).profiles = old.profiles := by
    rw [profiles_lists hR (R.overwritten N 0) rfl rfl hc.le]
    exact List.take_of_length_le (by rw [RegMap.profiles, List.length_map]; exact hc.ge)
  exact (oldOrNew_iff hp (profile_ids_ne old) (resolve_lists hR rfl rfl)).mpr
    (Or.inl ⟨sameMembers_refl _, fun _ => rfl⟩)

theorem oldOrNew_one (hR : R.Lists old) (hN : N.Lists new) :
    OldOrNew old new (R.overwritten N 1) ↔ SafeCut old new 1 := by
  have hc : (R.overwritten N 1).clientCount = old.entries.length := hR.clientCount
  rw [SafeCut]
  by_cases hk : old.entries.length ≤ new.entries.length
  · have hp : (R.overwritten N 1).profiles = old.mixedProfiles new := by
      unfold Registry.profiles
      rw [hc, show (R.overwritten N 1).clients = N.clients from rfl,
        show (R.overwritten N 1).basicModes = R.basicModes from rfl,
        take_toList hN.clients (by rwa [List.length_map]),
        take_toList hR.basicModes (by rw [List.length_map]), ← List.take_zipWith,
        List.zipWith_map, List.take_of_length_le (by rw [List.length_zipWith]; omega)]
      rfl
    have hne : ∀ x ∈ old.mixedProfiles new, x.id ≠ CStr.empty := by
      intro x hx
      obtain ⟨i, hi⟩ := List.mem_iff_getElem?.mp hx
      rw [RegMap.mixedProfiles, List.getElem?_zipWith] at hi
      split at hi
      case h_1 e e' he _ =>
        cases hi
        exact new.ids_ne e (List.mem_of_getElem? he)
      case h_2 => cases hi
    rw [oldOrNew_iff hp hne (resolve_lists hR rfl rfl), sameMembers_mixed hk]
    simp only [implies_true, and_true, hk, true_and, and_assoc]
    rfl
  · refine iff_of_false (not_oldOrNew hN rfl (by omega) (hc ▸ old.entries_le)) fun h => hk h.1

theorem oldOrNew_two (hR : R.Lists old) (hN : N.Lists new) :
    OldOrNew old new (R.overwritten N 2) ↔ SafeCut old new 2 := by
  have hc : (R.overwritten N 2).clientCount = old.entries.length := hR.clientCount
  rw [SafeCut]
  by_cases hk : old.entries.length ≤ new.entries.length
  · have hp := profiles_lists hN (R.overwritten N 2) rfl rfl (hc ▸ hk)
    rw [hc] at hp
    have hne : ∀ x ∈ new.profiles.take old.entries.length, x.id ≠ CStr.empty := fun x hx =>
      profile_ids_ne new x (List.mem_of_mem_take hx)
    rw [oldOrNew_iff hp hne (resolve_lists hR rfl rfl), sameMembers_take hk]
    simp only [implies_true, and_true, hk, true_and]
    rfl
  · refine iff_of_false (not_oldOrNew hN rfl (by omega) (hc ▸ old.entries_le)) fun h => hk h.1

theorem profiles_counted (hN : N.Lists new) (reg : Registry) (hclients : reg.clients = N.clients)
    (hmodes : reg.basicModes = N.basicModes) (hcount : reg.clientCount = N.clientCount) :
    reg.profiles = new.profiles := by
  have hc : reg.clientCount = new.entries.length := hcount.trans hN.clientCount
  rw [profiles_lists hN reg hclients hmodes hc.le]
  exact List.take_of_length_le (by rw [RegMap.profiles, List.length_map]; exact hc.ge)

theorem oldOrNew_three (hR : R.Lists old) (hN : N.Lists new) :
    OldOrNew old new (R.overwritten N 3) ↔ SafeCut old new 3 := by
  rw [SafeCut, oldOrNew_iff (profiles_counted hN (R.overwritten N 3) rfl rfl rfl)
    (profile_ids_ne new) (resolve_lists hR rfl rfl)]
  simp only [implies_true, and_true, sameMembers_refl, true_and]
  rfl

/-- A rename that is cut off is not the new one. -/
theorem resolveIn_take_iff (k : Nat) :
    (∀ id, resolveIn (new.mappings.take k) id = new.resolve id) ↔ new.mappings.length ≤ k := by
  constructor
  · intro h
    by_contra hk
    rw [not_le] at hk
    have hmem : new.mappings[k] ∈ new.mappings := List.getElem_mem hk
    have hlook := KeyedList.lookup_of_mem new.olds_nodup hmem
    have hcut : KeyedList.lookup IdChangeMapping.oldId (new.mappings.take k)
        new.mappings[k].oldId = none := by
      rw [KeyedList.lookup_eq_none]
      intro hin
      obtain ⟨p, hp, hpk⟩ := List.mem_map.mp hin
      obtain ⟨i, hi, hpi⟩ := List.mem_take_iff_getElem.mp hp
      have hik : i < k := by omega
      have heq := KeyedList.eq_of_key_eq new.olds_nodup (List.mem_of_mem_take hp) hmem hpk
      have hnd : new.mappings.Nodup := List.Nodup.of_map _ new.olds_nodup
      have := (List.Nodup.getElem_inj_iff hnd).mp (hpi.trans heq)
      omega
    have := h new.mappings[k].oldId
    rw [resolveIn, hcut, RegMap.resolve, RegMap.target, hlook] at this
    exact new.mappings_ne _ hmem this
  · intro hk id
    rw [List.take_of_length_le hk]
    rfl

theorem oldOrNew_four (hR : R.Lists old) (hN : N.Lists new) :
    OldOrNew old new (R.overwritten N 4) ↔ SafeCut old new 4 := by
  have hc : (R.overwritten N 4).idMappingCount = old.mappings.length := hR.idMappingCount
  have hr : ∀ id, clientRegistryResolveId (R.overwritten N 4) id =
      resolveIn (new.mappings.take old.mappings.length) id := by
    intro id
    have hmap : SlotArray.Holds (R.overwritten N 4).idMappings IdChangeMapping.zero new.mappings :=
      hN.idMappings
    rw [resolve_taken hmap (hc ▸ old.mappings_le) id, hc]
  rw [SafeCut, oldOrNew_iff (profiles_counted hN (R.overwritten N 4) rfl rfl rfl)
    (profile_ids_ne new) hr, resolveIn_take_iff, or_comm]
  simp only [sameMembers_refl, true_and]

theorem oldOrNew_five (hN : N.Lists new) : OldOrNew old new (R.overwritten N 5) :=
  (oldOrNew_iff (profiles_counted hN (R.overwritten N 5) rfl rfl rfl) (profile_ids_ne new)
    (resolve_lists hN rfl rfl)).mpr (Or.inr ⟨sameMembers_refl _, fun _ => rfl⟩)

theorem overwritten_inRange (hR : R.InRange) (hN : N.InRange) (p : Nat) :
    (R.overwritten N p).InRange := by
  constructor
  · change (if _ then _ else _) ≤ 16
    split
    · exact hN.clientCount
    · exact hR.clientCount
  · change (if _ then _ else _) ≤ 16
    split
    · exact hN.idMappingCount
    · exact hR.idMappingCount

/-- **Interrupted saves.** NVS holds a registry and a save of another one stops after some of
    its calls. What `client_registry_load` then reads is one of the two exactly when the cut
    is safe for them. -/
theorem interrupted_save_iff (hR : R.Lists old) (hN : N.Lists new) (io : SaveIo) :
    OldOrNew old new
        (clientRegistryLoad {} (clientRegistrySave io N R.image).1 clientRegistryInit).1 ↔
      SafeCut old new io.completed := by
  rw [save_eq_overwritten, load_image (overwritten_inRange hR.inRange hN.inRange _),
    oldOrNew_offline, SaveIo.completed]
  split
  · exact iff_of_true (oldOrNew_zero hR) trivial
  · split
    · exact oldOrNew_one hR hN
    · split
      · exact oldOrNew_two hR hN
      · split
        · exact oldOrNew_three hR hN
        · split
          · exact oldOrNew_four hR hN
          · exact iff_of_true (oldOrNew_five hN) trivial

end

/-- The save of a third client stops before the count: the two others are loaded. -/
theorem interrupted_save_iff_third :
    let first : Id := CStr.strncpy (ascii "11")
    let second : Id := CStr.strncpy (ascii "22")
    let third : Id := CStr.strncpy (ascii "33")
    let hfirst : first ≠ CStr.empty := by decide
    let hsecond : second ≠ CStr.empty := by decide
    let hthird : third ≠ CStr.empty := by decide
    let one := (clientRegistryUpdate {} 1 clientRegistryInit Fs.blank first none none false).1.1
    let two := (clientRegistryUpdate {} 2 one Fs.blank second none none false).1.1
    let three := (clientRegistryUpdate {} 3 two Fs.blank third none none false).1.1
    let old := ((RegMap.empty.update 1 first hfirst none none false).1.update 2 second hsecond
      none none false).1
    let new := (old.update 3 third hthird none none false).1
    let reg := (clientRegistryLoad {} (clientRegistrySave { setCount := true } three two.image).1
      clientRegistryInit).1
    reg.profiles = [⟨first, CStr.empty, true⟩, ⟨second, CStr.empty, true⟩] ∧
      OldOrNew old new reg := by
  intro first second third hfirst hsecond hthird one two three old new reg
  have hone := (update_lists lists_init {} 1 Fs.blank hfirst none none false).1
  have htwo := (update_lists hone {} 2 Fs.blank hsecond none none false).1
  have hthree := (update_lists htwo {} 3 Fs.blank hthird none none false).1
  have hlength : old.entries.length ≤ new.entries.length := by decide +kernel
  have hsafe : SafeCut old new 2 := ⟨hlength, .inl (by decide +kernel)⟩
  exact ⟨by decide +kernel, (interrupted_save_iff htwo hthree { setCount := true }).mpr hsafe⟩

/-- Of two clients the first is deleted, and the save of the deletion stops before the count.
    The registry that is loaded has a client without an id. -/
theorem delete_interrupted :
    let first : Id := CStr.strncpy (ascii "11")
    let second : Id := CStr.strncpy (ascii "22")
    let one := (clientRegistryUpdate {} 1 clientRegistryInit Fs.blank first none none false).1.1
    let two := (clientRegistryUpdate {} 2 one Fs.blank second none none false).1.1
    let nvs := (clientRegistryDelete { setCount := true } two two.image first).1.2
    let reg := (clientRegistryLoad {} nvs clientRegistryInit).1
    reg.profiles = [⟨second, CStr.empty, true⟩, ⟨CStr.empty, CStr.empty, true⟩] ∧
      ∀ old new, ¬OldOrNew old new reg := by
  intro first second one two nvs reg
  have hp : reg.profiles = [⟨second, CStr.empty, true⟩, ⟨CStr.empty, CStr.empty, true⟩] := by
    decide
  refine ⟨hp, fun old new h => ?_⟩
  exact h.ids_ne ⟨CStr.empty, CStr.empty, true⟩ (by rw [hp]; simp) rfl

end IndoorLogger
