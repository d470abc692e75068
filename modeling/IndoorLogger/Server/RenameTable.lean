import IndoorLogger.Server.Membership

/-
  The table of pending renames over whole runs of requests. It stays consistent exactly as
  long as no request registers the old id of a pending rename and none drops the new id of
  one (`rename_table_consistent_iff`). Uploads, renames and deletions all can: the handlers
  do not look at the table when they register or drop a client.
-/

namespace IndoorLogger

open Machine

/-! ## Consistency -/

/-- A registered id resolves to itself, and an id with a mapping to a registered id. -/
def RenamesConsistent (s : ServerState) : Prop :=
  (∀ id, (clientRegistryGet s.reg id).isSome → clientRegistryResolveId s.reg id = id) ∧
    ∀ id, (mappingSlot s.reg id).isSome →
      (clientRegistryGet s.reg (clientRegistryResolveId s.reg id)).isSome

namespace RegMap

variable (m : RegMap)

/-- Ids with a pending rename. -/
def olds : List Id := m.mappings.map IdChangeMapping.oldId

/-- Targets of the pending renames. -/
def news : List Id := m.mappings.map IdChangeMapping.newId

structure Consistent : Prop where
  olds : ∀ p ∈ m.mappings, p.oldId ∉ m.ids
  news : ∀ p ∈ m.mappings, p.newId ∈ m.ids

variable {m} {cJSONParse : List UInt8 → Option Json} {r : Request}

theorem resolve_of_mem {p : IdChangeMapping} (h : p ∈ m.mappings) :
    m.resolve p.oldId = p.newId := by
  unfold resolve
  rw [target, KeyedList.lookup_of_mem m.olds_nodup h]
  rfl

theorem resolve_of_notMem {id : Id} (h : id ∉ m.olds) : m.resolve id = id := by
  unfold resolve
  rw [target, KeyedList.lookup_eq_none.mpr h]
  rfl

/-- In a consistent table a request at most adds the rename it enters. -/
theorem mem_request_mappings (h : m.Consistent) {p : IdChangeMapping} :
    p ∈ (m.request cJSONParse r).mappings ↔ p ∈ m.mappings ∨ m.enters r = some p := by
  have hreg : ∀ x ∈ m.ids, x ∉ m.olds := by
    intro x hx ho
    obtain ⟨q, hq, rfl⟩ := List.mem_map.mp ho
    exact h.olds q hq hx
  have hupdate : ∀ now id hid name ip ow,
      (m.update now id hid name ip ow).1.mappings = m.mappings := by
    intro now id hid name ip ow
    rw [update_mappings, evicted]
    cases hv : m.victim id ip with
    | none => rfl
    | some v => exact KeyedList.erase_of_notMem (hreg v.id (mem_ids_of_victim hv).1)
  cases r with
  | upload io clock req =>
    simp only [request, enters]
    cases uploadTarget cJSONParse io req with
    | none => simp
    | some t => simp [upload, hupdate]
  | clientName io now uri =>
    simp only [request, enters]
    split
    case isTrue hid => simp [hupdate]
    case isFalse => simp
  | clientId io save uri =>
    rw [request, enters]
    split
    case isTrue hacc =>
      have hput : (m.rename (m.renameSource uri) (queryParam uri "new_id" 32) hacc.2.2).mappings =
          m.mappings ++ [⟨m.renameSource uri, queryParam uri "new_id" 32⟩] :=
        if_neg (hreg _ hacc.2.2.2.2.1)
      rw [hput, List.mem_append, List.mem_singleton, Option.some.injEq, @eq_comm _ p]
    case isFalse => simp
  | clientDelete io unlinkFails uri => simp [request, enters, erase]
  | basicModePost io now uri =>
    simp only [request, enters]
    have hmode : ∀ (m' : RegMap) (id : Id) (v : Bool),
      (m'.setBasicMode id v).mappings = m'.mappings := fun _ _ _ => rfl
    cases requestedMode uri with
    | none => simp
    | some v =>
      dsimp only
      split
      case isTrue hid =>
        rw [hmode]
        split
        case isTrue => simp [hmode]
        case isFalse => simp [hupdate]
      case isFalse => simp
  | syncIntervalPost uri => simp [request, enters]
  | timezonePost uri => simp [request, enters]
  | checkStale now timeoutSec => simp [request, enters, checkStale, map]

/-- An entered rename leads from the id the request drops to the id it registers. -/
theorem enters_ids (cJSONParse : List UInt8 → Option Json) {p : IdChangeMapping}
    (h : m.enters r = some p) :
    m.drops cJSONParse r = some p.oldId ∧ m.adds cJSONParse r = some p.newId := by
  cases r with
  | clientId io save uri =>
    rw [enters] at h
    split at h
    case isTrue hacc =>
      rw [drops, adds, if_pos hacc, if_pos hacc]
      exact ⟨congrArg _ (congrArg IdChangeMapping.oldId (Option.some.inj h)),
        congrArg _ (congrArg IdChangeMapping.newId (Option.some.inj h))⟩
    case isFalse => cases h
  | _ => cases h

/-! ## One request -/

/-- No id registered is the old id of a pending rename, and none dropped its target. -/
structure KeepsRenames (m : RegMap) (cJSONParse : List UInt8 → Option Json) (r : Request) :
    Prop where
  adds : ∀ id, m.adds cJSONParse r = some id → id ∉ m.olds
  drops : ∀ id, m.drops cJSONParse r = some id → id ∉ m.news

theorem request_consistent_iff (h : m.Consistent) :
    (m.request cJSONParse r).Consistent ↔ m.KeepsRenames cJSONParse r := by
  constructor
  · intro h'
    constructor
    · intro id hid ho
      obtain ⟨p, hp, rfl⟩ := List.mem_map.mp ho
      exact h'.olds p ((mem_request_mappings h).mpr (Or.inl hp)) (mem_request_ids.mpr (Or.inr hid))
    · intro id hid hn
      obtain ⟨p, hp, rfl⟩ := List.mem_map.mp hn
      have hin := h'.news p ((mem_request_mappings h).mpr (Or.inl hp))
      rcases mem_request_ids.mp hin with ⟨-, hne⟩ | hadd
      · exact hne hid
      · exact adds_notMem hadd (h.news p hp)
  · intro hc
    obtain ⟨hadds, hdrops⟩ := hc
    constructor
    · intro p hp hin
      rcases (mem_request_mappings h).mp hp with hp | hp
      · rcases mem_request_ids.mp hin with ⟨hmem, -⟩ | hadd
        · exact h.olds p hp hmem
        · exact hadds _ hadd (List.mem_map_of_mem hp)
      · obtain ⟨hdrop, hadd⟩ := enters_ids cJSONParse hp
        rcases mem_request_ids.mp hin with ⟨-, hne⟩ | hadd'
        · exact hne hdrop
        · exact adds_notMem hadd' (drops_mem hdrop)
    · intro p hp
      rcases (mem_request_mappings h).mp hp with hp | hp
      · have hne : m.drops cJSONParse r ≠ some p.newId := fun hd =>
          hdrops _ hd (List.mem_map_of_mem hp)
        exact mem_request_ids.mpr (Or.inl ⟨h.news p hp, hne⟩)
      · exact mem_request_ids.mpr (Or.inr (enters_ids cJSONParse hp).2)

end RegMap

/-! ## Runs -/

theorem renamesConsistent_iff {s : ServerState} {m : RegMap} (h : s.reg.Lists m) :
    RenamesConsistent s ↔ m.Consistent := by
  have hslot : ∀ id, (mappingSlot s.reg id).isSome ↔ id ∈ m.olds := by
    intro id
    rcases h.mappingSlot_cases id with ⟨hg, hn⟩ | ⟨i, p, hg, -, -, -, hp⟩
    · rw [hg]
      exact iff_of_false Bool.false_ne_true hn
    · rw [hg]
      exact iff_of_true rfl (KeyedList.mem_keys_of_lookup hp)
  simp only [RenamesConsistent, h.isSome_get, hslot, resolveId_eq h]
  constructor
  · intro hc
    obtain ⟨hids, holds⟩ := hc
    refine ⟨fun p hp hmem => m.mappings_ne p hp ?_, fun p hp => ?_⟩
    · rw [← RegMap.resolve_of_mem hp, hids _ hmem]
    · rw [← RegMap.resolve_of_mem hp]
      exact holds _ (List.mem_map_of_mem hp)
  · intro h'
    obtain ⟨holds, hnews⟩ := h'
    refine ⟨fun id hid => RegMap.resolve_of_notMem fun ho => ?_, fun id hid => ?_⟩
    · obtain ⟨p, hp, rfl⟩ := List.mem_map.mp ho
      exact holds p hp hid
    · obtain ⟨p, hp, rfl⟩ := List.mem_map.mp hid
      rw [RegMap.resolve_of_mem hp]
      exact hnews p hp

section

variable (cJSONParse : List UInt8 → Option Json) (gMax : UInt32)

/-- The condition on one request, on the map the registry's arrays hold. -/
def KeepsRenames (s : ServerState) (r : Request) : Prop :=
  ∃ m, s.reg.Lists m ∧ m.KeepsRenames cJSONParse r

/-- Over every run of requests from the first boot on, failing calls included. -/
theorem rename_table_consistent_iff (rs : List Request) :
    Always (serverStep cJSONParse gMax) RenamesConsistent bootState rs ↔
      Meets (serverStep cJSONParse gMax) (KeepsRenames cJSONParse) bootState rs := by
  have hstart : RenamesConsistent bootState :=
    (renamesConsistent_iff lists_init).mpr ⟨by simp [RegMap.empty], by simp [RegMap.empty]⟩
  refine always_iff_meets (J := fun s => ∃ m, s.reg.Lists m) (G := fun _ _ => True) ?_ ?_
    ⟨_, lists_init⟩ hstart (meets_of_forall fun _ _ _ => trivial)
  · rintro s r ⟨m, hm⟩ - - -
    exact ⟨_, (serverStep_leaves cJSONParse gMax hm r).1⟩
  · rintro s r ⟨m, hm⟩ hs -
    have hc := (renamesConsistent_iff hm).mp hs
    rw [renamesConsistent_iff (serverStep_leaves cJSONParse gMax hm r).1,
      RegMap.request_consistent_iff hc]
    constructor
    · exact fun h => ⟨m, hm, h⟩
    · intro h'
      obtain ⟨m', hm', h⟩ := h'
      rwa [hm.unique hm']

end

/-- Renaming 1 to 2 and back leaves id 1 registered and resolving to 2. -/
theorem rename_back_inconsistent :
    ¬Always (serverStep (fun _ => none) 100) RenamesConsistent bootState
      [.clientName {} 0 (ascii "/client/name?id=1&name=a"),
        .clientId {} {} (ascii "/client/id?id=1&new_id=2"),
        .clientId {} {} (ascii "/client/id?id=1&new_id=1")] := by
  intro h
  have hid := h.final.1 (CStr.strncpy (ascii "1")) (by decide +kernel)
  exact absurd hid (by decide +kernel)

end IndoorLogger
