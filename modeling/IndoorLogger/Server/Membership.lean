import IndoorLogger.Server.ServerRuns

/-
  Which ids a request registers and which it drops. A request registers at most one id and
  drops at most one (`mem_request_ids`); the pending renames change only when a rename is
  accepted or a migrated client's own rename is forgotten.
-/

namespace IndoorLogger

namespace RegMap

variable (m : RegMap)

/-! ## Updates -/

/-- There is a slot for an unregistered id: a free one, or the one its address is bound to. -/
def HasSlot (id : Id) (ip : Option (List UInt8)) : Prop :=
  (m.victim id ip).isSome ∨ m.entries.length < 16

instance (id : Id) (ip : Option (List UInt8)) : Decidable (m.HasSlot id ip) :=
  inferInstanceAs (Decidable (_ ∨ _))

/-- The id an update registers. -/
def newcomer (id : Id) (ip : Option (List UInt8)) : Option Id :=
  if id ∉ m.ids ∧ m.HasSlot id ip then some id else none

/-- The id an update drops. -/
def evicted (id : Id) (ip : Option (List UInt8)) : Option Id := (m.victim id ip).map Entry.id

variable {m}

theorem mem_ids_of_victim {id : Id} {ip : Option (List UInt8)} {v : Entry}
    (h : m.victim id ip = some v) : v.id ∈ m.ids ∧ id ∉ m.ids ∧ v.id ≠ id := by
  have hv : v.id ∈ m.ids := List.mem_map_of_mem (mem_of_victim h)
  have hn : id ∉ m.ids := by
    intro hid
    rw [victim_of_mem hid] at h
    cases h
  exact ⟨hv, hn, fun heq => hn (heq ▸ hv)⟩

theorem mem_dedup {id x : Id} {ip : Option (List UInt8)} :
    x ∈ (m.dedup id ip).ids ↔ x ∈ m.ids ∧ m.evicted id ip ≠ some x := by
  unfold dedup
  rw [evicted]
  cases m.victim id ip with
  | none => simp
  | some v =>
    have : x ∈ ((m.erase v.id).clearMapping v.id).ids ↔ x ∈ m.ids ∧ x ≠ v.id :=
      KeyedList.mem_map_key_erase
    simp only [this, Option.map_some, ne_eq, Option.some.injEq, @eq_comm _ x v.id]

theorem length_dedup_lt {id : Id} {ip : Option (List UInt8)} :
    (m.dedup id ip).entries.length < 16 ↔ m.HasSlot id ip := by
  unfold dedup
  rw [HasSlot]
  cases hv : m.victim id ip with
  | none => simp
  | some v =>
    simp only [Option.isSome_some, true_or, iff_true]
    exact lt_of_lt_of_le (length_erase_lt (mem_of_victim hv)) m.entries_le

theorem ids_append (e : Entry) (hroom : m.entries.length < 16) (hid : e.id ∉ m.ids)
    (hne : e.id ≠ CStr.empty) : (m.append e hroom hid hne).ids = m.ids ++ [e.id] := List.map_append

theorem mem_update_ids {now : UInt32} {id : Id} (hid : id ≠ CStr.empty)
    {name ip : Option (List UInt8)} {overwriteName : Bool} {x : Id} :
    x ∈ (m.update now id hid name ip overwriteName).1.ids ↔
      (x ∈ m.ids ∧ m.evicted id ip ≠ some x) ∨ m.newcomer id ip = some x := by
  unfold update
  rw [enroll, newcomer]
  by_cases hmem : id ∈ m.ids
  · rw [dif_pos (mem_dedup_ids.mpr hmem), if_neg (by tauto)]
    have : (((m.dedup id ip).modify id (touch now name ip overwriteName)
        (touch_id _ _ _ _)).ids) = (m.dedup id ip).ids :=
      KeyedList.map_key_modify fun e he => he
    simp only [this, mem_dedup, reduceCtorEq, or_false]
  · rw [dif_neg (mt mem_dedup_ids.mp hmem)]
    by_cases hslot : m.HasSlot id ip
    · rw [dif_pos (length_dedup_lt.mpr hslot), if_pos ⟨hmem, hslot⟩]
      have happ : ((m.dedup id ip).append (fresh now id name ip overwriteName)
          (length_dedup_lt.mpr hslot) (mt mem_dedup_ids.mp hmem) hid).ids =
          (m.dedup id ip).ids ++ [id] := ids_append ..
      rw [happ, List.mem_append, List.mem_singleton, mem_dedup, Option.some.injEq, @eq_comm _ x id]
    · rw [dif_neg (mt length_dedup_lt.mp hslot), if_neg fun h => hslot h.2]
      simp only [mem_dedup, reduceCtorEq, or_false]

theorem update_mappings {now : UInt32} {id : Id} (hid : id ≠ CStr.empty)
    {name ip : Option (List UInt8)} {overwriteName : Bool} :
    (m.update now id hid name ip overwriteName).1.mappings =
      match m.evicted id ip with
      | none => m.mappings
      | some v => KeyedList.erase IdChangeMapping.oldId m.mappings v := by
  have henroll : (m.update now id hid name ip overwriteName).1.mappings =
      (m.dedup id ip).mappings := by
    unfold update
    rw [enroll]
    split
    · rfl
    · split
      · rfl
      · rfl
  rw [henroll, dedup, evicted]
  cases m.victim id ip with
  | none => rfl
  | some v => rfl

/-! ## Requests -/

section

variable (m) (cJSONParse : List UInt8 → Option Json)

/-- The id a request registers. -/
def adds : Request → Option Id
  | .upload io _ req =>
    (uploadTarget cJSONParse io req).bind fun t => m.newcomer t.1 (some req.ip.bytes)
  | .clientName _ _ uri =>
    let id : Id := queryParam uri "id" 32
    let name : CStr 32 := queryParam uri "name" 32
    if id ≠ CStr.empty ∧ name ≠ CStr.empty then m.newcomer (m.resolve id) none else none
  | .clientId _ _ uri => if m.Accepts uri then some (queryParam uri "new_id" 32) else none
  | .basicModePost _ _ uri =>
    let id : Id := queryParam uri "id" 32
    (requestedMode uri).bind fun _ => if id ≠ CStr.empty then m.newcomer id none else none
  | .clientDelete _ _ _ => none
  | .syncIntervalPost _ => none
  | .timezonePost _ => none
  | .checkStale _ _ => none

/-- The id a request drops. -/
def drops : Request → Option Id
  | .upload io _ req =>
    (uploadTarget cJSONParse io req).bind fun t => m.evicted t.1 (some req.ip.bytes)
  | .clientId _ _ uri => if m.Accepts uri then some (m.renameSource uri) else none
  | .clientDelete _ _ uri =>
    let id : Id := queryParam uri "id" 32
    if id ∈ m.ids then some id else none
  | .clientName _ _ _ => none
  | .basicModePost _ _ _ => none
  | .syncIntervalPost _ => none
  | .timezonePost _ => none
  | .checkStale _ _ => none

/-- The pending rename a request enters. -/
def enters : Request → Option IdChangeMapping
  | .clientId _ _ uri =>
    if m.Accepts uri then some ⟨m.renameSource uri, queryParam uri "new_id" 32⟩ else none
  | _ => none

end

variable {cJSONParse : List UInt8 → Option Json}

theorem evicted_none (id : Id) : m.evicted id none = none := by
  unfold evicted
  rw [m.victim_none]
  rfl

theorem mem_setBasicMode_ids {id x : Id} {v : Bool} :
    x ∈ (m.setBasicMode id v).ids ↔ x ∈ m.ids := by
  have : (m.setBasicMode id v).ids = m.ids := KeyedList.map_key_modify fun _ he => he
  rw [this]

theorem mem_rename_ids {old new x : Id} (h : m.CanRename old new) :
    x ∈ (m.rename old new h).ids ↔ (x ∈ m.ids ∧ x ≠ old) ∨ x = new := by
  have : (m.rename old new h).entries = KeyedList.modify Entry.id m.entries old
      fun e => { e with info := { e.info with id := new } } := rfl
  unfold ids
  rw [this]
  exact KeyedList.mem_map_key_rekey (f := fun e => { e with info := { e.info with id := new } })
    h.2.2.1 fun _ _ => rfl

theorem mem_request_ids {r : Request} {x : Id} :
    x ∈ (m.request cJSONParse r).ids ↔
      (x ∈ m.ids ∧ m.drops cJSONParse r ≠ some x) ∨ m.adds cJSONParse r = some x := by
  cases r with
  | upload io clock req =>
    rw [request, adds, drops]
    cases uploadTarget cJSONParse io req with
    | none => simp
    | some t => exact mem_update_ids t.1.2
  | clientName io now uri =>
    rw [request, adds, drops]
    split
    case isTrue h =>
      rw [mem_update_ids (m.resolve_ne h.1), evicted_none]
    case isFalse h => simp
  | clientId io save uri =>
    rw [request, adds, drops]
    split
    case isTrue h =>
      simp only [mem_rename_ids h.2.2, ne_eq, Option.some.injEq, @eq_comm _ x]
    case isFalse h => simp
  | clientDelete io unlinkFails uri =>
    unfold request
    rw [adds, drops]
    have : x ∈ (m.erase (queryParam uri "id" 32)).ids ↔
        x ∈ m.ids ∧ x ≠ queryParam uri "id" 32 := KeyedList.mem_map_key_erase
    rw [this]
    split
    case isTrue h => simp [eq_comm]
    case isFalse h =>
      have hx : x ∈ m.ids → x ≠ queryParam uri "id" 32 := fun hx he => h (he ▸ hx)
      simp only [reduceCtorEq, or_false, ne_eq, not_false_eq_true, and_true, and_iff_left_iff_imp]
      exact hx
  | basicModePost io now uri =>
    rw [request, adds, drops]
    cases requestedMode uri with
    | none => simp
    | some v =>
      dsimp only [Option.bind_some]
      by_cases hid : (queryParam uri "id" 32 : Id) ≠ CStr.empty
      · rw [dif_pos hid, if_pos hid, mem_setBasicMode_ids]
        split
        case isTrue hmem =>
          rw [mem_setBasicMode_ids, newcomer, if_neg fun h => h.1 hmem]
          simp
        case isFalse hmem => rw [mem_update_ids hid, evicted_none]
      · rw [dif_neg hid, if_neg hid]
        simp
  | syncIntervalPost uri => simp [request, adds, drops]
  | timezonePost uri => simp [request, adds, drops]
  | checkStale now timeoutSec =>
    have : (m.checkStale now timeoutSec).ids = m.ids := by
      change (m.entries.map _).map Entry.id = m.entries.map Entry.id
      rw [List.map_map]
      exact List.map_congr_left fun e _ => markStale_id now timeoutSec e.info
    simp [request, adds, drops, this]

theorem adds_notMem {r : Request} {x : Id} (h : m.adds cJSONParse r = some x) : x ∉ m.ids := by
  have hnew : ∀ id ip, m.newcomer id ip = some x → x ∉ m.ids := by
    intro id ip h
    rw [newcomer] at h
    split at h
    case isTrue hn => exact Option.some.inj h ▸ hn.1
    case isFalse => cases h
  cases r with
  | upload io clock req =>
    obtain ⟨t, -, ht⟩ := Option.bind_eq_some_iff.mp h
    exact hnew _ _ ht
  | clientName io now uri =>
    rw [adds] at h
    split at h
    case isTrue => exact hnew _ _ h
    case isFalse => cases h
  | clientId io save uri =>
    rw [adds] at h
    split at h
    case isTrue hacc => exact Option.some.inj h ▸ hacc.2.2.2.2.2.1
    case isFalse => cases h
  | basicModePost io now uri =>
    obtain ⟨v, -, hv⟩ := Option.bind_eq_some_iff.mp h
    split at hv
    case isTrue => exact hnew _ _ hv
    case isFalse => cases hv
  | clientDelete io unlinkFails uri => cases h
  | syncIntervalPost uri => cases h
  | timezonePost uri => cases h
  | checkStale now timeoutSec => cases h

theorem drops_mem {r : Request} {x : Id} (h : m.drops cJSONParse r = some x) : x ∈ m.ids := by
  cases r with
  | upload io clock req =>
    obtain ⟨t, -, ht⟩ := Option.bind_eq_some_iff.mp h
    obtain ⟨v, hv, rfl⟩ := Option.map_eq_some_iff.mp ht
    exact (mem_ids_of_victim hv).1
  | clientId io save uri =>
    rw [drops] at h
    split at h
    case isTrue hacc => exact Option.some.inj h ▸ hacc.2.2.2.2.1
    case isFalse => cases h
  | clientDelete io unlinkFails uri =>
    rw [drops] at h
    split at h
    case isTrue hmem => exact Option.some.inj h ▸ hmem
    case isFalse => cases h
  | clientName io now uri => cases h
  | basicModePost io now uri => cases h
  | syncIntervalPost uri => cases h
  | timezonePost uri => cases h
  | checkStale now timeoutSec => cases h

end RegMap

end IndoorLogger
