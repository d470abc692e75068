import IndoorLogger.Lib.JsonParse
import IndoorLogger.Server.ServerRuns

/-
  One registry entry for an address. Deduplication looks for "the" client bound to the
  address of an upload, and only when the uploading id is unknown: a known client that
  uploads from an address bound to another entry shares it from then on. The entries keep
  distinct addresses exactly as long as no upload does that (`one_entry_per_ip_iff`).
-/

namespace IndoorLogger

open Machine

/-- No two entries hold the same address. -/
def OneEntryPerIp (s : ServerState) : Prop :=
  ∀ i < s.reg.clientCount, ∀ j < s.reg.clientCount, (s.reg.client i).ipStr ≠ CStr.empty →
    (s.reg.client i).ipStr = (s.reg.client j).ipStr → i = j

/-- An upload of a registered client comes from no address bound to another entry. -/
def BindsFreeAddress (cJSONParse : List UInt8 → Option Json) (s : ServerState) :
    Request → Prop
  | .upload io _ req => ∀ id root, uploadTarget cJSONParse io req = some (id, root) →
      (clientRegistryGet s.reg id).isSome → req.ip ≠ CStr.empty →
      ∀ i < s.reg.clientCount, (s.reg.client i).ipStr = req.ip → (s.reg.client i).id = id
  | _ => True

namespace RegMap

variable {m m' : RegMap}

structure DistinctIps (m : RegMap) : Prop where
  eq_of_ip : ∀ e ∈ m.entries, ∀ e' ∈ m.entries, e.info.ipStr ≠ CStr.empty →
    e.info.ipStr = e'.info.ipStr → e = e'

/-- A map whose addresses all come from entries of `m`. -/
theorem DistinctIps.of_entries (h : m.DistinctIps) (f : Entry → Entry)
    (hsub : ∀ e' ∈ m'.entries, e'.info.ipStr ≠ CStr.empty →
      ∃ e ∈ m.entries, f e = e' ∧ e.info.ipStr = e'.info.ipStr) : m'.DistinctIps := by
  refine ⟨fun e₁ h₁ e₂ h₂ hne heq => ?_⟩
  obtain ⟨x₁, hx₁, rfl, hip₁⟩ := hsub e₁ h₁ hne
  obtain ⟨x₂, hx₂, rfl, hip₂⟩ := hsub e₂ h₂ (heq ▸ hne)
  exact congrArg f (h.eq_of_ip x₁ hx₁ x₂ hx₂ (hip₁ ▸ hne) (hip₁.trans (heq.trans hip₂.symm)))

theorem DistinctIps.of_subset (h : m.DistinctIps) (hsub : ∀ e ∈ m'.entries, e ∈ m.entries) :
    m'.DistinctIps :=
  h.of_entries id fun e he _ => ⟨e, hsub e he, rfl, rfl⟩

/-- Changing one client, but not its address. -/
theorem DistinctIps.modify (h : m.DistinctIps) {id : Id} {f : Entry → Entry}
    (hf : ∀ e, (f e).info.ipStr = e.info.ipStr)
    (hm : m'.entries = KeyedList.modify Entry.id m.entries id f) : m'.DistinctIps := by
  refine h.of_entries (fun e => if e.id = id then f e else e) fun e' he' _ => ?_
  rw [hm] at he'
  obtain ⟨e, he, rfl⟩ := List.mem_map.mp he'
  refine ⟨e, he, rfl, ?_⟩
  split
  · exact (hf e).symm
  · rfl

/-- A new client whose address no other entry holds. -/
theorem DistinctIps.append (h : m.DistinctIps) {x : Entry} (hroom : m.entries.length < 16)
    (hid : x.id ∉ m.ids) (hne : x.id ≠ CStr.empty)
    (hx : x.info.ipStr = CStr.empty ∨ ∀ e ∈ m.entries, e.info.ipStr ≠ x.info.ipStr) :
    (m.append x hroom hid hne).DistinctIps := by
  refine ⟨fun e₁ he₁ e₂ he₂ hne₁ heq => ?_⟩
  rcases List.mem_append.mp he₁ with h₁ | h₁
  · rcases List.mem_append.mp he₂ with h₂ | h₂
    · exact h.eq_of_ip e₁ h₁ e₂ h₂ hne₁ heq
    · rw [List.mem_singleton.mp h₂] at heq
      rcases hx with hx | hx
      · exact absurd (heq.trans hx) hne₁
      · exact absurd heq (hx e₁ h₁)
  · rw [List.mem_singleton.mp h₁] at hne₁ heq ⊢
    rcases List.mem_append.mp he₂ with h₂ | h₂
    · rcases hx with hx | hx
      · exact absurd hx hne₁
      · exact absurd heq.symm (hx e₂ h₂)
    · exact (List.mem_singleton.mp h₂).symm

/-! ## Updates -/

theorem given_bytes {ip : CStr 16} (h : ip ≠ CStr.empty) :
    given (some ip.bytes) = some ip.bytes := by
  have hbytes : ip.bytes ≠ [] := fun hb => h (CStr.bytes_eq_nil.mp hb)
  rw [given, Option.map_some, CStr.cString_bytes, Option.filter_some, decide_eq_true hbytes,
    if_pos rfl]

theorem given_empty : given (some (CStr.empty : CStr 16).bytes) = none := rfl

/-- What the address of an entry is after an update from `ip`. -/
theorem ipStr_touch (now : UInt32) (name : Option (List UInt8)) (ip : CStr 16)
    (overwriteName : Bool) (e : Entry) :
    (touch now name (some ip.bytes) overwriteName e).info.ipStr =
      if ip = CStr.empty then e.info.ipStr else ip := by
  rw [touch, ClientInfo.touch]
  by_cases h : ip = CStr.empty
  · rw [if_pos h, h, given_empty]
  · rw [if_neg h, given_bytes h]
    exact CStr.strncpy_bytes ip

/-- After deduplication for an unregistered id no entry holds its address. -/
theorem DistinctIps.dedup (h : m.DistinctIps) {id : Id} (hid : id ∉ m.ids) {ip : CStr 16}
    (hip : ip ≠ CStr.empty) : (m.dedup id (some ip.bytes)).DistinctIps ∧
      ∀ e ∈ (m.dedup id (some ip.bytes)).entries, e.info.ipStr ≠ ip := by
  have htake : ip.bytes.take 16 = ip.bytes := List.take_of_length_le ip.fits.le
  have hvic : m.victim id (some ip.bytes) = m.entries.find? fun e =>
      e.info.ipStr.bytes = ip.bytes && e.id ≠ id := by
    rw [victim, if_neg hid, given_bytes hip, Option.bind_some, htake]
  have hother : ∀ e ∈ m.entries, e.id ≠ id := fun e he heq => hid (heq ▸ List.mem_map_of_mem he)
  unfold RegMap.dedup
  cases hv : m.victim id (some ip.bytes) with
  | none =>
    rw [hvic, List.find?_eq_none] at hv
    refine ⟨h, fun e he heq => hv e he ?_⟩
    rw [heq, decide_eq_true rfl, Bool.true_and]
    exact decide_eq_true (hother e he)
  | some v =>
    rw [hvic] at hv
    have hvip : v.info.ipStr = ip := by
      have := List.find?_some hv
      rw [Bool.and_eq_true, decide_eq_true_eq] at this
      exact CStr.ext this.1
    have hsub : ∀ e ∈ ((m.erase v.id).clearMapping v.id).entries, e ∈ m.entries :=
      fun e he => List.mem_of_mem_filter he
    refine ⟨h.of_subset hsub, fun e he heq => ?_⟩
    have hev := h.eq_of_ip e (hsub e he) v (List.mem_of_find?_eq_some hv) (heq ▸ hip)
      (heq.trans hvip.symm)
    have hne := List.of_mem_filter he
    rw [decide_eq_true_eq, hev] at hne
    exact hne rfl

/-- An update that brings no address. -/
theorem DistinctIps.update_none (h : m.DistinctIps) (now : UInt32) {id : Id}
    (hid : id ≠ CStr.empty) (name : Option (List UInt8)) (overwriteName : Bool) :
    (m.update now id hid name none overwriteName).1.DistinctIps := by
  have hvic : m.dedup id none = m := dedup_of_victim_none (m.victim_none id)
  unfold RegMap.update
  rw [hvic, enroll]
  split
  · exact h.modify (f := touch now name none overwriteName) (fun _ => rfl) rfl
  case isFalse hmem =>
    split
    case isTrue hroom =>
      exact h.append (x := fresh now id name none overwriteName) hroom hmem hid (Or.inl rfl)
    case isFalse => exact h

/-- Touching a registered client from `ip` keeps the addresses distinct, unless another entry
    holds `ip`. -/
theorem DistinctIps.touch_iff (h : m.DistinctIps) (now : UInt32) {id : Id} (hmem : id ∈ m.ids)
    (name : Option (List UInt8)) (ip : CStr 16) (overwriteName : Bool) :
    (m.modify id (touch now name (some ip.bytes) overwriteName) (touch_id _ _ _ _)).DistinctIps ↔
      (ip ≠ CStr.empty → ∀ e ∈ m.entries, e.info.ipStr = ip → e.id = id) := by
  have hip := ipStr_touch now name ip overwriteName
  obtain ⟨x, hx, hxid⟩ := List.mem_map.mp hmem
  constructor
  · intro hd hne e he heq
    by_contra hne'
    -- the touched entry and `e` hold the same address
    have h₁ : touch now name (some ip.bytes) overwriteName x ∈ (m.modify id
        (touch now name (some ip.bytes) overwriteName) (touch_id _ _ _ _)).entries :=
      List.mem_map.mpr ⟨x, hx, if_pos hxid⟩
    have h₂ : e ∈ (m.modify id (touch now name (some ip.bytes) overwriteName)
        (touch_id _ _ _ _)).entries := List.mem_map.mpr ⟨e, he, if_neg hne'⟩
    have hipx := (hip x).trans (if_neg hne)
    have hsame := hd.eq_of_ip _ h₁ e h₂ (fun h0 => hne (hipx.symm.trans h0))
      (hipx.trans heq.symm)
    exact hne' (hsame ▸ hxid)
  · intro hc
    by_cases hne : ip = CStr.empty
    · exact h.modify (fun e => (hip e).trans (if_pos hne)) rfl
    · refine ⟨fun e₁ h₁ e₂ h₂ hne₁ heq => ?_⟩
      obtain ⟨x₁, hx₁, rfl⟩ := List.mem_map.mp h₁
      obtain ⟨x₂, hx₂, rfl⟩ := List.mem_map.mp h₂
      have hset : ∀ e, e.id ≠ id → e ∈ m.entries → ∀ y : Entry,
          e.info.ipStr ≠ (touch now name (some ip.bytes) overwriteName y).info.ipStr := by
        intro e hne' he y heq'
        rw [hip y, if_neg hne] at heq'
        exact hne' (hc hne e he heq')
      by_cases c₁ : x₁.id = id
      · by_cases c₂ : x₂.id = id
        · rw [KeyedList.eq_of_key_eq m.ids_nodup hx₁ hx₂ (c₁.trans c₂.symm)]
        · rw [if_pos c₁, if_neg c₂] at heq
          exact absurd heq.symm (hset x₂ c₂ hx₂ x₁)
      · by_cases c₂ : x₂.id = id
        · rw [if_neg c₁, if_pos c₂] at heq
          exact absurd heq (hset x₁ c₁ hx₁ x₂)
        · rw [if_neg c₁] at hne₁ heq
          rw [if_neg c₂] at heq
          rw [if_neg c₁, if_neg c₂]
          exact h.eq_of_ip x₁ hx₁ x₂ hx₂ hne₁ heq

/-- An update for an unregistered id takes its address away from the client that holds it. -/
theorem DistinctIps.update_unknown (h : m.DistinctIps) (now : UInt32) {id : Id}
    (hid : id ≠ CStr.empty) (hmem : id ∉ m.ids) (name : Option (List UInt8)) (ip : CStr 16)
    (overwriteName : Bool) :
    (m.update now id hid name (some ip.bytes) overwriteName).1.DistinctIps := by
  have hip := ipStr_touch now name ip overwriteName
  have hmem' : id ∉ (m.dedup id (some ip.bytes)).ids := mt mem_dedup_ids.mp hmem
  unfold RegMap.update
  rw [enroll, dif_neg hmem']
  by_cases hne : ip = CStr.empty
  · have hvic : m.dedup id (some ip.bytes) = m := by
      apply dedup_of_victim_none
      rw [victim, if_neg hmem, hne, given_empty, Option.bind_none]
    have hd : (m.dedup id (some ip.bytes)).DistinctIps := hvic.symm ▸ h
    split
    case isTrue hroom =>
      exact hd.append (x := fresh now id name (some ip.bytes) overwriteName) hroom hmem' hid
        (Or.inl ((hip _).trans (if_pos hne)))
    case isFalse => exact hd
  · obtain ⟨hd, hfree⟩ := h.dedup hmem hne
    split
    case isTrue hroom =>
      refine hd.append (x := fresh now id name (some ip.bytes) overwriteName) hroom hmem' hid
        (Or.inr fun e he heq => hfree e he ?_)
      exact heq.trans ((hip _).trans (if_neg hne))
    case isFalse => exact hd

/-- An update from `ip` keeps the addresses distinct, unless the client is registered and
    another entry holds `ip`. -/
theorem update_distinctIps_iff (h : m.DistinctIps) (now : UInt32) {id : Id}
    (hid : id ≠ CStr.empty) (name : Option (List UInt8)) (ip : CStr 16) (overwriteName : Bool) :
    (m.update now id hid name (some ip.bytes) overwriteName).1.DistinctIps ↔
      (id ∈ m.ids → ip ≠ CStr.empty → ∀ e ∈ m.entries, e.info.ipStr = ip → e.id = id) := by
  by_cases hmem : id ∈ m.ids
  · have hvic : m.dedup id (some ip.bytes) = m := dedup_of_victim_none (victim_of_mem hmem _)
    unfold RegMap.update
    rw [enroll, hvic, dif_pos hmem, h.touch_iff now hmem]
    exact ⟨fun hc _ => hc, fun hc => hc hmem⟩
  · exact iff_of_true (h.update_unknown now hid hmem name ip overwriteName)
      fun hin => absurd hin hmem

/-! ## Requests -/

/-- The condition of `BindsFreeAddress`, on the map. -/
def BindsFree (m : RegMap) (cJSONParse : List UInt8 → Option Json) : Request → Prop
  | .upload io _ req => ∀ id root, uploadTarget cJSONParse io req = some (id, root) →
      id.1 ∈ m.ids → req.ip ≠ CStr.empty → ∀ e ∈ m.entries, e.info.ipStr = req.ip → e.id = id
  | _ => True

theorem request_distinctIps_iff (h : m.DistinctIps) (cJSONParse : List UInt8 → Option Json)
    (r : Request) :
    (m.request cJSONParse r).DistinctIps ↔ m.BindsFree cJSONParse r := by
  cases r with
  | upload io clock req =>
    rw [request, BindsFree]
    cases ht : uploadTarget cJSONParse io req with
    | none =>
      refine iff_of_true h ?_
      rintro _ _ ⟨⟩
    | some t =>
      dsimp only
      rw [RegMap.upload, update_distinctIps_iff h]
      constructor
      · intro hc id root heq
        cases heq
        exact hc
      · intro hc
        exact hc t.1 t.2 rfl
  | clientName io now uri =>
    refine iff_of_true ?_ trivial
    rw [request]
    split
    · exact h.update_none ..
    · exact h
  | clientId io save uri =>
    refine iff_of_true ?_ trivial
    rw [request]
    split
    · exact h.modify (f := fun e =>
        { e with info := { e.info with id := queryParam uri "new_id" 32 } }) (fun _ => rfl) rfl
    · exact h
  | clientDelete io unlinkFails uri =>
    exact iff_of_true (h.of_subset fun e he => List.mem_of_mem_filter he) trivial
  | basicModePost io now uri =>
    refine iff_of_true ?_ trivial
    have hmode : ∀ {m' : RegMap} (id : Id) (v : Bool), m'.DistinctIps →
        (m'.setBasicMode id v).DistinctIps := fun id v h' =>
      h'.modify (f := fun e => { e with basicMode := v }) (fun _ => rfl) rfl
    rw [request]
    dsimp only
    split
    · exact h
    · split
      · apply hmode
        split
        · exact hmode _ _ h
        · exact h.update_none ..
      · exact h
  | syncIntervalPost uri => exact iff_of_true h trivial
  | timezonePost uri => exact iff_of_true h trivial
  | checkStale now timeoutSec =>
    refine iff_of_true ?_ trivial
    refine h.of_entries (fun e => { e with info := e.info.markStale now timeoutSec })
      fun e' he' _ => ?_
    obtain ⟨e, he, rfl⟩ := List.mem_map.mp he'
    refine ⟨e, he, rfl, ?_⟩
    rw [ClientInfo.markStale]
    split
    · rfl
    · rfl

end RegMap

/-! ## Runs -/

variable {s : ServerState} {m : RegMap}

theorem oneEntryPerIp_iff (h : s.reg.Lists m) : OneEntryPerIp s ↔ m.DistinctIps := by
  have hnodup : m.entries.Nodup := List.Nodup.of_map _ m.ids_nodup
  have hclient : ∀ i (hi : i < m.entries.length), s.reg.client i = m.entries[i].info :=
    fun i hi => h.client_eq (List.getElem?_eq_getElem hi)
  unfold OneEntryPerIp
  rw [h.clientCount]
  constructor
  · intro hd
    refine ⟨fun e he e' he' hne heq => ?_⟩
    obtain ⟨i, hi, rfl⟩ := List.getElem_of_mem he
    obtain ⟨j, hj, rfl⟩ := List.getElem_of_mem he'
    rw [← hclient i hi, ← hclient j hj] at heq
    rw [← hclient i hi] at hne
    obtain rfl := hd i hi j hj hne heq
    rfl
  · intro hd i hi j hj hne heq
    rw [hclient i hi, hclient j hj] at heq
    rw [hclient i hi] at hne
    have := hd.eq_of_ip _ (List.getElem_mem hi) _ (List.getElem_mem hj) hne heq
    exact hnodup.getElem_inj_iff.mp this

theorem bindsFreeAddress_iff (h : s.reg.Lists m) (cJSONParse : List UInt8 → Option Json)
    (r : Request) : BindsFreeAddress cJSONParse s r ↔ m.BindsFree cJSONParse r := by
  have hbound : ∀ (ip : CStr 16) (id : Id),
      (∀ i < s.reg.clientCount, (s.reg.client i).ipStr = ip → (s.reg.client i).id = id) ↔
        ∀ e ∈ m.entries, e.info.ipStr = ip → e.id = id := by
    intro ip id
    rw [h.clientCount]
    constructor
    · intro hc e he hip
      obtain ⟨i, hi, rfl⟩ := List.getElem_of_mem he
      have hclient := h.client_eq (List.getElem?_eq_getElem hi)
      have := hc i hi (by rw [hclient]; exact hip)
      rwa [hclient] at this
    · intro hc i hi hip
      rw [h.client_eq (List.getElem?_eq_getElem hi)] at hip ⊢
      exact hc _ (List.getElem_mem hi) hip
  cases r with
  | upload io clock req => simp only [BindsFreeAddress, RegMap.BindsFree, h.isSome_get, hbound]
  | _ => exact Iff.rfl

/-- Over every run of requests from the first boot on, failing calls included. -/
theorem one_entry_per_ip_iff (cJSONParse : List UInt8 → Option Json) (gMax : UInt32)
    (rs : List Request) :
    Always (serverStep cJSONParse gMax) OneEntryPerIp bootState rs ↔
      Meets (serverStep cJSONParse gMax) (BindsFreeAddress cJSONParse) bootState rs := by
  have hstart : OneEntryPerIp bootState := fun i hi => absurd hi (Nat.not_lt_zero i)
  refine always_iff_meets (J := fun s => ∃ m, s.reg.Lists m) (G := fun _ _ => True) ?_ ?_
    ⟨_, lists_init⟩ hstart (meets_of_forall fun _ _ _ => trivial)
  · rintro s r ⟨m, hm⟩ - - -
    exact ⟨_, (serverStep_leaves cJSONParse gMax hm r).1⟩
  · rintro s r ⟨m, hm⟩ hs -
    rw [oneEntryPerIp_iff (serverStep_leaves cJSONParse gMax hm r).1,
      RegMap.request_distinctIps_iff ((oneEntryPerIp_iff hm).mp hs), bindsFreeAddress_iff hm]

/-- An upload without readings. -/
def uploadAt (id ip : String) : Request :=
  .upload {} (fun _ => 0) ⟨ascii "/api/upload?id=" ++ ascii id, ascii "\x7b\x7d",
    CStr.strncpy (ascii ip)⟩

/-- Client 1 gets the address that client 2 had: both entries hold it. -/
theorem address_bound_twice :
    ¬Always (serverStep Json.parse 4314) OneEntryPerIp bootState
      [uploadAt "1" "10.0.0.7", uploadAt "2" "10.0.0.8", uploadAt "1" "10.0.0.8"] := by
  intro h
  have hsame := h.final 0 (by decide +kernel) 1 (by decide +kernel) (by decide +kernel)
    (by decide +kernel)
  exact absurd hsame (by decide)

end IndoorLogger
