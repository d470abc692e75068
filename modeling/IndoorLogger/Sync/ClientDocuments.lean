import IndoorLogger.Server.Entries
import IndoorLogger.Server.Presence
import IndoorLogger.Sync.ApiDocuments

/-
  The answers about clients as documents. The server prints ids, names and addresses without
  escapes, and takes them from requests; as long as every request brings texts that need no
  escape, those in the registry need none (`plainText_run`) and the answers of /api/clients and
  /api/client are the JSON documents of the registry and of the newest records
  (`client_answers_read`).
-/

namespace IndoorLogger

open Decimal Json Machine Snprintf

/-! ## Texts that need no escape -/

/-- No text of the client needs an escape. -/
structure ClientInfo.PlainText (c : ClientInfo) : Prop where
  id : Plain c.id.bytes
  name : Plain c.name.bytes
  ipStr : Plain c.ipStr.bytes

/-- No text of the map that an answer can show needs an escape. -/
structure RegMap.PlainText (m : RegMap) : Prop where
  entries : ∀ e ∈ m.entries, e.info.PlainText
  mappings : ∀ p ∈ m.mappings, Plain p.newId.bytes

/-- No text that the request puts into the registry needs an escape. A new id has digits only. -/
def Request.PlainText (cJSONParse : List UInt8 → Option Json) : Request → Prop
  | .upload io _ req => ∀ id root, uploadTarget cJSONParse io req = some (id, root) →
      Plain id.1.bytes ∧ Plain (uploadName root).bytes ∧ Plain req.ip.bytes
  | .clientName _ _ uri =>
      Plain (queryParam uri "id" 32 : Id).bytes ∧ Plain (queryParam uri "name" 32 : CStr 32).bytes
  | .basicModePost _ _ uri => Plain (queryParam uri "id" 32 : Id).bytes
  | _ => True

theorem plain_of_isDigit {s : List UInt8} (h : s.all isDigit = true) : Plain s := by
  intro b hb
  have hdigit := isDigit_iff.mp (List.all_eq_true.mp h b hb)
  unfold isPlain
  rw [Bool.and_eq_true, Bool.and_eq_true, decide_eq_true_eq, decide_eq_true_eq, decide_eq_true_eq,
    UInt8.le_iff_toNat_le]
  refine ⟨⟨?_, ?_⟩, ?_⟩
  · have : (32 : UInt8).toNat = 32 := rfl
    omega
  · rintro rfl
    exact absurd hdigit.1 (by decide)
  · rintro rfl
    exact absurd hdigit.2 (by decide)

/-- A plain text is stored as a plain text. -/
theorem plain_strncpy {n : Nat} [NeZero n] {s : List UInt8} (h : Plain s) :
    Plain (CStr.strncpy s : CStr n).bytes := by
  have hcut : (CStr.strncpy s : CStr n).bytes = (cString s).take (n - 1) := rfl
  rw [hcut]
  intro b hb
  exact h b ((List.takeWhile_sublist _).subset (List.mem_of_mem_take hb))

theorem plain_given {s : Option (List UInt8)} (h : ∀ t, s = some t → Plain t) :
    ∀ t, given s = some t → Plain t := by
  intro t ht
  obtain ⟨hmap, -⟩ := Option.filter_eq_some_iff.mp ht
  obtain ⟨u, hu, rfl⟩ := Option.map_eq_some_iff.mp hmap
  exact fun b hb => h u hu b ((List.takeWhile_sublist _).subset hb)

theorem plain_none : ∀ t, (none : Option (List UInt8)) = some t → Plain t :=
  fun _ ht => absurd ht (Option.some_ne_none _).symm

/-- A client touched with plain texts has plain texts. -/
theorem ClientInfo.PlainText.touch {c : ClientInfo} (h : c.PlainText) (now : UInt32)
    {name ip : Option (List UInt8)} (hname : ∀ t, name = some t → Plain t)
    (hip : ∀ t, ip = some t → Plain t) (overwriteName : Bool) :
    (c.touch now name ip overwriteName).PlainText := by
  refine ⟨h.id, ?_, ?_⟩
  · unfold ClientInfo.touch
    dsimp only
    split
    case h_1 t ht =>
      split
      · exact plain_strncpy (plain_given hname t ht)
      · exact h.name
    case h_2 => exact h.name
  · unfold ClientInfo.touch
    dsimp only
    split
    case h_1 t ht => exact plain_strncpy (plain_given hip t ht)
    case h_2 => exact h.ipStr

theorem plainText_blank {id : Id} (h : Plain id.bytes) : (RegMap.blank id).info.PlainText :=
  ⟨h, nofun, nofun⟩

/-! ## One request -/

section

variable {cJSONParse : List UInt8 → Option Json} {g : UInt32} {m : RegMap}

/-- A pending rename after a request is an old one or the one it enters. -/
theorem mem_mappings_request {r : Request} {p : IdChangeMapping}
    (h : p ∈ (m.request cJSONParse r).mappings) : p ∈ m.mappings ∨ m.enters r = some p := by
  have hupdate : ∀ now id hid name ip ow,
      p ∈ (m.update now id hid name ip ow).1.mappings → p ∈ m.mappings := by
    intro now id hid name ip ow hp
    rw [RegMap.update_mappings] at hp
    split at hp
    · exact hp
    · exact List.mem_of_mem_filter hp
  cases r with
  | upload io clock req =>
    rw [RegMap.request] at h
    cases ht : uploadTarget cJSONParse io req with
    | none =>
      rw [ht] at h
      exact .inl h
    | some t =>
      rw [ht] at h
      exact .inl (hupdate _ _ _ _ _ _ h)
  | clientName io now uri =>
    rw [RegMap.request] at h
    split at h
    · exact .inl (hupdate _ _ _ _ _ _ h)
    · exact .inl h
  | clientId io save uri =>
    rw [RegMap.request] at h
    rw [RegMap.enters]
    split at h
    case isTrue hacc =>
      rw [if_pos hacc]
      rcases KeyedList.mem_of_mem_put h with rfl | h
      · exact .inr rfl
      · exact .inl h
    case isFalse => exact .inl h
  | clientDelete io unlinkFails uri => exact .inl h
  | basicModePost io now uri =>
    rw [RegMap.request] at h
    cases hv : RegMap.requestedMode uri with
    | none =>
      rw [hv] at h
      exact .inl h
    | some v =>
      rw [hv] at h
      dsimp only at h
      by_cases hid : (queryParam uri "id" 32 : Id) ≠ CStr.empty
      · rw [dif_pos hid] at h
        change p ∈ (if _ then _ else _ : RegMap).mappings at h
        split at h
        · exact .inl h
        · exact .inl (hupdate _ _ _ _ _ _ h)
      · rw [dif_neg hid] at h
        exact .inl h
  | syncIntervalPost uri => exact .inl h
  | timezonePost uri => exact .inl h
  | checkStale now timeoutSec => exact .inl h

theorem plain_resolve (h : m.PlainText) {id : Id} (hid : Plain id.bytes) :
    Plain (m.resolve id).bytes := by
  rw [RegMap.resolve, RegMap.target]
  cases hl : KeyedList.lookup IdChangeMapping.oldId m.mappings id with
  | none => exact hid
  | some p => exact h.mappings p (KeyedList.mem_of_lookup hl)

theorem plainText_request (h : m.PlainText) {r : Request} (hr : r.PlainText cJSONParse) :
    (m.request cJSONParse r).PlainText := by
  have hold : ∀ {id : Id} {e : Entry}, Plain id.bytes → (e ∈ m.entries ∨ e = RegMap.blank id) →
      e.info.PlainText := by
    rintro id e hid (he | rfl)
    · exact h.entries e he
    · exact plainText_blank hid
  refine ⟨fun e he => ?_, fun p hp => ?_⟩
  · cases RegMap.mem_request he with
    | kept he₀ hr => exact h.entries e he₀
    | uploaded ht he₀ =>
      obtain ⟨hid, hname, hip⟩ := hr _ _ ht
      refine (hold hid he₀).touch _ (fun t ht => ?_) (fun t ht => ?_) _
      · split at ht
        · cases ht
        · exact Option.some.inj ht ▸ hname
      · exact Option.some.inj ht ▸ hip
    | named hid he₀ =>
      exact (hold (plain_resolve h hr.1) he₀).touch _ (fun t ht => Option.some.inj ht ▸ hr.2)
        plain_none _
    | renamed hnew he₀ =>
      have hent := h.entries _ he₀
      exact ⟨plain_of_isDigit (Bool.and_eq_true_iff.mp hnew).2, hent.name, hent.ipStr⟩
    | switched value he₀ =>
      have hent := h.entries _ he₀
      exact hent
    | registered value hid he₀ =>
      exact (hold hr he₀).touch _ plain_none plain_none false
    | checked he₀ =>
      have hent := h.entries _ he₀
      rw [ClientInfo.markStale]
      split
      · exact ⟨hent.id, hent.name, hent.ipStr⟩
      · exact hent
  · rcases mem_mappings_request hp with hp | hp
    · exact h.mappings p hp
    · cases r with
      | clientId io save uri =>
        rw [RegMap.enters] at hp
        split at hp
        case isTrue hacc =>
          cases hp
          exact plain_of_isDigit (Bool.and_eq_true_iff.mp hacc.2.1).2
        case isFalse => cases hp
      | _ => cases hp

/-- In a run of plain requests no text of the registry needs an escape. -/
theorem plainText_run {rs : List Request} (hrs : ∀ r ∈ rs, r.PlainText cJSONParse) :
    ∃ m, (final (serverStep cJSONParse g) bootState rs).reg.Lists m ∧ m.PlainText := by
  have hrun : Always (serverStep cJSONParse g)
      (fun s => ∃ m, s.reg.Lists m ∧ m.PlainText) bootState rs := by
    refine always_of_meets (C := fun _ r => r.PlainText cJSONParse) (fun s r h hr => ?_)
      ⟨_, lists_init, nofun, nofun⟩ (meets_of_forall fun r hr _ => hrs r hr)
    obtain ⟨m, hm, hplain⟩ := h
    exact ⟨_, (serverStep_leaves cJSONParse g hm r).1, plainText_request hplain hr⟩
  exact hrun.final

end

/-! ## The documents -/

/-- The members that both answers show of a client. -/
def ClientInfo.members (c : ClientInfo) (recCount : UInt32) : List (List UInt8 × Json) :=
  [(ascii "id", .str c.id.bytes), (ascii "name", .str c.name.bytes),
    (ascii "online", .bool c.online), (ascii "last_seen", .num c.lastSeen.toNat),
    (ascii "ip", .str c.ipStr.bytes), (ascii "records", .num recCount.toNat)]

/-- The texts of these members. -/
def ClientInfo.memberTexts (c : ClientInfo) (recCount : UInt32) :
    List (List UInt8 × List UInt8) :=
  [(ascii "id", 34 :: (c.id.bytes ++ [34])), (ascii "name", 34 :: (c.name.bytes ++ [34])),
    (ascii "online", boolText c.online), (ascii "last_seen", formatNat c.lastSeen.toNat),
    (ascii "ip", 34 :: (c.ipStr.bytes ++ [34])), (ascii "records", formatNat recCount.toNat)]

theorem clientEntry_eq (c : ClientInfo) (recCount : UInt32) :
    clientEntry c recCount =
      123 :: (commaSep ((c.memberTexts recCount).map memberText) ++ [125]) := by
  rw [clientEntry]
  simp [ClientInfo.memberTexts, commaSep, memberText, ascii]

theorem readsMembers (c : ClientInfo) (h : c.PlainText) (recCount : UInt32) :
    List.Forall₂ ReadsMember (c.memberTexts recCount) (c.members recCount) :=
  .cons (readsMember rfl (reads_str h.id)) (.cons (readsMember rfl (reads_str h.name))
    (.cons (readsMember rfl (reads_bool _)) (.cons (readsMember rfl (reads_nat _))
    (.cons (readsMember rfl (reads_str h.ipStr)) (.cons (readsMember rfl (reads_nat _)) .nil)))))

theorem reads_clientEntry {c : ClientInfo} (h : c.PlainText) (recCount : UInt32) :
    Reads (clientEntry c recCount) (.obj (c.members recCount)) := by
  rw [clientEntry_eq]
  cases readsMembers c h recCount with
  | cons hmem hmems => exact reads_obj hmem hmems

/-- The answer about one client. -/
def ClientInfo.detail (c : ClientInfo) (recCount : UInt32) (basicMode : Bool)
    (records : List DataRecord) : Json :=
  .obj (c.members recCount ++ [(ascii "basic_mode", .bool basicMode),
    (ascii "data", .arr (records.map DataRecord.document))])

theorem clientDetail_eq (c : ClientInfo) (recCount : UInt32) (basicMode : Bool)
    (records : List DataRecord) :
    clientHead c recCount basicMode ++ commaSep (records.map recordJson) ++ [93] ++ [125] =
      123 :: (commaSep ((c.memberTexts recCount ++ [(ascii "basic_mode", boolText basicMode),
        (ascii "data", 91 :: (commaSep (records.map recordJson) ++ [93]))]).map memberText) ++
        [125]) := by
  rw [clientHead]
  simp [ClientInfo.memberTexts, commaSep, memberText, ascii]

theorem reads_clientDetail {c : ClientInfo} (h : c.PlainText) (recCount : UInt32)
    (basicMode : Bool) (records : List DataRecord) :
    Reads (clientHead c recCount basicMode ++ commaSep (records.map recordJson) ++ [93] ++ [125])
      (c.detail recCount basicMode records) := by
  rw [clientDetail_eq]
  have hmode : ReadsMember (ascii "basic_mode", boolText basicMode)
      (ascii "basic_mode", .bool basicMode) := readsMember rfl (reads_bool basicMode)
  have hdata : ReadsMember (ascii "data", 91 :: (commaSep (records.map recordJson) ++ [93]))
      (ascii "data", .arr (records.map DataRecord.document)) :=
    readsMember rfl (reads_records records)
  have hall := List.rel_append (readsMembers c h recCount) (.cons hmode (.cons hdata .nil))
  cases hall with
  | cons hmem hmems => exact reads_obj hmem hmems

/-! ## The answers -/

/-- The whole list of clients, as it is sent. -/
theorem clientsGetHandler_eq (s : ServerState) :
    let clients := clientRegistryGetAll s.reg clientRegistryMaxClients
    let text := 91 :: (commaSep (clients.map fun c =>
      clientEntry c (dataStoreGetCount s.fs c.id)) ++ [93])
    clientsGetHandler {} s =
      some (.list 4096 text text.length clients.length clients.length) := by
  intro clients text
  let entries := clients.map fun c => clientEntry c (dataStoreGetCount s.fs c.id)
  have hcount : clients.length ≤ 16 := by
    unfold clients clientRegistryGetAll
    rw [List.length_map, List.length_range]
    exact Nat.min_le_right _ _
  have hentries : entries.length = clients.length := List.length_map _
  have hlen := length_commaSep_le entries 163 fun t ht => by
    obtain ⟨c, -, rfl⟩ := List.mem_map.mp ht
    exact length_clientEntry_le c _
  have hprint : printEntries 4096 0 ⟨[91], 1⟩ entries =
      some (⟨[91] ++ commaSep entries, 1 + (commaSep entries).length⟩, entries.length) :=
    printEntries_all (by dsimp only; omega)
  have htext : text.length = 1 + (commaSep entries).length + 1 := by
    simp only [text, entries, List.length_cons, List.length_append, List.length_nil]
    omega
  unfold clientsGetHandler
  rw [if_neg Bool.false_ne_true, if_neg Bool.false_ne_true, hprint, Option.bind_some]
  dsimp only
  rw [putByte_eq (by dsimp only; omega), if_pos (by dsimp only; omega), htext, hentries]
  rfl

/-- The whole answer about one client, as it is sent. -/
theorem clientGetHandler_eq {s : ServerState} {uri : List UInt8} {i : Nat}
    (hid : (queryParam uri "id" 32 : Id) ≠ CStr.empty)
    (hget : clientRegistryGet s.reg (queryParam uri "id" 32) = some i) :
    let c := s.reg.client i
    let records := latestRecords {} s.fs c.id
    let text := clientHead c (dataStoreGetCount s.fs c.id)
      (clientRegistryGetBasicMode s.reg c.id) ++ commaSep (records.map recordJson) ++ [93] ++ [125]
    clientGetHandler {} s uri =
      some (.list (4096 + records.length * 128) text text.length records.length
        records.length) := by
  intro c records text
  let bufSz := 4096 + records.length * 128
  let head := clientHead c (dataStoreGetCount s.fs c.id) (clientRegistryGetBasicMode s.reg c.id)
  let entries := records.map recordJson
  have hentries : entries.length = records.length := List.length_map _
  have hhead : head.length ≤ 190 := length_clientHead_le _ _ _
  have hlen := length_commaSep_le entries 88 fun t ht => by
    obtain ⟨rec, -, rfl⟩ := List.mem_map.mp ht
    exact length_recordJson_le rec
  have hstart : print bufSz .start head = some ⟨head, head.length⟩ := by
    rw [print_eq (by rw [Cursor.start, Nat.zero_add]; omega), Cursor.start, Nat.zero_add,
      List.nil_append]
  have hprint : printEntries bufSz 0 ⟨head, head.length⟩ entries =
      some (⟨head ++ commaSep entries, head.length + (commaSep entries).length⟩,
        entries.length) :=
    printEntries_all (by dsimp only; omega)
  have htext : text.length = head.length + (commaSep entries).length + 1 + 1 := by
    simp only [text, head, entries, List.length_cons, List.length_append, List.length_nil]
  have hroom : head.length + (commaSep entries).length + 2 <
      4096 + (latestRecords {} s.fs (s.reg.client i).id).length * 128 := by
    change _ < 4096 + records.length * 128
    omega
  unfold clientGetHandler
  dsimp only
  rw [CStr.isEmpty_eq_false.mpr hid, if_neg Bool.false_ne_true, hget]
  dsimp only
  rw [if_neg Bool.false_ne_true, hstart, Option.bind_some, hprint, Option.bind_some]
  dsimp only
  rw [putByte_putByte (by dsimp only; omega), if_pos (by dsimp only; omega), htext, hentries]

/-- **Answers about clients are documents of the registry.** After any run whose requests bring
    texts that need no escape, /api/clients is the array of the registered clients, each with
    its number of records, and /api/client is the document of the client asked for with its
    newest records. Both are sent whole. -/
theorem client_answers_read (cJSONParse : List UInt8 → Option Json) (g : UInt32)
    {rs : List Request} (hrs : ∀ r ∈ rs, r.PlainText cJSONParse) :
    let s := final (serverStep cJSONParse g) bootState rs
    let clients := clientRegistryGetAll s.reg clientRegistryMaxClients
    (∃ text, clientsGetHandler {} s =
        some (.list 4096 text text.length clients.length clients.length) ∧
      Json.parse text = some (.arr (clients.map fun c =>
        .obj (c.members (dataStoreGetCount s.fs c.id))))) ∧
      ∀ c ∈ clients, ∀ uri, (queryParam uri "id" 32 : Id) = c.id →
        let records := latestRecords {} s.fs c.id
        ∃ text, clientGetHandler {} s uri =
            some (.list (4096 + records.length * 128) text text.length records.length
              records.length) ∧
          Json.parse text = some (c.detail (dataStoreGetCount s.fs c.id)
            (clientRegistryGetBasicMode s.reg c.id) records) := by
  intro s clients
  obtain ⟨m, hm, hplain⟩ := plainText_run (g := g) hrs
  have hall : clients = m.entries.map Entry.info := getAll_eq hm
  have hclient : ∀ c ∈ clients, c.PlainText := by
    intro c hc
    rw [hall] at hc
    obtain ⟨e, he, rfl⟩ := List.mem_map.mp hc
    exact hplain.entries e he
  refine ⟨⟨_, clientsGetHandler_eq s, ?_⟩, fun c hc uri huri => ?_⟩
  · refine (reads_arr ?_).parse_eq
    rw [List.forall₂_map_left_iff, List.forall₂_map_right_iff]
    exact List.forall₂_same.mpr fun c hc => reads_clientEntry (hclient c hc) _
  · rw [hall] at hc
    obtain ⟨e, he, rfl⟩ := List.mem_map.mp hc
    have hne : (queryParam uri "id" 32 : Id) ≠ CStr.empty := huri ▸ m.ids_ne e he
    rcases hm.get_cases (queryParam uri "id" 32) with ⟨-, hn⟩ | ⟨i, e', hget, hi, -, hid, -⟩
    · exact absurd (huri ▸ List.mem_map_of_mem he) hn
    · have hsame : e' = e := KeyedList.eq_of_key_eq m.ids_nodup (List.mem_of_getElem? hi) he
        (hid.trans huri)
      have hinfo : s.reg.client i = e.info := hsame ▸ hm.client_eq hi
      have heq := clientGetHandler_eq hne hget
      dsimp only at heq
      rw [hinfo] at heq
      exact ⟨_, heq, (reads_clientDetail (hplain.entries e he) _ _ _).parse_eq⟩

/-- Two clients, one of them with three readings. -/
theorem client_answers_read_uploaded :
    let rs : List Request := [.clientName {} 7 (ascii "/?id=11&name=attic"),
      .upload {} (fun _ => 9) (batchFrom "11"), .clientName {} 8 (ascii "/?id=12&name=cellar")]
    let s := final (serverStep Json.parse 100) bootState rs
    let clients := clientRegistryGetAll s.reg clientRegistryMaxClients
    clients.map (fun c => (c.name.bytes, (latestRecords {} s.fs c.id).length)) =
        [(ascii "attic", 3), (ascii "cellar", 0)] ∧
      (∃ text, clientsGetHandler {} s =
          some (.list 4096 text text.length clients.length clients.length) ∧
        Json.parse text = some (.arr (clients.map fun c =>
          .obj (c.members (dataStoreGetCount s.fs c.id))))) ∧
      ∀ c ∈ clients, ∀ uri, (queryParam uri "id" 32 : Id) = c.id →
        let records := latestRecords {} s.fs c.id
        ∃ text, clientGetHandler {} s uri =
            some (.list (4096 + records.length * 128) text text.length records.length
              records.length) ∧
          Json.parse text = some (c.detail (dataStoreGetCount s.fs c.id)
            (clientRegistryGetBasicMode s.reg c.id) records) := by
  intro rs s clients
  have hupload : (Request.upload {} (fun _ => 9) (batchFrom "11")).PlainText Json.parse := by
    intro id root ht
    have htexts : (uploadTarget Json.parse {} (batchFrom "11")).all (fun t =>
        decide (Plain t.1.1.bytes ∧ Plain (uploadName t.2).bytes)) = true := by decide +kernel
    rw [ht] at htexts
    obtain ⟨hid, hname⟩ := of_decide_eq_true htexts
    exact ⟨hid, hname, by decide +kernel⟩
  have hrs : ∀ r ∈ rs, r.PlainText Json.parse := by
    intro r hr
    rcases List.mem_cons.mp hr with rfl | hr
    · exact ⟨by decide +kernel, by decide +kernel⟩
    · rcases List.mem_cons.mp hr with rfl | hr
      · exact hupload
      · obtain rfl := List.mem_singleton.mp hr
        exact ⟨by decide +kernel, by decide +kernel⟩
  exact ⟨by decide +kernel, client_answers_read Json.parse 100 hrs⟩

end IndoorLogger
