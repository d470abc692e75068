import IndoorLogger.Client.ServerConfig
import IndoorLogger.Server.RenameProtocol
import IndoorLogger.Server.Responses
import IndoorLogger.Sync.ReadingRoundTrip

/-
  The configuration that travels in the answer to an upload. The server prints it with a
  format string that escapes nothing; with a name, a time zone and an id that need no escape
  the text is the JSON document of the answer (`reads_replyText`) and the client takes over
  what it holds (`config_push_converges`), an interval below a minute excepted.
-/

namespace IndoorLogger

open Decimal Json Machine

/-! ## The document of an answer -/

def UploadReply.json (r : UploadReply) : Json :=
  .obj [(ascii "status", .str (ascii "ok")), (ascii "accepted", .num r.accepted),
    (ascii "timestamp", .num r.timestamp.toNat),
    (ascii "sync_interval", .num r.syncInterval.toNat), (ascii "name", .str r.name.bytes),
    (ascii "timezone", .str r.timezone.bytes), (ascii "basic_mode", .bool r.basicMode),
    (ascii "client_id", .str r.clientId.bytes)]

/-- No string of the answer needs an escape. -/
structure UploadReply.PlainText (r : UploadReply) : Prop where
  name : Plain r.name.bytes
  timezone : Plain r.timezone.bytes
  clientId : Plain r.clientId.bytes

theorem replyText_eq (r : UploadReply) :
    r.text = 123 :: (commaSep ([(ascii "status", 34 :: (ascii "ok" ++ [34])),
      (ascii "accepted", formatNat r.accepted), (ascii "timestamp", formatNat r.timestamp.toNat),
      (ascii "sync_interval", formatNat r.syncInterval.toNat),
      (ascii "name", 34 :: (r.name.bytes ++ [34])),
      (ascii "timezone", 34 :: (r.timezone.bytes ++ [34])),
      (ascii "basic_mode", boolText r.basicMode),
      (ascii "client_id", 34 :: (r.clientId.bytes ++ [34]))].map memberText) ++ [125]) := by
  rw [UploadReply.text]
  simp [commaSep, memberText, ascii]

theorem reads_replyText {r : UploadReply} (h : r.PlainText) : Reads r.text r.json := by
  have hok : Plain (ascii "ok") := List.all_eq_true.mp (by rfl)
  rw [replyText_eq]
  exact reads_obj (readsMember rfl (reads_str hok)) (.cons (readsMember rfl (reads_nat _))
    (.cons (readsMember rfl (reads_nat _)) (.cons (readsMember rfl (reads_nat _))
    (.cons (readsMember rfl (reads_str h.name)) (.cons (readsMember rfl (reads_str h.timezone))
    (.cons (readsMember rfl (reads_bool _)) (.cons (readsMember rfl (reads_str h.clientId))
    .nil)))))))

theorem noNul_replyText (r : UploadReply) : NoNul r.text := by
  have hstr : ∀ {n : Nat} (s : CStr n), NoNul s.bytes := by
    rintro n s b hb rfl
    exact s.noNul hb
  have hbool : NoNul (boolText r.basicMode) := by
    cases r.basicMode <;> exact noNul_of_all rfl
  have lit : ∀ {t : List UInt8} {l : List UInt8}, NoNul t → l.all (· != 0) = true →
      NoNul (t ++ l) := fun ht hl => ht.append (noNul_of_all hl)
  unfold UploadReply.text
  have h1 := (noNul_of_all (t := ascii "\x7b\"status\":\"ok\",\"accepted\":") rfl).append
    (noNul_formatNat r.accepted)
  have h2 := (lit (l := ascii ",\"timestamp\":") h1 rfl).append (noNul_formatNat r.timestamp.toNat)
  have h3 := (lit (l := ascii ",\"sync_interval\":") h2 rfl).append
    (noNul_formatNat r.syncInterval.toNat)
  have h4 := (lit (l := ascii ",\"name\":\"") h3 rfl).append (hstr r.name)
  have h5 := (lit (l := ascii "\",\"timezone\":\"") h4 rfl).append (hstr r.timezone)
  have h6 := (lit (l := ascii "\",\"basic_mode\":") h5 rfl).append hbool
  exact lit ((lit (l := ascii ",\"client_id\":\"") h6 rfl).append (hstr r.clientId)) rfl

/-! ## What the client takes over -/

/-- The configuration of an answer as the client has it afterwards. -/
structure TakesOver (r : UploadReply) (d d' : Device) : Prop where
  assignedName : d'.assignedName = r.name
  syncInterval : d'.syncIntervalSec = if r.syncInterval ≥ 60 then r.syncInterval
    else d.syncIntervalSec
  basicMode : d'.basicMode = r.basicMode
  clientId : d'.clientId = r.clientId
  tz : d'.tz = r.timezone.bytes

theorem uint32_valueDouble (u : UInt32) :
    UInt32.ofInt (Binary64.truncate (valueDouble ((u.toNat : ℕ) : ℚ))) = u := by
  have hlt := u.toNat_lt
  have hvalue : Binary64.truncate (valueDouble ((u.toNat : ℤ) : ℚ)) = (u.toNat : ℤ) :=
    truncate_valueDouble (by rw [abs_lt]; omega)
  rw [Int.cast_natCast] at hvalue
  rw [hvalue]
  apply UInt32.toNat_inj.mp
  rw [UInt32.ofInt, UInt32.toNat_ofNat']
  omega

theorem stringMember_of {n : Nat} [NeZero n] {root : Json} {name : String} {s : CStr n}
    (h : root.getObjectItem name = some (.str s.bytes)) (hne : s ≠ CStr.empty) :
    stringMember root name = some s.bytes := by
  have hbytes : s.bytes ≠ [] := fun hb => hne (CStr.bytes_eq_nil.mp hb)
  rw [stringMember, h, Option.bind_some, string?, CStr.cString_bytes, Option.filter_some,
    decide_eq_true hbytes, if_pos rfl]

theorem uint32Member_of {root : Json} {name : String} {u : UInt32}
    (h : root.getObjectItem name = some (.num u.toNat)) : uint32Member root name = some u := by
  rw [uint32Member, h, Option.bind_some, number?, Option.map_some, uint32_valueDouble]

namespace Device

variable (d : Device) (r : UploadReply) (io : ApplyIo)

theorem applyTimestamp_json :
    d.applyTimestamp r.json = { d with timeOfDay := some r.timestamp } := by
  unfold applyTimestamp
  rw [uint32Member_of (u := r.timestamp) rfl]

theorem applySyncInterval_json :
    d.applySyncInterval r.json = { d with
      syncIntervalSec := if r.syncInterval ≥ 60 then r.syncInterval else d.syncIntervalSec } := by
  unfold applySyncInterval
  rw [uint32Member_of (u := r.syncInterval) rfl]
  dsimp only
  split
  · rfl
  · rfl

theorem applyName_json (hname : r.name ≠ CStr.empty) :
    ∃ nvs, d.applyName io r.json = { d with assignedName := r.name, nvs := nvs } := by
  unfold applyName
  rw [stringMember_of (s := r.name) rfl hname]
  dsimp only
  rw [CStr.strncpy_bytes]
  exact ⟨_, rfl⟩

theorem applyTimezone_json (htz : r.timezone ≠ CStr.empty) :
    d.applyTimezone r.json = { d with tz := r.timezone.bytes } := by
  unfold applyTimezone
  rw [stringMember_of (s := r.timezone) rfl htz]

theorem applyBasicMode_json :
    ∃ nvs, d.applyBasicMode io r.json = { d with basicMode := r.basicMode, nvs := nvs } := by
  have hitem : (r.json.getObjectItem "basic_mode").bind bool? = some r.basicMode := rfl
  unfold applyBasicMode
  rw [hitem]
  dsimp only
  by_cases h : r.basicMode = d.basicMode
  · rw [if_neg (not_not_intro h), h]
    exact ⟨d.nvs, rfl⟩
  · rw [if_pos h]
    exact ⟨_, rfl⟩

theorem applyId_json (hid : r.clientId ≠ CStr.empty) :
    ∃ nvs url changed new, d.applyId io r.json =
      { d with
        clientId := r.clientId
        nvs := nvs
        serverUrl := url
        idChanged := changed
        newId := new } := by
  have hfits := r.clientId.fits
  unfold applyId
  rw [stringMember_of (s := r.clientId) rfl hid]
  dsimp only
  rw [List.take_of_length_le (by omega), CStr.strncpy_bytes]
  by_cases h : r.clientId = d.clientId
  · rw [if_neg (not_not_intro (congrArg CStr.bytes h)), h]
    exact ⟨d.nvs, d.serverUrl, d.idChanged, d.newId, rfl⟩
  · rw [if_pos fun hb => h (CStr.ext hb)]
    exact ⟨_, _, _, _, rfl⟩

/-- The client takes over the configuration of an answer. -/
theorem takesOver_json (hname : r.name ≠ CStr.empty) (htz : r.timezone ≠ CStr.empty)
    (hid : r.clientId ≠ CStr.empty) : TakesOver r d (applyServerConfig io r.json d) := by
  unfold applyServerConfig
  dsimp only
  rw [applyTimestamp_json, applySyncInterval_json]
  obtain ⟨nvs, hn⟩ := applyName_json { d with
    timeOfDay := some r.timestamp
    syncIntervalSec := if r.syncInterval ≥ 60 then r.syncInterval else d.syncIntervalSec }
    r io hname
  rw [hn, applyTimezone_json _ r htz]
  dsimp only
  generalize hd : ({ d with
    timeOfDay := some r.timestamp
    syncIntervalSec := if r.syncInterval ≥ 60 then r.syncInterval else d.syncIntervalSec
    assignedName := r.name
    nvs := nvs
    tz := r.timezone.bytes } : Device) = d₁
  obtain ⟨nvs', hbm⟩ := applyBasicMode_json d₁ r io
  obtain ⟨nvs'', url, changed, new, hidm⟩ :=
    applyId_json { d₁ with basicMode := r.basicMode, nvs := nvs' } r io hid
  rw [hbm, hidm, ← hd]
  exact ⟨rfl, rfl, rfl, rfl, rfl⟩

end Device

/-! ## The answer to an upload -/

/-- A body that fits into the buffer is read whole. -/
theorem cString_httpReadResponse {t : List UInt8} (hnul : NoNul t) (hpos : 0 < t.length)
    (hlen : t.length ≤ 2048) : cString (httpReadResponse t.length t) = t := by
  have hread : httpReadResponse t.length t = t := by
    unfold httpReadResponse
    dsimp only
    rw [if_neg (by omega), if_neg (by omega), Int.toNat_natCast, List.take_length]
  rw [hread]
  exact cString_of_noNul fun hz => hnul 0 hz rfl

/-- The client reads the whole answer. -/
theorem httpReadResponse_text {r : UploadReply} (h : r.text.length < 384) :
    cString (httpReadResponse r.text.length r.text) = r.text := by
  have hpos : 0 < r.text.length := by rw [replyText_eq]; exact Nat.zero_lt_succ _
  exact cString_httpReadResponse (noNul_replyText r) hpos (by omega)

/-! ## The configuration of the server -/

theorem configSaveTimezone_ne (s : ServerState) (tz : List UInt8) :
    (configSaveTimezone s tz).timezone ≠ CStr.empty := by
  rw [configSaveTimezone]
  dsimp only
  split
  case isTrue => decide
  case isFalse h =>
    intro he
    have hbytes : (CStr.strncpy tz : CStr 64).bytes = (cString tz).take 63 := rfl
    rw [← CStr.bytes_eq_nil, hbytes, List.take_eq_nil_iff] at he
    rcases he with he | he
    · cases he
    · exact h he

/-- Only a request for it changes the time zone, and never to the empty one. -/
theorem serverStep_timezone_ne {cJSONParse : List UInt8 → Option Json} {gMax : UInt32}
    {s : ServerState} (h : s.timezone ≠ CStr.empty) (r : Request) :
    (serverStep cJSONParse gMax s r).1.timezone ≠ CStr.empty := by
  have hother : (∀ uri, r ≠ .syncIntervalPost uri) → (∀ uri, r ≠ .timezonePost uri) →
      (serverStep cJSONParse gMax s r).1.timezone ≠ CStr.empty := by
    intro hint htz
    rw [(serverStep_settings cJSONParse gMax s hint htz).2]
    exact h
  cases r with
  | syncIntervalPost uri =>
    obtain ⟨val, heq⟩ := syncIntervalPostHandler_eq s uri
    rw [serverStep]
    dsimp only
    rw [heq]
    exact h
  | timezonePost uri =>
    rw [serverStep, timezonePostHandler]
    dsimp only
    split
    · exact h
    · exact configSaveTimezone_ne s _
  | _ => exact hother (by simp) (by simp)

/-- In every state reached the registry's arrays hold a map and there is a time zone. -/
theorem reached_config (cJSONParse : List UInt8 → Option Json) (gMax : UInt32)
    (rs : List Request) :
    (∃ m, (final (serverStep cJSONParse gMax) bootState rs).reg.Lists m) ∧
      (final (serverStep cJSONParse gMax) bootState rs).timezone ≠ CStr.empty := by
  have hrun : Always (serverStep cJSONParse gMax)
      (fun s => (∃ m, s.reg.Lists m) ∧ s.timezone ≠ CStr.empty) bootState rs := by
    refine always_of_step (fun s r h => ?_) rs ⟨⟨_, lists_init⟩, by decide⟩
    obtain ⟨⟨m, hm⟩, htz⟩ := h
    exact ⟨⟨_, (serverStep_leaves cJSONParse gMax hm r).1⟩, serverStep_timezone_ne htz r⟩
  exact hrun.final

/-- The name, the time zone and the id of a client hold no byte that a JSON string escapes. -/
structure PlainConfig (s : ServerState) (id : Id) (i : Nat) : Prop where
  name : Plain (s.reg.client i).name.bytes
  timezone : Plain s.timezone.bytes
  id : Plain id.bytes

/-- The client has taken over what the server holds for it; an interval below a minute is left
    out. -/
structure Converged (s : ServerState) (id : Id) (i : Nat) (d d' : Device) : Prop where
  assignedName : d'.assignedName = (s.reg.client i).name
  syncInterval : d'.syncIntervalSec = if s.syncInterval ≥ 60 then s.syncInterval
    else d.syncIntervalSec
  basicMode : d'.basicMode = clientRegistryGetBasicMode s.reg id
  clientId : d'.clientId = id
  tz : d'.tz = s.timezone.bytes

/-- From every reachable state, the answer to an upload of a registered client that has a name
    is a JSON document that fits into its buffer, and every client that applies it has the
    server's configuration, when none of its strings needs an escape. -/
theorem config_push_converges (gMax : UInt32) (rs : List Request) (io : UploadIo)
    (clock : Nat → UInt32) (req : UploadRequest) (reply : UploadReply) (i : Nat) (aio : ApplyIo)
    (d : Device) :
    let s := final (serverStep Json.parse gMax) bootState rs
    let r := uploadPostHandler Json.parse gMax io clock s req
    let id := clientRegistryResolveId r.1.reg (queryParam req.uri "id" 32)
    r.2 = .upload reply → clientRegistryGet r.1.reg id = some i →
    (r.1.reg.client i).name ≠ CStr.empty → PlainConfig r.1 id i →
    reply.text.length < 384 ∧
      ∃ root, Json.parse (cString (httpReadResponse reply.text.length reply.text)) = some root ∧
        Converged r.1 id i d (applyServerConfig aio root d) := by
  intro s r id hreply hget hname hplain
  have htext := length_text_of_upload json_parse_itemsBounded hreply
  obtain ⟨id', root, now, ht, heq⟩ := uploadPostHandler_reply hreply
  have hid' : id'.1 = queryParam req.uri "id" 32 := uploadTarget_id ht
  -- the fields of the answer are those of the state after the upload
  have hrid : reply.clientId = id := by
    rw [heq, uploadReply, hid']
  have hrname : reply.name = (r.1.reg.client i).name := by
    rw [heq, uploadReply, hid']
    dsimp only
    rw [show clientRegistryGet _ _ = some i from hget]
  have hrmode : reply.basicMode = clientRegistryGetBasicMode r.1.reg id := by
    rw [heq, uploadReply, hid']
  have hrtz : reply.timezone = r.1.timezone := by rw [heq, uploadReply]
  have hrsync : reply.syncInterval = r.1.syncInterval := by rw [heq, uploadReply]
  obtain ⟨⟨m, hm⟩, hzone⟩ := reached_config Json.parse gMax rs
  have htz : r.1.timezone ≠ CStr.empty := serverStep_timezone_ne hzone (.upload io clock req)
  have hid : id ≠ CStr.empty := by
    obtain ⟨-, -, reply', hreply', -, hclient⟩ := uploadPostHandler_some gMax hm clock ht
    obtain rfl : reply = reply' := Response.upload.inj (hreply.symm.trans hreply')
    rw [← hrid, hclient]
    exact RegMap.resolve_ne _ id'.ne
  have hp : reply.PlainText := ⟨hrname ▸ hplain.name, hrtz ▸ hplain.timezone, hrid ▸ hplain.id⟩
  refine ⟨htext, reply.json, ?_, ?_⟩
  · rw [httpReadResponse_text htext]
    exact (reads_replyText hp).parse_eq
  · obtain ⟨hn, hs, hb, hi, hz⟩ := Device.takesOver_json d reply aio (hrname ▸ hname) (hrtz ▸ htz)
      (hrid ▸ hid)
    exact ⟨hn.trans hrname, hrsync ▸ hs, hb.trans hrmode, hi.trans hrid,
      hz.trans (congrArg CStr.bytes hrtz)⟩

/-- A device after its first boot. -/
def bootDevice : Device where
  clientId := CStr.strncpy (ascii "1")
  serverUrl := CStr.empty
  serverIp := CStr.empty
  ipResolved := false
  assignedName := CStr.empty
  syncIntervalSec := 600
  basicMode := false
  idChanged := false
  newId := CStr.empty
  timeOfDay := none
  tz := []
  nvs := ⟨none, none, none⟩

/-- Client 1 is registered by an upload, then a request changes the configuration. -/
def configured (r : Request) : ServerState :=
  final (serverStep Json.parse 4314) bootState
    [.upload {} (fun _ => 0) (uploadFrom "1" "1600000000"), r]

/-- The next upload of client 1. -/
def nextUpload (s : ServerState) : ServerState × Response :=
  uploadPostHandler Json.parse 4314 {} (fun _ => 1700000000) s (uploadFrom "1" "1700000000")

/-- The answer to the next upload of client 1, with a name. -/
def answer (name : String) (syncInterval : UInt32) : UploadReply where
  accepted := 1
  timestamp := 1700000000
  syncInterval := syncInterval
  name := CStr.strncpy (ascii name)
  timezone := defaultTimezone
  basicMode := true
  clientId := CStr.strncpy (ascii "1")

/-- A client that was given the name Kitchen. -/
theorem config_push_converges_kitchen :
    let req := uploadFrom "1" "1700000000"
    let s := final (serverStep Json.parse 4314) bootState
      [.upload {} (fun _ => 0) (uploadFrom "1" "1600000000"),
        .clientName {} 0 (ascii "/?id=1&name=Kitchen")]
    let r := uploadPostHandler Json.parse 4314 {} (fun _ => 1700000000) s req
    let id := clientRegistryResolveId r.1.reg (queryParam req.uri "id" 32)
    let text := (answer "Kitchen" 600).text
    text.length < 384 ∧ ∃ root, Json.parse (cString (httpReadResponse text.length text)) =
      some root ∧ Converged r.1 id 0 bootDevice (applyServerConfig {} root bootDevice) :=
  config_push_converges 4314
    [.upload {} (fun _ => 0) (uploadFrom "1" "1600000000"),
      .clientName {} 0 (ascii "/?id=1&name=Kitchen")]
    {} (fun _ => 1700000000) (uploadFrom "1" "1700000000") (answer "Kitchen" 600) 0 {} bootDevice
    (by decide +kernel) (by decide +kernel) (by decide +kernel)
    ⟨by decide +kernel, by decide +kernel, by decide +kernel⟩

/-- The server accepts an interval of 30 s, which the client does not take over, and a quote as
    a name, after which the answer is no JSON document. -/
theorem config_push_refused :
    let short := configured (.syncIntervalPost (ascii "/?value=30"))
    let quoted := configured (.clientName {} 0 (ascii "/?id=1&name=%22"))
    short.syncInterval = 30 ∧ (nextUpload short).2 = .upload (answer "" 30) ∧
      (Json.parse (answer "" 30).text).map
        (fun root => (applyServerConfig {} root bootDevice).syncIntervalSec) = some 600 ∧
      (nextUpload quoted).2 = .upload (answer "\"" 600) ∧
      (Json.parse (answer "\"" 600).text).isNone := by
  decide +kernel

end IndoorLogger
