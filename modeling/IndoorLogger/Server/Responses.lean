import IndoorLogger.Lib.JsonParse
import IndoorLogger.Lib.Snprintf
import IndoorLogger.Server.DataStoreRing
import IndoorLogger.Server.Restart

/-
  The answers of the server and the buffers they are printed into. What snprintf returns is
  the length that is sent and the position the next part is printed at, so an answer has to be
  shorter than its buffer. The six answers with one format string do (`serverStep_fits`); the
  two lists of /api/clients and /api/client are printed entry by entry by `printEntries`, and
  with at most 16 clients and 24 records every entry is (`printEntries_all`).
-/

namespace IndoorLogger

open Decimal Machine Snprintf

/-! ## The answer to an upload -/

/-- The answer fits into its buffer of 384 bytes. -/
theorem length_replyText_le {r : UploadReply} (h : r.accepted < 10 ^ 10) :
    r.text.length < 384 := by
  have ha := length_formatNat_of_lt (k := 10) (by decide) h
  have ht : (formatNat r.timestamp.toNat).length ≤ 10 := by
    have := r.timestamp.toNat_lt
    exact length_formatNat_of_lt (by decide) (by omega)
  have hs : (formatNat r.syncInterval.toNat).length ≤ 10 := by
    have := r.syncInterval.toNat_lt
    exact length_formatNat_of_lt (by decide) (by omega)
  have hb : (boolText r.basicMode).length ≤ 5 := by
    cases r.basicMode <;> decide
  have hname := r.name.fits
  have htz := r.timezone.fits
  have hid := r.clientId.fits
  have hlit : (ascii "\x7b\"status\":\"ok\",\"accepted\":").length = 26 ∧
      (ascii ",\"timestamp\":").length = 13 ∧ (ascii ",\"sync_interval\":").length = 17 ∧
      (ascii ",\"name\":\"").length = 9 ∧ (ascii "\",\"timezone\":\"").length = 14 ∧
      (ascii "\",\"basic_mode\":").length = 15 ∧ (ascii ",\"client_id\":\"").length = 14 ∧
      (ascii "\"\x7d").length = 2 := by decide
  unfold UploadReply.text
  simp only [List.length_append, hlit]
  omega

/-- A parsed text has at most one reading for each of its bytes, and one. -/
def ItemsBounded (cJSONParse : List UInt8 → Option Json) : Prop :=
  ∀ t root, cJSONParse t = some root → (uploadItems root).length ≤ t.length + 1

section

variable {cJSONParse : List UInt8 → Option Json} {gMax : UInt32}

/-- The answer is built from the state the upload leaves. -/
theorem uploadPostHandler_reply {io : UploadIo} {clock : Nat → UInt32} {s : ServerState}
    {req : UploadRequest} {reply : UploadReply}
    (h : (uploadPostHandler cJSONParse gMax io clock s req).2 = .upload reply) :
    ∃ id root now, uploadTarget cJSONParse io req = some (id, root) ∧
      reply = uploadReply (uploadPostHandler cJSONParse gMax io clock s req).1 id
        ((storeReadings gMax io.append clock id 0 s.fs (uploadItems root)).2.count true) now := by
  obtain ⟨resp, -, hresp, heq⟩ | ⟨id, root, ht, heq⟩ :=
    uploadPostHandler_cases cJSONParse gMax io clock s req
  · rw [heq] at h
    exact absurd h (hresp reply)
  · rw [heq] at h ⊢
    exact ⟨id, root, _, ht, (Response.upload.inj h).symm⟩

theorem length_storeReadings (io : Nat → AppendIo) (clock : Nat → UInt32) (id : Id) (i : Nat)
    (fs : Fs) (items : List Json) :
    (storeReadings gMax io clock id i fs items).2.length = items.length := by
  induction items generalizing i fs with
  | nil => rfl
  | cons item items ih =>
    rw [storeReadings]
    split
    · exact congrArg (· + 1) (ih _ _)
    · exact congrArg (· + 1) (ih _ _)

/-- A request holds no more readings than a body may have bytes, and one. -/
theorem length_uploadItems_le (hparse : ItemsBounded cJSONParse) {io : UploadIo}
    {req : UploadRequest} {id : ClientId} {root : Json}
    (h : uploadTarget cJSONParse io req = some (id, root)) :
    (uploadItems root).length ≤ 8193 := by
  have hbody : req.body.length ≤ 8192 ∧ cJSONParse (cString req.body) = some root := by
    rw [uploadTarget] at h
    split at h
    · cases h
    · split at h
      case h_1 => cases h
      case h_2 hroot =>
        cases h
        obtain ⟨-, hlen, -, -, hp⟩ := uploadRoot_eq_ok_iff.mp hroot
        exact ⟨hlen, hp⟩
  obtain ⟨hlen, hp⟩ := hbody
  have hcut : (cString req.body).length ≤ req.body.length :=
    (List.takeWhile_sublist _).length_le
  have := hparse _ _ hp
  omega

/-- No answer is longer than its buffer. -/
theorem length_text_of_upload (hparse : ItemsBounded cJSONParse) {io : UploadIo}
    {clock : Nat → UInt32} {s : ServerState} {req : UploadRequest} {reply : UploadReply}
    (h : (uploadPostHandler cJSONParse gMax io clock s req).2 = .upload reply) :
    reply.text.length < 384 := by
  obtain ⟨id, root, now, ht, rfl⟩ := uploadPostHandler_reply h
  apply length_replyText_le
  have hitems := length_uploadItems_le hparse ht
  have hcount := List.count_le_length (a := true)
    (l := (storeReadings gMax io.append clock id 0 s.fs (uploadItems root)).2)
  rw [length_storeReadings] at hcount
  have hacc : ∀ n, (uploadReply (uploadPostHandler cJSONParse gMax io clock s req).1 id n
      now).accepted = n := fun _ => rfl
  rw [hacc]
  omega

end

/-- The parser for JSON texts bounds the items. -/
theorem json_parse_itemsBounded : ItemsBounded Json.parse := by
  intro t root h
  unfold uploadItems
  split
  case h_1 items hitems => exact Json.length_items_of_parse h (Or.inl hitems)
  case h_2 =>
    cases hr : (root.getObjectItem "readings").bind Json.items? with
    | none => exact Nat.zero_le _
    | some items => exact Json.length_items_of_parse h (Or.inr ⟨"readings", hr⟩)

/-! ## Answers with one format string -/

/-- An answer that is shorter than the buffer it was printed into. A literal is sent without
    a buffer, with its terminating NUL at most. -/
def Response.Fits : Response → Prop
  | .plain text len => len ≤ (ascii text).length + 1
  | .json bufSz text => text.length < bufSz
  | .upload r => r.text.length < 384
  | .error _ => True

section

variable {cJSONParse : List UInt8 → Option Json} {gMax : UInt32} {s : ServerState}

theorem uploadRoot_fits {io : UploadIo} {body : List UInt8} {resp : Response}
    (h : uploadRoot cJSONParse io body = .error resp) : resp.Fits := by
  unfold uploadRoot at h
  split at h
  · cases h
    exact (by decide : 10 ≤ (ascii "empty body").length + 1)
  · split at h
    · cases h
      exact (by decide : 14 ≤ (ascii "body too large").length + 1)
    · split at h
      · cases h
        trivial
      · split at h
        · cases h
          trivial
        · split at h
          · cases h
            exact (by decide : 12 ≤ (ascii "invalid json").length + 1)
          · cases h

theorem uploadPostHandler_fits (hparse : ItemsBounded cJSONParse) (io : UploadIo)
    (clock : Nat → UInt32) (req : UploadRequest) :
    (uploadPostHandler cJSONParse gMax io clock s req).2.Fits := by
  cases hr : (uploadPostHandler cJSONParse gMax io clock s req).2 with
  | upload reply => exact length_text_of_upload hparse hr
  | _ =>
    rw [← hr]
    unfold uploadPostHandler at hr ⊢
    dsimp only at hr ⊢
    split
    · exact (by decide : 10 ≤ (ascii "missing id").length + 1)
    · cases hroot : uploadRoot cJSONParse io req.body with
      | error resp => exact uploadRoot_fits hroot
      | ok root =>
        rw [if_neg ‹_›, hroot] at hr
        cases hr

theorem clientNameGetHandler_fits (io : SaveIo) (now : UInt32) (uri : List UInt8) :
    (clientNameGetHandler io now s uri).2.Fits := by
  unfold clientNameGetHandler
  dsimp only
  split
  · exact (by decide : 18 ≤ (ascii "missing id or name").length + 1)
  · split
    · trivial
    · have hid := (clientRegistryResolveId s.reg (queryParam uri "id" 32)).fits
      have hname := (queryParam uri "name" 32 : CStr 32).fits
      have hlit : (ascii "\x7b\"id\":\"").length = 7 ∧ (ascii "\",\"name\":\"").length = 10 ∧
          (ascii "\"\x7d").length = 2 := by decide
      unfold Response.Fits
      simp only [List.length_append, hlit]
      omega

theorem clientIdPostHandler_fits (io : RenameIo) (save : SaveIo) (uri : List UInt8) :
    (clientIdPostHandler io save s uri).2.Fits := by
  unfold clientIdPostHandler
  dsimp only
  split
  · exact (by decide : 20 ≤ (ascii "missing id or new_id").length + 1)
  · split
    · exact (by decide : 41 ≤ (ascii "invalid new_id (digits only, 1-31 chars)").length + 1)
    · split
      · trivial
      · split
        · exact (by decide : 21 ≤ (ascii "new_id already exists").length + 1)
        · split
          · trivial
          · have hold := (clientRegistryResolveId s.reg (queryParam uri "id" 32)).fits
            have hnew := (queryParam uri "new_id" 32 : Id).fits
            have hlit : (ascii "\x7b\"id\":\"").length = 7 ∧
                (ascii "\",\"new_id\":\"").length = 12 ∧ (ascii "\"\x7d").length = 2 := by decide
            unfold Response.Fits
            simp only [List.length_append, hlit]
            omega

theorem clientDeleteHandler_fits (io : SaveIo) (unlinkFails : Bool) (uri : List UInt8) :
    (clientDeleteHandler io unlinkFails s uri).2.Fits := by
  unfold clientDeleteHandler
  dsimp only
  split
  · exact (by decide : 15 ≤ (ascii "missing id param").length + 1)
  · split
    · trivial
    · have hid := (queryParam uri "id" 32 : Id).fits
      have hlit : (ascii "\x7b\"deleted\":\"").length = 12 ∧ (ascii "\"\x7d").length = 2 := by
        decide
      unfold Response.Fits
      simp only [List.length_append, hlit]
      omega

theorem length_boolText_le (b : Bool) : (boolText b).length ≤ 5 := by
  cases b <;> decide

theorem clientBasicModePostHandler_fits (io : SaveIo) (now : UInt32) (uri : List UInt8) :
    (clientBasicModePostHandler io now s uri).2.Fits := by
  have htext : ∀ (id : Id) (v : Bool), Response.Fits (.json 96 (ascii "\x7b\"ok\":true,\"id\":\"" ++
      id.bytes ++ ascii "\",\"basic_mode\":" ++ boolText v ++ ascii "\x7d")) := by
    intro id v
    have hid := id.fits
    have hmode := length_boolText_le v
    have hlit : (ascii "\x7b\"ok\":true,\"id\":\"").length = 17 ∧
        (ascii "\",\"basic_mode\":").length = 15 ∧ (ascii "\x7d").length = 1 := by decide
    unfold Response.Fits
    simp only [List.length_append, hlit]
    omega
  have hunknown : 16 ≤ (ascii "client not found").length + 1 := by decide
  unfold clientBasicModePostHandler
  dsimp only
  split
  · exact (by decide : 19 ≤ (ascii "missing id or value").length + 1)
  · split
    · exact (by decide : 13 ≤ (ascii "invalid value").length + 1)
    · split
      · split
        · exact hunknown
        · exact htext _ _
      · split
        · exact hunknown
        · exact htext _ _

theorem syncIntervalPostHandler_fits (uri : List UInt8) :
    (syncIntervalPostHandler s uri).2.Fits := by
  unfold syncIntervalPostHandler
  dsimp only
  split
  · exact (by decide : 19 ≤ (ascii "missing value param").length + 1)
  · split
    · exact (by decide : 13 ≤ (ascii "invalid value").length + 1)
    · obtain ⟨hlo, hhi⟩ := atoi_mem (queryParam uri "value" 16 : CStr 16).bytes
      have hvalue := (length_formatInt_le (k := 10) (by decide)
        (by omega : (atoi (queryParam uri "value" 16 : CStr 16).bytes).natAbs < 10 ^ 10)).1
      have hlit : (ascii "\x7b\"ok\":true,\"sync_interval\":").length = 27 ∧
          (ascii "\x7d").length = 1 := by decide
      unfold Response.Fits
      simp only [List.length_append, hlit]
      omega

theorem timezonePostHandler_fits (uri : List UInt8) : (timezonePostHandler s uri).2.Fits := by
  unfold timezonePostHandler
  dsimp only
  split
  · exact (by decide : 19 ≤ (ascii "missing value param").length + 1)
  · have htz := (configSaveTimezone s
      ((getQueryVal (strchr uri 63) (ascii "value") 80).getD [])).timezone.fits
    have hlit : (ascii "\x7b\"ok\":true,\"timezone\":\"").length = 23 ∧
        (ascii "\"\x7d").length = 2 := by decide
    unfold Response.Fits
    simp only [List.length_append, hlit]
    omega

/-- Every answer of the server fits. -/
theorem serverStep_fits (hparse : ItemsBounded cJSONParse) (r : Request) {resp : Response}
    (h : (serverStep cJSONParse gMax s r).2 = some resp) : resp.Fits := by
  cases r with
  | upload io clock req => exact Option.some.inj h ▸ uploadPostHandler_fits hparse io clock req
  | clientName io now uri => exact Option.some.inj h ▸ clientNameGetHandler_fits io now uri
  | clientId io save uri => exact Option.some.inj h ▸ clientIdPostHandler_fits io save uri
  | clientDelete io unlinkFails uri =>
    exact Option.some.inj h ▸ clientDeleteHandler_fits io unlinkFails uri
  | basicModePost io now uri =>
    exact Option.some.inj h ▸ clientBasicModePostHandler_fits io now uri
  | syncIntervalPost uri => exact Option.some.inj h ▸ syncIntervalPostHandler_fits uri
  | timezonePost uri => exact Option.some.inj h ▸ timezonePostHandler_fits uri
  | checkStale now timeoutSec => cases h

end

/-! ## Lists of entries -/

/-- The loop of `clients_get_handler` and `client_get_handler`, from entry `i` on: a comma
    before every entry but the first, and no further entry once less than 128 bytes are left.
    The buffer and the number of entries printed; none when a write goes past the buffer. -/
def printEntries (bufSz : Nat) : Nat → Cursor → List (List UInt8) → Option (Cursor × Nat)
  | i, c, [] => some (c, i)
  | i, c, t :: ts =>
    let c := if i > 0 && c.pos < bufSz then ⟨c.text ++ [44], c.pos + 1⟩ else c
    (print bufSz c t).bind fun c =>
      if c.pos ≥ bufSz - 128 then some (c, i + 1) else printEntries bufSz (i + 1) c ts

/-- `buf[pos++] = b` while there is room. -/
def putByte (bufSz : Nat) (c : Cursor) (b : UInt8) : Cursor :=
  if c.pos < bufSz then ⟨c.text ++ [b], c.pos + 1⟩ else c

/-- What is sent by the two handlers that list entries: a literal, an error status, or a
    buffer with the length sent of it and the entries printed out of all there are. -/
inductive ListResponse where
  | plain (text : String) (len : Nat)
  | error (code : Nat)
  | list (bufSz : Nat) (text : List UInt8) (len printed entries : Nat)
  deriving DecidableEq

/-- Which calls of a listing handler fail. -/
structure ListIo where
  mallocEntries : Bool := false
  mallocBuf : Bool := false

/-- `client_registry_get_all`. -/
def clientRegistryGetAll (reg : Registry) (capacity : Nat) : List ClientInfo :=
  (List.range (min reg.clientCount capacity)).map reg.client

/-- An entry of the answer of /api/clients. -/
def clientEntry (c : ClientInfo) (recCount : UInt32) : List UInt8 :=
  ascii "\x7b\"id\":\"" ++ c.id.bytes ++ ascii "\",\"name\":\"" ++ c.name.bytes ++
    ascii "\",\"online\":" ++ boolText c.online ++
    ascii ",\"last_seen\":" ++ formatNat c.lastSeen.toNat ++
    ascii ",\"ip\":\"" ++ c.ipStr.bytes ++
    ascii "\",\"records\":" ++ formatNat recCount.toNat ++ ascii "\x7d"

/-- `clients_get_handler`. None when it writes past its buffer. -/
def clientsGetHandler (io : ListIo) (s : ServerState) : Option ListResponse :=
  if io.mallocEntries then some (.error 500)
  else
    let clients := clientRegistryGetAll s.reg clientRegistryMaxClients
    let bufSz := 4096
    if io.mallocBuf then some (.error 500)
    else
      (printEntries bufSz 0 ⟨[91], 1⟩
        (clients.map fun c => clientEntry c (dataStoreGetCount s.fs c.id))).bind fun (c, n) =>
      let c := putByte bufSz c 93
      -- buf[pos] = 0
      if c.pos < bufSz then some (.list bufSz c.text c.pos n clients.length) else none

/-- The start of the answer of /api/client. -/
def clientHead (c : ClientInfo) (recCount : UInt32) (basicMode : Bool) : List UInt8 :=
  ascii "\x7b\"id\":\"" ++ c.id.bytes ++ ascii "\",\"name\":\"" ++ c.name.bytes ++
    ascii "\",\"online\":" ++ boolText c.online ++
    ascii ",\"last_seen\":" ++ formatNat c.lastSeen.toNat ++
    ascii ",\"ip\":\"" ++ c.ipStr.bytes ++
    ascii "\",\"records\":" ++ formatNat recCount.toNat ++
    ascii ",\"basic_mode\":" ++ boolText basicMode ++ ascii ",\"data\":["

/-- The records `client_get_handler` lists: the newest 24. -/
def latestRecords (io : ListIo) (fs : Fs) (id : Id) : List DataRecord :=
  let recCount := dataStoreGetCount fs id
  let limit : UInt32 := 24
  let offset := if recCount > limit then recCount - limit else 0
  if io.mallocEntries then [] else dataStoreReadRange fs id offset limit limit

/-- `client_get_handler`. None when it writes past its buffer. -/
def clientGetHandler (io : ListIo) (s : ServerState) (uri : List UInt8) : Option ListResponse :=
  let clientId : Id := queryParam uri "id" 32
  if clientId.isEmpty then some (.plain "missing id param" 16)
  else
    match clientRegistryGet s.reg clientId with
    | none => some (.error 404)
    | some i =>
      let client := s.reg.client i
      let records := latestRecords io s.fs client.id
      let bufSz := 4096 + records.length * 128
      if io.mallocBuf then some (.error 500)
      else
        (print bufSz .start (clientHead client (dataStoreGetCount s.fs client.id)
          (clientRegistryGetBasicMode s.reg client.id))).bind fun c =>
        (printEntries bufSz 0 c (records.map recordJson)).bind fun (c, n) =>
        let c := putByte bufSz (putByte bufSz c 93) 125
        -- buf[pos] = 0
        if c.pos < bufSz then some (.list bufSz c.text c.pos n records.length) else none

/-! ### The loop -/

theorem printEntries_cons {bufSz i : Nat} {c : Cursor} {t : List UInt8} {ts : List (List UInt8)}
    (h : c.pos + t.length + (if i > 0 then 1 else 0) < bufSz - 128) :
    printEntries bufSz i c (t :: ts) =
      printEntries bufSz (i + 1) ⟨c.text ++ ((if i > 0 then [44] else []) ++ t),
        c.pos + (t.length + if i > 0 then 1 else 0)⟩ ts := by
  rw [printEntries]
  split at h
  case isTrue hi =>
    have hcomma : (decide (i > 0) && decide (c.pos < bufSz)) = true := by
      rw [Bool.and_eq_true, decide_eq_true_eq, decide_eq_true_eq]
      omega
    rw [if_pos hcomma, print_eq (by dsimp only; omega), Option.bind_some,
      if_neg (by dsimp only; omega), if_pos hi, if_pos hi, List.append_assoc,
      Nat.add_assoc, Nat.add_comm 1]
  case isFalse hi =>
    have hcomma : ¬(decide (i > 0) && decide (c.pos < bufSz)) = true := by
      rw [Bool.and_eq_true, decide_eq_true_eq]
      omega
    rw [if_neg hcomma, print_eq (by omega), Option.bind_some, if_neg (by dsimp only; omega),
      if_neg hi, if_neg hi, List.nil_append, Nat.add_zero t.length]

/-- Entries behind the first one. -/
theorem printEntries_tail {bufSz i : Nat} {c : Cursor} {ts : List (List UInt8)} (hi : 0 < i)
    (h : c.pos + (ts.map (44 :: ·)).flatten.length < bufSz - 128) :
    printEntries bufSz i c ts = some (⟨c.text ++ (ts.map (44 :: ·)).flatten,
      c.pos + (ts.map (44 :: ·)).flatten.length⟩, i + ts.length) := by
  induction ts generalizing i c with
  | nil => rw [printEntries, List.map_nil, List.flatten_nil, List.append_nil]; rfl
  | cons t ts ih =>
    rw [List.map_cons, List.flatten_cons, List.length_append, List.length_cons] at h
    rw [printEntries_cons (by rw [if_pos hi]; omega), if_pos hi, if_pos hi,
      ih i.succ_pos (by dsimp only; omega), List.map_cons, List.flatten_cons, List.length_append,
      List.length_cons, List.length_cons, List.append_assoc, Nat.add_assoc c.pos,
      Nat.succ_add_eq_add_succ i]
    rfl

/-- As long as all entries leave 128 bytes, all are printed. -/
theorem printEntries_all {bufSz : Nat} {c : Cursor} {ts : List (List UInt8)}
    (h : c.pos + (Json.commaSep ts).length < bufSz - 128) :
    printEntries bufSz 0 c ts =
      some (⟨c.text ++ Json.commaSep ts, c.pos + (Json.commaSep ts).length⟩, ts.length) := by
  cases ts with
  | nil => rw [printEntries, Json.commaSep, List.append_nil]; rfl
  | cons t ts =>
    rw [Json.commaSep, List.length_append] at h
    rw [printEntries_cons (by rw [if_neg (Nat.lt_irrefl 0)]; omega), if_neg (Nat.lt_irrefl 0),
      if_neg (Nat.lt_irrefl 0), printEntries_tail Nat.one_pos (by dsimp only; omega),
      Json.commaSep, List.length_append, List.length_cons, List.nil_append, List.append_assoc,
      Nat.add_zero, Nat.add_assoc, Nat.add_comm 1]

theorem putByte_eq {bufSz : Nat} {c : Cursor} (h : c.pos < bufSz) (b : UInt8) :
    putByte bufSz c b = ⟨c.text ++ [b], c.pos + 1⟩ := if_pos h

theorem putByte_putByte {bufSz : Nat} {c : Cursor} (h : c.pos + 1 < bufSz) (b b' : UInt8) :
    putByte bufSz (putByte bufSz c b) b' = ⟨c.text ++ [b] ++ [b'], c.pos + 1 + 1⟩ := by
  rw [putByte_eq (c := c) (by omega), putByte_eq h]

/-! ### The two handlers -/

/-- What is sent is what was printed, shorter than its buffer, and all of `n` entries. -/
def ListResponse.Whole (n : Nat) : ListResponse → Prop
  | .plain text len => len ≤ (ascii text).length + 1
  | .error _ => True
  | .list bufSz text len printed entries =>
    len = text.length ∧ len < bufSz ∧ printed = entries ∧ entries = n

theorem length_formatNat_uint32 (n : UInt32) : (formatNat n.toNat).length ≤ 10 := by
  have := n.toNat_lt
  exact length_formatNat_of_lt (by decide) (by omega)

theorem length_clientEntry_le (c : ClientInfo) (recCount : UInt32) :
    (clientEntry c recCount).length ≤ 163 := by
  have hid := c.id.fits
  have hname := c.name.fits
  have hip := c.ipStr.fits
  have honline := length_boolText_le c.online
  have hseen := length_formatNat_uint32 c.lastSeen
  have hcount := length_formatNat_uint32 recCount
  have hlit : (ascii "\x7b\"id\":\"").length = 7 ∧ (ascii "\",\"name\":\"").length = 10 ∧
      (ascii "\",\"online\":").length = 11 ∧ (ascii ",\"last_seen\":").length = 13 ∧
      (ascii ",\"ip\":\"").length = 7 ∧ (ascii "\",\"records\":").length = 12 ∧
      (ascii "\x7d").length = 1 := by decide
  unfold clientEntry
  simp only [List.length_append, hlit]
  omega

theorem length_clientHead_le (c : ClientInfo) (recCount : UInt32) (basicMode : Bool) :
    (clientHead c recCount basicMode).length ≤ 190 := by
  have hid := c.id.fits
  have hname := c.name.fits
  have hip := c.ipStr.fits
  have honline := length_boolText_le c.online
  have hmode := length_boolText_le basicMode
  have hseen := length_formatNat_uint32 c.lastSeen
  have hcount := length_formatNat_uint32 recCount
  have hlit : (ascii "\x7b\"id\":\"").length = 7 ∧ (ascii "\",\"name\":\"").length = 10 ∧
      (ascii "\",\"online\":").length = 11 ∧ (ascii ",\"last_seen\":").length = 13 ∧
      (ascii ",\"ip\":\"").length = 7 ∧ (ascii "\",\"records\":").length = 12 ∧
      (ascii ",\"basic_mode\":").length = 14 ∧ (ascii ",\"data\":[").length = 9 := by decide
  unfold clientHead
  simp only [List.length_append, hlit]
  omega

theorem length_fmtTemp_le (x100 : Int16) : (fmtTemp x100).length ≤ 7 := by
  have hlo := x100.le_toInt
  have hhi := x100.toInt_lt
  have hval : ∀ val : Int, 0 ≤ val → val ≤ 32768 → ∀ n : Int, n.natAbs = val.natAbs / 100 →
      (formatInt n ++ ascii "." ++ formatNat2 (val.tmod 100).toNat).length ≤ 7 := by
    intro val h0 h1 n hn
    have hint := (length_formatInt_le (n := n) (k := 3) (by decide) (by omega)).1
    have hmod : (val.tmod 100).toNat < 100 := by
      have := Int.tmod_lt_of_pos val (show (0 : Int) < 100 by decide)
      omega
    rw [List.length_append, List.length_append, length_formatNat2 hmod,
      show (ascii ".").length = 1 from rfl]
    omega
  unfold fmtTemp
  dsimp only
  by_cases hneg : x100 < 0
  · rw [if_pos hneg, if_pos (by decide)]
    have : x100.toInt < 0 := Int16.lt_iff_toInt_lt.mp hneg
    exact hval _ (by omega) (by omega) _ (by rw [Int.natAbs_tdiv, Int.natAbs_neg]; rfl)
  · rw [if_neg hneg, if_neg (by decide)]
    have : 0 ≤ x100.toInt := Int.not_lt.mp fun h => hneg (Int16.lt_iff_toInt_lt.mpr h)
    exact hval _ (by omega) (by omega) _ (by rw [Int.natAbs_tdiv]; rfl)

theorem length_fmtHum_le (x100 : UInt16) : (fmtHum x100).length ≤ 6 := by
  have := x100.toNat_lt
  have hint := length_formatNat_of_lt (n := x100.toNat / 100) (k := 3) (by decide) (by omega)
  rw [fmtHum, List.length_append, List.length_append, length_formatNat2 (by omega),
    show (ascii ".").length = 1 from rfl]
  omega

theorem length_recordJson_le (rec : DataRecord) : (recordJson rec).length ≤ 88 := by
  have hts := length_formatNat_uint32 rec.timestamp
  have htemp := length_fmtTemp_le rec.tempX100
  have hhum := length_fmtHum_le rec.humX100
  have heco2 : (formatNat rec.eco2.toNat).length ≤ 5 := by
    have := rec.eco2.toNat_lt
    exact length_formatNat_of_lt (by decide) (by omega)
  have htvoc : (formatNat rec.tvoc.toNat).length ≤ 5 := by
    have := rec.tvoc.toNat_lt
    exact length_formatNat_of_lt (by decide) (by omega)
  have haqi : (formatNat rec.aqi.toNat).length ≤ 3 := by
    have := rec.aqi.toNat_lt
    exact length_formatNat_of_lt (by decide) (by omega)
  have hlit : (ascii "\x7b\"timestamp\":").length = 13 ∧ (ascii ",\"temp\":").length = 8 ∧
      (ascii ",\"hum\":").length = 7 ∧ (ascii ",\"eco2\":").length = 8 ∧
      (ascii ",\"tvoc\":").length = 8 ∧ (ascii ",\"aqi\":").length = 7 ∧
      (ascii "\x7d").length = 1 := by decide
  unfold recordJson
  simp only [List.length_append, hlit]
  omega

theorem length_latestRecords_le (io : ListIo) (fs : Fs) (id : Id) :
    (latestRecords io fs id).length ≤ 24 := by
  unfold latestRecords
  dsimp only
  split
  · exact Nat.zero_le _
  · exact length_readRange_le _ _ _ _ _

/-- With at most 16 clients the list of clients is whole. -/
theorem clientsGetHandler_whole {s : ServerState} (h : s.reg.InRange) (io : ListIo) :
    ∃ resp, clientsGetHandler io s = some resp ∧ resp.Whole s.reg.clientCount := by
  unfold clientsGetHandler
  split
  · exact ⟨_, rfl, trivial⟩
  · split
    · exact ⟨_, rfl, trivial⟩
    · generalize hclients : clientRegistryGetAll s.reg clientRegistryMaxClients = clients
      have hall : clients.length = s.reg.clientCount := by
        rw [← hclients, clientRegistryGetAll, List.length_map, List.length_range]
        exact Nat.min_eq_left h.clientCount
      have hcount : clients.length ≤ 16 := hall ▸ h.clientCount
      have hlen := Json.length_commaSep_le
        (clients.map fun c => clientEntry c (dataStoreGetCount s.fs c.id)) 163 fun t ht => by
          obtain ⟨c, -, rfl⟩ := List.mem_map.mp ht
          exact length_clientEntry_le c _
      rw [List.length_map] at hlen
      dsimp only
      rw [printEntries_all (by dsimp only; omega), Option.bind_some]
      dsimp only
      rw [putByte_eq (by dsimp only; omega), if_pos (by dsimp only; omega)]
      refine ⟨_, rfl, ?_, by dsimp only; omega, List.length_map .., hall⟩
      simp only [List.length_append, List.length_cons, List.length_nil]

/-- The records an answer about one client lists. -/
def listedRecords (io : ListIo) (s : ServerState) (uri : List UInt8) : List DataRecord :=
  match clientRegistryGet s.reg (queryParam uri "id" 32) with
  | none => []
  | some i => latestRecords io s.fs (s.reg.client i).id

/-- The answer about one client is whole. -/
theorem clientGetHandler_whole (s : ServerState) (io : ListIo) (uri : List UInt8) :
    ∃ resp, clientGetHandler io s uri = some resp ∧
      resp.Whole (listedRecords io s uri).length := by
  unfold clientGetHandler listedRecords
  dsimp only
  split
  · exact ⟨_, rfl, (by decide : 16 ≤ (ascii "missing id param").length + 1)⟩
  · cases clientRegistryGet s.reg (queryParam uri "id" 32) with
    | none => exact ⟨_, rfl, trivial⟩
    | some i =>
      dsimp only
      split
      · exact ⟨_, rfl, trivial⟩
      · generalize hhead : clientHead (s.reg.client i) _ _ = head
        have hheadLen : head.length ≤ 190 := hhead ▸ length_clientHead_le _ _ _
        generalize hrecs : latestRecords io s.fs (s.reg.client i).id = records
        have hcount : records.length ≤ 24 := hrecs ▸ length_latestRecords_le _ _ _
        have hlen := Json.length_commaSep_le (records.map recordJson) 88 fun t ht => by
          obtain ⟨rec, -, rfl⟩ := List.mem_map.mp ht
          exact length_recordJson_le rec
        rw [List.length_map] at hlen
        rw [print_eq (by rw [Cursor.start, Nat.zero_add]; omega), Option.bind_some,
          Cursor.start, Nat.zero_add, List.nil_append,
          printEntries_all (by dsimp only; omega), Option.bind_some]
        dsimp only
        rw [putByte_putByte (by dsimp only; omega), if_pos (by dsimp only; omega)]
        refine ⟨_, rfl, ?_, by dsimp only; omega, List.length_map .., rfl⟩
        simp only [List.length_append, List.length_cons, List.length_nil]

/-! ## Reachable registries -/

section

variable {cJSONParse : List UInt8 → Option Json} {gMax : UInt32}

variable {s : ServerState}

/-- No request, whichever of its calls fail, takes the counts out of their arrays. -/
theorem serverStep_inRange (h : s.reg.InRange) (r : Request) :
    (serverStep cJSONParse gMax s r).1.reg.InRange :=
  serverStep_registry h (fun _ hin io now _ => hin.update io now) (fun _ hin => hin.setBasicMode)
    (fun _ hin => hin.renameId) (fun _ hin => hin.delete)
    fun _ hin _ _ _ => ⟨hin.clientCount, hin.idMappingCount⟩

/-- **Server responses fit their buffers.** After a boot with any NVS contents and any requests,
    every answer is shorter than its buffer, and the lists of clients and of a client's
    records are complete. -/
theorem responses_fit_buffers (hparse : ItemsBounded cJSONParse) (s₀ : ServerState)
    (rs : List Request) :
    let s := final (serverStep cJSONParse gMax) s₀.boot rs
    (∀ r resp, (serverStep cJSONParse gMax s r).2 = some resp → resp.Fits) ∧
    (∀ io, ∃ resp, clientsGetHandler io s = some resp ∧ resp.Whole s.reg.clientCount) ∧
    ∀ io uri, ∃ resp, clientGetHandler io s uri = some resp ∧
      resp.Whole (listedRecords io s uri).length := by
  intro s
  have hrun : Always (serverStep cJSONParse gMax) (fun s => s.reg.InRange) s₀.boot rs :=
    always_of_step (fun _ r h => serverStep_inRange h r) rs (boot_persisted s₀).inRange
  exact ⟨fun r _ hresp => serverStep_fits hparse r hresp,
    fun io => clientsGetHandler_whole hrun.final io, clientGetHandler_whole s⟩

/-- A full registry whose ids and names have 31 bytes, and readings of its last client. -/
def fullRegistry : List Request :=
  ((List.range 16).map fun i => .clientName {} 4294967295
    (ascii "/?name=abcdefghijklmnopqrstuvwxyzabcde&id=12345678901234567890123456789" ++
      formatNat (10 + i))) ++
  [.upload {} (fun _ => 4294967295)
    ⟨ascii "/?id=1234567890123456789012345678925",
      ascii "\x7b\"readings\":[\x7b\"ts\":1700000000\x7d,\x7b\x7d]\x7d",
      CStr.strncpy (ascii "10.0.0.7")⟩]

def fullServer : ServerState := final (serverStep Json.parse 100) bootState.boot fullRegistry

/-- The answer to a mode request of the last client, the list of all clients, and the document of
    the last client. -/
theorem responses_fit_buffers_full :
    let uri := ascii "/?value=1&id=1234567890123456789012345678925"
    (∀ resp, (serverStep Json.parse 100 fullServer (.basicModePost {} 0 uri)).2 = some resp →
      resp.Fits) ∧
    (∃ resp, clientsGetHandler {} fullServer = some resp ∧ resp.Whole 16) ∧
    ∃ resp, clientGetHandler {} fullServer uri = some resp ∧ resp.Whole 2 := by
  intro uri
  obtain ⟨hanswer, hlist, hclient⟩ :=
    @responses_fit_buffers Json.parse 100 json_parse_itemsBounded bootState fullRegistry
  have hserver : final (serverStep Json.parse 100) bootState.boot fullRegistry = fullServer := rfl
  have hcount : fullServer.reg.clientCount = 16 := by decide +kernel
  have hrecords : (listedRecords {} fullServer uri).length = 2 := by decide +kernel
  have hclients := hlist {}
  have hdocument := hclient {} uri
  rw [hserver] at hanswer hclients hdocument
  rw [hcount] at hclients
  rw [hrecords] at hdocument
  exact ⟨hanswer (.basicModePost {} 0 uri), hclients, hdocument⟩

end

end IndoorLogger
