import IndoorLogger.Server.ClientRegistry
import IndoorLogger.Server.Readings

/-
  The handlers of `http_server.c` that change the server's state: upload, client name, client
  id, client delete, basic mode, sync interval and time zone. A request comes with its raw
  URI. `cJSON_Parse` is a parameter; calls that fail and the clock are inputs of a request.
-/

namespace IndoorLogger

open Decimal

/-! ## Query strings -/

/-- `c - 'a' + 10`, `c - 'A' + 10` or `c - '0'`, in the 32 bits of an `int`. -/
def hexDigit (c : UInt8) : UInt32 :=
  if c ≥ 97 then c.toUInt32 - 87 else if c ≥ 65 then c.toUInt32 - 55 else c.toUInt32 - 48

/-- `url_decode`. A `%` not followed by two characters stands for itself. -/
def urlDecode : List UInt8 → List UInt8
  | [] => []
  | [c] => [if c = 43 then 32 else c]
  | [c, d] => (if c = 43 then 32 else c) :: urlDecode [d]
  | c :: hi :: lo :: src =>
    if c = 37 then ((hexDigit hi <<< 4) ||| hexDigit lo).toUInt8 :: urlDecode src
    else (if c = 43 then 32 else c) :: urlDecode (hi :: lo :: src)

/-- `strchr`. -/
def strchr (s : List UInt8) (c : UInt8) : Option (List UInt8) :=
  match s.dropWhile (· ≠ c) with
  | [] => none
  | t => some t

/-- `strstr`. -/
def strstr (key : List UInt8) : List UInt8 → Option (List UInt8)
  | [] => if key.isEmpty then some [] else none
  | c :: s => if key.isPrefixOf (c :: s) then some (c :: s) else strstr key s

/-- `get_query_val`: the string left in an `out` of `outSz` bytes, none when it returns NULL. -/
def getQueryVal (query : Option (List UInt8)) (key : List UInt8) (outSz : Nat) :
    Option (List UInt8) :=
  (query.bind (strstr key)).bind fun k =>
    match k.drop key.length with
    | 61 :: k => some (cString (urlDecode ((k.takeWhile (· ≠ 38)).take (outSz - 1))))
    | _ => none

/-- The value of a query parameter in a zeroed buffer of `n` bytes. -/
def queryParam (uri : List UInt8) (key : String) (n : Nat) [NeZero n] : CStr n :=
  CStr.strncpy ((getQueryVal (strchr uri 63) (ascii key) n).getD [])

/-- `atoi`. -/
def atoi (s : List UInt8) : Int :=
  let s := s.dropWhile fun b => b = 32 || 9 ≤ b && b ≤ 13
  let (neg, s) :=
    match s with
    | 45 :: s => (true, s)
    | 43 :: s => (false, s)
    | s => (false, s)
  let n : Int := value (s.takeWhile isDigit)
  max (-2147483648) (min 2147483647 (if neg then -n else n))

/-- What `atoi` returns is an `int`. -/
theorem atoi_mem (t : List UInt8) : -2147483648 ≤ atoi t ∧ atoi t ≤ 2147483647 := by
  unfold atoi
  exact ⟨le_max_left _ _, max_le (by decide) (min_le_left _ _)⟩

/-! ## State and responses -/

/-- What the server keeps between requests. -/
structure ServerState where
  reg : Registry
  fs : Fs
  nvs : Nvs
  syncInterval : UInt32
  timezone : CStr 64

/-- The fields of the answer to an upload. -/
structure UploadReply where
  accepted : Nat
  timestamp : UInt32
  syncInterval : UInt32
  name : CStr 32
  timezone : CStr 64
  basicMode : Bool
  clientId : Id
  deriving DecidableEq

def boolText (b : Bool) : List UInt8 := if b then ascii "true" else ascii "false"

/-- The text of the answer to an upload. -/
def UploadReply.text (r : UploadReply) : List UInt8 :=
  ascii "\x7b\"status\":\"ok\",\"accepted\":" ++ formatNat r.accepted ++
    ascii ",\"timestamp\":" ++ formatNat r.timestamp.toNat ++
    ascii ",\"sync_interval\":" ++ formatNat r.syncInterval.toNat ++
    ascii ",\"name\":\"" ++ r.name.bytes ++
    ascii "\",\"timezone\":\"" ++ r.timezone.bytes ++
    ascii "\",\"basic_mode\":" ++ boolText r.basicMode ++
    ascii ",\"client_id\":\"" ++ r.clientId.bytes ++ ascii "\"\x7d"

/-- A response: a literal with the length sent of it, JSON formatted into a buffer of some
    size, the answer to an upload, or an error status. -/
inductive Response where
  | plain (text : String) (len : Nat)
  | json (bufSz : Nat) (text : List UInt8)
  | upload (r : UploadReply)
  | error (code : Nat)
  deriving DecidableEq

/-- The HTTP status: 200 unless the handler sets one. -/
def Response.status : Response → Nat
  | .error code => code
  | _ => 200

/-! ## Upload -/

/-- Which calls of one upload fail. Appends are numbered by their item in the array. -/
structure UploadIo where
  malloc : Bool := false
  recv : Bool := false
  append : Nat → AppendIo := fun _ => {}
  rename : RenameIo := {}
  save : SaveIo := {}

/-- A POST to /api/upload; `ip` is what `get_client_ip` leaves in its buffer. -/
structure UploadRequest where
  uri : List UInt8
  body : List UInt8
  ip : CStr 16

section

variable (cJSONParse : List UInt8 → Option Json) (gMax : UInt32)

/-- The checks and the parse of the request's body: the response sent on failure, or the
    document. -/
def uploadRoot (io : UploadIo) (body : List UInt8) : Except Response Json :=
  if body.length = 0 then .error (.plain "empty body" 10)
  else if body.length > 8192 then .error (.plain "body too large" 14)
  else if io.malloc then .error (.error 500)
  else if io.recv then .error (.error 500)
  else
    match cJSONParse (cString body) with
    | none => .error (.plain "invalid json" 12)
    | some root => .ok root

/-- The items of the readings array, none when there is no such array. -/
def uploadItems (root : Json) : List Json :=
  match root.items? with
  | some items => items
  | none => ((root.getObjectItem "readings").bind Json.items?).getD []

/-- `client_name`. -/
def uploadName (root : Json) : CStr 32 :=
  CStr.strncpy (((root.getObjectItem "name").bind Json.string?).getD [])

/-- The loop over the readings, from item `i` on: the files, and for each item whether it was
    appended. -/
def storeReadings (io : Nat → AppendIo) (clock : Nat → UInt32) (id : Id) :
    Nat → Fs → List Json → Fs × List Bool
  | _, fs, [] => (fs, [])
  | i, fs, item :: items =>
    if item.isObject then
      let a := dataStoreAppend gMax (io i) fs id (decodeReading (clock i) item)
      let r := storeReadings io clock id (i + 1) a.1 items
      (r.1, (a.2 == 0) :: r.2)
    else
      let r := storeReadings io clock id (i + 1) fs items
      (r.1, false :: r.2)

/-- The answer to an upload under `clientId`, from the state the upload leaves. -/
def uploadReply (s : ServerState) (clientId : Id) (accepted : Nat) (now : UInt32) : UploadReply :=
  let resolvedId := clientRegistryResolveId s.reg clientId
  { accepted := accepted
    timestamp := now
    syncInterval := s.syncInterval
    name :=
      match clientRegistryGet s.reg resolvedId with
      | some i => (s.reg.client i).name
      | none => CStr.empty
    timezone := s.timezone
    basicMode := clientRegistryGetBasicMode s.reg resolvedId
    clientId := resolvedId }

/-- `upload_post_handler` from the parsed document on. The clock is read for each item, then
    by the registry, then for the answer. -/
def uploadStore (io : UploadIo) (clock : Nat → UInt32) (s : ServerState) (clientId : Id)
    (ip : CStr 16) (root : Json) : ServerState × UploadReply :=
  let items := uploadItems root
  let (fs, stored) := storeReadings gMax io.append clock clientId 0 s.fs items
  let name := uploadName root
  let r := clientRegistryUpdate io.rename (clock items.length) s.reg fs clientId
    (if name.isEmpty then none else some name.bytes) (some ip.bytes) false
  let s := { s with
    reg := r.1.1
    fs := r.1.2
    nvs := (clientRegistrySave io.save r.1.1 s.nvs).1 }
  (s, uploadReply s clientId (stored.count true) (clock (items.length + 1)))

/-- `upload_post_handler`. -/
def uploadPostHandler (io : UploadIo) (clock : Nat → UInt32) (s : ServerState)
    (req : UploadRequest) : ServerState × Response :=
  let clientId : Id := queryParam req.uri "id" 32
  if clientId.isEmpty then (s, .plain "missing id" 10)
  else
    match uploadRoot cJSONParse io req.body with
    | .error resp => (s, resp)
    | .ok root =>
      let (s, reply) := uploadStore gMax io clock s clientId req.ip root
      (s, .upload reply)

end

/-! ## Client name, id, deletion and mode -/

/-- `client_name_get_handler`. -/
def clientNameGetHandler (io : SaveIo) (now : UInt32) (s : ServerState) (uri : List UInt8) :
    ServerState × Response :=
  let clientId : Id := queryParam uri "id" 32
  let name : CStr 32 := queryParam uri "name" 32
  if clientId.isEmpty || name.isEmpty then (s, .plain "missing id or name" 18)
  else
    let resolved := clientRegistryResolveId s.reg clientId
    match clientRegistryUpdate {} now s.reg s.fs resolved (some name.bytes) none true with
    | ((reg, fs), ret) =>
      if ret ≠ 0 then ({ s with reg := reg, fs := fs }, .error 500)
      else
        ({ s with reg := reg, fs := fs, nvs := (clientRegistrySave io reg s.nvs).1 },
          .json 96 (ascii "\x7b\"id\":\"" ++ resolved.bytes ++ ascii "\",\"name\":\"" ++
            name.bytes ++ ascii "\"\x7d"))

/-- `is_valid_digit_id`. -/
def isValidDigitId (s : Id) : Bool := !s.isEmpty && s.bytes.all isDigit

/-- `client_id_post_handler`. The data of a failed migration stays behind. -/
def clientIdPostHandler (io : RenameIo) (save : SaveIo) (s : ServerState) (uri : List UInt8) :
    ServerState × Response :=
  let clientId : Id := queryParam uri "id" 32
  let newId : Id := queryParam uri "new_id" 32
  if clientId.isEmpty || newId.isEmpty then (s, .plain "missing id or new_id" 20)
  else if !isValidDigitId newId then
    (s, .plain "invalid new_id (digits only, 1-31 chars)" 41)
  else
    let resolvedOld := clientRegistryResolveId s.reg clientId
    if (clientRegistryGet s.reg resolvedOld).isNone then (s, .error 404)
    else if (clientRegistryGet s.reg newId).isSome then (s, .plain "new_id already exists" 21)
    else
      match clientRegistryRenameId s.reg resolvedOld newId with
      | (reg, ret) =>
        if ret ≠ 0 then ({ s with reg := reg }, .error 500)
        else
          let fs := (dataStoreRenameClient io s.fs resolvedOld newId).1
          ({ s with reg := reg, fs := fs, nvs := (clientRegistrySave save reg s.nvs).1 },
            .json 96 (ascii "\x7b\"id\":\"" ++ resolvedOld.bytes ++ ascii "\",\"new_id\":\"" ++
              newId.bytes ++ ascii "\"\x7d"))

/-- `client_delete_handler`. -/
def clientDeleteHandler (io : SaveIo) (unlinkFails : Bool) (s : ServerState) (uri : List UInt8) :
    ServerState × Response :=
  let clientId : Id := queryParam uri "id" 32
  if clientId.isEmpty then (s, .plain "missing id param" 15)
  else
    match clientRegistryDelete io s.reg s.nvs clientId with
    | ((reg, nvs), ret) =>
      if ret ≠ 0 then ({ s with reg := reg, nvs := nvs }, .error 404)
      else
        ({ s with
            reg := reg
            nvs := nvs
            fs := (dataStoreDeleteClient unlinkFails s.fs clientId).1 },
          .json 48 (ascii "\x7b\"deleted\":\"" ++ clientId.bytes ++ ascii "\"\x7d"))

/-- `client_basic_mode_post_handler`. An unknown client is registered first. -/
def clientBasicModePostHandler (io : SaveIo) (now : UInt32) (s : ServerState)
    (uri : List UInt8) : ServerState × Response :=
  let clientId : Id := queryParam uri "id" 32
  let valueStr : CStr 8 := queryParam uri "value" 8
  if clientId.isEmpty || valueStr.isEmpty then (s, .plain "missing id or value" 19)
  else
    let v := atoi valueStr.bytes
    if v ≠ 0 ∧ v ≠ 1 then (s, .plain "invalid value" 13)
    else
      let (reg, fs) :=
        match clientRegistrySetBasicMode s.reg clientId (v = 1) with
        | (reg, ret) =>
          if ret ≠ 0 then (clientRegistryUpdate {} now reg s.fs clientId none none false).1
          else (reg, s.fs)
      match clientRegistrySetBasicMode reg clientId (v = 1) with
      | (reg, ret) =>
        if ret ≠ 0 then ({ s with reg := reg, fs := fs }, .plain "client not found" 16)
        else
          ({ s with reg := reg, fs := fs, nvs := (clientRegistrySave io reg s.nvs).1 },
            .json 96 (ascii "\x7b\"ok\":true,\"id\":\"" ++ clientId.bytes ++
              ascii "\",\"basic_mode\":" ++ boolText (v ≠ 0) ++ ascii "\x7d"))

/-! ## Sync interval and time zone -/

/-- `DEFAULT_SYNC_INTERVAL_SEC`. -/
def defaultSyncIntervalSec : UInt32 := 600

/-- `config_save_sync_interval`, as far as it changes what uploads are answered. -/
def configSaveSyncInterval (s : ServerState) (value : UInt32) : ServerState :=
  { s with syncInterval := if value = 0 then defaultSyncIntervalSec else value }

/-- `sync_interval_post_handler`. -/
def syncIntervalPostHandler (s : ServerState) (uri : List UInt8) : ServerState × Response :=
  let valueStr : CStr 16 := queryParam uri "value" 16
  if valueStr.isEmpty then (s, .plain "missing value param" 19)
  else
    let value := atoi valueStr.bytes
    if value ≤ 0 then (s, .plain "invalid value" 13)
    else
      (configSaveSyncInterval s (UInt32.ofInt value),
        .json 64 (ascii "\x7b\"ok\":true,\"sync_interval\":" ++ formatInt value ++
          ascii "\x7d"))

/-- `DEFAULT_TIMEZONE`. -/
def defaultTimezone : CStr 64 := CStr.strncpy (ascii "WET0WEST,M3.5.0/1,M10.5.0/2")

/-- `config_save_timezone`, as far as it changes what uploads are answered. -/
def configSaveTimezone (s : ServerState) (tz : List UInt8) : ServerState :=
  { s with timezone := if cString tz = [] then defaultTimezone else CStr.strncpy tz }

/-- `timezone_post_handler`. -/
def timezonePostHandler (s : ServerState) (uri : List UInt8) : ServerState × Response :=
  let valueStr := (getQueryVal (strchr uri 63) (ascii "value") 80).getD []
  if valueStr = [] then (s, .plain "missing value param" 19)
  else
    let s := configSaveTimezone s valueStr
    (s, .json 128 (ascii "\x7b\"ok\":true,\"timezone\":\"" ++ s.timezone.bytes ++
      ascii "\"\x7d"))

end IndoorLogger
