import IndoorLogger.Client.DataStorage
import IndoorLogger.Lib.Binary64
import IndoorLogger.Lib.JsonParse

/-
  The upload of `wifi_sync.c`, with the ENS160 sensor built in: the body printed into a
  4096-byte buffer, and the acknowledgement of the batch on status 200. A reading's numbers
  are exact; the product of a temperature with ten is not rounded as the `float` product is.
-/

namespace IndoorLogger

open Decimal

/-! ## The body -/

def uploadBatchSize : Nat := 50

/-- `%d.%d` of the whole degrees and the tenths of a temperature. -/
def tempText (temperature : ℚ) : List UInt8 :=
  let tInt := Binary64.truncate temperature
  let tDec := (Binary64.truncate (temperature * 10)).tmod 10
  let tDec := if tDec < 0 then -tDec else tDec
  formatInt tInt ++ ascii "." ++ formatInt tDec

/-- The members of a reading: names and printed values. -/
def readingMembers (basicMode : Bool) (rec : ClientRecord ℚ) : List (List UInt8 × List UInt8) :=
  [(ascii "ts", formatInt rec.timestamp.toInt), (ascii "up", formatNat rec.uptimeSec.toNat),
    (ascii "t", tempText rec.temperature),
    (ascii "h", formatInt (Binary64.truncate rec.humidity))] ++
  if basicMode then []
  else [(ascii "c", formatNat rec.eco2.toNat), (ascii "v", formatNat rec.tvoc.toNat),
    (ascii "a", formatNat rec.aqi.toNat)]

/-- A reading in the body. -/
def readingText (basicMode : Bool) (rec : ClientRecord ℚ) : List UInt8 :=
  ascii "\x7b" ++ Json.commaSep ((readingMembers basicMode rec).map Json.memberText) ++
    ascii "\x7d"

/-- What is printed for a batch. -/
def bodyText (clientId : CStr 32) (assignedName : CStr 32) (basicMode : Bool)
    (records : List (ClientRecord ℚ)) : List UInt8 :=
  ascii "\x7b\"id\":\"" ++ clientId.bytes ++ ascii "\",\"name\":\"" ++ assignedName.bytes ++
    ascii "\",\"readings\":[" ++ Json.commaSep (records.map (readingText basicMode)) ++
    ascii "]\x7d"

/-- `json_buf`: what fits into it. -/
def uploadBody (clientId : CStr 32) (assignedName : CStr 32) (basicMode : Bool)
    (records : List (ClientRecord ℚ)) : List UInt8 :=
  (bodyText clientId assignedName basicMode records).take 4095

/-- The path and query of `s_server_url`. -/
def uploadUri (clientId : CStr 32) : List UInt8 := ascii "/api/upload?id=" ++ clientId.bytes

/-! ## The upload -/

/-- The record with the exact values of its floats. -/
def exactRecord (rec : StoredRecord) : ClientRecord ℚ :=
  { rec with
    temperature := Binary32.value rec.temperature
    humidity := Binary32.value rec.humidity }

/-- What identifies the device and shapes its readings. -/
structure ClientConfig where
  clientId : CStr 32
  assignedName : CStr 32
  basicMode : Bool

/-- `wifi_sync_upload_unsynced`, connected. `perform` sends a URI and a body; it yields the
    status of the answer, or nothing. -/
def wifiSyncUploadUnsynced (cfg : ClientConfig)
    (perform : List UInt8 → List UInt8 → Option Nat) (st : Storage) : Storage × Int :=
  let records := dataStorageReadUnsynced (fun _ => false) st uploadBatchSize
  match perform (uploadUri cfg.clientId)
      (uploadBody cfg.clientId cfg.assignedName cfg.basicMode (records.map exactRecord)) with
  | none => (st, -1)
  | some status =>
    if status = 200 then
      (if records.length > 0 then (dataStorageMarkSynced {} st records.length).1 else st, 0)
    else (st, -1)

end IndoorLogger
