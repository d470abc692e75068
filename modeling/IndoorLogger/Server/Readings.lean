import IndoorLogger.Lib.Binary64
import IndoorLogger.Lib.Decimal
import IndoorLogger.Lib.Json
import IndoorLogger.Server.DataStore

/-
  A reading on its way through `http_server.c`: decoded from the JSON of an upload into a
  `data_record_t`, and printed from one by the JSON API and by the CSV export. `double`
  arithmetic rounds to binary64. A `double` out of range of an integer type is undefined
  behaviour in C to convert; the model wraps it.
-/

namespace IndoorLogger

open Decimal

/-! ## Decoding -/

/-- `item->valuedouble`. -/
def valueDouble (q : ℚ) : ℚ := Binary64.round q

/-- A member of an uploaded reading, by its short or its long name. -/
def readingItem (item : Json) (short long : String) : Option Json :=
  (item.getObjectItem short).or (item.getObjectItem long)

/-- The number of a member, none when it is missing or no number. -/
def readingNumber (item : Json) (short long : String) : Option ℚ :=
  ((readingItem item short long).bind Json.number?).map valueDouble

/-- 2020-01-01. -/
def earliestClientTs : UInt32 := 1577836800

/-- The record the upload handler builds from one reading at the server time `now`. -/
def decodeReading (now : UInt32) (item : Json) : DataRecord :=
  let clientTs : UInt32 :=
    match ((item.getObjectItem "ts").bind Json.number?).map valueDouble with
    | some d => UInt32.ofInt (Binary64.truncate d)
    | none => 0
  let toUInt16 (d : ℚ) : UInt16 := UInt16.ofInt (Binary64.truncate d)
  { timestamp := if clientTs > earliestClientTs then clientTs else now
    tempX100 :=
      match readingNumber item "t" "temp" with
      | some d => Int16.ofInt (Binary64.truncate (Binary64.round (d * 100)))
      | none => 0
    humX100 :=
      match readingNumber item "h" "hum" with
      | some d => toUInt16 (Binary64.round (d * 100))
      | none => 0
    eco2 := ((readingNumber item "c" "eco2").map toUInt16).getD 0
    tvoc := ((readingNumber item "v" "tvoc").map toUInt16).getD 0
    aqi := ((readingNumber item "a" "aqi").map fun d => UInt8.ofInt (Binary64.truncate d)).getD 0
    pad := 0 }

/-! ## Printing -/

/-- `fmt_temp`. -/
def fmtTemp (x100 : Int16) : List UInt8 :=
  let sign : Int := if x100 < 0 then -1 else 1
  let val := x100.toInt * sign
  formatInt (if sign < 0 then (-val).tdiv 100 else val.tdiv 100) ++ ascii "." ++
    formatNat2 (val.tmod 100).toNat

/-- `fmt_hum`. -/
def fmtHum (x100 : UInt16) : List UInt8 :=
  formatNat (x100.toNat / 100) ++ ascii "." ++ formatNat2 (x100.toNat % 100)

/-- A record in the answers of /api/client and /api/data. -/
def recordJson (rec : DataRecord) : List UInt8 :=
  ascii "\x7b\"timestamp\":" ++ formatNat rec.timestamp.toNat ++
    ascii ",\"temp\":" ++ fmtTemp rec.tempX100 ++ ascii ",\"hum\":" ++ fmtHum rec.humX100 ++
    ascii ",\"eco2\":" ++ formatNat rec.eco2.toNat ++
    ascii ",\"tvoc\":" ++ formatNat rec.tvoc.toNat ++
    ascii ",\"aqi\":" ++ formatNat rec.aqi.toNat ++ ascii "\x7d"

/-- The temperature column of the CSV export. -/
def csvTemp (x100 : Int16) : List UInt8 :=
  let tInt := x100.toInt.tdiv 100
  let tDec := x100.toInt.tmod 100
  let tDec := if tDec < 0 then -tDec else tDec
  formatInt tInt ++ ascii "." ++ formatNat2 tDec.toNat

/-- The columns of a row of the CSV export; `datetime` is the local time `strftime` prints. -/
def csvRow (cname : List UInt8) (datetime : UInt32 → List UInt8) (rec : DataRecord) :
    List (List UInt8) :=
  [cname, formatNat rec.timestamp.toNat, datetime rec.timestamp, csvTemp rec.tempX100,
    fmtHum rec.humX100, formatNat rec.eco2.toNat, formatNat rec.tvoc.toNat,
    formatNat rec.aqi.toNat]

end IndoorLogger
