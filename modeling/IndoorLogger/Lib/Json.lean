import Mathlib.Data.Rat.Defs
import IndoorLogger.Lib.CString

/-
  JSON values and the look-ups a C program makes in them. Numbers are exact; strings are the
  bytes a C string holds.
-/

inductive Json where
  | null
  | bool (b : Bool)
  | num (q : ℚ)
  | str (s : List UInt8)
  | arr (items : List Json)
  | obj (members : List (List UInt8 × Json))

namespace Json

/-- `tolower` on ASCII. -/
def lower (b : UInt8) : UInt8 := if 65 ≤ b && b ≤ 90 then b + 32 else b

/-- `cJSON_GetObjectItem`: the first member of that name, without regard to case. -/
def getObjectItem (j : Json) (name : String) : Option Json :=
  match j with
  | obj members => (members.find? fun m => m.1.map lower = (ascii name).map lower).map (·.2)
  | _ => none

/-- The number of a number, none for any other value. -/
def number? : Json → Option ℚ
  | num q => some q
  | _ => none

/-- The C string of a string, none for any other value. -/
def string? : Json → Option (List UInt8)
  | str s => some (cString s)
  | _ => none

/-- The items of an array, none for any other value. -/
def items? : Json → Option (List Json)
  | arr items => some items
  | _ => none

/-- The truth value of a `true` or `false`, none for any other value. -/
def bool? : Json → Option Bool
  | bool b => some b
  | _ => none

def isObject : Json → Bool
  | obj _ => true
  | _ => false

end Json
