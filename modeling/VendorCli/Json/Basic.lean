import VendorCli.Number.Real
import VendorCli.Text.Table
/-!
# Structured values

The values that records are exchanged as: JSON, with the fields of an object sorted by name and
each name once. `ofFields` brings a list of pairs into that form, a later pair of a name replacing
an earlier one.
-/

namespace VendorCli

/-- A number: a whole number, or a real one by its bits. -/
inductive Number where
  | integer (value : Int)
  | real (bits : UInt64)
deriving DecidableEq, Repr

/-- A structured value. -/
inductive Json where
  | null
  | bool (value : Bool)
  | number (value : Number)
  | string (value : Text)
  | array (items : List Json)
  | object (fields : List (Text × Json))
deriving Repr, Inhabited

namespace Json

/-- The object with these fields. -/
def ofFields (fields : List (Text × Json)) : Json :=
  .object (fields.foldl (fun sorted kv => insertSorted kv.1 kv.2 sorted) [])

/-- A natural number as a value. -/
def ofNat (n : Nat) : Json := .number (.integer n)

/-- A field of an object; other values have none. -/
def field? (name : Text) : Json → Option Json
  | .object fields => lookup? name fields
  | _ => none

/-- The text of a string value. -/
def text? : Json → Option Text
  | .string s => some s
  | _ => none

/-- A truth value. -/
def bool? : Json → Option Bool
  | .bool b => some b
  | _ => none

/-- A whole number that is not negative. -/
def nat? : Json → Option Nat
  | .number (.integer (.ofNat n)) => some n
  | _ => none

/-- Whether the value is null. -/
def isNull : Json → Bool
  | .null => true
  | _ => false

end VendorCli.Json
