import VendorCli.Json.Printer
import VendorCli.Text.Escape
/-!
# Values in templates

What a template computes with: structured values, and besides them the undefined value that a
missing variable has, texts marked as safe for the output, functions, and the state of a loop.

* `Value.ofJson` brings a structured value in, `Value.toJson` takes one out;
* `Value.text` is the value as it is printed, `Value.shown` as it stands inside a printed list;
* `Value.same` is equality (`1` equals `1.0` and `true`), `Value.order` a total order that first
  compares the kinds.
-/

namespace VendorCli.Template

/-- A value. -/
inductive Value where
  /-- The value of what does not exist. -/
  | undefined
  | none
  | bool (value : Bool)
  | integer (value : Int)
  | real (bits : UInt64)
  /-- A text; a safe one is printed without escapes. -/
  | text (value : Text) (safe : Bool)
  | list (items : List Value)
  /-- A table, sorted by key and with each key once. -/
  | map (entries : List (Value × Value))
  | function (name : Text)
  /-- The state of a loop: how many rounds are over, how many there are, and the items of the round
  before and the round after. -/
  | loop (round count : Nat) (previous next : Value)
deriving Repr, Inhabited

/-- The kinds of values, in the order in which values of different kinds sort. -/
inductive Kind where
  | undefined
  | none
  | bool
  | number
  | text
  | list
  | map
  | other
deriving DecidableEq, Repr

/-- The place of a kind in the order. -/
def Kind.rank : Kind → Nat
  | undefined => 0
  | none => 1
  | bool => 2
  | number => 3
  | text => 4
  | list => 5
  | map => 6
  | other => 7

namespace Value

/-- A text without a mark. -/
def ofText (t : Text) : Value := text t false

/-- A natural number. -/
def ofNat (n : Nat) : Value := integer n

/-- The kind of a value. -/
def kind : Value → Kind
  | undefined => .undefined
  | none => .none
  | bool _ => .bool
  | integer _ => .number
  | real _ => .number
  | text _ _ => .text
  | list _ => .list
  | map _ => .map
  | function _ => .other
  | loop .. => .map

/-- Whether there is nothing: undefined or none. -/
def isUnset : Value → Bool
  | undefined => true
  | none => true
  | _ => false

/-- Whether the value is undefined. -/
def isUndefined : Value → Bool
  | undefined => true
  | _ => false

/-- Whether the value counts as true in a condition. -/
def isTrue : Value → Bool
  | undefined => false
  | none => false
  | bool b => b
  | integer i => i ≠ 0
  | real bits => !Real.isZero bits
  | text t _ => !t.isEmpty
  | list items => !items.isEmpty
  | map entries => !entries.isEmpty
  | function _ => true
  | loop .. => true

/-- The text of a text value. -/
def asText? : Value → Option Text
  | text t _ => some t
  | _ => Option.none

/-! ### Printing -/

/-- A real number as it is printed. -/
def realText (bits : UInt64) : Text :=
  if Real.isFinite bits then Real.positionalText bits
  else if Real.isUndefined bits then "NaN"
  else if Real.isNegative bits then "-inf" else "inf"

mutual

/-- The value as it stands inside a printed list or table. -/
def shown : Value → Text
  | undefined => "undefined"
  | none => "None"
  | bool true => "True"
  | bool false => "False"
  | integer i => Decimal.ofInt i
  | real bits => if Real.isFinite bits then Real.scientificText bits else realText bits
  | text t _ => Text.shown t
  | list items => '[' :: Text.join ", " (shownItems items) ++ [']']
  | map entries => '\x7b' :: Text.join ", " (shownEntries entries) ++ ['\x7d']
  | function name => "<function " ++ name ++ ['>']
  | loop round count _ _ =>
    "<loop " ++ Decimal.digitsOf round ++ '/' :: Decimal.digitsOf count ++ ['>']

/-- The items of a list as they are printed. -/
def shownItems : List Value → List Text
  | [] => []
  | v :: rest => shown v :: shownItems rest

/-- The entries of a table as they are printed. -/
def shownEntries : List (Value × Value) → List Text
  | [] => []
  | (k, v) :: rest => (shown k ++ ": " ++ shown v) :: shownEntries rest

end

/-- The value as it is printed on its own. -/
def display : Value → Text
  | undefined => []
  | real bits => realText bits
  | text t _ => t
  | v => shown v

/-! ### Numbers -/

/-- Whether a whole number is one of 128 bits, the width of all arithmetic. -/
def isWide (i : Int) : Bool :=
  Decimal.isSigned Decimal.maxSigned128 i

/-- The whole number that a value stands for: a truth value counts as 0 or 1. -/
def asInt? : Value → Option Int
  | bool b => some (if b then 1 else 0)
  | integer i => if isWide i then some i else Option.none
  | real bits => Real.toInt? bits
  | _ => Option.none

/-- The whole number between two bounds that a value stands for. -/
def asIntBetween? (low high : Int) (v : Value) : Option Int :=
  v.asInt?.filter fun i => low ≤ i && i ≤ high

/-- A natural number of thirty-two bits. -/
def asUInt32? (v : Value) : Option Nat :=
  (v.asIntBetween? 0 Decimal.max32).map Int.toNat

/-- A signed number of sixty-four bits. -/
def asInt64? (v : Value) : Option Int :=
  v.asInt?.filter (Decimal.isSigned Decimal.maxSigned64)

/-- The real number nearest to a whole one. -/
def realOfInt (i : Int) : UInt64 :=
  Real.ofDecimal (i < 0) i.natAbs 0

/-- The real number that a value stands for; an inexact one only if `inexact` says so. -/
def asReal? (inexact : Bool) : Value → Option UInt64
  | bool b => some (realOfInt (if b then 1 else 0))
  | integer i =>
    let bits := realOfInt i
    if inexact || Real.toInt? bits = some i then some bits else Option.none
  | real bits => some bits
  | _ => Option.none

/-- Two values as operands of one operation. -/
inductive Operands where
  | integers (a b : Int)
  | reals (a b : UInt64)
  | texts (a b : Text)

/-- Bring two values to one type. -/
def operands? (inexact : Bool) (a b : Value) : Option Operands :=
  match a, b with
  | text s _, text t _ => some (.texts s t)
  | real x, _ => (b.asReal? inexact).map (.reals x)
  | _, real y => (a.asReal? inexact).map (.reals · y)
  | _, _ => do
    let x ← a.asInt?
    let y ← b.asInt?
    return .integers x y

/-! ### Equality and order -/

mutual

/-- Equality of values. -/
def same : Value → Value → Bool
  | none, none => true
  | undefined, undefined => true
  | list xs, list ys => sameItems xs ys
  | map xs, map ys => sameEntries xs ys
  | a, b =>
    match operands? false a b with
    | some (.integers x y) => x = y
    | some (.reals x y) => Real.toFloat x == Real.toFloat y
    | some (.texts x y) => x = y
    | Option.none => false

/-- Equality of lists, item by item. -/
def sameItems : List Value → List Value → Bool
  | [], [] => true
  | x :: xs, y :: ys => same x y && sameItems xs ys
  | _, _ => false

/-- Equality of tables, entry by entry. -/
def sameEntries : List (Value × Value) → List (Value × Value) → Bool
  | [], [] => true
  | (k, v) :: xs, (l, w) :: ys => same k l && same v w && sameEntries xs ys
  | _, _ => false

end

/-- The order of two real numbers; an undefined one comes last. -/
def realOrder (x y : UInt64) : Ordering :=
  let a := Real.toFloat x
  let b := Real.toFloat y
  if a < b then .lt else if b < a then .gt else if a == b then .eq
  else Ord.compare (if Real.isUndefined x then 1 else 0) (if Real.isUndefined y then 1 else 0)

mutual

/-- The order of values: by kind, then by value. -/
def order : Value → Value → Ordering
  | list xs, list ys => orderItems xs ys
  | map xs, map ys => orderEntries xs ys
  | a, b =>
    match Ord.compare a.kind.rank b.kind.rank with
    | .lt => .lt
    | .gt => .gt
    | .eq =>
      match operands? true a b with
      | some (.integers x y) => Ord.compare x y
      | some (.reals x y) => realOrder x y
      | some (.texts x y) => Text.compare x y
      | Option.none => .eq

/-- The order of lists: by the first items that differ. -/
def orderItems : List Value → List Value → Ordering
  | [], [] => .eq
  | [], _ :: _ => .lt
  | _ :: _, [] => .gt
  | x :: xs, y :: ys => (order x y).then (orderItems xs ys)

/-- The order of tables: by the first entries that differ. -/
def orderEntries : List (Value × Value) → List (Value × Value) → Ordering
  | [], [] => .eq
  | [], _ :: _ => .lt
  | _ :: _, [] => .gt
  | (k, v) :: xs, (l, w) :: ys => ((order k l).then (order v w)).then (orderEntries xs ys)

end

/-! ### Tables -/

/-- Put an entry into a sorted table; an entry of the same key gives way. -/
def insertEntry (key value : Value) : List (Value × Value) → List (Value × Value)
  | [] => [(key, value)]
  | (k, v) :: rest =>
    match order key k with
    | .lt => (key, value) :: (k, v) :: rest
    | .eq => (key, value) :: rest
    | .gt => (k, v) :: insertEntry key value rest

/-- The table of some entries, a later one of a key replacing an earlier one. -/
def tableOf (entries : List (Value × Value)) : Value :=
  map (entries.foldl (fun sorted e => insertEntry e.1 e.2 sorted) [])

/-- The value of a key in a table. -/
def valueAt? (key : Value) (entries : List (Value × Value)) : Option Value :=
  (entries.find? fun e => order key e.1 = .eq).map (·.2)

/-- The value of a key that is a text. -/
def field? (name : Text) (entries : List (Value × Value)) : Option Value :=
  (entries.find? fun e => e.1.asText? = some name).map (·.2)

/-! ### Exchange with structured values -/

mutual

/-- A structured value as a value of templates. -/
def ofJson : Json → Value
  | .null => none
  | .bool b => bool b
  | .number (.integer i) => integer i
  | .number (.real bits) => real bits
  | .string s => ofText s
  | .array items => list (ofItems items)
  | .object fields => map (ofFields fields)

/-- The items of an array. -/
def ofItems : List Json → List Value
  | [] => []
  | v :: rest => ofJson v :: ofItems rest

/-- The fields of an object. -/
def ofFields : List (Text × Json) → List (Value × Value)
  | [] => []
  | (name, v) :: rest => (ofText name, ofJson v) :: ofFields rest

end

mutual

/-- The value as a structured value. -/
def toJson : Value → Json
  | undefined => .null
  | none => .null
  | bool b => .bool b
  | integer i => .number (.integer i)
  | real bits => if Real.isFinite bits then .number (.real bits) else .null
  | text t _ => .string t
  | list items => .array (toItems items)
  | map entries => Json.ofFields (toFields entries)
  | function name => .string name
  | loop .. => .null

/-- The items of a list as structured values. -/
def toItems : List Value → List Json
  | [] => []
  | v :: rest => toJson v :: toItems rest

/-- The entries of a table as fields. -/
def toFields : List (Value × Value) → List (Text × Json)
  | [] => []
  | (k, v) :: rest => (display k, toJson v) :: toFields rest

end

end Value

end VendorCli.Template
