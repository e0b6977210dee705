import VendorCli.Template.Arguments
import VendorCli.Text.Letter
/-!
# Tests

The conditions that follow `is` in a template, by name. `Condition.named?` finds one, and
`Condition.holds` asks it of a value.
-/

namespace VendorCli.Template

/-- A condition on a value with arguments. -/
abbrev Condition := Value → Arguments → Except RenderFault Bool

namespace Condition

/-- A condition without arguments. -/
def simple (holds : Value → Bool) : Condition := fun v args =>
  if args.isEmpty then .ok (holds v) else .error .arguments

/-- A condition with one argument. -/
def relation (holds : Value → Value → Except RenderFault Bool) : Condition := fun v args => do
  let given ← args.upTo 1
  let other ← Arguments.required given 0
  holds v other

/-- A condition on the order of two values. -/
def ordering (holds : Ordering → Bool) : Condition :=
  relation fun a b => .ok (holds (Value.order a b))

/-- Whether the remainder of a whole number by two is `r`. -/
def parity (r : Int) (v : Value) : Bool :=
  match v.asInt? with
  | some i => i % 2 = r
  | none => false

/-- Whether one number is a multiple of another. -/
def divisible (a b : Value) : Except RenderFault Bool :=
  match Value.operands? false a b with
  | some (.integers x y) => .ok (y ≠ 0 && x % y = 0)
  | some (.reals x y) =>
    .ok (Value.realRemainder (Real.toFloat x) (Real.toFloat y) == 0)
  | _ => .ok false

/-- A condition on the characters of a text; other values have none. -/
def ofChars (holds : Char → Bool) : Condition := fun v args =>
  if args.isEmpty then
    match v.asText? with
    | some t => .ok (t.all holds)
    | none => .error .invalidOperation
  else .error .arguments

/-- Whether a value is a whole number. -/
def isInteger : Value → Bool
  | .integer _ => true
  | _ => false

/-- Whether a value is a real number. -/
def isReal : Value → Bool
  | .real _ => true
  | _ => false

/-- Whether a value is a text that is printed without escapes. -/
def isSafe : Value → Bool
  | .text _ safe => safe
  | _ => false

/-- Whether a value is this truth value. -/
def isBool (b : Bool) : Value → Bool
  | .bool c => b = c
  | _ => false

/-- Whether two values are of one kind and equal. -/
def identical (a b : Value) : Except RenderFault Bool :=
  .ok (a.kind = b.kind && Value.same a b)

/-- A condition with its name. -/
def entry (name : String) (c : Condition) : Text × Condition :=
  (name, c)

/-- The conditions by name. -/
def table : List (Text × Condition) :=
  [entry "undefined" (simple Value.isUndefined),
   entry "defined" (simple fun v => !v.isUndefined),
   entry "none" (simple fun v => v.kind = .none),
   entry "boolean" (simple fun v => v.kind = .bool),
   entry "number" (simple fun v => v.kind = .number),
   entry "integer" (simple isInteger),
   entry "int" (simple isInteger),
   entry "float" (simple isReal),
   entry "string" (simple fun v => v.kind = .text),
   entry "sequence" (simple fun v => v.kind = .list),
   entry "mapping" (simple fun v => v.kind = .map),
   entry "iterable" (simple fun v => v.items.toOption.isSome),
   entry "safe" (simple isSafe),
   entry "escaped" (simple isSafe),
   entry "true" (simple (isBool true)),
   entry "false" (simple (isBool false)),
   entry "odd" (simple (parity 1)),
   entry "even" (simple (parity 0)),
   entry "lower" (ofChars Text.isSmall),
   entry "upper" (ofChars Text.isCapital),
   entry "divisibleby" (relation divisible),
   entry "startingwith" (relation fun a b => .ok (Text.startsWith b.display a.display)),
   entry "endingwith" (relation fun a b => .ok (Text.endsWith b.display a.display)),
   entry "in" (relation fun a b => .ok ((Value.contains b a).toOption.getD false)),
   entry "sameas" (relation identical),
   entry "eq" (relation fun a b => .ok (Value.same a b)),
   entry "equalto" (relation fun a b => .ok (Value.same a b)),
   entry "==" (relation fun a b => .ok (Value.same a b)),
   entry "ne" (relation fun a b => .ok (!Value.same a b)),
   entry "!=" (relation fun a b => .ok (!Value.same a b)),
   entry "lt" (ordering Ordering.isLT),
   entry "lessthan" (ordering Ordering.isLT),
   entry "<" (ordering Ordering.isLT),
   entry "le" (ordering Ordering.isLE),
   entry "<=" (ordering Ordering.isLE),
   entry "gt" (ordering Ordering.isGT),
   entry "greaterthan" (ordering Ordering.isGT),
   entry ">" (ordering Ordering.isGT),
   entry "ge" (ordering Ordering.isGE),
   entry ">=" (ordering Ordering.isGE)]

/-- The condition of a name. -/
def named? (name : Text) : Option Condition :=
  (table.find? fun c => c.1 = name).map (·.2)

/-- Ask the condition of a name of a value. -/
def holds (name : Text) (v : Value) (args : Arguments) : Except RenderFault Bool :=
  match named? name with
  | some c => c v args
  | none => .error (.unknownTest name)

end Condition

end VendorCli.Template
