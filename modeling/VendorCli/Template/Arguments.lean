import VendorCli.Template.Operation
/-!
# Arguments

The arguments of a call after evaluation. A parameter that is undefined or none counts as left out
wherever it may be left out. A text parameter takes any value by its printed form.
-/

namespace VendorCli.Template

/-- The arguments of a call. -/
structure Arguments where
  positional : List Value
  named : List (Text × Value)

namespace Arguments

/-- Whether there are no arguments. -/
def isEmpty (a : Arguments) : Bool :=
  a.positional.isEmpty && a.named.isEmpty

/-- The positional arguments of a call without named ones, at most `most` of them. -/
def upTo (most : Nat) (a : Arguments) : Except RenderFault (List Value) :=
  if a.named.isEmpty ∧ a.positional.length ≤ most then .ok a.positional
  else .error .arguments

/-- The argument at a place, if it is given. -/
def optional (values : List Value) (place : Nat) : Option Value :=
  values[place]?.filter fun v => !v.isUnset

/-- The argument at a place, which has to be there. -/
def required (values : List Value) (place : Nat) : Except RenderFault Value :=
  match values[place]? with
  | some v => .ok v
  | none => .error .arguments

/-- The text at a place, which has to be there. -/
def text (values : List Value) (place : Nat) : Except RenderFault Text :=
  (required values place).map Value.display

/-- The truth value at a place, false where it is left out. -/
def flag (values : List Value) (place : Nat) : Except RenderFault Bool :=
  match optional values place with
  | none => .ok false
  | some (.bool b) => .ok b
  | some _ => .error .arguments

/-- The natural number at a place. -/
def count (values : List Value) (place : Nat) : Except RenderFault Nat := do
  let v ← required values place
  match v.asIntBetween? 0 Decimal.max64 with
  | some n => .ok n.toNat
  | none => .error .arguments

/-- The named arguments of a call, none of another name than these. -/
def onlyNamed (names : List Text) (a : Arguments) : Except RenderFault (List (Text × Value)) :=
  if a.named.all fun kv => names.contains kv.1 then .ok a.named else .error .arguments

/-- An argument by name, if it is given. -/
def namedValue? (named : List (Text × Value)) (name : Text) : Option Value :=
  (named.find? fun kv => kv.1 = name).map (·.2)

/-- A truth value by name, false where it is left out. -/
def namedFlag (named : List (Text × Value)) (name : Text) : Except RenderFault Bool :=
  match namedValue? named name with
  | none => .ok false
  | some (.bool b) => .ok b
  | some v => if v.isUnset then .ok false else .error .arguments

/-- A text by name, if it is given. -/
def namedText? (named : List (Text × Value)) (name : Text) : Option Text :=
  (namedValue? named name).bind Value.asText?

end Arguments

end VendorCli.Template
