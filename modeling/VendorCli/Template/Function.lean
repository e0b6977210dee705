import VendorCli.Template.Arguments
/-!
# Functions

The functions that a template can call. `update` is made for configuration: it gives one text when
a setting has to be set or changed, another when it has to be removed, and nothing when it is as it
was.
-/

namespace VendorCli.Template

/-- A function of templates. -/
abbrev Function := Arguments → Except RenderFault Value

namespace Function

/-- The text that takes a setting from one value to another: `change` if it has a new value,
`removal` if it had one and has none, and nothing if both are equal or there is none at all. -/
def updateText (before after : Value) (change removal : Text) : Text :=
  if after.isUnset then (if before.isUnset then [] else removal)
  else if Value.same before after then [] else change

/-- The text that takes a setting from one value to another. -/
def update : Function := fun args => do
  let given ← args.upTo 4
  let before ← Arguments.required given 0
  let after ← Arguments.required given 1
  let change ← Arguments.text given 2
  let removal ← Arguments.text given 3
  .ok (Value.ofText (updateText before after change removal))

/-- The numbers from `start` on, `step` apart, `count` of them. -/
def progression (start step : Int) (count : Nat) : List Value :=
  (List.range count).map fun (i : Nat) => .integer (start + step * (i : Int))

/-- The whole numbers up to a bound, or between two, in steps. -/
def range : Function := fun args => do
  let given ← args.upTo 3
  let number (v : Value) : Except RenderFault Int :=
    match v.asInt64? with
    | some i => .ok i
    | none => .error .arguments
  let first ← number (← Arguments.required given 0)
  let (start, stop) ← match Arguments.optional given 1 with
    | none => .ok (0, first)
    | some v => (number v).map fun stop => (first, stop)
  let step ← match Arguments.optional given 2 with
    | none => .ok 1
    | some v => number v
  if step = 0 then .error .invalidOperation
  else
    let span := if 0 < step then stop - start else start - stop
    let count := ((span + step.natAbs - 1) / step.natAbs).toNat
    if 100000 < count then .error .invalidOperation
    else .ok (.list (progression start step count))

/-- A table of the entries of another and the named arguments. -/
def dict : Function := fun args => do
  if 1 < args.positional.length then .error .arguments
  let start ← match args.positional.head? with
    | none => .ok []
    | some (.map entries) => .ok entries
    | some v => if v.isUnset then .ok [] else .error .arguments
  .ok (Value.tableOf (start ++ args.named.map fun kv => (Value.ofText kv.1, kv.2)))

/-- A table whose entries can be assigned later: the entries of another, or the named arguments. -/
def namespaceOf : Function := fun args =>
  match args.positional, args.named with
  | [], named => .ok (Value.tableOf (named.map fun kv => (Value.ofText kv.1, kv.2)))
  | [.map entries], [] => .ok (.map entries)
  | [v], [] => if v.isUnset then .ok (.map []) else .error .invalidOperation
  | _, _ => .error .arguments

/-- The name of the function that makes tables with assignable entries. -/
def namespaceName : Text := "namespace"

/-- A function with its name. -/
def entry (name : String) (f : Function) : Text × Function :=
  (name, f)

/-- The functions by name. -/
def table : List (Text × Function) :=
  [entry "update" update, entry "range" range, entry "dict" dict,
   (namespaceName, namespaceOf)]

/-- The function of a name. -/
def named? (name : Text) : Option Function :=
  (table.find? fun f => f.1 = name).map (·.2)

end Function

end VendorCli.Template
