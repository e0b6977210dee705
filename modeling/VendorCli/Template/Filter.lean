import VendorCli.Template.Condition
import VendorCli.Template.Filter.Collection
import VendorCli.Template.Filter.Device
import VendorCli.Template.Filter.Number
import VendorCli.Template.Filter.Text
/-!
# Filters

The functions that follow `|` in a template, by name: those on texts, numbers and collections, those
for network devices, and the ones here that take any value or other filters and tests as arguments.

`Filter.apply` applies the filter of a name to a value.
-/

namespace VendorCli.Template.Filter

/-! ### Any value -/

/-- The value, or another one in the place of an undefined one. -/
def default : Filter := fun v args => do
  let given ← args.upTo 2
  let lax ← Arguments.flag given 1
  if v.isUndefined || (lax && !v.isTrue) then
    .ok ((Arguments.optional given 0).getD (Value.ofText []))
  else .ok v

/-- A character of structured text that could end a script, written out. -/
def scriptChar (c : Char) : Text :=
  match c with
  | '<' => "\\u003c"
  | '>' => "\\u003e"
  | '&' => "\\u0026"
  | '\'' => "\\u0027"
  | c => [c]

/-- The value as structured text: on one line, or on several with a margin of so many spaces. -/
def toStructured : Filter := fun v args => do
  if 1 < args.positional.length then .error .arguments
  let named ← args.onlyNamed ["indent"]
  let asked := (Arguments.optional args.positional 0).or
    ((Arguments.namedValue? named "indent").filter fun w => !w.isUnset)
  let written (t : Text) : Value := .text (t.flatMap scriptChar) true
  match asked with
  | none => .ok (written v.toJson.compact)
  | some (.bool several) =>
    .ok (written (if several then v.toJson.pretty else v.toJson.compact))
  | some w =>
    match w.asIntBetween? 0 10000 with
    | some step => .ok (written (v.toJson.prettyBy step.toNat))
    | none => .error .arguments

/-! ### Filters and tests as arguments -/

/-- The condition on items that the arguments of a selection name: a test with its own arguments, or
being true. -/
def conditionOf (given : List Value) : Except RenderFault (Value → Except RenderFault Bool) :=
  match given with
  | [] => .ok fun v => .ok v.isTrue
  | name :: rest =>
    match name.asText? with
    | some t => .ok fun v => Condition.holds t v ⟨rest, []⟩
    | none => .error .arguments

/-- The items of which a condition says `wanted`. -/
def selected (wanted : Bool) (condition : Value → Except RenderFault Bool) :
    List Value → Except RenderFault (List Value)
  | [] => .ok []
  | v :: rest => do
    let keeps ← condition v
    let others ← selected wanted condition rest
    .ok (if keeps = wanted then v :: others else others)

/-- The items that pass a test, or those that fail it. -/
def select (wanted : Bool) : Filter := fun v args => do
  let given ← args.upTo 1000
  let condition ← conditionOf given
  let items ← v.items
  (selected wanted condition items).map .list

/-- The items an attribute of which passes a test, or fails it. -/
def selectBy (wanted : Bool) : Filter := fun v args => do
  let given ← args.upTo 1000
  let path ← Arguments.text given 0
  let condition ← conditionOf (given.drop 1)
  let items ← v.items
  (selected wanted (fun v => do
    let part ← atPath path v
    condition part) items).map .list

/-- A filter with its name. -/
def entry (name : String) (f : Filter) : Text × Filter :=
  (name, f)

/-- The filters that take no other filter as an argument. -/
def table : List (Text × Filter) :=
  [entry "netmask" (maskBy Ipv4.netmask?),
   entry "wildcard" (maskBy Ipv4.wildcard?),
   entry "prefix_len" prefixLength,
   entry "quote" (ofText quote),
   entry "upper" (ofText Text.upper),
   entry "lower" (ofText Text.lower),
   entry "title" (ofText (title true)),
   entry "capitalize" (ofText capitalize),
   entry "trim" trim,
   entry "replace" replace,
   entry "escape" escape,
   entry "e" escape,
   entry "safe" safe,
   entry "indent" indent,
   entry "split" split,
   entry "lines" (simple fun v => .ok (.list ((Text.lines v.display).map Value.ofText))),
   entry "string" (simple fun v => .ok (match v with
      | .text t safe => .text t safe
      | v => Value.ofText v.display)),
   entry "bool" (simple fun v => .ok (.bool v.isTrue)),
   entry "abs" absolute,
   entry "int" toInteger,
   entry "float" toReal,
   entry "round" round,
   entry "length" length,
   entry "count" length,
   entry "first" first,
   entry "last" last,
   entry "min" (extreme Ordering.isLT),
   entry "max" (extreme Ordering.isGE),
   entry "sort" sort,
   entry "items" pairs,
   entry "dictsort" sortedPairs,
   entry "reverse" reverse,
   entry "join" join,
   entry "attr" attr,
   entry "list" toList,
   entry "unique" unique,
   entry "groupby" groupBy,
   entry "sum" sum,
   entry "batch" batch,
   entry "slice" slice,
   entry "default" default,
   entry "d" default,
   entry "tojson" toStructured,
   entry "select" (select true),
   entry "reject" (select false),
   entry "selectattr" (selectBy true),
   entry "rejectattr" (selectBy false)]

/-- The filter of a name in the table. -/
def named? (name : Text) : Option Filter :=
  (table.find? fun f => f.1 = name).map (·.2)

/-- Apply a function to every item. -/
def mapItems (f : Value → Except RenderFault Value) : List Value → Except RenderFault (List Value)
  | [] => .ok []
  | v :: rest => do
    let w ← f v
    let others ← mapItems f rest
    .ok (w :: others)

/-- The attribute of a value that a filter asks for: at a path, or at an index. -/
def attributeOf (place v : Value) : Except RenderFault Value :=
  match place with
  | .text path _ => atPath path v
  | index => if v.isUndefined then .error .undefinedValue else .ok (Value.item v index)

/-- An attribute, or another value if there is none and another one is given. -/
def attributeOr (otherwise : Option Value) (place v : Value) : Except RenderFault Value :=
  match otherwise, attributeOf place v with
  | some w, .ok found => .ok (if found.isUndefined then w else found)
  | some w, .error _ => .ok w
  | none, found => found

/-- Every item by a filter, or an attribute of every item. -/
def mapBy : Filter := fun v args => do
  let items ← v.items
  let asked := (Arguments.namedValue? args.named "attribute").filter fun w => !w.isUnset
  match asked, args.positional with
  | some place, [] => do
    let named ← args.onlyNamed ["attribute", "default"]
    let otherwise := (Arguments.namedValue? named "default").filter fun w => !w.isUnset
    (mapItems (attributeOr otherwise place) items).map .list
  | some _, _ => .error .arguments
  | none, [] => .error .arguments
  | none, name :: rest => do
    match name.asText?.bind named? with
    | none => .error (.unknownFilter name.display)
    | some f => (mapItems (fun v => f v ⟨rest, args.named⟩) items).map .list

/-- Apply the filter of a name to a value. -/
def apply (name : Text) (v : Value) (args : Arguments) : Except RenderFault Value :=
  if name = "map" then mapBy v args
  else match named? name with
    | some f => f v args
    | none => .error (.unknownFilter name)

end VendorCli.Template.Filter
