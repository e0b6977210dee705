import VendorCli.Template.Filter.Basic
import VendorCli.Text.Case
/-!
# Filters on lists and tables

Ends, extremes, order, groups and rows of items, and the entries of tables. Sorting is stable, and
texts are compared without the case of ASCII unless the template asks otherwise.

* `atPath` is the value at a path of attributes and indices.
-/

namespace VendorCli.Template.Filter

/-- How many characters, items or entries a value has. -/
def length : Filter :=
  simple fun v =>
    match v with
    | .text t _ => .ok (Value.ofNat t.length)
    | .list items => .ok (Value.ofNat items.length)
    | .map entries => .ok (Value.ofNat entries.length)
    | _ => .error .invalidOperation

/-- The items of a text, list or table, for a filter that needs one of them. -/
def elements (v : Value) : Except RenderFault (List Value) :=
  match v with
  | .undefined => .error .invalidOperation
  | .none => .error .invalidOperation
  | v => v.items

/-- The first item, undefined if there is none. -/
def first : Filter :=
  simple fun v => (elements v).map fun items => items.head?.getD .undefined

/-- The last item, undefined if there is none. A table has no last item. -/
def last : Filter :=
  simple fun v =>
    match v with
    | .map _ => .error .invalidOperation
    | v => (elements v).map fun items => items.getLast?.getD .undefined

/-- The least item, or the greatest one. -/
def extreme (better : Ordering → Bool) : Filter :=
  simple fun v => do
    let items ← v.items
    match items with
    | [] => .ok .undefined
    | a :: rest =>
      .ok (rest.foldl (fun best b => if better (Value.order b best) then b else best) a)

/-- The order of two values as sorting sees it. -/
def sortOrder (caseMatters : Bool) (a b : Value) : Ordering :=
  match a, b, caseMatters with
  | .text s _, .text t _, false => Text.compare (Text.asciiLower s) (Text.asciiLower t)
  | a, b, _ => Value.order a b

/-- One step of a path; an undefined value has no parts. -/
def stepInto (v : Value) (part : Text) : Except RenderFault Value :=
  if v.isUndefined then .error .undefinedValue
  else match Decimal.nat? Decimal.max64 part with
    | some i => .ok (Value.item v (Value.ofNat i))
    | none => .ok (Value.member v part)

/-- The value at a path of attribute names and indices between points. -/
def atPath (path : Text) (v : Value) : Except RenderFault Value :=
  (Text.splitOn '.' path).foldlM stepInto v

/-- The value at a path, or another one if there is none. -/
def atPathOr (otherwise : Value) (path : Text) (v : Value) : Value :=
  match atPath path v with
  | .ok w => if w.isUndefined then otherwise else w
  | .error _ => otherwise

/-- The order of two values by what is at a path of each; a path that leads nowhere orders
nothing. -/
def pathOrder (caseMatters : Bool) (path : Text) (a b : Value) : Ordering :=
  match atPath path a, atPath path b with
  | .ok v, .ok w => sortOrder caseMatters v w
  | _, _ => .eq

/-- Put an item into a sorted list after those that are not greater. -/
def insertBy (order : Value → Value → Ordering) (v : Value) : List Value → List Value
  | [] => [v]
  | w :: rest => if (order v w).isLT then v :: w :: rest else w :: insertBy order v rest

/-- The list in order; equal items stay as they are. -/
def sortBy (order : Value → Value → Ordering) (items : List Value) : List Value :=
  items.foldl (fun sorted v => insertBy order v sorted) []

/-- The items in order. -/
def sort : Filter := fun v args => do
  if !args.positional.isEmpty then .error .arguments
  let named ← args.onlyNamed ["attribute", "case_sensitive", "reverse"]
  let items ← v.items
  let caseMatters ← Arguments.namedFlag named "case_sensitive"
  let backwards ← Arguments.namedFlag named "reverse"
  let order := match Arguments.namedText? named "attribute" with
    | some path => pathOrder caseMatters path
    | none => sortOrder caseMatters
  let sorted := sortBy order items
  .ok (.list (if backwards then sorted.reverse else sorted))

/-- The entries of a table as pairs. -/
def pairs : Filter :=
  simple fun v =>
    match v with
    | .map entries => .ok (.list (entries.map fun e => .list [e.1, e.2]))
    | _ => .error .invalidOperation

/-- Where the part stands in a pair that a table is sorted by. -/
def placeOf (by_ : Value) : Except RenderFault Nat :=
  match by_.asText? with
  | none => .error .arguments
  | some t =>
    if t = "key" then .ok 0 else if t = "value" then .ok 1 else .error .invalidOperation

/-- The entries of a table as pairs in the order of the keys or the values. -/
def sortedPairs : Filter := fun v args => do
  if !args.positional.isEmpty then .error .arguments
  let named ← args.onlyNamed ["by", "case_sensitive", "reverse"]
  let caseMatters ← Arguments.namedFlag named "case_sensitive"
  let backwards ← Arguments.namedFlag named "reverse"
  let place ← match Arguments.namedValue? named "by" with
    | none => .ok 0
    | some by_ => if by_.isUnset then .ok 0 else placeOf by_
  let key (v : Value) : Value := Value.item v (Value.ofNat place)
  match v with
  | .map entries =>
    let all := entries.map fun e => Value.list [e.1, e.2]
    let sorted := sortBy (fun a b => sortOrder caseMatters (key a) (key b)) all
    .ok (.list (if backwards then sorted.reverse else sorted))
  | _ => .error .invalidOperation

/-- A text or a list from its end to its start. -/
def reverse : Filter :=
  simple fun v =>
    match v with
    | .undefined => .ok .undefined
    | .none => .ok .none
    | .text t _ => .ok (Value.ofText t.reverse)
    | v => (v.items).map fun items => .list items.reverse

/-- The printed items, one after the other, with a text before every item that follows something. -/
def joined (glue : Text) (items : List Value) : Text :=
  items.foldl (fun t v => if t.isEmpty then v.display else t ++ glue ++ v.display) []

/-- The printed items with a text between them. -/
def join : Filter := fun v args => do
  let given ← args.upTo 1
  let glue := ((Arguments.optional given 0).map Value.display).getD []
  (v.items).map fun items => Value.ofText (joined glue items)

/-- The value of an attribute or index. -/
def attr : Filter := fun v args => do
  let given ← args.upTo 1
  let index ← Arguments.required given 0
  if v.isUndefined then .error .undefinedValue else .ok (Value.item v index)

/-- The items as a list. -/
def toList : Filter :=
  simple fun v => (v.items).map .list

/-- What the items that count as one have in common: the value, a text without its case. -/
def uniqueKey (caseMatters : Bool) (v : Value) : Value :=
  match v, caseMatters with
  | .text t _, false => Value.ofText (Text.lower t)
  | v, _ => v

/-- The first item of each key. -/
def firstOfEach (key : Value → Except RenderFault Value) :
    List Value → List Value → Except RenderFault (List Value)
  | _, [] => .ok []
  | seen, v :: rest => do
    let k ← key v
    if seen.any fun w => Value.order w k = .eq then firstOfEach key seen rest
    else (firstOfEach key (k :: seen) rest).map (v :: ·)

/-- Each item where it first occurs. -/
def unique : Filter := fun v args => do
  if !args.positional.isEmpty then .error .arguments
  let named ← args.onlyNamed ["attribute", "case_sensitive"]
  let caseMatters ← Arguments.namedFlag named "case_sensitive"
  let key (v : Value) : Except RenderFault Value :=
    match Arguments.namedText? named "attribute" with
    | some path => (atPath path v).map (uniqueKey caseMatters)
    | none => .ok (uniqueKey caseMatters v)
  let items ← v.items
  (firstOfEach key [] items).map .list

/-- Neighbours with the same key in one group, with the key of its latest item. -/
def groups (order : Value → Value → Ordering) (key : Value → Value) :
    List Value → List (Value × List Value)
  | [] => []
  | v :: rest =>
    match groups order key rest with
    | [] => [(key v, [v])]
    | (k, items) :: others =>
      let next := (items.head?.map key).getD k
      if order (key v) next = .eq then (k, v :: items) :: others
      else (key v, [v]) :: (k, items) :: others

/-- The items in groups by an attribute, each group as a pair of the attribute and its items. -/
def groupBy : Filter := fun v args => do
  let named ← args.onlyNamed ["attribute", "case_sensitive", "default"]
  let path ← match args.positional, Arguments.namedText? named "attribute" with
    | [.text path _], none => .ok path
    | [], some path => .ok path
    | _, _ => .error .arguments
  let caseMatters ← Arguments.namedFlag named "case_sensitive"
  let key := atPathOr ((Arguments.namedValue? named "default").getD .undefined) path
  let order := sortOrder caseMatters
  let items ← v.items
  let sorted := sortBy (fun a b => order (key a) (key b)) items
  .ok (.list ((groups order key sorted).map fun g => .list [g.1, .list g.2]))

/-- The sum of the items. -/
def sum : Filter :=
  simple fun v => do
    let items ← v.items
    items.foldlM (fun total v =>
      match v.kind with
      | .undefined => .ok total
      | .number => Value.add total v
      | _ => .error .invalidOperation) (Value.ofNat 0)

/-- A list cut into lists of `size` items. -/
def chunks {α : Type} (size : Nat) : Nat → List α → List (List α)
  | 0, _ => []
  | _, [] => []
  | steps + 1, items => items.take size :: chunks size steps (items.drop size)

/-- The items in rows of a given size, the last one filled up. -/
def batch : Filter := fun v args => do
  let given ← args.upTo 2
  let size ← Arguments.count given 0
  if size = 0 then .error .invalidOperation
  let items ← v.items
  let fill (row : List Value) : List Value := match Arguments.optional given 1 with
    | some w => row ++ List.replicate (size - row.length) w
    | none => row
  .ok (.list ((chunks size (items.length + 1) items).map fun row => .list (fill row)))

/-- Items dealt into `count` rows, the first ones a little longer; the others end with `fill`. -/
def dealt (count : Nat) (fill : Option Value) (items : List Value) : List Value :=
  let size := items.length / count
  let longer := items.length % count
  (List.range count).map fun row =>
    let start := row * size + min row longer
    let width := size + (if row < longer then 1 else 0)
    let part := (items.drop start).take width
    .list (match fill with
      | some w => if longer ≤ row then part ++ [w] else part
      | none => part)

/-- The items in a given number of rows. -/
def slice : Filter := fun v args => do
  let given ← args.upTo 2
  let count ← Arguments.count given 0
  if count = 0 ∨ 100000 < count then .error .invalidOperation
  (v.items).map fun items => .list (dealt count (Arguments.optional given 1) items)

end VendorCli.Template.Filter
