import VendorCli.Document.Basic
import VendorCli.Yaml.Scalar
/-!
# Anchors and tags

What may stand before a node: an anchor, under which the node can be used again, and a tag, which
says what a scalar is instead of its looks.
-/

namespace VendorCli.Yaml

/-- What a tag says about a node. -/
inductive Tag where
  | null
  | bool
  | integer
  | real
  /-- Any other tag of the common set, and the mark alone: the text of a scalar is taken as it
  is. -/
  | text
  /-- A tag of one's own; values have no place for it. -/
  | custom
deriving DecidableEq, Repr

namespace Tag

/-- Characters of tags. -/
def isTagChar (x : Char) : Bool :=
  x.isAlphanum || x ∈ ['-', '_', ';', '/', '?', ':', '@', '&', '=', '+', '$', '.', '%', '!', '~',
    '*', '\'', '(', ')']

/-- The tag of the common set with this name. -/
def ofName (name : Text) : Tag :=
  (lookup? name
    [(("null" : Text), Tag.null), ("bool", .bool), ("int", .integer), ("float", .real)]).getD .text

/-- The names of the common set in full. -/
def commonLead : Text := "tag:yaml.org,2002:"

/-- The tag that stands here, with the place after it. -/
def read? (inFlow : Bool) (c : Cursor) : Option (Tag × Cursor) :=
  match c.rest with
  | '!' :: '<' :: rest =>
    let name := rest.takeWhile fun x => isTagChar x || x = ',' || x = '[' || x = ']'
    let after := c.advance (name.length + 3)
    if name = [] ∨ (rest.drop name.length).head? ≠ some '>' ∨ !endsToken after.head? then none
    else some (((Text.dropLead? commonLead name).map ofName).getD .custom, after)
  | '!' :: rest =>
    let body := rest.takeWhile isTagChar
    let after := c.advance (body.length + 1)
    if !(endsToken after.head? || (inFlow && after.head? = some ',')) then none
    else
      match body with
      | [] => some (.text, after)
      | '!' :: name => if name = [] then none else some (ofName name, after)
      | _ => some (.custom, after)
  | _ => none

/-- A node that is not a scalar, under a tag. -/
def onCollection? (tag : Option Tag) (d : Document) : Option Document :=
  if tag = some .custom then none else some d

/-- A scalar under a tag: its text, and whether it is plain. -/
def onScalar? (tag : Option Tag) (plain : Bool) (t : Text) : Option Document :=
  match tag with
  | none => some (if plain then .plain t else .string t)
  | some .text => some (.string t)
  | some .custom => none
  | some .null => if Scalar.resolve t = .null then some .null else none
  | some .bool =>
    match Scalar.resolve t with
    | .bool _ => some (.plain t)
    | _ => none
  | some .integer =>
    match Scalar.resolve t with
    | .integer _ => some (.plain t)
    | _ => none
  | some .real => (Scalar.real? t).map fun bits => .number (.real bits)

end Tag

/-- Characters of the names of anchors. -/
def isAnchorChar (x : Char) : Bool :=
  x.isAlphanum || x = '_' || x = '-'

/-- The name of an anchor that stands here, with the place after it. -/
def anchorName? (c : Cursor) : Option (Text × Cursor) :=
  let name := c.rest.takeWhile isAnchorChar
  let after := c.advance name.length
  if name = [] then none
  else match after.head? with
    | none => some (name, after)
    | some x =>
      if endsToken (some x) || x ∈ ['?', ':', ',', ']', '\x7d', '%', '@', '`'] then
        some (name, after)
      else none

/-- What stands before a node. -/
structure Properties where
  anchor : Option Text
  tag : Option Tag
deriving DecidableEq, Repr

namespace Properties

/-- No properties. -/
def none : Properties := ⟨.none, .none⟩

/-- Whether properties stand here. -/
def startHere (c : Cursor) : Bool :=
  c.head? = some '&' || c.head? = some '!'

/-- One property more, at its mark, with the place after it. -/
def push? (inFlow : Bool) (p : Properties) (c : Cursor) : Option (Properties × Cursor) :=
  if c.head? = some '&' then
    if p.anchor.isSome then .none
    else (anchorName? (c.advance 1)).map fun r => ({ p with anchor := some r.1 }, r.2)
  else if p.tag.isSome then .none
  else (Tag.read? inFlow c).map fun r => ({ p with tag := some r.1 }, r.2)

/-- The properties that stand here, with the next token after them. -/
def read? (inFlow : Bool) (c : Cursor) : Option (Properties × Cursor) := do
  let toNext (c : Cursor) : Cursor := if inFlow then c.toFlowToken else c.toToken false
  if startHere c then
    let (p, c) ← push? inFlow none c
    let c := toNext c
    if startHere c then
      let (p, c) ← push? inFlow p c
      return (p, toNext c)
    else return (p, c)
  else return (none, c)

end Properties

end VendorCli.Yaml
