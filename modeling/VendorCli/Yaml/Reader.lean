import VendorCli.Yaml.Properties
/-!
# Reading YAML

The structure of a YAML text by its indentation. A block node belongs to a `margin`: its tokens
stand at that column or further right. A mapping or sequence begins where its first key or dash
stands, and all its keys or dashes stand in that column (`entries`, `items`); what is nested in it
has the next column as its margin. Only where a line has just begun, or behind a dash, may a block
begin (`fresh`). The dashes of a sequence that is the value of a key may stand in the column of the
key.

A key stands with its colon on one line. Keys have to be scalars here: the fields of documents have
names. An anchored node can be used again by its name, once it is complete.

The recursion is on a bound for the steps; between two characters that are consumed there are at
most four steps.
-/

namespace VendorCli.Yaml

/-- A node that was read, the anchored nodes known after it, and the place after it. -/
structure Node where
  value : Document
  anchors : List (Text × Document)
  after : Cursor

namespace Node

/-- The node under its anchor. -/
def anchored (n : Node) (p : Properties) : Node :=
  match p.anchor with
  | some name => { n with anchors := insertLast name n.value n.anchors }
  | none => n

/-- The text of a node as a key. -/
def keyText? (n : Node) : Option Text :=
  match n.value with
  | .string t => some t
  | .plain t => some t
  | _ => none

end Node

/-- A node without content. -/
def emptyNode? (p : Properties) (anchors : List (Text × Document)) (c : Cursor) : Option Node :=
  (Tag.onScalar? p.tag true []).map fun d => Node.anchored ⟨d, anchors, c⟩ p

/-- The node of an anchor, at its name. -/
def aliasNode? (anchors : List (Text × Document)) (c : Cursor) : Option Node := do
  let (name, c) ← anchorName? c
  let d ← lookup? name anchors
  return ⟨d, anchors, c⟩

/-- A scalar as a node. -/
def scalarNode? (p : Properties) (anchors : List (Text × Document)) (plain : Bool)
    (read : Option (Text × Cursor)) : Option Node := do
  let (t, c) ← read
  let d ← Tag.onScalar? p.tag plain t
  return Node.anchored ⟨d, anchors, c⟩ p

/-- Whether the place `stop` is near enough to `start` for a key between them. -/
def isKeySpan (start stop : Cursor) : Bool :=
  start.line = stop.line && start.rest.length - stop.rest.length ≤ 1024

/-! ### Nodes between brackets -/

/-- Whether an entry between brackets ends here. -/
def endsFlowEntry (closing : Char) (c : Cursor) : Bool :=
  c.head? = some ',' || c.head? = some closing

mutual

/-- A node between brackets, at its first token. -/
def flowNode : Nat → List (Text × Document) → Cursor → Option Node
  | 0, _, _ => none
  | steps + 1, anchors, c => do
    let (p, c) ← Properties.read? true c
    if c.atDocumentMark then none
    else match c.head? with
      | some '*' => if p = Properties.none then aliasNode? anchors (c.advance 1) else none
      | some '"' => scalarNode? p anchors false (Scalar.doubleQuoted? (c.advance 1))
      | some '\'' => scalarNode? p anchors false (Scalar.singleQuoted? (c.advance 1))
      | some '[' => do
        let (items, anchors, c) ← flowItems steps anchors (c.advance 1) true
        let d ← Tag.onCollection? p.tag (.sequence items)
        return Node.anchored ⟨d, anchors, c⟩ p
      | some '\x7b' => do
        let (fields, anchors, c) ← flowFields steps anchors (c.advance 1) true
        let d ← Tag.onCollection? p.tag (.mapping fields)
        return Node.anchored ⟨d, anchors, c⟩ p
      | _ =>
        if Scalar.startsPlain true c then scalarNode? p anchors true (Scalar.plain? true 0 c)
        else if p = Properties.none then none
        else emptyNode? p anchors c

/-- The value after a colon between brackets, or nothing where the entry ends. -/
def flowValue : Nat → Char → List (Text × Document) → Cursor → Option Node
  | 0, _, _, _ => none
  | steps + 1, closing, anchors, c =>
    let c := c.toFlowToken
    if endsFlowEntry closing c then some ⟨.plain [], anchors, c⟩
    else flowNode steps anchors c

/-- A pair between brackets: a key with its value, where `c` is the place of the key. With a
question mark the key may be left out, and so may the colon. Without one there has to be a key, and
the second part of the answer says whether a colon followed it. -/
def flowPair : Nat → Char → List (Text × Document) → Cursor → Option (Node × Option Document)
  | 0, _, _, _ => none
  | steps + 1, closing, anchors, c =>
    if c.head? = some '?' then do
      let c := (c.advance 1).toFlowToken
      let key ←
        if endsFlowEntry closing c || c.head? = some ':' then some ⟨.plain [], anchors, c⟩
        else flowNode steps anchors c
      let c := key.after.toFlowToken
      if c.head? = some ':' then
        let value ← flowValue steps closing key.anchors (c.advance 1)
        return ({ key with anchors := value.anchors, after := value.after }, some value.value)
      else return ({ key with after := c }, some (.plain []))
    else do
      let key ← flowNode steps anchors c
      let stop := key.after.toFlowToken
      if stop.head? = some ':' && isKeySpan c stop then
        let value ← flowValue steps closing key.anchors (stop.advance 1)
        return ({ key with anchors := value.anchors, after := value.after }, some value.value)
      else return ({ key with after := stop }, none)

/-- The items of a sequence between brackets, up to its closing bracket. -/
def flowItems : Nat → List (Text × Document) → Cursor → Bool →
    Option (List Document × List (Text × Document) × Cursor)
  | 0, _, _, _ => none
  | steps + 1, anchors, c, first => do
    let c := c.toFlowToken
    if c.head? = some ']' then return ([], anchors, c.advance 1)
    else
      let c ← if first then some c
        else if c.head? = some ',' then some (c.advance 1).toFlowToken
        else none
      if !first && c.head? = some ']' then return ([], anchors, c.advance 1)
      else
        let (key, value?) ← flowPair steps ']' anchors c
        let item ← match value? with
          | none => some key.value
          | some value => key.keyText?.map fun name => .mapping [(name, value)]
        let (others, anchors, c) ← flowItems steps key.anchors key.after false
        return (item :: others, anchors, c)

/-- The fields of a mapping between braces, up to its closing brace. -/
def flowFields : Nat → List (Text × Document) → Cursor → Bool →
    Option (List (Text × Document) × List (Text × Document) × Cursor)
  | 0, _, _, _ => none
  | steps + 1, anchors, c, first => do
    let c := c.toFlowToken
    if c.head? = some '\x7d' then return ([], anchors, c.advance 1)
    else
      let c ← if first then some c
        else if c.head? = some ',' then some (c.advance 1).toFlowToken
        else none
      if !first && c.head? = some '\x7d' then return ([], anchors, c.advance 1)
      else
        let (key, value?) ← flowPair steps '\x7d' anchors c
        let name ← key.keyText?
        let (others, anchors, c) ← flowFields steps key.anchors key.after false
        return ((name, value?.getD (.plain [])) :: others, anchors, c)

end

/-! ### Block nodes -/

/-- A node that can be a key, at its first token: an alias, a scalar of one line or brackets. -/
def inlineNode (steps margin : Nat) (p : Properties) (anchors : List (Text × Document))
    (c : Cursor) : Option Node :=
  match c.head? with
  | some '*' => if p = Properties.none then aliasNode? anchors (c.advance 1) else none
  | some '"' => scalarNode? p anchors false (Scalar.doubleQuoted? (c.advance 1))
  | some '\'' => scalarNode? p anchors false (Scalar.singleQuoted? (c.advance 1))
  | some x =>
    if x = '[' ∨ x = '\x7b' then
      (flowNode steps anchors c).bind fun n =>
        (Tag.onCollection? p.tag n.value).map fun d => Node.anchored { n with value := d } p
    else if Scalar.startsPlain false c then
      scalarNode? p anchors true (Scalar.plain? false margin c)
    else none
  | none => none

/-- Whether a node that begins at `start` and ends at `stop` is a key. -/
def isKey (start stop : Cursor) : Bool :=
  let colon := stop.skipBlanks
  colon.atIndicator ':' && isKeySpan start colon

mutual

/-- The node after some place, with the given margin; `fresh` says whether a block may begin on the
line of that place, and `dashes` whether the dashes of a sequence may stand right before the
margin. -/
def blockNode : Nat → Nat → Bool → Bool → List (Text × Document) → Cursor → Option Node
  | 0, _, _, _, _, _ => none
  | steps + 1, margin, fresh, dashes, anchors, place =>
    let c := place.toToken fresh
    let fresh := fresh || c.line ≠ place.line
    if !belongs margin dashes fresh c then some ⟨.plain [], anchors, place⟩
    else do
      let (p, d) ← Properties.read? false c
      let moved := d.line ≠ c.line
      let hasProperties := p ≠ Properties.none
      -- Properties on a line of their own belong to the whole block below them; on the line of a
      -- key they belong to the key.
      let keyFresh := if moved then true else fresh
      let keyStart := if moved then d else c
      let dashFresh := if hasProperties then moved else fresh
      if !belongs margin dashes dashFresh d then emptyNode? p anchors d
      else if d.atIndicator '-' then
        if !dashFresh then none
        else do
          let (items, anchors, after) ← items steps d.column anchors d
          let v ← Tag.onCollection? p.tag (.sequence items)
          return Node.anchored ⟨v, anchors, after⟩ p
      else if d.atIndicator '?' && dashFresh then do
        let (fields, anchors, after) ← entries steps d.column anchors d
        let v ← Tag.onCollection? p.tag (.mapping fields)
        return Node.anchored ⟨v, anchors, after⟩ p
      else if d.head? = some '|' || d.head? = some '>' then
        scalarNode? p anchors false (Scalar.block? (d.head? = some '>') margin (d.advance 1))
      else do
        let n ← inlineNode steps margin p anchors d
        -- A colon makes a key of the node; the mapping is then read again from its first key on.
        if keyFresh && isKey keyStart n.after then
          let (fields, anchors, after) ← entries steps keyStart.column anchors keyStart
          let outer := if moved then p else Properties.none
          let v ← Tag.onCollection? outer.tag (.mapping fields)
          return Node.anchored ⟨v, anchors, after⟩ outer
        else return n
where
  /-- Whether the token at a place is part of the node. -/
  belongs (margin : Nat) (dashes fresh : Bool) (c : Cursor) : Bool :=
    !c.atDocumentEnd
      && (margin ≤ c.column
        || (dashes && fresh && c.column + 1 = margin && c.atIndicator '-'))

/-- The items of a sequence whose dashes stand in a column, at the first of them. -/
def items : Nat → Nat → List (Text × Document) → Cursor →
    Option (List Document × List (Text × Document) × Cursor)
  | 0, _, _, _ => none
  | steps + 1, column, anchors, c => do
    let item ← blockNode steps (column + 1) true false anchors (c.advance 1)
    let next := item.after.toToken false
    if !next.atDocumentEnd && next.column = column && next.atIndicator '-' then
      let (others, anchors, after) ← items steps column item.anchors next
      return (item.value :: others, anchors, after)
    else return ([item.value], item.anchors, next)

/-- The fields of a mapping whose keys stand in a column, at the first of them. -/
def entries : Nat → Nat → List (Text × Document) → Cursor →
    Option (List (Text × Document) × List (Text × Document) × Cursor)
  | 0, _, _, _ => none
  | steps + 1, column, anchors, c => do
    let (name, value) ←
      if c.atIndicator '?' then do
        let key ← blockNode steps (column + 1) true true anchors (c.advance 1)
        let name ← key.keyText?
        let next := key.after.toToken false
        if !next.atDocumentEnd && next.column = column && next.atIndicator ':' then
          let value ← blockNode steps (column + 1) true true key.anchors (next.advance 1)
          some (name, value)
        else some (name, { key with value := .plain [] })
      else do
        let (p, d) ← Properties.read? false c
        let key ← if d.atIndicator ':' then emptyNode? p anchors d
          else inlineNode steps (column + 1) p anchors d
        let name ← key.keyText?
        if !isKey c key.after then none
        else
          let value ← blockNode steps (column + 1) false true key.anchors
            (key.after.skipBlanks.advance 1)
          some (name, value)
    let next := value.after.toToken false
    -- What follows either ends the mapping or is its next key; further right nothing may stand.
    if next.atDocumentEnd || next.column < column then
      return ([(name, value.value)], value.anchors, next)
    else if next.column = column then
      let (others, anchors, after) ← entries steps column value.anchors next
      return ((name, value.value) :: others, anchors, after)
    else none

end

/-! ### Documents -/

/-- Characters that may stand in a YAML text. -/
def isTextChar (x : Char) : Bool :=
  x = '\t' || x = '\n' || x = '\r' || (' ' ≤ x && x ≤ '~') || x = '\u0085'
    || ('\u00a0' ≤ x && x ≠ '\ufeff' && x ≠ '\ufffe' && x ≠ '\uffff')

/-- Whether a line is a directive: the version, or an abbreviation for tags. -/
def isDirective (line : Text) : Bool :=
  match (Text.words line).takeWhile fun w => w.head? ≠ some '#' with
  | name :: arguments =>
    if name = ("%YAML" : Text) then arguments = [("1.1" : Text)] || arguments = [("1.2" : Text)]
    else name = ("%TAG" : Text) && arguments.length = 2
  | [] => false

/-- The first token that is no directive, from the first token on. A directive is a line with a
percent sign in front. -/
def skipDirectives : Nat → Cursor → Option Cursor
  | 0, _ => none
  | steps + 1, c =>
    if c.column = 0 ∧ c.head? = some '%' then
      if isDirective (c.rest.takeWhile fun x => !isBreak x) then
        skipDirectives steps (c.lineEnd.toToken true)
      else none
    else some c

/-- Whether a text holds nothing from a place on but blanks, comments and marks of the end of a
document. -/
def isFinished : Nat → Cursor → Bool
  | 0, _ => false
  | steps + 1, c =>
    let c := c.toToken true
    if c.atEnd then true
    else if c.atDocumentMark && c.head? = some '.' then isFinished steps (c.advance 3)
    else false

/-- The one document of a text, from its first token on. Directives have to be followed by the mark
of the beginning of a document; a text without any token holds an empty document. -/
def document? (start : Cursor) : Option Document := do
  let c ← skipDirectives (start.rest.length + 1) start
  let marked := c.atDocumentMark && c.head? = some '-'
  if start.atEnd then some (.plain [])
  else if !marked && (c.atDocumentMark || c.line ≠ start.line) then none
  else
    let place := if marked then c.advance 3 else c
    let n ← blockNode (4 * c.rest.length + 8) 0 (!marked) false [] place
    if isFinished (n.after.rest.length + 1) n.after then some n.value else none

end Yaml

/-- The document that a YAML text holds. -/
def Document.ofYamlText? (t : Text) : Option Document :=
  let t := (Text.dropLead? ['\ufeff'] t).getD t
  if t.all Yaml.isTextChar then Yaml.document? ((Yaml.Cursor.ofText t).toToken true) else none

end VendorCli
