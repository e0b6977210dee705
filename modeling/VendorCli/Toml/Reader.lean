import VendorCli.Toml.Scalar
/-!
# Reading TOML

A TOML text is a list of lines: pairs of a key and a value, and headers that say which table the
pairs after them belong to. The tables are built up line by line (`Fields.define?`, `Fields.open?`,
`Fields.append?`), under one rule: a table is defined once. It counts as defined by its header, or
by the dotted keys of one table; a table that only appeared on the way to another one can still get
a header of its own.

The recursion over values is on a bound for the steps; every step consumes a character.
-/

namespace VendorCli.Toml

/-! ### Values -/

/-- Put a value under a key into the fields of an inline table, if the place is free. -/
def putInline? :
    List Text → Document → List (Text × Document) → Option (List (Text × Document))
  | [], _, _ => none
  | [name], d, fields =>
    if (lookup? name fields).isSome then none else some (fields ++ [(name, d)])
  | name :: path, d, fields =>
    match lookup? name fields with
    | none => (putInline? path d []).map fun inner => fields ++ [(name, .mapping inner)]
    | some (.mapping inner) =>
      (putInline? path d inner).map fun inner => insertLast name (.mapping inner) fields
    | some _ => none

mutual

/-- A value at the front of a text, with the rest. -/
def value? : Nat → Text → Option (Document × Text)
  | 0, _ => none
  | steps + 1, t =>
    match t with
    | '"' :: _ => (string? t).map fun r => (.string r.1, r.2)
    | '\'' :: _ => (string? t).map fun r => (.string r.1, r.2)
    | '[' :: rest => (items? steps rest).map fun r => (.sequence r.1, r.2)
    | '\x7b' :: rest =>
      match skipBlanks rest with
      | '\x7d' :: rest => some (.mapping [], rest)
      | rest => (pairs? steps rest []).map fun r => (.mapping r.1, r.2)
    | _ => word? t

/-- The items of an array, up to its closing bracket. -/
def items? : Nat → Text → Option (List Document × Text)
  | 0, _ => none
  | steps + 1, t =>
    match skipLines (t.length + 1) t with
    | ']' :: rest => some ([], rest)
    | t => do
      let (first, t) ← value? steps t
      match skipLines (t.length + 1) t with
      | ']' :: rest => some ([first], rest)
      | ',' :: rest => do
        let (others, rest) ← items? steps rest
        return (first :: others, rest)
      | _ => none

/-- The pairs of an inline table onto those before them, up to its closing brace. -/
def pairs? : Nat → Text → List (Text × Document) → Option (List (Text × Document) × Text)
  | 0, _, _ => none
  | steps + 1, t, fields => do
    let (path, t) ← key? t
    let t ← behind? '=' t
    let (d, t) ← value? steps (skipBlanks t)
    let fields ← putInline? path d fields
    match skipBlanks t with
    | '\x7d' :: rest => some (fields, rest)
    | ',' :: rest => pairs? steps rest fields
    | _ => none

end

/-! ### Tables -/

/-- What stands under a name. -/
inductive Item where
  | value (d : Document)
  /-- A table: whether it only appeared on the way to another one, and whether dotted keys define
  it. -/
  | table (implicit dotted : Bool) (fields : List (Text × Item))
  /-- An array of tables. -/
  | tables (elements : List (List (Text × Item)))

/-- The fields of a table that is being built up. -/
abbrev Fields := List (Text × Item)

namespace Fields

/-- Change the fields at a path, where tables that are missing come into being. The change is told
whether dotted keys define the table. A path leads to the last table of an array. Dotted keys do not
lead into a table with a header. -/
def modify? (dotted : Bool) (change : Bool → Fields → Option Fields) :
    List Text → Bool → Fields → Option Fields
  | [], isDotted, fields => change isDotted fields
  | name :: path, _, fields =>
    match lookup? name fields with
    | none =>
      (modify? dotted change path dotted []).map fun inner =>
        fields ++ [(name, .table true dotted inner)]
    | some (.value _) => none
    | some (.tables elements) => do
      let last ← elements.getLast?
      let inner ← modify? dotted change path false last
      return insertLast name (.tables (elements.dropLast ++ [inner])) fields
    | some (.table implicit isDotted inner) =>
      if dotted && !implicit then none
      else (modify? dotted change path isDotted inner).map fun inner =>
        insertLast name (.table implicit isDotted inner) fields

/-- Put a value under a key that is free. -/
def define? (path : List Text) (d : Document) (fields : Fields) : Option Fields :=
  let change (isDotted : Bool) (fields : Fields) : Option Fields := do
    let name ← path.getLast?
    if isDotted = (path.length ≤ 1) ∨ (lookup? name fields).isSome then none
    else return fields ++ [(name, .value d)]
  modify? true change path.dropLast false fields

/-- Put a value under a key into the table with a header. -/
def defineIn? (header path : List Text) (d : Document) (fields : Fields) : Option Fields :=
  modify? false (fun _ fields => define? path d fields) header false fields

/-- Open the table of a header. -/
def open? (header : List Text) (fields : Fields) : Option Fields :=
  let change (_ : Bool) (fields : Fields) : Option Fields := do
    let name ← header.getLast?
    match lookup? name fields with
    | none => return fields ++ [(name, .table false false [])]
    | some (.table true false inner) => return insertLast name (.table false false inner) fields
    | some _ => none
  modify? false change header.dropLast false fields

/-- Append a table to the array of a header. -/
def append? (header : List Text) (fields : Fields) : Option Fields :=
  let change (_ : Bool) (fields : Fields) : Option Fields := do
    let name ← header.getLast?
    match lookup? name fields with
    | none => return fields ++ [(name, .tables [[]])]
    | some (.tables elements) => return insertLast name (.tables (elements ++ [[]])) fields
    | some _ => none
  modify? false change header.dropLast false fields

end Fields

mutual

/-- What stands under a name, as a document. -/
def Item.toDocument : Item → Document
  | .value d => d
  | .table _ _ fields => .mapping (fieldsToDocument fields)
  | .tables elements => .sequence (elementsToDocument elements)

/-- The fields of a table as documents. -/
def fieldsToDocument : List (Text × Item) → List (Text × Document)
  | [] => []
  | (name, i) :: rest => (name, i.toDocument) :: fieldsToDocument rest

/-- The elements of an array of tables as documents. -/
def elementsToDocument : List (List (Text × Item)) → List Document
  | [] => []
  | fields :: rest => .mapping (fieldsToDocument fields) :: elementsToDocument rest

end

/-! ### Lines -/

/-- The key of a header behind its opening brackets, with the rest of the text behind the line. -/
def header? (closing : Text) (t : Text) : Option (List Text × Text) := do
  let (path, t) ← key? t
  let t ← Text.dropLead? closing t
  let t ← lineEnd? t
  return (path, t)

/-- The fields of a text, line by line, with the header of the table that pairs belong to. -/
def linesSteps : Nat → List Text → Fields → Text → Option Fields
  | 0, _, _, _ => none
  | steps + 1, header, fields, t =>
    match skipLines (t.length + 1) t with
    | [] => some fields
    | '[' :: '[' :: rest => do
      let (path, t) ← header? [']', ']'] rest
      let fields ← fields.append? path
      linesSteps steps path fields t
    | '[' :: rest => do
      let (path, t) ← header? [']'] rest
      let fields ← fields.open? path
      linesSteps steps path fields t
    | t => do
      let (path, t) ← key? t
      let t ← behind? '=' t
      let t := skipBlanks t
      let (d, t) ← value? (t.length + 1) t
      let fields ← fields.defineIn? header path d
      let t ← lineEnd? t
      linesSteps steps header fields t

end Toml

/-- The document that a TOML text holds. -/
def Document.ofTomlText? (t : Text) : Option Document :=
  let t := (Text.dropLead? ['\ufeff'] t).getD t
  (Toml.linesSteps (t.length + 1) [] [] t).map fun fields =>
    .mapping (Toml.fieldsToDocument fields)

end VendorCli
