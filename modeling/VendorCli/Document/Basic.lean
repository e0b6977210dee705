import VendorCli.Document.Scalar
/-!
# Data files

The content of a JSON, YAML or TOML file as it was written: the fields of a mapping in their
order, a name perhaps twice, and plain scalars still as text, because what a plain scalar means can
depend on the field that it is read into.

* `Json.toDocument` sees a structured value as such a document;
* `toJson?` settles every plain scalar and sorts the fields.
-/

namespace VendorCli

/-- The content of a data file. -/
inductive Document where
  | null
  | bool (value : Bool)
  | number (value : Number)
  | string (value : Text)
  | plain (value : Text)
  | sequence (items : List Document)
  | mapping (fields : List (Text × Document))
deriving Repr, Inhabited

mutual

/-- A structured value as a document. -/
def Json.toDocument : Json → Document
  | .null => .null
  | .bool b => .bool b
  | .number n => .number n
  | .string s => .string s
  | .array items => .sequence (Json.itemsToDocument items)
  | .object fields => .mapping (Json.fieldsToDocument fields)

/-- The items of an array as documents. -/
def Json.itemsToDocument : List Json → List Document
  | [] => []
  | item :: rest => item.toDocument :: Json.itemsToDocument rest

/-- The fields of an object as documents. -/
def Json.fieldsToDocument : List (Text × Json) → List (Text × Document)
  | [] => []
  | (name, value) :: rest => (name, value.toDocument) :: Json.fieldsToDocument rest

end

namespace Document

/-- The value of a plain scalar on its own. There is none for a whole number of more than
sixty-four bits; a real number that is not finite has no written form and becomes null. -/
def plainToJson? (t : Text) : Option Json :=
  match Scalar.resolve t with
  | .null => some .null
  | .bool b => some (.bool b)
  | .integer i => if Scalar.isWord i then some (.number (.integer i)) else none
  | .real bits => some (if Real.isFinite bits then .number (.real bits) else .null)
  | .text => some (.string t)

/-- A number that has a written form; others become null. -/
def numberToJson : Number → Json
  | .integer i => .number (.integer i)
  | .real bits => if Real.isFinite bits then .number (.real bits) else .null

mutual

/-- The document as a structured value, if every plain scalar has one. -/
def toJson? : Document → Option Json
  | .null => some .null
  | .bool b => some (.bool b)
  | .number n => some (numberToJson n)
  | .string s => some (.string s)
  | .plain t => plainToJson? t
  | .sequence items => (itemsToJson? items).map .array
  | .mapping fields => (fieldsToJson? fields).map Json.ofFields

/-- The items of a sequence as structured values. -/
def itemsToJson? : List Document → Option (List Json)
  | [] => some []
  | item :: rest => do
    let first ← toJson? item
    let others ← itemsToJson? rest
    return first :: others

/-- The fields of a mapping as structured values, in the order written. -/
def fieldsToJson? : List (Text × Document) → Option (List (Text × Json))
  | [] => some []
  | (name, value) :: rest => do
    let first ← toJson? value
    let others ← fieldsToJson? rest
    return (name, first) :: others

end

end VendorCli.Document
