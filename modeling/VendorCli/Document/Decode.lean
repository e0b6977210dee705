import VendorCli.Document.Basic
import VendorCli.Text.Escape
/-!
# Decoding documents

A record is decoded from a document field by field, and a document that does not fit is refused
with the first fault met. A record of several fields is written as a mapping by name or as a
sequence in the order of declaration; fields of other names are ignored.

* `DecodeFault` lists the faults, `DecodeFault.message` puts them into words;
* `Document.toText`, `toBool`, `toNat`, `toItems`, … decode a single value;
* `Shape` declares the fields of a record, and `Shape.select` finds and checks them. Of several
  faults the one in the field written first is reported; missing fields come after all others.
-/

namespace VendorCli

/-- What was found where something else was expected. -/
inductive Found where
  | null
  | bool (value : Bool)
  | number (value : Number)
  | string (value : Text)
  | sequence
  | mapping
deriving DecidableEq, Repr

/-- What was found, in words. -/
def Found.message : Found → Text
  | .null => "null"
  | .bool true => "boolean `true`"
  | .bool false => "boolean `false`"
  | .number (.integer i) => "integer `" ++ Decimal.ofInt i ++ ['`']
  | .number (.real bits) => "floating point `" ++ Real.scientificText bits ++ ['`']
  | .string s => "string " ++ Text.shown s
  | .sequence => "sequence"
  | .mapping => "map"

/-- Why a document is not the expected record. -/
inductive DecodeFault where
  | wrongType (found : Found) (expected : Text)
  | wrongValue (found : Found) (expected : Text)
  | wrongLength (length : Nat) (expected : Text)
  | missingField (name : Text)
  | duplicateField (name : Text)
  | unknownVariant (name : Text) (expected : List Text)
  | refused (reason : Text)
deriving DecidableEq, Repr

/-- A name between backquotes. -/
private def inBackquotes (t : Text) : Text :=
  '`' :: t ++ ['`']

/-- The fault in words. -/
def DecodeFault.message : DecodeFault → Text
  | .wrongType found expected => "invalid type: " ++ found.message ++ ", expected " ++ expected
  | .wrongValue found expected => "invalid value: " ++ found.message ++ ", expected " ++ expected
  | .wrongLength n expected => "invalid length " ++ Decimal.digitsOf n ++ ", expected " ++ expected
  | .missingField name => "missing field " ++ inBackquotes name
  | .duplicateField name => "duplicate field " ++ inBackquotes name
  | .unknownVariant name expected =>
    "unknown variant " ++ inBackquotes name ++ ", expected one of "
      ++ Text.join ", " (expected.map inBackquotes)
  | .refused reason => reason

/-- The result of decoding. -/
abbrev Decoded (α : Type) := Except DecodeFault α

namespace Document

/-- What a plain scalar counts as. -/
def foundPlain (t : Text) : Found :=
  match Scalar.resolve t with
  | .null => .null
  | .bool b => .bool b
  | .integer i => .number (.integer i)
  | .real bits => .number (.real bits)
  | .text => .string t

/-- What the document counts as where something else was expected. -/
def found : Document → Found
  | .null => .null
  | .bool b => .bool b
  | .number n => .number n
  | .string s => .string s
  | .plain t => foundPlain t
  | .sequence _ => .sequence
  | .mapping _ => .mapping

/-- A fault of type. -/
def mismatch {α : Type} (d : Document) (expected : Text) : Decoded α :=
  .error (.wrongType d.found expected)

/-- A text, where messages call it `expected`. A plain scalar is one whatever it looks like. -/
def toTextAs (expected : Text) : Document → Decoded Text
  | .string s => .ok s
  | .plain t => .ok t
  | d => d.mismatch expected

/-- A text. -/
def toText (d : Document) : Decoded Text :=
  d.toTextAs "a string"

/-- A truth value. -/
def toBool (d : Document) : Decoded Bool :=
  match d.found with
  | .bool b => .ok b
  | _ => d.mismatch "a boolean"

/-- A natural number of at most `limit`, of the type called `expected`. -/
def toNat (limit : Nat) (expected : Text) (d : Document) : Decoded Nat :=
  match d.found with
  | .number (.integer (.ofNat n)) =>
    if n ≤ limit then .ok n else .error (.wrongValue d.found expected)
  | .number (.integer (.negSucc _)) => .error (.wrongValue d.found expected)
  | _ => d.mismatch expected

/-- Whether the document is null, written out or left out. -/
def isNull (d : Document) : Bool :=
  d.found = .null

/-- Nothing, or a value. -/
def toOption {α : Type} (decode : Document → Decoded α) (d : Document) : Decoded (Option α) :=
  if d.isNull then .ok none else (decode d).map some

/-- The items of a sequence. A value left out is the empty sequence. -/
def toItems (d : Document) : Decoded (List Document) :=
  match d with
  | .sequence items => .ok items
  | .plain [] => .ok []
  | _ => d.mismatch "a sequence"

/-- The fields of a mapping. A value left out is the empty mapping. -/
def toFields (d : Document) : Decoded (List (Text × Document)) :=
  match d with
  | .mapping fields => .ok fields
  | .plain [] => .ok []
  | _ => d.mismatch "a map"

/-- One of several named values: its name, or a mapping from its name to null. -/
def toVariant {α : Type} (variants : List (Text × α)) (d : Document) : Decoded α :=
  match d with
  | .string s => named s
  | .plain s => named s
  | .mapping [(name, value)] => do
    let a ← named name
    if value.isNull then .ok a else value.mismatch "unit"
  | .mapping _ => .error (.wrongValue .mapping "map with a single key")
  | _ => d.mismatch "string or map"
where
  named (s : Text) : Decoded α :=
    match lookup? s variants with
    | some a => .ok a
    | none => .error (.unknownVariant s (variants.map (·.1)))

/-- Decode every item, the first fault winning. -/
def decodeAll {α : Type} (decode : Document → Decoded α) : List Document → Decoded (List α)
  | [] => .ok []
  | d :: rest => do
    let a ← decode d
    let others ← decodeAll decode rest
    return a :: others

end Document

/-! ### Records of several fields -/

/-- One field of a record: its name, whether it may be left out, and the faults of a value. -/
structure Field where
  name : Text
  optional : Bool
  fault? : Document → Option DecodeFault

/-- The fault of a decoding, if it failed. -/
def Decoded.fault? {α : Type} : Decoded α → Option DecodeFault
  | .ok _ => none
  | .error fault => some fault

/-- A field that has to be there. -/
def Field.required {α : Type} (name : Text) (decode : Document → Decoded α) : Field :=
  ⟨name, false, fun d => (decode d).fault?⟩

/-- A field that may be left out. -/
def Field.optionally {α : Type} (name : Text) (decode : Document → Decoded α) : Field :=
  ⟨name, true, fun d => (decode d).fault?⟩

/-- The fields of a record called `name`, in the order of declaration. -/
structure Shape where
  name : Text
  fields : List Field

/-- The fields of one document, each free of faults. -/
abbrev Selected := List (Text × Document)

namespace Shape

/-- The declared fields of a mapping, in the order written. -/
def ofMapping (s : Shape) : Selected → List (Text × Document) → Decoded Selected
  | seen, [] =>
    match s.fields.find? fun f => !f.optional && (lookup? f.name seen).isNone with
    | some f => .error (.missingField f.name)
    | none => .ok seen
  | seen, (name, value) :: rest =>
    match s.fields.find? fun f => f.name = name with
    | none => s.ofMapping seen rest
    | some f =>
      if (lookup? name seen).isSome then .error (.duplicateField name)
      else match f.fault? value with
        | some fault => .error fault
        | none => s.ofMapping (seen ++ [(name, value)]) rest

/-- The declared fields of a sequence, by position. -/
def ofSequence (s : Shape) (items : List Document) : Decoded Selected :=
  go s.fields items []
where
  go : List Field → List Document → Selected → Decoded Selected
    | [], [], seen => .ok seen
    | [], _ :: _, _ => .error (.wrongLength items.length "fewer elements in array")
    | f :: fs, [], seen =>
      if f.optional then go fs [] seen
      else .error (.wrongLength items.length
        ("struct " ++ s.name ++ " with " ++ Decimal.digitsOf s.fields.length ++ " elements"))
    | f :: fs, d :: ds, seen =>
      match f.fault? d with
      | some fault => .error fault
      | none => go fs ds (seen ++ [(f.name, d)])

/-- The declared fields of a document, checked. -/
def select (s : Shape) (d : Document) : Decoded Selected :=
  match d with
  | .mapping fields => s.ofMapping [] fields
  | .plain [] => s.ofMapping [] []
  | .sequence items => s.ofSequence items
  | _ => d.mismatch ("struct " ++ s.name)

end Shape

namespace Selected

/-- The value of a field that has to be there. -/
def get {α : Type} (s : Selected) (name : Text) (decode : Document → Decoded α) : Decoded α :=
  match lookup? name s with
  | some d => decode d
  | none => .error (.missingField name)

/-- The value of a field, or `default` where it is left out. -/
def getD {α : Type} (s : Selected) (name : Text) (decode : Document → Decoded α) (default : α) :
    Decoded α :=
  match lookup? name s with
  | some d => decode d
  | none => .ok default

end Selected

end VendorCli
