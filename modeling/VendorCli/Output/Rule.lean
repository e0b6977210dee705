import VendorCli.Pattern.Match
import VendorCli.Pattern.Reader
import VendorCli.Error
/-!
# Extraction rules

A rule says how one field of a record is found in the lines of an output: a pattern that has to
match a whole line, what becomes of the text that it captured, and the value of the field when no
line matches.

The text of a match is that of the group called `value`; without such a group it is that of the
only named group, or of the first group, or the whole line. A pattern with several named groups
gives an object of those that took part.

* `Rule` is a rule as it is written down, `CompiledRule` one whose pattern has been read;
* `CompiledRule.apply` is the value of the field in some lines, `CompiledRule.fallback` the value
  without a match.
-/

namespace VendorCli

/-- What becomes of the text of a match. -/
inductive FieldKind where
  /-- It is kept. -/
  | text
  /-- It is read as a whole number. -/
  | integer
  /-- A match as such is the value. -/
  | flag
deriving DecidableEq, Repr

namespace FieldKind

/-- The name of a kind in data files. -/
def name : FieldKind → Text
  | text => "text"
  | integer => "integer"
  | flag => "flag"

/-- The kinds by name. -/
def variants : List (Text × FieldKind) :=
  [text, integer, flag].map fun k => (k.name, k)

end FieldKind

/-- An extraction rule as it is written down. -/
structure Rule where
  /-- The field that the rule finds. -/
  field : Text
  /-- The pattern of a whole line. -/
  pattern : Text
  kind : FieldKind
  /-- Whether all matching lines count, or only the first. -/
  multiple : Bool
  /-- Whether a matching line clears the flag. -/
  negate : Bool
  /-- The value without a match. -/
  default : Option Json
deriving Repr

namespace Rule

/-- A rule for the text of a field. -/
def ofText (field pattern : Text) : Rule :=
  ⟨field, pattern, .text, false, false, none⟩

/-- A rule for a field that is a whole number. -/
def ofInteger (field pattern : Text) : Rule :=
  ⟨field, pattern, .integer, false, false, none⟩

/-- A rule for a flag that a matching line sets, or clears if `negate` says so. -/
def ofFlag (field pattern : Text) (negate : Bool) : Rule :=
  ⟨field, pattern, .flag, false, negate, none⟩

/-- Any value that a data file can hold. -/
def valueOfDocument (d : Document) : Decoded Json :=
  match d.toJson? with
  | some v => .ok v
  | none => .error (.refused "number out of range")

/-- The fields of a rule in data files. -/
def shape : Shape where
  name := "ParseRule"
  fields :=
    [.required "field" Document.toText,
     .required "pattern" Document.toText,
     .optionally "type" (Document.toVariant FieldKind.variants),
     .optionally "multiple" Document.toBool,
     .optionally "negate" Document.toBool,
     .optionally "default" (Document.toOption valueOfDocument)]

/-- The rule that a document holds. -/
def ofDocument (d : Document) : Decoded Rule := do
  let fields ← shape.select d
  let field ← fields.get "field" Document.toText
  let pattern ← fields.get "pattern" Document.toText
  let kind ← fields.getD "type" (Document.toVariant FieldKind.variants) .text
  let multiple ← fields.getD "multiple" Document.toBool false
  let negate ← fields.getD "negate" Document.toBool false
  let default ← fields.getD "default" (Document.toOption valueOfDocument) none
  return { field, pattern, kind, multiple, negate, default }

/-- The rules that a document holds. -/
def listOfDocument (d : Document) : Decoded (List Rule) := do
  let items ← d.toItems
  Document.decodeAll ofDocument items

/-- The rule as a structured value. -/
def toJson (r : Rule) : Json :=
  let fields : List (Text × Json) :=
    [("field", .string r.field), ("pattern", .string r.pattern), ("type", .string r.kind.name),
     ("multiple", .bool r.multiple), ("negate", .bool r.negate),
     ("default", r.default.getD .null)]
  Json.ofFields fields

end Rule

/-- A rule whose pattern has been read. -/
structure CompiledRule where
  rule : Rule
  regex : Regex
deriving Repr

namespace CompiledRule

/-- The text of a pattern between the anchors of a line. -/
def anchored (pattern : Text) : Text :=
  "^(?:" ++ pattern ++ ")$"

/-- Read the pattern of a rule. -/
def ofRule (r : Rule) : Except Error CompiledRule :=
  match Regex.ofText? (anchored r.pattern) with
  | some regex => .ok ⟨r, regex⟩
  | none => .error (.invalidRule r.field "malformed pattern")

/-- The value of a captured text. -/
def convert (c : CompiledRule) (t : Text) : Except Error Json :=
  match c.rule.kind with
  | .integer =>
    match Decimal.int64? (Text.trim t) with
    | some i => .ok (.number (.integer i))
    | none => .error (.parse (.notInteger c.rule.field t))
  | _ => .ok (.string t)

/-- The named groups that took part in a match, with their values. -/
def namedValues (c : CompiledRule) (caps : Captures) :
    List (Nat × Text) → Except Error (List (Text × Json))
  | [] => .ok []
  | (index, name) :: rest =>
    match caps.get? index with
    | none => c.namedValues caps rest
    | some t => do
      let value ← c.convert t
      let others ← c.namedValues caps rest
      return (name, value) :: others

/-- The value of a match. -/
def extract (c : CompiledRule) (caps : Captures) : Except Error Json :=
  match c.regex.named? caps "value" with
  | some t => c.convert t
  | none =>
    match c.regex.names with
    | [] => c.convert (((caps.get? 1).or (caps.get? 0)).getD [])
    | [(index, _)] => c.convert ((caps.get? index).getD [])
    | names => (c.namedValues caps names).map Json.ofFields

/-- The matches of a rule in some lines, in order. -/
def matchesIn (c : CompiledRule) (lines : List Text) : List Captures :=
  lines.filterMap c.regex.captures?

/-- The values of some matches; the first that has none is a fault. -/
def extractAll (c : CompiledRule) : List Captures → Except Error (List Json)
  | [] => .ok []
  | caps :: rest => do
    let value ← c.extract caps
    let others ← c.extractAll rest
    return value :: others

/-- The value that the rule finds in some lines, if any of them matches. -/
def apply (c : CompiledRule) (lines : List Text) : Except Error (Option Json) :=
  match c.rule.kind, c.rule.multiple with
  | .flag, _ =>
    .ok (if lines.any c.regex.isMatch then some (.bool (!c.rule.negate)) else none)
  | _, true =>
    (c.extractAll (c.matchesIn lines)).map fun values =>
      if values.isEmpty then none else some (.array values)
  | _, false =>
    match lines.findSome? c.regex.captures? with
    | none => .ok none
    | some caps => (c.extract caps).map some

/-- The value of the field when no line matches: the default, and else that of a flag which is not
set. -/
def fallback (c : CompiledRule) : Option Json :=
  match c.rule.default, c.rule.kind with
  | some value, _ => some value
  | none, .flag => some (.bool c.rule.negate)
  | none, _ => none

end VendorCli.CompiledRule
