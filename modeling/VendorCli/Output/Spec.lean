import VendorCli.Document.Format
import VendorCli.Output.Extractor
/-!
# Specifications of extractors

What a data file says about the records in an output: the leading lines to ignore, the header of
its blocks if it has any, and the rules. `Spec.apply` gives the record, or an object of the records
by block.
-/

namespace VendorCli

/-- How an output is made into a value. -/
structure Spec where
  skipLines : Nat
  /-- The pattern of the lines at which blocks begin. -/
  blockHeader : Option Text
  rules : List Rule
deriving Repr

namespace Spec

/-- A number of lines. -/
def countOfDocument (d : Document) : Decoded Nat :=
  d.toNat Decimal.max64 "usize"

/-- The fields of a specification in data files. -/
def shape : Shape where
  name := "ParserSpec"
  fields :=
    [.optionally "skip_lines" countOfDocument,
     .optionally "block_header" (Document.toOption Document.toText),
     .optionally "rules" Rule.listOfDocument]

/-- The specification that a document holds. -/
def ofDocument (d : Document) : Decoded Spec := do
  let fields ← shape.select d
  let skipLines ← fields.getD "skip_lines" countOfDocument 0
  let blockHeader ← fields.getD "block_header" (Document.toOption Document.toText) none
  let rules ← fields.getD "rules" Rule.listOfDocument []
  return { skipLines, blockHeader, rules }

/-- The specification that a YAML text holds. -/
def ofYaml (t : Text) : Except Error Spec :=
  (Format.yaml.decode ofDocument t).mapError .yamlParse

/-- The specification as a structured value. -/
def toJson (s : Spec) : Json :=
  let fields : List (Text × Json) :=
    [("skip_lines", Json.ofNat s.skipLines),
     ("block_header", (s.blockHeader.map Json.string).getD .null),
     ("rules", .array (s.rules.map Rule.toJson))]
  Json.ofFields fields

/-- Read the pattern of block headers. -/
def headerOf (pattern : Text) : Except Error Regex :=
  match Regex.ofText? pattern with
  | some regex => .ok regex
  | none => .error (.invalidRule "block_header" "malformed pattern")

/-- What the specification makes of an output. -/
def apply (s : Spec) (output : Text) : Except Error Json := do
  let extractor ← Extractor.ofRules s.rules s.skipLines
  match s.blockHeader with
  | none => return Json.ofFields (← extractor.record output)
  | some pattern =>
    let header ← headerOf pattern
    let records ← extractor.recordsByBlock header output
    return Json.ofFields (records.map fun kr => (kr.1, Json.ofFields kr.2))

end VendorCli.Spec
