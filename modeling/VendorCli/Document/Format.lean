import VendorCli.Error
import VendorCli.Document.JsonText
import VendorCli.Toml.Reader
import VendorCli.Yaml.Reader
/-!
# Formats of data files

A data file is JSON, TOML or YAML; its name tells which. `Format.decode` reads a text as a value of
some type, with the reason if it is none.
-/

namespace VendorCli

/-- The last part of a file name, behind the slashes. -/
def lastPart (name : Text) : Text :=
  ((Text.splitOn '/' name).filter (· ≠ [])).getLast?.getD []

/-- The part of a file name behind its last dot; a dot in front is no such dot. -/
def extension? (name : Text) : Option Text :=
  match (lastPart name).reverse with
  | [] => none
  | reversed =>
    match Text.splitOnce? '.' reversed with
    | some (_, []) => none
    | some (ending, _) => some ending.reverse
    | none => none

/-- A format of data files. -/
inductive Format where
  | json
  | toml
  | yaml
deriving DecidableEq, Repr

namespace Format

/-- The format of a file with data: JSON by its name, and else YAML. -/
def ofDataFile (name : Text) : Format :=
  if extension? name = some ("json" : Text) then .json else .yaml

/-- The format of a file with settings: JSON or YAML by its name, and else TOML. -/
def ofSettingsFile (name : Text) : Format :=
  match extension? name with
  | none => .toml
  | some e =>
    if e = ("json" : Text) then .json
    else if e = ("yaml" : Text) ∨ e = ("yml" : Text) then .yaml
    else .toml

/-- The document that a text holds. -/
def read? : Format → Text → Option Document
  | json, t => Document.ofJsonText? t
  | toml, t => Document.ofTomlText? t
  | yaml, t => Document.ofYamlText? t

/-- The value that a text holds, or the reason why it holds none. -/
def decode {α : Type} (f : Format) (ofDocument : Document → Decoded α) (t : Text) :
    Except Text α :=
  match f.read? t with
  | none => .error "malformed text"
  | some d =>
    match ofDocument d with
    | .ok a => .ok a
    | .error fault => .error fault.message

/-- The failure to read a text for a reason. -/
def failure : Format → Text → Error
  | json, reason => .jsonParse reason
  | toml, reason => .other reason none
  | yaml, reason => .yamlParse reason

end Format

/-- A document as a structured value. -/
def Document.toValue (d : Document) : Decoded Json :=
  match d.toJson? with
  | some v => .ok v
  | none => .error (.refused "a number out of range")

end VendorCli
