import VendorCli.Interfaces.Schema
import VendorCli.Output.Extractor
import VendorCli.Section.Search
import VendorCli.Statements
/-!
# Reading interfaces

Two forms of configuration tell about interfaces: sections, where the settings of an interface
stand indented under a line with its name, and statements, where each line names the interface and
one setting.

* `fromSections` and `fromStatements` read one interface;
* `namesIn` lists the interfaces of an output by a pattern of the lines that name them.

Only settings of the interface itself count, never those of blocks nested in its section.
-/

namespace VendorCli.Interfaces

/-- The regular expression of a text that is known to be one. -/
def regexOf (pattern : Text) : Regex :=
  (Regex.ofText? pattern).getD ⟨.empty, []⟩

/-- The names that the lines of an output give to interfaces, each once. -/
def namesIn (line : Regex) (output : Text) : List Text :=
  Output.distinctValues line (fun c => line.named? c "name") 0 output

/-- The line that opens the section of an interface. -/
def sectionLine : Regex :=
  regexOf "^interface (?P<name>\\S+)"

/-- A statement about an interface. -/
def statementLine : Regex :=
  regexOf "^set interfaces (?P<name>\\S+)"

/-- The rules for the settings of an interface, `off` being what disables it. -/
def settingRules (off : Text) : List Rule :=
  [.ofText "description" "description (?P<value>.+)",
   .ofInteger "mtu" "mtu (?P<value>\\d+)",
   .ofFlag "enabled" off true]

/-- The extractor of some rules that are known to be well-formed. -/
def extractorOf (rules : List Rule) : Extractor :=
  match Extractor.ofRules rules 0 with
  | .ok e => e
  | .error _ => ⟨[], 0⟩

/-- The settings of an interface in a section. -/
def sectionSettings : Extractor :=
  extractorOf (settingRules "shutdown")

/-- The settings of an interface in statements. -/
def statementSettings : Extractor :=
  extractorOf (settingRules "disable")

/-- The record of an interface with the settings that were found, the description after `text` has
been applied to what was written. -/
def ofSettings (path : ConfigPath) (name : Text) (text : Text → Text) (settings : Record) :
    Except Error Interface := do
  let mtu ← mtuOf path (lookup? "mtu" settings)
  .ok
    { Interface.named name with
      description := ((lookup? "description" settings).bind Json.text?).map text
      mtu := mtu
      enabled := ((lookup? "enabled" settings).bind Json.bool?).getD true }

/-- An interface in a configuration of sections. -/
def fromSections (path : ConfigPath) (name output : Text) : Except Error (Option Interface) :=
  match Section.bodyOf? output ("interface " ++ name) with
  | none => .ok none
  | some body => do
    let settings ← sectionSettings.record body
    let i ← ofSettings path name id settings
    .ok (some i)

/-! ### Quoted descriptions -/

/-- Whether a value has to stand between quotes in a statement. -/
def needsQuotes (t : Text) : Bool :=
  t.isEmpty || t.any fun c => Text.isBlank c || c = '"' || c = '\\'

/-- A value between double quotes where it needs them, with a backslash before each double quote and
each backslash of its own. -/
def quoted (t : Text) : Text :=
  if needsQuotes t then
    '"' :: Text.replaceChar '"' ['\\', '"'] (Text.replaceChar '\\' ['\\', '\\'] t) ++ ['"']
  else t

/-- A text without the backslashes that stand before other characters. -/
def withoutBackslashes : Text → Text
  | [] => []
  | ['\\'] => []
  | '\\' :: c :: rest => c :: withoutBackslashes rest
  | c :: rest => c :: withoutBackslashes rest

/-- The value that stands in a statement, with or without quotes. -/
def unquoted (t : Text) : Text :=
  match (Text.dropLead? ['"'] t).bind (Text.dropTail? ['"']) with
  | some inner => withoutBackslashes inner
  | none => t

/-- An interface in a configuration of statements. -/
def fromStatements (path : ConfigPath) (name output : Text) : Except Error (Option Interface) :=
  match Statements.under ("interfaces " ++ name) output with
  | [] => .ok none
  | lines => do
    let settings ← statementSettings.record (Text.unlines lines)
    let i ← ofSettings path name unquoted settings
    .ok (some i)

end VendorCli.Interfaces
