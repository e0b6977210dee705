import VendorCli.Output.Block
import VendorCli.Output.Lines
import VendorCli.Output.Rule
/-!
# Records from output

An extractor applies a list of rules to an output and collects what they find in a record. Rules
are applied in order. A later rule that matches overwrites what an earlier one found for the same
field; fields that no rule found take the fallback of their first rule that has one.

* `Extractor.record` is the record of a whole output;
* `Extractor.recordsByBlock` are those of its blocks, by the keys of the blocks.
-/

namespace VendorCli

/-- The fields that were found, in the order in which they were. -/
abbrev Record := List (Text × Json)

/-- An ordered list of rules. -/
structure Extractor where
  rules : List CompiledRule
  /-- How many leading lines of an output are ignored. -/
  skip : Nat
deriving Repr

namespace Extractor

/-- Read the patterns of some rules; the first malformed one is a fault. -/
def compileAll : List Rule → Except Error (List CompiledRule)
  | [] => .ok []
  | r :: rest => do
    let first ← CompiledRule.ofRule r
    let others ← compileAll rest
    return first :: others

/-- The extractor of some rules. -/
def ofRules (rules : List Rule) (skip : Nat) : Except Error Extractor :=
  (compileAll rules).map fun compiled => ⟨compiled, skip⟩

/-- The names of the fields in the order of the rules, each once. -/
def fields (e : Extractor) : List Text :=
  distinct (e.rules.map fun c => c.rule.field)

/-- Add to a record what rules find in some lines. -/
def findAll (lines : List Text) : List CompiledRule → Record → Except Error Record
  | [], found => .ok found
  | c :: rest, found => do
    match ← c.apply lines with
    | none => findAll lines rest found
    | some value => findAll lines rest (insertLast c.rule.field value found)

/-- Add to a record the fallbacks of fields that it lacks. -/
def fillIn : List CompiledRule → Record → Record
  | [], found => found
  | c :: rest, found =>
    match lookup? c.rule.field found, c.fallback with
    | none, some value => fillIn rest (insertLast c.rule.field value found)
    | _, _ => fillIn rest found

/-- The record of an output. -/
def record (e : Extractor) (output : Text) : Except Error Record :=
  (findAll (Output.trimmedLines e.skip output) e.rules []).map (fillIn e.rules)

/-- Add to a table the records of blocks by key, a later block replacing an earlier one. -/
def recordAll (e : Extractor) :
    List Block → List (Text × Record) → Except Error (List (Text × Record))
  | [], found => .ok found
  | b :: rest, found => do
    let r ← e.record b.text
    e.recordAll rest (insertLast b.key r found)

/-- The records of the blocks of an output by key. -/
def recordsByBlock (e : Extractor) (header : Regex) (output : Text) :
    Except Error (List (Text × Record)) :=
  e.recordAll (Block.split header output) []

end VendorCli.Extractor
