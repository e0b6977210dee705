import VendorCli.Pattern.Match
import VendorCli.Pattern.Reader
/-!
# Matching output line by line

Device output is searched one trimmed line at a time. An extractor makes a value of a match, or
rejects the line; a rejected line counts as one that does not match, so a pattern may match
loosely and leave the check to the extractor.

* `Output.values` are the values of all lines, `Output.distinctValues` those without repetitions;
* `Output.firstValue?` is the value of the first line that has one
  (`firstValue?_eq_head?_values`).
-/

namespace VendorCli.Output

/-- The trimmed lines of an output after the first `skip` of them. -/
def trimmedLines (skip : Nat) (output : Text) : List Text :=
  ((Text.lines output).drop skip).map Text.trim

/-- The value that a line has under a pattern and an extractor. -/
def valueOf? {α : Type} (pattern : Regex) (extract : Captures → Option α) (line : Text) :
    Option α :=
  (pattern.captures? line).bind extract

/-- The values of all lines, in order. -/
def values {α : Type} (pattern : Regex) (extract : Captures → Option α) (skip : Nat)
    (output : Text) : List α :=
  (trimmedLines skip output).filterMap (valueOf? pattern extract)

/-- The values of all lines, each where it first occurs. -/
def distinctValues {α : Type} [DecidableEq α] (pattern : Regex) (extract : Captures → Option α)
    (skip : Nat) (output : Text) : List α :=
  distinct (values pattern extract skip output)

/-- The value of the first line that has one. -/
def firstValue? {α : Type} (pattern : Regex) (extract : Captures → Option α) (skip : Nat)
    (output : Text) : Option α :=
  (trimmedLines skip output).findSome? (valueOf? pattern extract)

/-- Whether some line matches a pattern. -/
def hasLine (pattern : Regex) (output : Text) : Bool :=
  (trimmedLines 0 output).any pattern.isMatch

/-- The first value is the head of all values. -/
theorem firstValue?_eq_head?_values {α : Type} (pattern : Regex) (extract : Captures → Option α)
    (skip : Nat) (output : Text) :
    firstValue? pattern extract skip output = (values pattern extract skip output).head? := by
  simp [firstValue?, values, List.head?_filterMap]

end VendorCli.Output
