import VendorCli.Diff.Compact
import VendorCli.Number.Decimal
import VendorCli.Json.Basic
/-!
# Line diffs

The difference between two configurations, line by line: how many lines each side has, how many
were added and removed, and every line behind a sign. In a diff a line ends at a line feed, at a
carriage return, or at both in this order, and keeps that ending; one without it is shown with a
line feed.
-/

namespace VendorCli.Diff

/-- The lines of a text with their endings. -/
def fullLines : Text → List Text
  | [] => []
  | '\r' :: '\n' :: rest => ['\r', '\n'] :: fullLines rest
  | c :: rest =>
    if c = '\n' ∨ c = '\r' then [c] :: fullLines rest
    else match fullLines rest with
      | [] => [[c]]
      | first :: others => (c :: first) :: others

/-- The edit script between two texts, in the form in which it is shown. -/
def script (before after : Text) : Script :=
  Script.gather (compact (align (fullLines before) (fullLines after)))

/-- The character in front of a line. -/
def Fate.sign : Fate → Char
  | .keep => ' '
  | .delete => '-'
  | .insert => '+'

/-- A line behind its sign. -/
def signed (fate : Fate) (line : Text) : Text :=
  let ending : Text := match line.getLast? with
    | some '\n' => []
    | some '\r' => []
    | _ => ['\n']
  fate.sign :: line ++ ending

/-- All lines of a script, each behind its sign. -/
def body (s : Script) : Text :=
  s.flatMap fun r => r.lines.flatMap (signed r.fate)

/-- The difference between two texts. -/
structure Report where
  /-- The old side in a few words. -/
  before : Text
  /-- The new side in a few words, with the number of changes. -/
  after : Text
  /-- Every line behind its sign; absent when both sides are empty. -/
  details : Option Text
  additions : Nat
  deletions : Nat
deriving DecidableEq, Repr

/-- How many lines a text has, in words. -/
def lineCount (t : Text) : Text :=
  Decimal.digitsOf (Text.lines t).length ++ " lines"

/-- The difference between two texts. -/
def Report.between (before after : Text) : Report :=
  let s := script before after
  let additions := s.count .insert
  let deletions := s.count .delete
  let details := body s
  { before := lineCount before
    after := lineCount after ++ " (" ++ Decimal.digitsOf additions ++ " additions, "
      ++ Decimal.digitsOf deletions ++ " deletions)"
    details := if details = [] then none else some details
    additions
    deletions }

namespace Report

/-- Whether the two sides differ. -/
def hasChanges (r : Report) : Bool :=
  decide (0 < r.additions) || decide (0 < r.deletions)

/-- The report as a value, its fields in the order of declaration. -/
def toJson (r : Report) : Json :=
  .object
    [("before", .string r.before), ("after", .string r.after),
     ("details", match r.details with
       | some t => .string t
       | none => .null),
     ("additions", Json.ofNat r.additions), ("deletions", Json.ofNat r.deletions)]

end VendorCli.Diff.Report
