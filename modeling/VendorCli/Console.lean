import VendorCli.Diff.Report
import VendorCli.Invocation.Basic
import VendorCli.Yaml.Printer
/-!
# Output

What a run prints, on its output and beside it. In the structured formats values are JSON or YAML,
and everything that is only meant for people is left out; errors and warnings are then JSON objects.
For people, values are YAML, and messages can be in color.
-/

namespace VendorCli

/-- What a run has printed: its output, and what it tells beside it. -/
structure Printout where
  output : Text
  errors : Text
deriving DecidableEq, Repr

namespace Printout

/-- Nothing printed. -/
def empty : Printout := ⟨[], []⟩

/-- What was printed first, and what was printed then. -/
def append (first second : Printout) : Printout :=
  ⟨first.output ++ second.output, first.errors ++ second.errors⟩

/-- One line of output. -/
def line (t : Text) : Printout :=
  ⟨t ++ ['\n'], []⟩

/-- Lines of output. -/
def ofLines (ls : List Text) : Printout :=
  ⟨ls.flatMap fun l => l ++ ['\n'], []⟩

/-- One line beside the output. -/
def aside (t : Text) : Printout :=
  ⟨[], t ++ ['\n']⟩

end Printout

/-! ### Color -/

/-- The looks of a text on a terminal. -/
inductive Paint where
  | bold
  | cyan
  | boldCyan
  | brightWhite
  | gray
  | green
  | red
  | boldRed
  | boldYellow
deriving DecidableEq, Repr

/-- The numbers of the looks in an escape sequence. -/
def Paint.code : Paint → Text
  | bold => "1"
  | cyan => "36"
  | boldCyan => "1;36"
  | brightWhite => "97"
  | gray => "90"
  | green => "32"
  | red => "31"
  | boldRed => "1;31"
  | boldYellow => "1;33"

/-- A text in some looks. -/
def Paint.apply (p : Paint) (t : Text) : Text :=
  '\x1b' :: '[' :: p.code ++ 'm' :: t ++ ['\x1b', '[', '0', 'm']

/-! ### Consoles -/

/-- How a run prints. -/
structure Console where
  format : OutputFormat
  verbosity : Nat
  /-- Whether messages are in color. -/
  colored : Bool
  /-- Whether names are in color. -/
  accented : Bool
deriving DecidableEq, Repr

namespace Console

/-- Whether output is for programs rather than people. -/
def isStructured (c : Console) : Bool :=
  c.format ≠ .human

/-- A message in some looks, if messages are in color. -/
def paint (c : Console) (p : Paint) (t : Text) : Text :=
  if c.colored then p.apply t else t

/-- A name in some looks, if names are in color. -/
def accent (c : Console) (p : Paint) (t : Text) : Text :=
  if c.accented then p.apply t else t

/-- A value. -/
def value (c : Console) (v : Json) : Printout :=
  match c.format with
  | .json => .line v.pretty
  | _ => ⟨Yaml.print v, []⟩

/-- Something that only people see. -/
def forPeople (c : Console) (p : Printout) : Printout :=
  if c.isStructured then .empty else p

/-- The heading of a part of the output. -/
def heading (c : Console) (title : Text) : Printout :=
  c.forPeople (.ofLines
    [[], c.paint .boldCyan title, c.paint .cyan (List.replicate title.length '-')])

/-- Device commands. -/
def commands (c : Console) (lines : List Text) : Printout :=
  if c.isStructured then c.value (.array (lines.map .string))
  else .ofLines (lines.map (c.paint .brightWhite))

/-- A remark. -/
def info (c : Console) (message : Text) : Printout :=
  c.forPeople (.line (c.paint .green message))

/-- A remark beside the output, for those who want to know more. -/
def note (c : Console) (message : Text) : Printout :=
  if c.verbosity < 2 then .empty else c.forPeople (.aside (c.paint .gray message))

/-- A message of some kind: an object, or a line behind a label. -/
def message (c : Console) (kind : Text) (label : Text) (looks : Paint) (text : Text) : Printout :=
  if c.isStructured then
    .aside (Json.compact (Json.ofFields [("message", .string text), ("type", .string kind)]))
  else .aside (c.paint looks label ++ ' ' :: text)

/-- An error. -/
def error (c : Console) (text : Text) : Printout :=
  c.message "error" "ERROR:" .boldRed text

/-- A warning. -/
def warning (c : Console) (text : Text) : Printout :=
  c.message "warning" "WARNING:" .boldYellow text

/-- The looks of a line of a difference. -/
def diffPaint (line : Text) : Paint :=
  match line with
  | '+' :: _ => .green
  | '-' :: _ => .red
  | _ => .gray

/-- A difference, line by line and in numbers. -/
def diff (c : Console) (r : Diff.Report) : Printout :=
  if !r.hasChanges then c.info "No changes"
  else
    let lines := (r.details.map Text.lines).getD []
    let summary := Decimal.digitsOf r.additions ++ " additions, " ++ Decimal.digitsOf r.deletions
      ++ " deletions"
    .ofLines ((lines.map fun l => c.paint (diffPaint l) l) ++ [c.paint .gray summary])

end Console

end VendorCli
