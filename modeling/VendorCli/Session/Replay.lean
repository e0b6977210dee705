import VendorCli.Document.Format
/-!
# Replay sessions

A replay session answers commands from output that was captured before. Commands are compared by
their words alone, so spacing never matters.

* A command that was captured as a whole has that output, whatever it says and however many lines
  it has.
* Any other command is answered line by line. A line that was not captured is taken for a
  configuration line, which a device accepts silently, unless it reads device state: then there is
  no answer.
* Everything that is sent becomes part of the history, answered or not.
-/

namespace VendorCli

/-- Captured output as it is written in a data file. -/
structure Fixtures where
  /-- The name of the device. -/
  hostname : Option Text
  /-- Output by command, in the order written. -/
  responses : List (Text × Text)
deriving DecidableEq, Repr

namespace Fixtures

/-- Texts by name, of two texts of one name the later one. -/
def tableOfFields : List (Text × Document) → List (Text × Text) → Decoded (List (Text × Text))
  | [], found => .ok found
  | (name, d) :: rest, found => do
    let t ← d.toText
    tableOfFields rest (insertLast name t found)

/-- A table of texts. -/
def tableOfDocument (d : Document) : Decoded (List (Text × Text)) := do
  let fields ← d.toFields
  tableOfFields fields []

/-- The fields of captured output in data files. -/
def shape : Shape where
  name := "Fixtures"
  fields :=
    [.optionally "hostname" (Document.toOption Document.toText),
     .optionally "responses" tableOfDocument]

/-- The captured output that a document holds. -/
def ofDocument (d : Document) : Decoded Fixtures := do
  let fields ← shape.select d
  let hostname ← fields.getD "hostname" (Document.toOption Document.toText) none
  let responses ← fields.getD "responses" tableOfDocument []
  return { hostname, responses }

/-- The captured output that the text of a data file holds. -/
def ofText (f : Format) (t : Text) : Except Error Fixtures :=
  (f.decode ofDocument t).mapError f.failure

end Fixtures

/-- The words of a command with one space between them. -/
def normalizeCommand (command : Text) : Text :=
  Text.unwords (Text.words command)

/-- A session that answers from captured output. -/
structure Replay where
  identifier : Text
  /-- Output by normalized command, each command once. -/
  responses : List (Text × Text)
  /-- Everything that was sent, in order. -/
  history : List Text
deriving DecidableEq, Repr

namespace Replay

/-- A session without captured output. -/
def named (identifier : Text) : Replay :=
  ⟨identifier, [], []⟩

/-- Add captured output for a command, in the place of earlier output for it. -/
def withResponse (r : Replay) (command output : Text) : Replay :=
  { r with responses := insertLast (normalizeCommand command) output r.responses }

/-- The session of captured output from a data file. -/
def ofFixtures (f : Fixtures) : Replay where
  identifier := f.hostname.getD "replay"
  responses := insertAll (f.responses.map fun co => (normalizeCommand co.1, co.2)) []
  history := []

/-- The output that was captured for a command. -/
def response? (r : Replay) (command : Text) : Option Text :=
  lookup? (normalizeCommand command) r.responses

/-- Whether a normalized line reads device state rather than changing it. -/
def isRead (line : Text) : Bool :=
  Text.startsWith "show " line || Text.startsWith "display " line || Text.occursIn " | " line

/-- The answer to one line. -/
def answerLine (r : Replay) (line : Text) : Except SessionError Text :=
  match r.response? line with
  | some output => .ok output
  | none =>
    let key := normalizeCommand line
    if isRead key then .error (.unknownCommand key) else .ok []

/-- Answers put together: each starts on a line of its own. -/
def appendAnswer (output answer : Text) : Text :=
  if answer.isEmpty then output
  else if output.isEmpty || Text.endsWith ['\n'] output then output ++ answer
  else output ++ '\n' :: answer

/-- The answers to some lines, put behind what came before. -/
def answerLines (r : Replay) : List Text → Text → Except SessionError Text
  | [], output => .ok output
  | line :: rest, output => do
    let answer ← r.answerLine line
    answerLines r rest (appendAnswer output answer)

/-- The lines of a command that are not blank. -/
def commandLines (command : Text) : List Text :=
  (Text.lines command).filter fun line => !(Text.trim line).isEmpty

/-- The answer to a command. -/
def answer (r : Replay) (command : Text) : Except SessionError Text :=
  match r.response? command with
  | some output => .ok output
  | none => r.answerLines (commandLines command) []

/-- The session after a command was sent. -/
def record (r : Replay) (command : Text) : Replay :=
  { r with history := r.history ++ [command] }

/-- Send a command: it becomes part of the history first, and then it is answered or not. -/
def execute (r : Replay) (command : Text) : Except SessionError Text × Replay :=
  let r := r.record command
  (r.answer command, r)

/-- Send commands one after the other, whichever of them fail. -/
def executeAll : List Text → Replay → List (Except SessionError Text) × Replay
  | [], r => ([], r)
  | command :: rest, r =>
    let (result, r) := r.execute command
    let (results, r) := executeAll rest r
    (result :: results, r)

/-- The session without its history. -/
def forget (r : Replay) : Replay :=
  { r with history := [] }

end Replay

end VendorCli
