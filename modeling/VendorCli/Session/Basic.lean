import VendorCli.Session.Program
import VendorCli.Session.Replay
/-!
# Sessions

A session takes the text of a command and gives the raw output of a device. It answers from
captured output, by a program, or with one and the same failure to everything.

An answer depends on nothing that was sent before. Only a replay session remembers what was sent.
-/

namespace VendorCli

/-- A way to exchange text with a device. -/
inductive Session where
  | replay (r : Replay)
  | program (p : Program)
  | failing (identifier : Text) (cause : SessionError)
deriving Repr

namespace Session

/-- The name that the session goes by. -/
def identifier : Session → Text
  | replay r => r.identifier
  | program p => p.identifier
  | failing identifier _ => identifier

/-- The answer to a command. -/
def answer : Session → Text → Except SessionError Text
  | replay r, command => r.answer command
  | program p, command => p.answer command
  | failing _ cause, _ => .error cause

/-- The session after a command was sent. -/
def record : Session → Text → Session
  | replay r, command => replay (r.record command)
  | s, _ => s

/-- What was sent, as far as the session remembers it. -/
def history : Session → List Text
  | replay r => r.history
  | _ => []

/-- The session without its history. -/
def forget : Session → Session
  | replay r => replay r.forget
  | s => s

/-- An answer never depends on what was sent before. -/
@[simp] theorem answer_record (s : Session) (sent command : Text) :
    (s.record sent).answer command = s.answer command := by
  have h : ∀ (r : Replay) (lines : List Text) (output : Text),
      (r.record sent).answerLines lines output = r.answerLines lines output := by
    intro r lines
    induction lines with
    | nil => intro output; rfl
    | cons line rest ih =>
      intro output
      simp only [Replay.answerLines]
      cases hl : r.answerLine line with
      | error e => simp [show (r.record sent).answerLine line = .error e from hl, bind, Except.bind]
      | ok a => simp [show (r.record sent).answerLine line = .ok a from hl, bind, Except.bind, ih]
  cases s with
  | replay r =>
    show (r.record sent).answer command = r.answer command
    simp only [Replay.answer, h]
    rfl
  | program p => rfl
  | failing i c => rfl

end Session

end VendorCli
