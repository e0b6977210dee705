import VendorCli.Dialect
import VendorCli.Session.Basic
import VendorCli.Transcript
/-!
# Devices

A device is a session with the command language of a platform. Reading goes through a cache of
answers (`ReadContext`), so that one transaction sends no command twice; writing collects the blocks
that it produces (`WriteContext`), and in check mode it stops there.

* `Device.fetch` is the answer to a command, out of the cache or from the device;
* `Device.apply` sends configuration lines as one block and looks for error messages in the answer.
-/

namespace VendorCli

/-! ### Contexts -/

/-- The answers of one transaction by command, in the order in which they came. -/
structure ReadContext where
  answers : List (Text × Text)
deriving DecidableEq, Repr

namespace ReadContext

/-- A context without answers. -/
def empty : ReadContext := ⟨[]⟩

/-- The answer to a command. -/
def cached? (c : ReadContext) (command : Text) : Option Text :=
  lookup? command c.answers

/-- Keep an answer, in the place of an earlier one to the same command. -/
def store (c : ReadContext) (command output : Text) : ReadContext :=
  ⟨insertLast command output c.answers⟩

/-- The commands with an answer. -/
def commands (c : ReadContext) : List Text :=
  c.answers.map (·.1)

/-- What was stored for a command is in the cache. -/
@[simp] theorem cached?_store_self (c : ReadContext) (command output : Text) :
    (c.store command output).cached? command = some output :=
  lookup?_insertLast_self command output c.answers

end ReadContext

/-- The configuration blocks of one transaction. -/
structure WriteContext where
  /-- Whether blocks are collected but not sent. -/
  checkMode : Bool
  /-- The blocks so far. -/
  blocks : List Text
deriving DecidableEq, Repr

namespace WriteContext

/-- A context in which blocks are sent. -/
def sending : WriteContext := ⟨false, []⟩

/-- A context in which blocks are only collected. -/
def checking : WriteContext := ⟨true, []⟩

/-- Collect a block. -/
def record (c : WriteContext) (block : Text) : WriteContext :=
  { c with blocks := c.blocks ++ [block] }

end WriteContext

/-! ### Devices -/

/-- A session with the command language of a platform. -/
structure Device where
  session : Session
  platform : Platform
  hostname : Text
deriving Repr

namespace Device

/-- A device that goes by the name of its session. -/
def ofSession (session : Session) (platform : Platform) : Device :=
  ⟨session, platform, session.identifier⟩

/-- The device as a value of a program. -/
def shown (d : Device) : Text :=
  "Device \x7b hostname: " ++ Text.shown d.hostname ++ ", platform: " ++ d.platform.symbol
    ++ " \x7d"

/-- The answer to a command. -/
def answer (d : Device) (command : Text) : Except SessionError Text :=
  d.session.answer command

/-- The device after a command was sent. -/
def record (d : Device) (command : Text) : Device :=
  { d with session := d.session.record command }

/-- The commands that the device has received. -/
def history (d : Device) : List Text :=
  d.session.history

/-- The first line of an answer that reports an error. -/
def detectError? (d : Device) (output : Text) : Option Text :=
  d.platform.dialect.detectError? output

/-! ### Preparing -/

/-- Send commands one after the other, up to the first that fails. -/
def sendAll : List Text → Device → Except Error Unit × Device
  | [], d => (.ok (), d)
  | command :: rest, d =>
    match d.answer command with
    | .ok _ => sendAll rest (d.record command)
    | .error cause => (.error (.session cause), d.record command)

/-- Send the commands that prepare a session. -/
def prepare (d : Device) : Except Error Unit × Device :=
  sendAll d.platform.dialect.prepare d

/-! ### Reading -/

/-- What a command shows, as the device answers it now. -/
def freshOutput (d : Device) (command : Text) : Except Error Text :=
  match d.answer command with
  | .error cause => .error (.readFailed command cause.message)
  | .ok raw =>
    match d.detectError? raw with
    | some line => .error (.readFailed command line)
    | none => .ok (Transcript.clean command raw)

/-- What a command shows, without the cache. -/
def fetchUncached (d : Device) (command : Text) : Except Error Text × Device :=
  (d.freshOutput command, d.record command)

/-- What a command shows. The answer is kept for the next time; a failure is not. -/
def fetch (d : Device) (command : Text) (c : ReadContext) :
    Except Error Text × Device × ReadContext :=
  match c.cached? command with
  | some output => (.ok output, d, c)
  | none =>
    match d.freshOutput command with
    | .ok output => (.ok output, d.record command, c.store command output)
    | .error e => (.error e, d.record command, c)

/-! ### Writing -/

/-- The configuration lines that are sent: trimmed, without blank ones. -/
def effectiveLines (lines : List Text) : List Text :=
  (lines.map Text.trim).filter (· ≠ [])

/-- The block that configuration lines are sent as. -/
def blockOf (d : Device) (lines : List Text) : Text :=
  Text.unlines (d.platform.dialect.wrap lines)

/-- The line whose echo stands closest before an error message. -/
def offendingLine? (lines : List Text) (output errorLine : Text) : Option Text :=
  let echoes := ((Text.lines output).map Text.trim).takeWhile fun l => l ≠ errorLine
  echoes.reverse.findSome? fun echo => lines.find? fun line => Text.endsWith line echo

/-- The result of sending a block of lines for the node at a path. -/
def applied (d : Device) (path : Text) (lines : List Text) : Except Error Text :=
  let block := d.blockOf lines
  match d.answer block with
  | .error cause => .error (.writeFailed path block cause.message)
  | .ok output =>
    match d.detectError? output with
    | none => .ok output
    | some errorLine =>
      let command := (offendingLine? lines output errorLine).getD block
      .error (.writeFailed path command (Text.trim output))

/-- Send configuration lines for the node at a path as one block. Without lines that are not blank
nothing happens. -/
def apply (d : Device) (path : ConfigPath) (lines : List Text) (c : WriteContext) :
    Except Error Text × Device × WriteContext :=
  let lines := effectiveLines lines
  if lines = [] then (.ok [], d, c)
  else
    let block := d.blockOf lines
    let c := c.record block
    if c.checkMode then (.ok [], d, c)
    else (d.applied path.toText lines, d.record block, c)

end Device

end VendorCli
