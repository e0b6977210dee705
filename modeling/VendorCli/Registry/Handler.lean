import VendorCli.Error
import VendorCli.Json.Printer
/-!
# Handlers

A handler serves one kind of node in the configuration tree of a platform. It says what to ask the
device and what the answer means, or which lines bring a change about; it never talks to the device
itself.

* A `Reader` makes a value of what one command shows.
* A `Lister` finds the keys of a list in what one command shows.
* A `Writer` plans the configuration lines of a change.

Readers and writers are made from functions on records (`RecordReader`, `RecordWriter`): the change
of a node is given by the values before and after it, either of which may be missing.
-/

namespace VendorCli

/-! ### Reading -/

/-- A handler that reads a node. -/
structure Reader where
  /-- The command whose output tells about the node; none if the node cannot exist. -/
  query : ConfigPath → Except Error (Option Text)
  /-- The value of the node, if the output has it. -/
  interpret : ConfigPath → Text → Except Error (Option Json)

/-- A reader of records of one type. -/
structure RecordReader (α : Type) where
  query : ConfigPath → Except Error (Option Text)
  interpret : ConfigPath → Text → Except Error (Option α)
  encode : α → Json

/-- The reader of the values of records. -/
def RecordReader.toReader {α : Type} (r : RecordReader α) : Reader where
  query := r.query
  interpret path output := (r.interpret path output).map fun found => found.map r.encode

/-- A handler that lists the keys of a node. -/
structure Lister where
  /-- The name of the key. -/
  keyName : Text
  /-- The command whose output tells the keys. -/
  query : ConfigPath → Except Error Text
  /-- The keys in the output. -/
  keys : ConfigPath → Text → List Text

/-! ### Writing -/

/-- A change of a node: the values before and after it. -/
structure Change where
  before : Option Json
  after : Option Json
deriving Repr

/-- A handler that plans changes of a node. -/
structure Writer where
  /-- The configuration lines of a change. -/
  plan : ConfigPath → Change → Except Error (List Text)

/-- A writer of records of one type. -/
structure RecordWriter (α : Type) where
  /-- Fields that every record must have. -/
  required : List Text
  decode : Json → Decoded α
  create : ConfigPath → α → Except Error (List Text)
  update : ConfigPath → α → α → Except Error (List Text)
  delete : ConfigPath → α → Except Error (List Text)

namespace RecordWriter

/-- The first required field that an object lacks or has as null. -/
def missingField? (required : List Text) (v : Json) : Option Text :=
  match v with
  | .object fields => required.find? fun name => ((lookup? name fields).map Json.isNull).getD true
  | _ => none

/-- The record that a value holds. -/
def record {α : Type} (w : RecordWriter α) (path : ConfigPath) (v : Json) : Except Error α :=
  match missingField? w.required v with
  | some name => .error (.missingField path.toText name)
  | none =>
    match w.decode v with
    | .ok a => .ok a
    | .error fault => .error (.invalidData path.toText fault)

/-- The lines of a change: those that create the node, remove it or update it. A change between
equal records needs none. -/
def plan {α : Type} [DecidableEq α] (w : RecordWriter α) (path : ConfigPath) (c : Change) :
    Except Error (List Text) :=
  match c.before, c.after with
  | none, none => .ok []
  | none, some after => do
    let after ← w.record path after
    w.create path after
  | some before, none => do
    let before ← w.record path before
    w.delete path before
  | some before, some after => do
    let before ← w.record path before
    let after ← w.record path after
    if before = after then .ok [] else w.update path before after

/-- The writer of the values of records. -/
def toWriter {α : Type} [DecidableEq α] (w : RecordWriter α) : Writer where
  plan := w.plan

end RecordWriter

end VendorCli
