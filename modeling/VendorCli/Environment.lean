import VendorCli.Text.Table
/-!
# What a run of the program finds

The files and variables around a run. Nothing else that a run does depends on its surroundings, so
its outcome is a function of them and of the command line.

`Environment.ofFiles` is a directory with a few files in it, all that there is.
-/

namespace VendorCli

/-- What stands under a file name. -/
inductive FileState where
  | text (content : Text)
  | directory
  /-- Nothing, but a directory where it could be. -/
  | missing
  /-- Nothing, and a file where its directory should be. -/
  | belowFile
deriving DecidableEq, Repr

/-- The files and variables around a run. -/
structure Environment where
  files : Text → FileState
  /-- The value of a variable. -/
  getVar : Text → Option Text

namespace Environment

/-- Whether there is something under a name. -/
def hasFile (e : Environment) (name : Text) : Bool :=
  match e.files name with
  | .text _ => true
  | .directory => true
  | .missing => false
  | .belowFile => false

/-- The text of a file, or the reason why it cannot be read. -/
def read (e : Environment) (name : Text) : Except Text Text :=
  match e.files name with
  | .text t => .ok t
  | .directory => .error "Is a directory (os error 21)"
  | .missing => .error "No such file or directory (os error 2)"
  | .belowFile => .error "Not a directory (os error 20)"

/-! ### A directory with files -/

/-- The parts of a path without those that stay where they are; two dots take the part before them
away. -/
def pathParts (path : Text) : List Text :=
  ((Text.splitOn '/' path).foldl step []).reverse
where
  step (parts : List Text) (part : Text) : List Text :=
    if part = [] ∨ part = ['.'] then parts
    else if part = ['.', '.'] then parts.drop 1
    else part :: parts

/-- The parts of a path that may start at the working directory. -/
def resolved (directory path : Text) : List Text :=
  if path.head? = some '/' then pathParts path else pathParts (directory ++ '/' :: path)

/-- What stands under a name, when some files in a working directory are all that there is. -/
def stateOf (directory : Text) (files : List (Text × Text)) (name : Text) : FileState :=
  let parts := resolved directory name
  let stored := files.map fun (path, content) => (resolved directory path, content)
  if name = [] then .missing
  else match stored.lookup parts with
    -- A slash at the end asks for a directory.
    | some content => if name.getLast? = some '/' then .belowFile else .text content
    | none =>
      if (pathParts directory :: stored.map (·.1)).any (fun other => parts.isPrefixOf other) then
        .directory
      else if stored.any fun other => other.1.isPrefixOf parts then .belowFile
      else .missing

/-- The environment of some files in a working directory, and of some variables. -/
def ofFiles (directory : Text) (files values : List (Text × Text)) : Environment :=
  ⟨stateOf directory files, fun name => lookup? name values⟩

end Environment

end VendorCli
