import VendorCli.Error
import VendorCli.Session.Shell
import VendorCli.Session.Words
/-!
# Program sessions

A program session runs a program for each command, with the command as the last argument. What the
program writes is the answer; a program that fails gives none.
-/

namespace VendorCli

/-- A session that runs a program for each command. -/
structure Program where
  identifier : Text
  name : Text
  /-- The arguments before the command. -/
  args : List Text
  /-- How many seconds a command may take. -/
  timeout : Nat
deriving DecidableEq, Repr

namespace Program

/-- How many seconds a command may take unless it is said otherwise. -/
def defaultTimeout : Nat := 30

/-- The session of a program line. -/
def ofLine (identifier line : Text) : Except SessionError Program :=
  match Words.split? line with
  | none => .error (.invalidConfig "Invalid program line: missing closing quote")
  | some [] => .error (.invalidConfig "Program line must not be empty")
  | some (name :: args) => .ok ⟨identifier, name, args, defaultTimeout⟩

/-- The answer to a command. -/
def answer (p : Program) (command : Text) : Except SessionError Text :=
  match Shell.run? p.name (p.args ++ [command]) with
  | none =>
    .error (.executionFailed ("Failed to spawn " ++ Text.inQuotes p.name
      ++ ": No such file or directory (os error 2)"))
  | some o =>
    if p.timeout = 0 then .error (.timeout 0)
    else if o.status = 0 then .ok o.output
    else .error (.executionFailed (Text.inQuotes p.name ++ " exited with "
      ++ Decimal.digitsOf o.status ++ ": " ++ Text.trim o.errors))

end Program

end VendorCli
