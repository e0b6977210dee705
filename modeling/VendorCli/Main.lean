import VendorCli.Execution
/-!
# The program

The command line: it finds out which files the command needs, reads them, and prints the outcome.
-/

namespace VendorCli

/-- The files that a command line names. -/
def Invocation.fileNames (i : Invocation) : List Text :=
  i.options.settings.toList ++ i.options.fixtures.toList ++
  match i.command with
  | .render ('@' :: file) vars _ => file :: vars.toList
  | .render _ vars _ => vars.toList
  | .parse rules output => [rules, output]
  | .write _ before after _ _ => before.toList ++ after.toList
  | _ => []

/-- The names of all variables that matter. -/
def variableNames : List Text :=
  ["HOME", "XDG_CONFIG_HOME", "CLI_UNITS_CONFIG", "CLI_UNITS_PLATFORM", "CLI_UNITS_LOG_FORMAT",
   "CLI_UNITS_FIXTURES", "CLI_UNITS_PROGRAM", "CLI_UNITS_TIMEOUT", "NO_COLOR", "CLICOLOR_FORCE"]

/-- What stands under a file name. -/
def readState (name : Text) : IO FileState := do
  let path : String := String.ofList name
  try
    let t ← IO.FS.readFile path
    return .text t.toList
  catch
    | .inappropriateType .. => return .directory
    | _ => return .missing

/-- The environment with some more files read into it. -/
def withFiles (e : Environment) (names : List Text) : IO Environment := do
  let mut states : List (Text × FileState) := []
  for name in names do
    let state ← readState name
    states := (name, state) :: states
  let known := states
  return { e with files := fun name => (known.lookup name).getD (e.files name) }

/-- The variables that matter. -/
def readVariables : IO (List (Text × Text)) := do
  let mut found : List (Text × Text) := []
  for name in variableNames do
    if let some value ← IO.getEnv (String.ofList name) then
      found := (name, value.toList) :: found
  return found

/-- The environment of a command line. -/
def environmentFor (words : List Text) : IO Environment := do
  let values ← readVariables
  let e : Environment := ⟨fun _ => .missing, fun name => values.lookup name⟩
  match Invocation.ofCommandLine e words with
  | .error _ => return e
  | .ok i => do
    let e ← withFiles e (i.fileNames ++ Settings.standardFiles e)
    match Settings.load e i.options.settings with
    | .ok s => withFiles e s.fixtures.toList
    | .error _ => return e

end VendorCli

/-- Carry out a command line. -/
def main (args : List String) : IO UInt32 := do
  let words := args.map String.toList
  let e ← VendorCli.environmentFor words
  let outcome := VendorCli.runCommandLine e words
  (← IO.getStdout).putStr (String.ofList outcome.output)
  (← IO.getStderr).putStr (String.ofList outcome.errors)
  return UInt32.ofNat outcome.status
