import VendorCli.Console
import VendorCli.Invocation.Reader
import VendorCli.Registry.Exchange
import VendorCli.Output.Spec
import VendorCli.Settings.Sources
import VendorCli.Template.Engine
import VendorCli.Units
/-!
# Carrying out commands

What each command prints and how it ends. A command prints as it goes, so that a failure leaves what
was printed before it (`Execution`). Its exit status tells the kind of failure; failures outside the
library, such as a data file that is missing, all have the same.
-/

namespace VendorCli

/-! ### Failures -/

/-- Why a command fails. -/
inductive Failure where
  | library (e : Error)
  /-- There is no session. -/
  | session (e : SessionError)
  /-- Another failure, and those behind it, in words. -/
  | other (chain : List Text)
deriving Repr

namespace Failure

/-- The failure and all that is behind it in words. -/
def message : Failure → Text
  | library e => Text.join ": " e.chain
  | session e => Text.join ": " e.chain
  | other chain => Text.join ": " chain

/-- The exit status of a command that fails so. -/
def status : Failure → Nat
  | library e => e.exitCode
  | _ => 1

end Failure

/-- A command while it is carried out: it prints, and it may fail. -/
abbrev Execution := ExceptT Failure (StateM Printout)

namespace Execution

/-- Print something. -/
def print (p : Printout) : Execution Unit :=
  modifyThe Printout fun before => before.append p

/-- Fail with a reason of one's own. -/
def fail {α : Type} (chain : List Text) : Execution α :=
  throw (.other chain)

/-- The result of the library, or its failure. -/
def ofLibrary {α : Type} (r : Except Error α) : Execution α :=
  match r with
  | .ok a => pure a
  | .error e => throw (.library e)

/-- The text of a file; `purpose` says in messages what it was to be. -/
def readFile (e : Environment) (purpose name : Text) : Execution Text :=
  match e.read name with
  | .ok t => pure t
  | .error reason => fail ["Failed to read " ++ purpose ++ name, reason]

/-- The value in a data file. -/
def readData (e : Environment) (name : Text) : Execution Json := do
  let t ← readFile e [] name
  match (Format.ofDataFile name).decode Document.toValue t with
  | .ok v => pure v
  | .error reason => fail ["Failed to parse " ++ name, reason]

/-! ### Devices -/

/-- The session of captured output in a file. -/
def replaySession (e : Environment) (name : Text) : Execution Session :=
  match e.read name with
  | .error reason => throw (.session (.io reason))
  | .ok t =>
    match (Format.ofDataFile name).decode Fixtures.ofDocument t with
    | .ok f => pure (.replay (Replay.ofFixtures f))
    | .error reason => throw (.session (.invalidConfig (name ++ ": " ++ reason)))

/-- The session of a program line. -/
def programSession (s : Settings) (line : Text) : Execution Session :=
  match Program.ofLine (s.hostname.getD "local") line with
  | .ok p => pure (.program { p with timeout := s.timeout })
  | .error cause => throw (.session cause)

/-- The session that the settings describe. -/
def openSession (e : Environment) (c : Console) (s : Settings) : Execution Session := do
  match s.session with
  | .replay =>
    match s.fixtures with
    | none => fail ["Replay session needs a fixture file (--fixtures or device.fixtures)"]
    | some name => do
      print (c.note ("Replaying fixtures from " ++ name))
      replaySession e name
  | .program =>
    match s.program with
    | none => fail ["Process session needs device.program"]
    | some line => do
      print (c.note ("Running commands via " ++ Text.inQuotes line))
      programSession s line

/-- The device that the settings describe, prepared. -/
def openDevice (e : Environment) (c : Console) (s : Settings) : Execution Device := do
  let session ← openSession e c s
  let device := Device.ofSession session s.platform
  let device := { device with hostname := s.hostname.getD device.hostname }
  let (result, device) := device.prepare
  ofLibrary result
  return device

/-! ### Commands -/

/-- The variable that a text assigns: a name, an equals sign and a value in YAML; a text that is
none stands for itself. -/
def assignment? (t : Text) : Option (Text × Json) :=
  (Text.splitOnce? '=' t).map fun (name, value) =>
    let v := match Format.yaml.decode Document.toValue value with
      | .ok v => v
      | .error _ => .string value
    (Text.trim name, v)

/-- Variables with those that some texts assign. -/
def assign : List (Text × Json) → List Text → Execution (List (Text × Json))
  | vars, [] => pure vars
  | vars, t :: rest =>
    match assignment? t with
    | none => fail ["Invalid --set " ++ Text.inQuotes t ++ ": expected key=value"]
    | some (name, v) => assign (insertSorted name v vars) rest

/-- The variables of a file. -/
def readVariables (e : Environment) (name : Text) : Execution (List (Text × Json)) := do
  match ← readData e name with
  | .object fields => pure fields
  | .null => pure []
  | _ => fail ["Variables file " ++ name ++ " must hold a mapping"]

/-- Render a template as commands. -/
def render (e : Environment) (c : Console) (template : Text) (vars : Option Text)
    (assignments : List Text) : Execution Unit := do
  let source ← match template with
    | '@' :: file => readFile e "template " file
    | _ => pure template
  let fields ← match vars with
    | some name => readVariables e name
    | none => pure []
  let fields ← assign fields assignments
  print (c.note ("Rendering with " ++ Decimal.digitsOf fields.length ++ " variable(s)"))
  let text ← ofLibrary (Template.Engine.empty.render source (.object fields))
  print (c.commands (Template.commandLines text))

/-- The specification in a file. -/
def readSpec (e : Environment) (name : Text) : Execution Spec :=
  if !e.hasFile name then throw (.library (.fileNotFound name))
  else match e.read name with
    | .error reason => throw (.library (.io reason))
    | .ok t => ofLibrary (Spec.ofYaml t)

/-- Parse captured output with the rules of a file. -/
def parse (e : Environment) (c : Console) (rules output : Text) : Execution Unit := do
  let spec ← readSpec e rules
  let text ← readFile e [] output
  print (c.note ("Applying " ++ Decimal.digitsOf spec.rules.length ++ " rule(s) from " ++ rules))
  let v ← ofLibrary (spec.apply text)
  print (c.value v)

/-- Read the node at a path. -/
def read (e : Environment) (c : Console) (s : Settings) (path : ConfigPath) : Execution Unit := do
  let device ← openDevice e c s
  let v? ← ofLibrary (Registry.builtin.read path device .empty).1
  match v? with
  | some v => print (c.value v)
  | none =>
    if c.isStructured then print (c.value .null)
    else print (c.warning ("Nothing configured at " ++ path.toText))

/-- List the entries of the list at a path. -/
def list (e : Environment) (c : Console) (s : Settings) (path : ConfigPath) : Execution Unit := do
  let device ← openDevice e c s
  let entries ← ofLibrary (Registry.builtin.list path device .empty).1
  let paths := entries.map ConfigPath.toText
  if c.isStructured then print (c.value (.array (paths.map .string)))
  else print (.ofLines paths)

/-- The value in a data file that may not be given. -/
def readOptional (e : Environment) (name : Option Text) : Execution (Option Json) :=
  match name with
  | none => pure none
  | some name => do
    let v ← readData e name
    return some v

/-- The difference between two values as YAML texts; a value that is not there has no lines. -/
def dataDiff (before after : Option Json) : Diff.Report :=
  let text (v : Option Json) : Text := (v.map Yaml.print).getD []
  Diff.Report.between (text before) (text after)

/-- The result of a change as a value. -/
def changeReport (path : ConfigPath) (check : Bool) (commands : List Text)
    (diff : Option Diff.Report) : Json :=
  let fields : List (Text × Json) :=
    [("path", .string path.toText), ("check_mode", .bool check),
     ("commands", .array (commands.map .string))]
  .object (fields ++ (diff.map fun r => (("diff" : Text), r.toJson)).toList)

/-- The result of a change for people. -/
def showChange (c : Console) (check : Bool) (commands : List Text) (diff : Option Diff.Report) :
    Printout :=
  let title : Text := if check then "Commands (check mode, not sent)" else "Commands"
  let first :=
    if commands.isEmpty then c.info "No changes"
    else (c.heading title).append (c.commands commands)
  match diff with
  | none => first
  | some r => first.append ((c.heading "Diff").append (c.diff r))

/-- Apply a change to the node at a path. -/
def write (e : Environment) (c : Console) (s : Settings) (path : ConfigPath)
    (before after : Option Text) (check diff : Bool) : Execution Unit := do
  if before.isNone && after.isNone then
    fail ["Nothing to write: pass --before, --after or both"]
  let before ← readOptional e before
  let after ← readOptional e after
  let device ← openDevice e c s
  let context := if check then WriteContext.checking else WriteContext.sending
  let (result, _, context) := Registry.builtin.write path ⟨before, after⟩ device context
  ofLibrary result
  let commands := context.blocks.flatMap Template.commandLines
  let diff := if diff then some (dataDiff before after) else none
  if c.isStructured then print (c.value (changeReport path check commands diff))
  else print (showChange c check commands diff)

/-- A unit with its handlers as a value. -/
def unitSummary (u : HandlerUnit) : Json :=
  let handler (path : Text) (kinds : List Text) : Json :=
    .object [("path", .string path), ("kinds", .array (kinds.map .string))]
  .object
    [("name", .string u.name), ("platform", .string u.platform.name),
     ("handlers", .array (u.handlers.summary.map fun (path, kinds) => handler path kinds))]

/-- A unit for people, with its handlers if `long`. -/
def unitLines (c : Console) (long : Bool) (u : HandlerUnit) : List Text :=
  let first := c.accent .bold (Text.padEnd 20 u.name) ++ ' ' :: c.accent .cyan u.platform.name
  let handlers := if long then u.handlers.summary else []
  first :: handlers.map fun (path, kinds) =>
    "    " ++ path ++ " [" ++ Text.join ", " kinds ++ "]"

/-- Show the units, those of one platform if it is given. -/
def units (c : Console) (platform : Option Platform) (long : Bool) : Execution Unit := do
  let shown := Registry.builtin.units.filter fun u => platform.all (· = u.platform)
  if c.isStructured then print (c.value (.array (shown.map unitSummary)))
  else print (.ofLines (shown.flatMap (unitLines c long)))

/-- Carry out a command. -/
def command (e : Environment) (c : Console) (s : Settings) (i : Invocation) : Execution Unit :=
  match i.command with
  | .render template vars assignments => render e c template vars assignments
  | .parse rules output => parse e c rules output
  | .read path => read e c s path
  | .list path => list e c s path
  | .write path before after check diff => write e c s path before after check diff
  | .units long => units c i.options.platform long

end Execution

/-! ### Runs -/

/-- What a run leaves behind. -/
structure Outcome where
  status : Nat
  output : Text
  errors : Text
deriving DecidableEq, Repr

namespace Invocation

/-- The settings with what the command line sets on top. -/
def settingsOver (i : Invocation) (s : Settings) : Settings :=
  let s := { s with platform := i.options.platform.getD s.platform }
  match i.options.fixtures with
  | some name => s.withFixtures name
  | none => s

/-- Whether color is forced. Output is never taken for a terminal. -/
def isColorForced (e : Environment) : Bool :=
  (e.getVar "CLICOLOR_FORCE").any fun v => v ≠ ("0" : Text)

/-- How a run prints. -/
def console (e : Environment) (i : Invocation) (s : Settings) : Console :=
  let accented := !i.options.noColor && s.color && isColorForced e
  { format := i.options.format
    verbosity := i.options.verbosity
    colored := accented && (e.getVar "NO_COLOR").isNone
    accented }

/-- Carry out what a command line asks for under some settings; `before` is what was printed so
far. -/
def runWith (e : Environment) (i : Invocation) (s : Settings) (before : Printout) : Outcome :=
  let s := i.settingsOver s
  let c := i.console e s
  match (Execution.command e c s i).run.run before with
  | (.ok _, p) => ⟨0, p.output, p.errors⟩
  | (.error failure, p) =>
    let p := p.append (c.error failure.message)
    ⟨failure.status, p.output, p.errors⟩

/-- Carry out what a command line asks for. Faults in settings files count only if the file was
named; otherwise the run goes on as if nothing were set. -/
def run (e : Environment) (i : Invocation) : Outcome :=
  -- Only a file that was asked for can stop the run.
  match Settings.load e i.options.settings, i.options.settings with
  | .ok s, _ => i.runWith e s .empty
  | .error fault, some _ => ⟨1, [], "Error: " ++ fault.message ++ ['\n']⟩
  | .error fault, none =>
    let warning : Printout :=
      if i.options.verbosity = 0 then .empty
      else .aside ("Warning: Failed to load config: " ++ fault.message)
    i.runWith e .default warning

/-- The variable that names the settings file. -/
def settingsVariable : Text := "CLI_UNITS_CONFIG"

/-- What a command line asks for, in an environment. -/
def ofCommandLine (e : Environment) (words : List Text) : Except Refusal Invocation :=
  ofWords (e.getVar settingsVariable) words

end Invocation

/-- The outcome of a command line that asks for no command. -/
def Refusal.outcome : Refusal → Outcome
  | version program => ⟨0, program ++ ' ' :: Invocation.versionNumber ++ ['\n'], []⟩
  | help => ⟨0, usageText, []⟩
  | usage => ⟨2, [], usageText⟩
where
  /-- How to use the program. -/
  usageText : Text :=
    "Usage: cli-units [OPTIONS] <render|parse|read|list|write|units> [ARGUMENTS]\n"

/-- The outcome of a command line. -/
def runCommandLine (e : Environment) (words : List Text) : Outcome :=
  match Invocation.ofCommandLine e words with
  | .ok i => i.run e
  | .error refusal => refusal.outcome

end VendorCli
