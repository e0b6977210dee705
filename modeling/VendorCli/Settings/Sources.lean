import VendorCli.Environment
import VendorCli.Settings.Basic
/-!
# Where settings come from

A settings file that is named is the only one that counts, and it has to be there. Otherwise there
are three places for such files, each on top of those before: the system, the user and the project;
those that are missing are passed over. On top of the files come variables.

A file that cannot be read ends all this, and no variable counts any more.
-/

namespace VendorCli

/-- Why there are no settings. -/
inductive SettingsFault where
  | missing (name : Text)
  | unreadable (name : Text)
  | malformed (name : Text)
deriving DecidableEq, Repr

/-- The fault in words. -/
def SettingsFault.message : SettingsFault → Text
  | missing name => "Config file not found: " ++ name
  | unreadable name => "Failed to read config file: " ++ name
  | malformed name => "Failed to parse config file: " ++ name

namespace Settings

/-! ### Files -/

/-- The settings of a file. -/
def ofFile (e : Environment) (name : Text) : Except SettingsFault Settings :=
  match e.read name with
  | .error _ => .error (.unreadable name)
  | .ok t =>
    match (Format.ofSettingsFile name).decode ofDocument t with
    | .error _ => .error (.malformed name)
    | .ok s => .ok s

/-- The settings of some files, each on top of those before, over `lower`. Files that are missing
are passed over. -/
def ofFiles (e : Environment) : Settings → List Text → Except SettingsFault Settings
  | lower, [] => .ok lower
  | lower, name :: rest =>
    if e.hasFile name then
      match ofFile e name with
      | .error fault => .error fault
      | .ok upper => ofFiles e (lower.overlay upper) rest
    else ofFiles e lower rest

/-- The user's directory for settings: the one that a variable names by an absolute path, or else
the usual one at home. -/
def userDirectory? (e : Environment) : Option Text :=
  match (e.getVar "XDG_CONFIG_HOME").filter fun d => d.head? = some '/' with
  | some d => some d
  | none => ((e.getVar "HOME").filter (· ≠ [])).map fun home => home ++ "/.config"

/-- The settings file in a directory for settings. -/
def fileIn (directory : Text) : Text :=
  directory ++ "/cli-units/config.toml"

/-- The names of the settings files of the system, the user and the project. -/
def standardFiles (e : Environment) : List Text :=
  [fileIn "/etc"] ++ ((userDirectory? e).map fileIn).toList ++ [("cli-units.toml" : Text)]

/-! ### Variables -/

/-- The settings with a variable applied, if it is set. -/
def withVariable (e : Environment) (name : Text) (apply : Settings → Text → Settings)
    (s : Settings) : Settings :=
  ((e.getVar name).map (apply s)).getD s

/-- The settings with the platform that a text names, if it names one. -/
def withPlatform (s : Settings) (t : Text) : Settings :=
  { s with platform := (Platform.ofText? t).getD s.platform }

/-- The settings with the form of log lines that a text names, if it names one. -/
def withLogFormat (s : Settings) (t : Text) : Settings :=
  { s with
    logFormat := (lookup? (Text.lower t) [("json", .json), ("text", .text)]).getD s.logFormat }

/-- The settings of a replay session with a file of captured output. -/
def withFixtures (s : Settings) (t : Text) : Settings :=
  { s with fixtures := some t, session := .replay }

/-- The settings of a program session with a program line. -/
def withProgram (s : Settings) (t : Text) : Settings :=
  { s with program := some t, session := .program }

/-- The settings with the timeout that a text tells, if it is a number. -/
def withTimeout (s : Settings) (t : Text) : Settings :=
  { s with timeout := (Decimal.nat? Decimal.max64 t).getD s.timeout }

/-- The settings with all variables applied. -/
def withVariables (e : Environment) (s : Settings) : Settings :=
  s |> withVariable e "CLI_UNITS_PLATFORM" withPlatform
    |> withVariable e "CLI_UNITS_LOG_FORMAT" withLogFormat
    |> withVariable e "CLI_UNITS_FIXTURES" withFixtures
    |> withVariable e "CLI_UNITS_PROGRAM" withProgram
    |> withVariable e "CLI_UNITS_TIMEOUT" withTimeout
    |> withVariable e "NO_COLOR" (fun s _ => { s with color := false })

/-! ### All sources -/

/-- The settings of a run, from the file that is named or from the standard ones, and from the
variables. -/
def load (e : Environment) (file? : Option Text) : Except SettingsFault Settings := do
  let s ← match file? with
    | some name =>
      if e.hasFile name then ofFiles e default [name] else .error (.missing name)
    | none => ofFiles e default (standardFiles e)
  return withVariables e s

end Settings

end VendorCli
