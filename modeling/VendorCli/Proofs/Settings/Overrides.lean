import VendorCli.Execution
import VendorCli.Proofs.Settings.Files
/-!
# Variables and the command line over settings files

The settings that a command is carried out under come from files, from variables and from the
command line, each on top of those before. One faulty file among the standard ones takes the
variables away as well as all the files.

* `Setting.ofVariables?` and `Setting.ofOptions?` are what variables and the command line say about
  a setting; `get_withVariables` and `get_settingsOver` put them on top of what is below;
* `variable_counts_iff` says exactly when a variable takes effect. `variable_lost` has a project
  file that is no settings file.
-/

namespace VendorCli

namespace Setting

/-- The value that the variables give to a setting. A variable that is not set, or whose value is
not valid, gives none. -/
def ofVariables? (e : Environment) : (x : Setting) → Option x.Value
  | platform => (e.getVar "CLI_UNITS_PLATFORM").bind Platform.ofText?
  | logFormat =>
    (e.getVar "CLI_UNITS_LOG_FORMAT").bind fun t =>
      lookup? (Text.lower t) [("json", .json), ("text", .text)]
  | fixtures => (e.getVar "CLI_UNITS_FIXTURES").map some
  | program => (e.getVar "CLI_UNITS_PROGRAM").map some
  -- a program is preferred to captured output
  | session =>
    ((e.getVar "CLI_UNITS_PROGRAM").map fun _ => .program).or
      ((e.getVar "CLI_UNITS_FIXTURES").map fun _ => .replay)
  | timeout => (e.getVar "CLI_UNITS_TIMEOUT").bind (Decimal.nat? Decimal.max64)
  | color => (e.getVar "NO_COLOR").map fun _ => false
  | logLevel | hostname => none

/-- The value that the command line gives to a setting. -/
def ofOptions? (i : Invocation) : (x : Setting) → Option x.Value
  | platform => i.options.platform
  | fixtures => i.options.fixtures.map some
  | session => i.options.fixtures.map fun _ => .replay
  | logLevel | logFormat | program | timeout | hostname | color => none

end Setting

namespace Settings

variable {e : Environment} {x : Setting}

/-! ### Variables -/

section Variable

variable {name : Text} {apply : Settings → Text → Settings}

/-- A variable that counts if its value is valid. -/
theorem get_withVariable (value? : Text → Option x.Value)
    (h : ∀ s t, x.get (apply s t) = (value? t).getD (x.get s)) (s : Settings) :
    x.get (withVariable e name apply s) = ((e.getVar name).bind value?).getD (x.get s) := by
  unfold withVariable
  cases e.getVar name with
  | none => rfl
  | some t => exact h s t

/-- A variable all of whose values are valid. -/
theorem get_withVariable_of_set (value : Text → x.Value)
    (h : ∀ s t, x.get (apply s t) = value t) (s : Settings) :
    x.get (withVariable e name apply s) = ((e.getVar name).map value).getD (x.get s) := by
  rw [get_withVariable (some ∘ value) h, Option.map_eq_bind]

/-- A variable for other settings. -/
theorem get_withVariable_of_kept (h : ∀ s t, x.get (apply s t) = x.get s) (s : Settings) :
    x.get (withVariable e name apply s) = x.get s := by
  rw [get_withVariable (fun _ => none) h, Option.bind_fun_none, Option.getD_none]

end Variable

/-- **Variables over settings.** -/
theorem get_withVariables (s : Settings) (x : Setting) :
    x.get (withVariables e s) = (x.ofVariables? e).getD (x.get s) := by
  unfold withVariables
  cases x
  -- the variables that come after those of the setting, these, and the variables before them
  all_goals repeat rw [get_withVariable_of_kept fun s t => by rfl]
  case' platform => rw [get_withVariable (x := .platform) _ fun s t => by rfl]
  case' logFormat => rw [get_withVariable (x := .logFormat) _ fun s t => by rfl]
  case' timeout => rw [get_withVariable (x := .timeout) _ fun s t => by rfl]
  case' fixtures => rw [get_withVariable_of_set (x := .fixtures) some fun s t => by rfl]
  case' program => rw [get_withVariable_of_set (x := .program) some fun s t => by rfl]
  case' color => rw [get_withVariable_of_set (x := .color) (fun _ => false) fun s t => by rfl]
  case' session =>
    rw [Setting.ofVariables?, Option.getD_or,
      get_withVariable_of_set (x := .session) (fun _ => .program) fun s t => by rfl,
      get_withVariable_of_set (x := .session) (fun _ => .replay) fun s t => by rfl]
  all_goals repeat rw [get_withVariable_of_kept fun s t => by rfl]
  all_goals rfl

/-! ### Loading -/

/-- Settings that are loaded have had the variables put on top. -/
theorem exists_of_load {file? : Option Text} {s : Settings} (h : load e file? = .ok s) :
    ∃ files : Settings, s = withVariables e files := by
  unfold load at h
  split at h
  · split at h
    · obtain ⟨files, -, h⟩ := exists_of_bind_eq_ok h
      cases h
      exact ⟨files, rfl⟩
    · cases h
  · obtain ⟨files, -, h⟩ := exists_of_bind_eq_ok h
    cases h
    exact ⟨files, rfl⟩

/-- Without a file that is named, loading fails exactly if a standard file is faulty. -/
theorem exists_load_iff : (∃ s, load e none = .ok s) ↔ ValidFiles e (standardFiles e) := by
  rw [← exists_ofFiles_iff]
  constructor
  · rintro ⟨s, h⟩
    unfold load at h
    obtain ⟨files, hfiles, -⟩ := exists_of_bind_eq_ok h
    exact ⟨files, hfiles⟩
  · rintro ⟨files, hfiles⟩
    refine ⟨withVariables e files, ?_⟩
    rw [load, hfiles]
    rfl

end Settings

namespace Invocation

open Settings

variable {e : Environment} {i : Invocation} {x : Setting}

/-! ### The command line -/

/-- **The command line over settings.** -/
theorem get_settingsOver (i : Invocation) (s : Settings) (x : Setting) :
    x.get (i.settingsOver s) = (x.ofOptions? i).getD (x.get s) := by
  unfold settingsOver Setting.ofOptions?
  cases i.options.fixtures <;> cases x <;> rfl

/-- Putting the command line on top a second time changes nothing. -/
theorem settingsOver_settingsOver (i : Invocation) (s : Settings) :
    i.settingsOver (i.settingsOver s) = i.settingsOver s := by
  unfold settingsOver
  cases i.options.fixtures <;> cases i.options.platform <;> rfl

/-! ### Runs -/

/-- The settings that the command of a run is carried out under. If none can be loaded, it is as if
nothing were set but on the command line. -/
def runningSettings (e : Environment) (i : Invocation) : Settings :=
  i.settingsOver ((load e i.options.settings).toOption.getD .default)

/-- A command is carried out under the settings with the command line on top. -/
theorem runWith_settingsOver (s : Settings) (before : Printout) :
    i.runWith e (i.settingsOver s) before = i.runWith e s before := by
  rw [runWith, runWith, settingsOver_settingsOver]

/-- A file that is named is there and holds settings. -/
def NamesValidFile (e : Environment) (i : Invocation) : Prop :=
  ∀ name, i.options.settings = some name → ∃ s, load e (some name) = .ok s

/-- Nothing but a faulty file that was named stops a run before its command. -/
theorem exists_run_eq (h : i.NamesValidFile e) :
    ∃ before, i.run e = i.runWith e (i.runningSettings e) before := by
  simp only [runningSettings, runWith_settingsOver]
  unfold run
  -- settings that cannot be loaded stop the run only if their file was named
  cases hload : load e i.options.settings with
  | ok s => exact ⟨.empty, rfl⟩
  | error fault =>
    cases hsettings : i.options.settings with
    | none => exact ⟨_, rfl⟩
    | some name =>
      obtain ⟨s, hs⟩ := h name hsettings
      rw [hsettings, hs] at hload
      cases hload

/-- Settings are loaded unless a standard file is read and faulty. -/
theorem NamesValidFile.exists_load_iff (h : i.NamesValidFile e) :
    (∃ s, load e i.options.settings = .ok s) ↔
      i.options.settings.isSome ∨ ValidFiles e (standardFiles e) := by
  cases hsettings : i.options.settings with
  | none => simpa using Settings.exists_load_iff
  | some name => simpa using h name hsettings

/-- If settings can be loaded, a valid variable counts unless the command line says something. -/
theorem get_runningSettings (hload : ∃ s, load e i.options.settings = .ok s) {v : x.Value}
    (hv : x.ofVariables? e = some v) : x.get (i.runningSettings e) = (x.ofOptions? i).getD v := by
  obtain ⟨s, hs⟩ := hload
  obtain ⟨files, rfl⟩ := exists_of_load hs
  rw [runningSettings, get_settingsOver, hs]
  change (x.ofOptions? i).getD (x.get (withVariables e files)) = _
  rw [get_withVariables, hv, Option.getD_some]

/-- If none can be loaded, only the command line counts. -/
theorem get_runningSettings_of_fault (hload : ¬ ∃ s, load e i.options.settings = .ok s)
    (x : Setting) : x.get (i.runningSettings e) = (x.ofOptions? i).getD x.initial := by
  rw [runningSettings, get_settingsOver]
  cases hs : load e i.options.settings with
  | ok s => exact absurd ⟨s, hs⟩ hload
  | error fault => rfl

/-- **Variables count unless a file is faulty.** Let a file be named that holds settings, or none be
named. Then the command is carried out under settings that have, for a variable with a valid value,
the value of the command line, or else that of the variable, exactly in these cases: a file is
named; the standard files that are there hold settings; the command line gives a value; or the value
of the variable is the default. -/
theorem variable_counts_iff (h : i.NamesValidFile e) :
    (∃ before, i.run e = i.runWith e (i.runningSettings e) before) ∧
      i.settingsOver (i.runningSettings e) = i.runningSettings e ∧
      ∀ (x : Setting) (v : x.Value), x.ofVariables? e = some v →
        (x.get (i.runningSettings e) = (x.ofOptions? i).getD v ↔
          i.options.settings.isSome ∨ ValidFiles e (standardFiles e) ∨
            (x.ofOptions? i).isSome ∨ v = x.initial) := by
  refine ⟨exists_run_eq h, settingsOver_settingsOver i _, fun x v hv => ?_⟩
  rw [← or_assoc, ← h.exists_load_iff]
  -- a fault leaves the default, which is the value of the variable by accident alone
  by_cases hload : ∃ s, load e i.options.settings = .ok s
  · exact iff_of_true (get_runningSettings hload hv) (.inl hload)
  · rw [get_runningSettings_of_fault hload, or_iff_right hload]
    cases x.ofOptions? i with
    | none => simp [eq_comm]
    | some w => simp

/-- An environment with the settings file of a project and a variable for the platform. -/
def projectAndVariable (project platform : Text) : Environment :=
  .ofFiles "/home/me" [("cli-units.toml", project)] [("CLI_UNITS_PLATFORM", platform)]

/-- The variable counts over a project's platform. -/
theorem variable_over_project :
    let e := projectAndVariable "[device]\nplatform = \"huawei\"\n" "junos"
    let i : Invocation := ⟨⟨0, none, none, none, .human, false⟩, .units false⟩
    i.NamesValidFile e ∧ Setting.ofVariables? e .platform = some Platform.juniperJunos ∧
      (i.runningSettings e).platform = .juniperJunos := by
  intro e i
  have hnamed : i.NamesValidFile e := by
    intro name hname
    cases hname
  have hvariable : Setting.ofVariables? e .platform = some Platform.juniperJunos := by
    decide +kernel
  have hvalid : ValidFiles e (standardFiles e) := by decide +kernel
  obtain ⟨-, -, hcounts⟩ := variable_counts_iff hnamed
  exact ⟨hnamed, hvariable, (hcounts .platform .juniperJunos hvariable).mpr (.inr (.inl hvalid))⟩

/-- A project file that is no settings file takes the variable away. -/
theorem variable_lost :
    let e := projectAndVariable "[device" "junos"
    Setting.ofVariables? e .platform = some Platform.juniperJunos ∧
      (ofCommandLine e ["list", "/interfaces/interface"]).toOption.map (fun i =>
        (i.options.settings, i.options.platform, (i.runningSettings e).platform))
        = some (none, none, .generic) := by
  intro e
  decide +kernel

end Invocation

end VendorCli
