import VendorCli.Proofs.Registry.Refusals
import VendorCli.Settings.Sources
/-!
# Settings of several files

A settings file is read as settings with a default for everything that it does not assign, and then
it is put on top of the files before it. That a file assigns the default to a setting is forgotten
on the way, so it does not take back what a file before it has assigned.

* `Setting` names a single setting; `Setting.assigned?` is what a document assigns to it, and
  `get_ofDocument` says that a document is read so;
* `get_overlay` is the rule by which two settings are put together, the same for all of them;
* `ofFiles_gives_last_change` follows the rule through any number of files: a setting has the value
  of the last file that assigns it anything but its default. `default_not_restored` has two files of
  which the later one assigns the default.
-/

namespace VendorCli

/-- One of the settings of a run. -/
inductive Setting where
  | logLevel
  | logFormat
  | platform
  | session
  | fixtures
  | program
  | timeout
  | hostname
  | color
deriving DecidableEq, Repr

namespace Setting

/-- The values of a setting. -/
abbrev Value : Setting → Type
  | logLevel | fixtures | program | hostname => Option Text
  | logFormat => LogFormat
  | platform => Platform
  | session => SessionKind
  | timeout => Nat
  | color => Bool

instance (x : Setting) : DecidableEq x.Value :=
  match x with
  | logLevel | fixtures | program | hostname => inferInstanceAs (DecidableEq (Option Text))
  | logFormat => inferInstanceAs (DecidableEq LogFormat)
  | platform => inferInstanceAs (DecidableEq Platform)
  | session => inferInstanceAs (DecidableEq SessionKind)
  | timeout => inferInstanceAs (DecidableEq Nat)
  | color => inferInstanceAs (DecidableEq Bool)

/-- The value that a setting has. -/
def get (s : Settings) : (x : Setting) → x.Value
  | logLevel => s.logLevel
  | logFormat => s.logFormat
  | platform => s.platform
  | session => s.session
  | fixtures => s.fixtures
  | program => s.program
  | timeout => s.timeout
  | hostname => s.hostname
  | color => s.color

/-- The value of a setting for which nothing is set. -/
def initial (x : Setting) : x.Value :=
  x.get .default

/-! ### What a document assigns -/

/-- The part of a document that a setting belongs to: its name and its fields. -/
def part : Setting → Text × Shape
  | logLevel | logFormat => ("logging", Settings.loggingShape)
  | color => ("output", Settings.outputShape)
  | platform | session | fixtures | program | timeout | hostname => ("device", Settings.deviceShape)

/-- The name of a setting in its part. -/
def field : Setting → Text
  | logLevel => "level"
  | logFormat => "format"
  | platform => "platform"
  | session => "session"
  | fixtures => "fixtures"
  | program => "program"
  | timeout => "timeout"
  | hostname => "hostname"
  | color => "color"

/-- The value of a setting that a document names. -/
def decode : (x : Setting) → Document → Decoded x.Value
  | logLevel | fixtures | program | hostname => Settings.optionalText
  | logFormat => Settings.logFormatOf
  | platform => Platform.ofDocument
  | session => Settings.sessionKindOf
  | timeout => Settings.secondsOf
  | color => Document.toBool

/-- The fields in the part of a setting; none if the part is left out. -/
def partOf (x : Setting) (d : Document) : Selected :=
  ((Settings.shape.select d).toOption.bind fun parts =>
    (lookup? x.part.1 parts).bind fun part => (x.part.2.select part).toOption).getD []

/-- The value that a document assigns to a setting. -/
def assigned? (x : Setting) (d : Document) : Option x.Value :=
  (lookup? x.field (x.partOf d)).bind fun value => (x.decode value).toOption

end Setting

namespace Settings

/-- A field that may be left out has its value, or the default. -/
theorem eq_of_getD {α : Type} {fields : Selected} {name : Text} {decode : Document → Decoded α}
    {initial a : α} (h : fields.getD name decode initial = .ok a) :
    a = ((lookup? name fields).bind fun d => (decode d).toOption).getD initial := by
  rw [Selected.getD] at h
  cases hd : lookup? name fields with
  | none =>
    rw [hd] at h
    cases h
    rfl
  | some d =>
    rw [hd] at h
    have hdecode : decode d = .ok a := h
    rw [Option.bind_some, hdecode]
    rfl

/-- **Documents.** Settings that are read from a document have the values that it assigns, and else
their defaults. -/
theorem get_ofDocument {d : Document} {s : Settings} (h : ofDocument d = .ok s) (x : Setting) :
    x.get s = (x.assigned? d).getD x.initial := by
  -- every part of the document was read, and every field of a part, without a fault
  obtain ⟨parts, hparts, h⟩ := exists_of_bind_eq_ok h
  obtain ⟨logging, hlogging, h⟩ := exists_of_bind_eq_ok h
  obtain ⟨device, hdevice, h⟩ := exists_of_bind_eq_ok h
  obtain ⟨output, houtput, h⟩ := exists_of_bind_eq_ok h
  obtain ⟨logLevel, hlogLevel, h⟩ := exists_of_bind_eq_ok h
  obtain ⟨logFormat, hlogFormat, h⟩ := exists_of_bind_eq_ok h
  obtain ⟨platform, hplatform, h⟩ := exists_of_bind_eq_ok h
  obtain ⟨session, hsession, h⟩ := exists_of_bind_eq_ok h
  obtain ⟨fixtures, hfixtures, h⟩ := exists_of_bind_eq_ok h
  obtain ⟨program, hprogram, h⟩ := exists_of_bind_eq_ok h
  obtain ⟨timeout, htimeout, h⟩ := exists_of_bind_eq_ok h
  obtain ⟨hostname, hhostname, h⟩ := exists_of_bind_eq_ok h
  obtain ⟨color, hcolor, h⟩ := exists_of_bind_eq_ok h
  cases h
  -- the fields in which a setting is looked up are those of the part that was read
  have hpart : x.partOf d = match x with
      | .logLevel | .logFormat => logging
      | .color => output
      | .platform | .session | .fixtures | .program | .timeout | .hostname => device := by
    rw [Setting.partOf, hparts]
    cases x
    case logLevel | logFormat => exact (eq_of_getD hlogging).symm
    case color => exact (eq_of_getD houtput).symm
    all_goals exact (eq_of_getD hdevice).symm
  rw [Setting.assigned?, hpart]
  cases x
  case logLevel => exact eq_of_getD hlogLevel
  case logFormat => exact eq_of_getD hlogFormat
  case platform => exact eq_of_getD hplatform
  case session => exact eq_of_getD hsession
  case fixtures => exact eq_of_getD hfixtures
  case program => exact eq_of_getD hprogram
  case timeout => exact eq_of_getD htimeout
  case hostname => exact eq_of_getD hhostname
  case color => exact eq_of_getD hcolor

/-! ### Two settings on top of each other -/

/-- **One rule for all settings.** The upper value counts unless it is the default. -/
theorem get_overlay (lower upper : Settings) (x : Setting) :
    x.get (lower.overlay upper) = unlessDefault x.initial (x.get lower) (x.get upper) := by
  have hoption : ∀ {α : Type} [DecidableEq α] (l u : Option α),
      u.or l = unlessDefault none l u := by
    intro α _ l u
    cases u with
    | none => rw [unlessDefault_self, Option.none_or]
    | some a => rw [unlessDefault, if_neg (Option.some_ne_none a), Option.some_or]
  have hcolor : ∀ l u : Bool, (l && u) = unlessDefault true l u := by decide
  cases x
  -- a missing value is the default of these settings
  case logLevel | fixtures | program | hostname => exact hoption _ _
  case color => exact hcolor _ _
  all_goals rfl

/-! ### Files -/

/-- The document in a file. -/
def documentIn? (e : Environment) (name : Text) : Option Document :=
  (e.read name).toOption.bind (Format.ofSettingsFile name).read?

/-- The value that a file assigns to a setting. -/
def assignedIn? (e : Environment) (x : Setting) (name : Text) : Option x.Value :=
  (documentIn? e name).bind x.assigned?

variable {e : Environment} {name : Text} {s : Settings}

/-- A file that is not there assigns nothing. -/
theorem assignedIn?_of_missing (h : e.hasFile name = false) (x : Setting) :
    assignedIn? e x name = none := by
  unfold Environment.hasFile at h
  unfold assignedIn? documentIn? Environment.read
  split at h
  · cases h
  · cases h
  · rfl
  · rfl

/-- Settings of a file have the values that it assigns, and else their defaults. -/
theorem get_ofFile (h : ofFile e name = .ok s) (x : Setting) :
    x.get s = (assignedIn? e x name).getD x.initial := by
  rw [ofFile] at h
  -- of the ways through the reader, one ends with settings: the file is there, and its document is
  -- read
  split at h
  · cases h
  · next t ht =>
    split at h
    · cases h
    · next hdecode =>
      cases h
      rw [Format.decode] at hdecode
      split at hdecode
      · cases hdecode
      · next d hd =>
        split at hdecode
        · next hs =>
          cases hdecode
          have hdocument : documentIn? e name = some d := by
            rw [documentIn?, ht]
            exact hd
          rw [assignedIn?, hdocument]
          exact get_ofDocument hs x
        · cases hdecode

/-- The value of a setting after the values of some files, in order, were put on top of `lower`: the
last one that is not the default. -/
def lastChange {α : Type} [DecidableEq α] (initial lower : α) (values : List α) : α :=
  ((values.filter (· ≠ initial)).getLast?).getD lower

/-- The first value counts below the others, unless it is the default. -/
theorem lastChange_cons {α : Type} [DecidableEq α] (initial lower v : α) (values : List α) :
    lastChange initial lower (v :: values)
      = lastChange initial (unlessDefault initial lower v) values := by
  unfold lastChange unlessDefault
  by_cases h : v = initial
  · rw [if_pos h, List.filter_cons_of_neg (by simpa using h)]
  · rw [if_neg h, List.filter_cons_of_pos (by simpa using h), List.getLast?_cons, Option.getD_some]

/-- **Files over settings.** Every setting has the last value that a file assigns to it other than
the default, and what it was before if there is none. -/
theorem get_ofFiles {names : List Text} {lower : Settings} (h : ofFiles e lower names = .ok s)
    (x : Setting) :
    x.get s = lastChange x.initial (x.get lower) (names.filterMap (assignedIn? e x)) := by
  -- over any lower settings, as each file is put on top of those before it
  induction names generalizing lower with
  | nil =>
    cases h
    rfl
  | cons name names ih =>
    rw [ofFiles] at h
    split at h
    · split at h
      · cases h
      · next upper hupper =>
        -- a file that assigns nothing to the setting counts as if it assigned the default
        have hget := get_ofFile hupper x
        rw [ih h, get_overlay, List.filterMap_cons]
        cases hassigned : assignedIn? e x name with
        | none =>
          rw [hassigned, Option.getD_none] at hget
          rw [hget, unlessDefault_self]
        | some v =>
          rw [hassigned, Option.getD_some] at hget
          rw [hget]
          exact (lastChange_cons _ _ _ _).symm
    · next hmissing =>
      rw [Bool.not_eq_true] at hmissing
      rw [List.filterMap_cons, assignedIn?_of_missing hmissing]
      exact ih h

/-- The files that are there hold settings. -/
def ValidFiles (e : Environment) (names : List Text) : Prop :=
  ∀ name ∈ names, e.hasFile name = true → ∃ s, ofFile e name = .ok s

instance (names : List Text) : Decidable (ValidFiles e names) :=
  decidable_of_iff (∀ name ∈ names, e.hasFile name = true → (ofFile e name).toOption.isSome = true)
    (forall₂_congr fun name _ => imp_congr_right fun _ => by
      cases ofFile e name <;> simp [Except.toOption])

/-- Files can be put on top of each other exactly if all of them that are there hold settings. -/
theorem exists_ofFiles_iff {names : List Text} {lower : Settings} :
    (∃ s, ofFiles e lower names = .ok s) ↔ ValidFiles e names := by
  -- on the files, for every settings that they are put on top of
  induction names generalizing lower with
  | nil => exact ⟨fun _ _ hname => absurd hname List.not_mem_nil, fun _ => ⟨lower, rfl⟩⟩
  | cons name names ih =>
    have hcons : ValidFiles e (name :: names) ↔
        (e.hasFile name = true → ∃ s, ofFile e name = .ok s) ∧ ValidFiles e names :=
      List.forall_mem_cons
    rw [ofFiles, hcons]
    split
    · next hthere =>
      cases hupper : ofFile e name with
      | error fault => simp [hthere]
      | ok upper => simpa [hthere] using ih
    · next hmissing => simpa [hmissing] using ih

/-- **Later changes win.** If all files that are there hold settings, their settings are put
together. Every setting has the value of the last file that assigns it one other than its default,
and the default if no file does. From the standard files, these are the settings of a run, but for
its variables. -/
theorem ofFiles_gives_last_change {names : List Text} (h : ValidFiles e names) :
    ∃ s, ofFiles e default names = .ok s ∧
      (∀ x : Setting, x.get s
        = (((names.filterMap (assignedIn? e x)).filter (· ≠ x.initial)).getLast?).getD x.initial) ∧
      (names = standardFiles e → load e none = .ok (withVariables e s)) := by
  obtain ⟨s, hs⟩ := exists_ofFiles_iff.mpr h
  refine ⟨s, hs, get_ofFiles hs, ?_⟩
  rintro rfl
  rw [load, hs]
  rfl

/-- An environment with the settings file of a user and that of a project. -/
def userAndProject (user project : Text) : Environment :=
  .ofFiles "/home/me" [(".config/cli-units/config.toml", user), ("cli-units.toml", project)]
    [("HOME", "/home/me")]

/-- The project's platform counts; the user's timeout stays. -/
theorem project_platform_over_user :
    let e := userAndProject "[device]\nplatform = \"huawei\"\ntimeout = 5\n"
      "[device]\nplatform = \"cisco_ios\"\n"
    ValidFiles e (standardFiles e) ∧
      ∃ s, ofFiles e default (standardFiles e) = .ok s ∧ s.platform = .ciscoIos ∧
        s.timeout = 5 := by
  intro e
  have hvalid : ValidFiles e (standardFiles e) := by decide +kernel
  obtain ⟨s, hs, hget, -⟩ := ofFiles_gives_last_change hvalid
  exact ⟨hvalid, s, hs, (hget .platform).trans (by decide +kernel),
    (hget .timeout).trans (by decide +kernel)⟩

/-- A project that assigns the default platform does not take back the user's. -/
theorem default_not_restored :
    let e := userAndProject "[device]\nplatform = \"huawei\"\n"
      "[device]\nplatform = \"generic\"\n"
    ValidFiles e (standardFiles e) ∧
      ((standardFiles e).filterMap (assignedIn? e .platform)).getLast? = some Platform.generic ∧
      (ofFiles e default (standardFiles e)).toOption.map (·.platform) = some .huawei := by
  intro e
  decide +kernel

end Settings

end VendorCli
