import VendorCli.Document.Format
import VendorCli.Platform
import VendorCli.Session.Program
/-!
# Settings

What is set for a run rather than said on its command line. A settings file assigns any of the
settings, and the others have their defaults (`Settings.ofDocument`). Two settings are put on top of
each other by `Settings.overlay`: what the upper one leaves at its default is taken from the lower
one.
-/

namespace VendorCli

/-- The form of log lines. -/
inductive LogFormat where
  | text
  | json
deriving DecidableEq, Repr

/-- How commands reach the device. -/
inductive SessionKind where
  /-- Answers come from a file of captured output. -/
  | replay
  /-- A program is run for each command. -/
  | program
deriving DecidableEq, Repr

/-- What is set for a run. -/
structure Settings where
  logLevel : Option Text
  logFormat : LogFormat
  platform : Platform
  session : SessionKind
  /-- The file of captured output. -/
  fixtures : Option Text
  /-- The program line. -/
  program : Option Text
  /-- How many seconds a command may take. -/
  timeout : Nat
  hostname : Option Text
  /-- Whether output may be in color. -/
  color : Bool
deriving DecidableEq, Repr

namespace Settings

/-- The settings of a run for which nothing is set. -/
def default : Settings where
  logLevel := none
  logFormat := .text
  platform := .generic
  session := .replay
  fixtures := none
  program := none
  timeout := Program.defaultTimeout
  hostname := none
  color := true

/-! ### Settings files -/

/-- A text that may be missing. -/
def optionalText (d : Document) : Decoded (Option Text) :=
  d.toOption Document.toText

/-- The form of log lines that a document names. -/
def logFormatOf (d : Document) : Decoded LogFormat :=
  d.toVariant [("text", .text), ("json", .json)]

/-- The kind of session that a document names. -/
def sessionKindOf (d : Document) : Decoded SessionKind :=
  d.toVariant [("replay", .replay), ("process", .program)]

/-- A number of seconds. -/
def secondsOf (d : Document) : Decoded Nat :=
  d.toNat Decimal.max64 "u64"

/-- The settings about log lines. -/
def loggingShape : Shape where
  name := "Logging"
  fields := [.optionally "level" optionalText, .optionally "format" logFormatOf]

/-- The settings about the device. -/
def deviceShape : Shape where
  name := "Device"
  fields :=
    [.optionally "platform" Platform.ofDocument, .optionally "session" sessionKindOf,
     .optionally "fixtures" optionalText, .optionally "program" optionalText,
     .optionally "timeout" secondsOf, .optionally "hostname" optionalText]

/-- The settings about output. -/
def outputShape : Shape where
  name := "Output"
  fields := [.optionally "color" Document.toBool]

/-- All settings. -/
def shape : Shape where
  name := "Settings"
  fields :=
    [.optionally "logging" loggingShape.select, .optionally "device" deviceShape.select,
     .optionally "output" outputShape.select]

/-- The settings that a document assigns, over the defaults. -/
def ofDocument (d : Document) : Decoded Settings := do
  let sections ← shape.select d
  let logging ← sections.getD "logging" loggingShape.select []
  let device ← sections.getD "device" deviceShape.select []
  let output ← sections.getD "output" outputShape.select []
  let logLevel ← logging.getD "level" optionalText default.logLevel
  let logFormat ← logging.getD "format" logFormatOf default.logFormat
  let platform ← device.getD "platform" Platform.ofDocument default.platform
  let session ← device.getD "session" sessionKindOf default.session
  let fixtures ← device.getD "fixtures" optionalText default.fixtures
  let program ← device.getD "program" optionalText default.program
  let timeout ← device.getD "timeout" secondsOf default.timeout
  let hostname ← device.getD "hostname" optionalText default.hostname
  let color ← output.getD "color" Document.toBool default.color
  return { logLevel, logFormat, platform, session, fixtures, program, timeout, hostname, color }

/-! ### Settings on top of each other -/

/-- The upper one of two values, unless it is the default. -/
def unlessDefault {α : Type} [DecidableEq α] (initial lower upper : α) : α :=
  if upper = initial then lower else upper

@[simp] theorem unlessDefault_initial {α : Type} [DecidableEq α] (initial upper : α) :
    unlessDefault initial initial upper = upper := by
  unfold unlessDefault
  by_cases h : upper = initial <;> simp [h]

@[simp] theorem unlessDefault_self {α : Type} [DecidableEq α] (initial lower : α) :
    unlessDefault initial lower initial = lower := by
  simp [unlessDefault]

/-- The settings `upper` on top of `lower`. Color has to be allowed by both. -/
def overlay (lower upper : Settings) : Settings where
  logLevel := upper.logLevel.or lower.logLevel
  logFormat := unlessDefault default.logFormat lower.logFormat upper.logFormat
  platform := unlessDefault default.platform lower.platform upper.platform
  session := unlessDefault default.session lower.session upper.session
  fixtures := upper.fixtures.or lower.fixtures
  program := upper.program.or lower.program
  timeout := unlessDefault default.timeout lower.timeout upper.timeout
  hostname := upper.hostname.or lower.hostname
  color := lower.color && upper.color

/-- Settings that leave everything at its default change nothing. -/
@[simp] theorem overlay_default (s : Settings) : s.overlay default = s := by
  cases s
  simp [overlay, default]

/-- On top of the defaults, settings are what they are. -/
@[simp] theorem default_overlay (s : Settings) : default.overlay s = s := by
  cases s
  simp [overlay, default]

end Settings

end VendorCli
