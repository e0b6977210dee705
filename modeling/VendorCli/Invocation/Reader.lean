import VendorCli.Error
import VendorCli.Invocation.Basic
/-!
# Reading command lines

A command line has two levels: what stands before the name of the command, and what stands behind
it. Options that every command understands may stand on either level, and then the inner one counts.

On each level an option is written with two hyphens and its name, or with one hyphen and its letter;
letters of options without a value can be written together. The value of an option follows behind an
equals sign, right behind the letter, or as the next word, which then must not look like an option.
Behind two hyphens alone all words are arguments.

The first fault counts, and asking for the version or for help ends the reading at once.
-/

namespace VendorCli

namespace Invocation

/-! ### Options -/

/-- What an option takes. -/
inductive Arity where
  | flag
  | value
deriving DecidableEq, Repr

/-- An option of a command line. -/
structure OptionSpec where
  name : Text
  letter : Option Char
  arity : Arity
  /-- Whether it may be given several times on one level. -/
  repeats : Bool
  /-- Whether a value is acceptable. -/
  accepts : Text → Bool

/-- An option without a value. -/
def flag (name : Text) (letter : Option Char) (repeats : Bool) : OptionSpec :=
  ⟨name, letter, .flag, repeats, fun _ => true⟩

/-- An option with one value. -/
def valued (name : Text) (letter : Option Char) (accepts : Text → Bool) : OptionSpec :=
  ⟨name, letter, .value, false, accepts⟩

/-- Whether a text can be the name of a file. -/
def isFileName (t : Text) : Bool :=
  !t.isEmpty

/-- The options of all commands. -/
def commonOptions : List OptionSpec :=
  [flag "verbose" (some 'v') true, valued "config" (some 'c') isFileName,
   valued "platform" (some 'p') fun t => (Platform.ofText? t).isSome,
   valued "fixtures" none isFileName,
   valued "output" none fun t => (OutputFormat.ofName? t).isSome,
   flag "no-color" none false]

/-- A command as it is written: its options and the checks of its arguments in order. -/
structure CommandSpec where
  name : Text
  options : List OptionSpec
  arguments : List (Text → Bool)

/-- Whether a text is a path. -/
def isPath (t : Text) : Bool :=
  (ConfigPath.parse t).isOk

/-- All commands. -/
def commands : List CommandSpec :=
  [⟨"render", [valued "vars" none isFileName, ⟨"set", none, .value, true, fun _ => true⟩],
      [fun _ => true]⟩,
   ⟨"parse", [], [isFileName, isFileName]⟩,
   ⟨"read", [], [isPath]⟩,
   ⟨"list", [], [isPath]⟩,
   ⟨"write", [valued "before" none isFileName, valued "after" none isFileName,
      flag "check" none false, flag "diff" none false], [isPath]⟩,
   ⟨"units", [flag "long" (some 'l') false], []⟩]

/-! ### Levels -/

/-- What was read on one level. -/
structure Level where
  /-- The options in order, with the value of each; that of a flag is empty. -/
  given : List (Text × Text)
  arguments : List Text
deriving DecidableEq, Repr

namespace Level

/-- Nothing read yet. -/
def empty : Level := ⟨[], []⟩

/-- The values of an option. -/
def values (l : Level) (name : Text) : List Text :=
  (l.given.filter fun nv => nv.1 = name).map (·.2)

/-- The value of an option. -/
def value? (l : Level) (name : Text) : Option Text :=
  (l.values name).head?

/-- Whether an option was given. -/
def has (l : Level) (name : Text) : Bool :=
  !(l.values name).isEmpty

/-- Give an option with a value. -/
def give (l : Level) (o : OptionSpec) (value : Text) : Except Refusal Level :=
  if (l.has o.name && !o.repeats) || !o.accepts value then .error .usage
  else .ok { l with given := l.given ++ [(o.name, value)] }

/-- Add an argument, if there is a place for it and it passes the check there. -/
def argue (l : Level) (checks : List (Text → Bool)) (argument : Text) : Except Refusal Level :=
  match checks.drop l.arguments.length with
  | [] => .error .usage
  | check :: _ =>
    if check argument then .ok { l with arguments := l.arguments ++ [argument] }
    else .error .usage

/-- Add arguments one by one. -/
def argueAll (checks : List (Text → Bool)) : Level → List Text → Except Refusal Level
  | l, [] => .ok l
  | l, argument :: rest => do
    let l ← l.argue checks argument
    argueAll checks l rest

end Level

/-- What a word is. -/
inductive Word where
  /-- Two hyphens alone. -/
  | separator
  /-- A name behind two hyphens, with the value behind an equals sign. -/
  | long (name : Text) (value : Option Text)
  /-- Letters behind a hyphen. -/
  | letters (cs : Text)
  /-- Anything else, a hyphen alone too. -/
  | argument (t : Text)
deriving DecidableEq, Repr

/-- What a word is. -/
def Word.ofText (t : Text) : Word :=
  match t with
  | ['-', '-'] => .separator
  | '-' :: '-' :: rest =>
    match Text.splitOnce? '=' rest with
    | some (name, value) => .long name (some value)
    | none => .long rest none
  | ['-'] => .argument t
  | '-' :: cs => .letters cs
  | _ => .argument t

/-- A command or the whole program, as its level is read. -/
structure Reading where
  /-- The name in messages about the version. -/
  program : Text
  options : List OptionSpec
  arguments : List (Text → Bool)
  /-- The names that end the level. -/
  commandNames : List Text

/-- Letters behind a hyphen, up to one whose option lacks a value: then that option is given
back. -/
def readLetters (r : Reading) : Text → Level → Except Refusal (Level × Option OptionSpec)
  | [], l => .ok (l, none)
  | c :: rest, l =>
    if c = 'V' then .error (.version r.program)
    else if c = 'h' then .error .help
    else match r.options.find? fun o => o.letter = some c with
      | none => .error .usage
      | some o =>
        match o.arity with
        | .flag => do
          let l ← l.give o []
          readLetters r rest l
        | .value =>
          match rest with
          | [] => .ok (l, some o)
          | '=' :: value => (l.give o value).map (·, none)
          | value => (l.give o value).map (·, none)

/-- A name behind two hyphens: an option that lacks a value is given back. -/
def readLong (r : Reading) (name : Text) (value : Option Text) (l : Level) :
    Except Refusal (Level × Option OptionSpec) :=
  if name = ("version" : Text) ∧ value = none then .error (.version r.program)
  else if name = ("help" : Text) ∧ value = none then .error .help
  else match r.options.find? fun o => o.name = name with
    | none => .error .usage
    | some o =>
      match o.arity, value with
      | .flag, some _ => .error .usage
      | .flag, none => (l.give o []).map (·, none)
      | .value, some v => (l.give o v).map (·, none)
      | .value, none => .ok (l, some o)

/-- Read a level, where `pending` is an option that still lacks its value. A name that ends the
level is given back, with the words behind it. -/
def readLevel (r : Reading) :
    List Text → Option OptionSpec → Level → Except Refusal (Level × Option (Text × List Text))
  | [], none, l => .ok (l, none)
  | [], some _, _ => .error .usage
  | t :: rest, some o, l =>
    match Word.ofText t with
    | .argument value => do
      let l ← l.give o value
      readLevel r rest none l
    | _ => .error .usage
  | t :: rest, none, l =>
    match Word.ofText t with
    | .separator => (l.argueAll r.arguments rest).map (·, none)
    | .long name value => do
      let (l, pending) ← readLong r name value l
      readLevel r rest pending l
    | .letters cs => do
      let (l, pending) ← readLetters r cs l
      readLevel r rest pending l
    | .argument argument =>
      if argument ∈ r.commandNames then .ok (l, some (argument, rest))
      else do
        let l ← l.argue r.arguments argument
        readLevel r rest none l

/-! ### Invocations -/

/-- The name of the program. -/
def programName : Text := "cli-units"

/-- The version of the program. -/
def versionNumber : Text := "0.1.0"

/-- The level of the program itself. -/
def programReading : Reading where
  program := programName
  options := commonOptions
  arguments := []
  commandNames := ("help" : Text) :: commands.map (·.name)

/-- The level of a command. -/
def commandReading (c : CommandSpec) : Reading where
  program := programName ++ '-' :: c.name
  options := commonOptions ++ c.options
  arguments := c.arguments
  commandNames := []

/-- The value of a common option: the inner one, or else the outer one. -/
def innermost (outer inner : Level) (name : Text) : Option Text :=
  (inner.value? name).or (outer.value? name)

/-- The options of all commands, where a variable names the settings file `named`. -/
def optionsOf (named : Option Text) (outer inner : Level) : Options where
  verbosity :=
    let count := if inner.has "verbose" then (inner.values "verbose").length
      else (outer.values "verbose").length
    min count 3
  settings := (innermost outer inner "config").or named
  platform := (innermost outer inner "platform").bind Platform.ofText?
  fixtures := innermost outer inner "fixtures"
  format := ((innermost outer inner "output").bind OutputFormat.ofName?).getD .human
  noColor := outer.has "no-color" || inner.has "no-color"

/-- The command of a level, if all its arguments are there. -/
def commandOf? (name : Text) (l : Level) : Option Command :=
  let pathOf (t : Text) : Option ConfigPath := (ConfigPath.parse t).toOption
  match String.ofList name, l.arguments with
  | "render", [template] => some (.render template (l.value? "vars") (l.values "set"))
  | "parse", [rules, output] => some (.parse rules output)
  | "read", [path] => (pathOf path).map .read
  | "list", [path] => (pathOf path).map .list
  | "write", [path] => (pathOf path).map fun p =>
      .write p (l.value? "before") (l.value? "after") (l.has "check") (l.has "diff")
  | "units", [] => some (.units (l.has "long"))
  | _, _ => none

/-- Whether the variable that names the settings file is wrong: empty, and needed on a level. -/
def isNameWrong (named : Option Text) (outer inner : Level) : Bool :=
  named = some [] && !(outer.has "config" && inner.has "config")

/-- What a command line asks for; `named` is the settings file that a variable names. -/
def ofWords (named : Option Text) (words : List Text) : Except Refusal Invocation := do
  let (outer, rest?) ← readLevel programReading words none Level.empty
  match rest? with
  | none => .error .usage
  | some (name, rest) =>
    match commands.find? fun c => c.name = name with
    | none =>
      -- The word was `help`, which takes the names of commands.
      if rest.all fun w => programReading.commandNames.contains w then .error .help
        else .error .usage
    | some c =>
      let (inner, _) ← readLevel (commandReading c) rest none Level.empty
      match commandOf? name inner with
      | none => .error .usage
      | some command =>
        if isNameWrong named outer inner then .error .usage
        else .ok ⟨optionsOf named outer inner, command⟩

end Invocation

end VendorCli
