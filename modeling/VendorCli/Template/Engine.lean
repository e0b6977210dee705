import VendorCli.Error
import VendorCli.Template.Reader
import VendorCli.Template.Render
/-!
# Template engines

An engine holds named templates, each read when it is added, and renders them or a template that is
given as text. A template without a name goes by `<inline>` in messages.

* `Engine.render` and `Engine.renderNamed` give the text;
* `commandLines` are the commands in it: its lines, trimmed, without the blank ones.
-/

namespace VendorCli.Template

/-- Whether a text has a tag in it that prints or does something. -/
def isTemplate (t : Text) : Bool :=
  Text.occursIn ['\x7b', '\x7b'] t || Text.occursIn ['\x7b', '%'] t

/-- The lines of a text, trimmed, without the blank ones. -/
def commandLines (t : Text) : List Text :=
  ((Text.lines t).map Text.trim).filter (· ≠ [])

/-- Named templates, sorted by name. -/
structure Engine where
  templates : List (Text × List Stmt)

namespace Engine

/-- An engine without templates. -/
def empty : Engine := ⟨[]⟩

/-- The name of a template that is given as text. -/
def inlineName : Text := "<inline>"

/-- How deeply templates can include each other. -/
def depthLimit : Nat := 50

/-- The names of the templates, sorted. -/
def names (e : Engine) : List Text :=
  e.templates.map (·.1)

/-- Add a template, in the place of one of the same name. -/
def add (e : Engine) (name source : Text) : Except Error Engine :=
  match read source with
  | .ok body => .ok ⟨insertSorted name body e.templates⟩
  | .error _ => .error (.templateSyntax name "malformed template")

/-- Carry out the statements of a template. -/
def runFrom (e : Engine) (given : Value) :
    Nat → Mode → List Stmt → State → Except RenderFault State
  | 0, _, _, _ => .error .tooDeep
  | depth + 1, mode, body, s =>
    let insert? (name : Text) (s : State) : Except RenderFault (Option State) :=
      match lookup? name e.templates with
      | none => .ok none
      | some body =>
        -- A template that is inserted prints in the mode of its own name.
        match e.runFrom given depth (Mode.ofName name) body s with
        | .ok s => .ok (some s)
        | .error _ => .error (.included name)
    Stmt.runAll ⟨given, mode, mode, insert?⟩ body s

/-- What the statements of a template print, given a value with its variables. -/
def output (e : Engine) (mode : Mode) (body : List Stmt) (given : Json) :
    Except RenderFault Text :=
  (e.runFrom (Value.ofJson given) depthLimit mode body State.start).map State.output

/-- Render a template that is given as text. -/
def render (e : Engine) (source : Text) (given : Json) : Except Error Text :=
  match read source with
  | .error .grammar => .error (.templateSyntax inlineName "malformed template")
  | .error .escape => .error (.templateRender inlineName RenderFault.badEscape.message)
  | .ok body =>
    match e.output .plain body given with
    | .ok t => .ok t
    | .error fault => .error (.templateRender inlineName fault.message)

/-- Render a template by its name. -/
def renderNamed (e : Engine) (name : Text) (given : Json) : Except Error Text :=
  match lookup? name e.templates with
  | none => .error (.templateRender name (RenderFault.templateNotFound name).message)
  | some body =>
    match e.output (Mode.ofName name) body given with
    | .ok t => .ok t
    | .error fault => .error (.templateRender name fault.message)

end Engine

end VendorCli.Template
