import VendorCli.Interfaces.Reading
import VendorCli.Template.Engine
/-!
# Writing interfaces

The configuration lines that take an interface from one record to another. Only what differs is
written: a new or changed setting as such, a removed one by the word that negates it. Without a
record before, the admin state is always written, except in statements, where an enabled interface
has nothing to say.

* `templateCommands` renders a template, for the platforms that negate with `no`;
* `directCommands` lists the lines, for those that negate with another word;
* `statementCommands` lists `set` and `delete` statements.
-/

namespace VendorCli.Interfaces

/-! ### Lines by template -/

/-- The template of the commands of an interface. -/
def commandTemplate : Text :=
  "interface \x7b\x7b data.name \x7d\x7d\n"
    ++ "\x7b\x7b update(before.description, data.description, "
    ++ "'description ' ~ data.description, 'no description') \x7d\x7d\n"
    ++ "\x7b\x7b update(before.mtu, data.mtu, 'mtu ' ~ data.mtu, 'no mtu') \x7d\x7d\n"
    ++ "\x7b% if before is not defined or before.enabled != data.enabled %\x7d"
    ++ "\x7b% if data.enabled %\x7dno shutdown\x7b% else %\x7dshutdown\x7b% endif %\x7d"
    ++ "\x7b% endif %\x7d\n"

/-- The variables of a template for the change of a record: `data`, and `before` if there is a
record before. -/
def changeVariables (before : Option Json) (after : Json) : Json :=
  let data : List (Text × Json) := [("data", after)]
  match before with
  | none => Json.ofFields data
  | some v => Json.ofFields (("before", v) :: data)

/-- The lines that a template gives for the change of a record. -/
def renderedLines (template : Text) (before : Option Json) (after : Json) :
    Except Error (List Text) :=
  (Template.Engine.empty.render template (changeVariables before after)).map Template.commandLines

/-- The lines that take an interface from one record to another, by template. -/
def templateCommands (before : Option Interface) (after : Interface) : Except Error (List Text) :=
  renderedLines commandTemplate (before.map Interface.toJson) after.toJson

/-! ### Lines one by one -/

/-- The lines for a setting: `set` of its value if it is new or another one, `removal` if it is no
longer there. -/
def settingLines {α : Type} [DecidableEq α] (before after : Option α) (set : α → Text)
    (removal : Text) : List Text :=
  match before, after with
  | old, some new => if old = some new then [] else [set new]
  | some _, none => [removal]
  | none, none => []

/-- The value of a setting before a change. -/
def earlier {α : Type} (before : Option Interface) (setting : Interface → Option α) : Option α :=
  before.bind setting

/-- The lines that take an interface from one record to another, with `no` as the word that negates
a line. -/
def directCommands (no : Text) (before : Option Interface) (after : Interface) : List Text :=
  ["interface " ++ after.name]
    ++ settingLines (earlier before Interface.description) after.description
        ("description " ++ ·) (no ++ " description")
    ++ settingLines (earlier before Interface.mtu) after.mtu
        (fun n => "mtu " ++ Decimal.digitsOf n.toNat) (no ++ " mtu")
    ++ (if before.map Interface.enabled = some after.enabled then []
        else if after.enabled then [no ++ " shutdown"] else ["shutdown"])

/-! ### Statements -/

/-- The statements that take an interface from one record to another. An interface that comes into
being with nothing to say about it gets a statement of its name alone. -/
def statementCommands (before : Option Interface) (after : Interface) : List Text :=
  let subtree : Text := "interfaces " ++ after.name
  let set (rest : Text) : Text := "set " ++ subtree ++ ' ' :: rest
  let delete (rest : Text) : Text := "delete " ++ subtree ++ ' ' :: rest
  let wasEnabled := (before.map Interface.enabled).getD true
  let lines :=
    settingLines (earlier before Interface.description) after.description
        (fun t => set ("description " ++ quoted t)) (delete "description")
      ++ settingLines (earlier before Interface.mtu) after.mtu
        (fun n => set ("mtu " ++ Decimal.digitsOf n.toNat)) (delete "mtu")
      ++ (match wasEnabled, after.enabled with
        | true, false => [set "disable"]
        | false, true => [delete "disable"]
        | _, _ => [])
  if lines.isEmpty ∧ before.isNone then ["set " ++ subtree] else lines

end VendorCli.Interfaces
