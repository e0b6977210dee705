import VendorCli.Bgp
import VendorCli.Proofs.Template.Printing
/-!
# What the command templates render

The platforms that negate with `no` take their commands from templates. A template is read into
statements that only print, so its commands can be told without it:

* `Interfaces.templateCommands_eq`: the template of an interface has the lines of
  `directCommands "no"`, as commands. Rendering never fails, whatever the records are;
* `Bgp.commands_eq`: the template of the BGP process has a line with the number of its autonomous
  system and the line that its router identifier needs.

Reading a template is a computation on fixed text. It is done in two steps, first to tokens and then
to statements.
-/

namespace VendorCli

open Template

section Reading

/-- The tokens of a field of a record. -/
private def memberTokens (record field : Text) : List Token :=
  [.name record, .symbol .dot, .name field]

/-- The tokens of the tag that prints the line for a setting. -/
private def updateTokens (field change removal : Text) : List Token :=
  [.valueStart, .name "update", .symbol .parenOpen] ++ memberTokens "before" field
    ++ [.symbol .comma] ++ memberTokens "data" field
    ++ [.symbol .comma, .literal change, .symbol .tilde] ++ memberTokens "data" field
    ++ [.symbol .comma, .literal removal, .symbol .parenClose, .valueEnd]

/-- A template whose tokens are known is read from these. -/
private theorem read_of_tokens {source : Text} {tokens : List Token} {body : List Stmt}
    (htokens : Token.ofText source = tokens)
    (hbody : Reader.statements (16 * (tokens.length + 1)) [] tokens = .ok (body, [])) :
    Template.read source = .ok body := by
  subst htokens
  show (Reader.statements (16 * ((Token.ofText source).length + 1)) [] (Token.ofText source)
    >>= fun r => .ok r.1) = _
  rw [hbody]
  rfl

end Reading

/-! ### The template of an interface -/

namespace Interfaces

section Statements

/-- The tokens of the template. -/
private def commandTokens : List Token :=
  [.data "interface ", .valueStart] ++ memberTokens "data" "name" ++ [.valueEnd, .data "\n"]
    ++ updateTokens "description" "description " "no description" ++ [.data "\n"]
    ++ updateTokens "mtu" "mtu " "no mtu" ++ [.data "\n"]
    ++ [.statementStart, .name "if", .name "before", .name "is", .name "not", .name "defined",
      .name "or"]
    ++ memberTokens "before" "enabled" ++ [.symbol .notEqual] ++ memberTokens "data" "enabled"
    ++ [.statementEnd, .statementStart, .name "if"] ++ memberTokens "data" "enabled"
    ++ [.statementEnd, .data "no shutdown", .statementStart, .name "else", .statementEnd,
      .data "shutdown", .statementStart, .name "endif", .statementEnd,
      .statementStart, .name "endif", .statementEnd]

/-- A field of the record before a change. -/
private def beforeField (field : Text) : Expr := .member (.var "before") field

/-- A field of the record after a change. -/
private def dataField (field : Text) : Expr := .member (.var "data") field

/-- The condition under which the admin state is written. -/
private def adminCondition : Expr :=
  .binary .or (.unary .not (.test "defined" (.var "before") []))
    (.binary .notEqual (beforeField "enabled") (dataField "enabled"))

/-- The statement of the line for the admin state, where it is written. -/
private def adminStatement : Stmt :=
  .branch (dataField "enabled") [.text "no shutdown"] [.text "shutdown"]

/-- The statements of the template. -/
private def commandProgram : List Stmt :=
  [.text "interface ", .print (dataField "name"), .text "\n",
   updateStatement "description" "description " "no description", .text "\n",
   updateStatement "mtu" "mtu " "no mtu", .text "\n",
   .branch adminCondition [adminStatement] []]

set_option maxRecDepth 20000 in
/-- The text of the template is these tokens. Both sides are closed, so this is computed. -/
private theorem tokens_commandTemplate : Token.ofText commandTemplate = commandTokens := by
  decide +kernel

/-- These tokens are read as these statements. -/
private theorem statements_commandTokens :
    Reader.statements (16 * (commandTokens.length + 1)) [] commandTokens
      = .ok (commandProgram, []) := by
  rfl

/-- Read in both steps, the template is a list of statements that only print. -/
private theorem read_commandTemplate : Template.read commandTemplate = .ok commandProgram :=
  read_of_tokens tokens_commandTemplate statements_commandTokens

end Statements

/-! ### The fields of a record -/

section Fields

/-- The name of a record, as a template sees it. -/
theorem member_name (i : Interface) :
    Value.member (Value.ofJson i.toJson) "name" = .ofText i.name := by
  obtain ⟨name, kind, description, mtu, enabled⟩ := i
  cases description <;> cases mtu <;> rfl

/-- The description of a record, undefined if there is none. -/
theorem member_description (i : Interface) :
    Value.member (Value.ofJson i.toJson) "description" = settingValue .ofText i.description := by
  obtain ⟨name, kind, description, mtu, enabled⟩ := i
  cases description <;> cases mtu <;> rfl

/-- The value of an MTU. -/
def mtuValue (m : UInt16) : Value := .integer m.toNat

/-- The MTU of a record, undefined if there is none. -/
theorem member_mtu (i : Interface) :
    Value.member (Value.ofJson i.toJson) "mtu" = settingValue mtuValue i.mtu := by
  obtain ⟨name, kind, description, mtu, enabled⟩ := i
  cases description <;> cases mtu <;> rfl

/-- The admin state of a record, as a template sees it. -/
theorem member_enabled (i : Interface) :
    Value.member (Value.ofJson i.toJson) "enabled" = .bool i.enabled := by
  obtain ⟨name, kind, description, mtu, enabled⟩ := i
  cases description <;> cases mtu <;> rfl

theorem same_ofText (s t : Text) : Value.same (.ofText s) (.ofText t) = decide (s = t) := rfl

/-- Sizes are compared as integers of many bits, in which they are exact. -/
theorem same_mtuValue (m n : UInt16) : Value.same (mtuValue m) (mtuValue n) = decide (m = n) := by
  have h : Value.same (mtuValue m) (mtuValue n) = decide ((m.toNat : Int) = n.toNat) := by
    -- sixteen bits are far within the range of the integers of a template
    have hwide : ∀ k : UInt16, Value.isWide k.toNat = true := by
      intro k
      have := k.toNat_lt
      rw [Value.isWide, Decimal.isSigned, Bool.and_eq_true, decide_eq_true_eq, decide_eq_true_eq]
      constructor <;> unfold Decimal.maxSigned128 <;> omega
    simp [mtuValue, Value.same, Value.operands?, Value.asInt?, hwide]
  rw [h, decide_eq_decide]
  constructor
  · intro hmn
    exact UInt16.toNat_inj.mp (by exact_mod_cast hmn)
  · rintro rfl
    rfl

theorem same_bool (a b : Bool) : Value.same (.bool a) (.bool b) = decide (a = b) := by
  cases a <;> cases b <;> rfl

end Fields

/-! ### Rendering -/

section Rendering

variable (before : Option Interface) (after : Interface)

/-- A field of the record before a change, as a setting. -/
private theorem member_beforeValue {α : Type} {encode : α → Value} {field : Text}
    {setting : Interface → Option α}
    (hfield : ∀ i : Interface, Value.member (Value.ofJson i.toJson) field
      = settingValue encode (setting i)) :
    Value.member (beforeValue (before.map Interface.toJson)) field
      = settingValue encode (earlier before setting) := by
  cases before with
  | none => rfl
  | some i => exact hfield i

/-- The admin state is written unless it is that of the record before. -/
private theorem eval_adminCondition :
    Expr.eval (changeScope (before.map Interface.toJson) after.toJson) adminCondition
      = .ok (.bool (!decide (before.map Interface.enabled = some after.enabled))) := by
  cases before with
  | none => rfl
  | some i =>
    have hb := eval_member (eval_before (some i.toJson) after.toJson) "enabled"
    have ha := eval_member (eval_data (some i.toJson) after.toJson) "enabled"
    rw [show beforeValue (some i.toJson) = Value.ofJson i.toJson from rfl, member_enabled] at hb
    rw [member_enabled] at ha
    have hnot : Expr.eval (changeScope (some i.toJson) after.toJson)
        (.unary .not (.test "defined" (.var "before") [])) = .ok (.bool false) := rfl
    have hne : Expr.eval (changeScope (some i.toJson) after.toJson)
        (.binary .notEqual (beforeField "enabled") (dataField "enabled"))
          = .ok (.bool (!decide (i.enabled = after.enabled))) := by
      rw [Expr.eval, beforeField, hb, dataField, ha]
      show Except.ok (Value.bool (!Value.same _ _)) = _
      rw [same_bool]
    rw [adminCondition, Option.map_some, Expr.eval, hnot, hne]
    simp only [Option.map_some, Option.some.injEq]
    rfl

/-- The text for an admin state. -/
private def adminText (enabled : Bool) : Text :=
  if enabled then "no shutdown" else "shutdown"

/-- What the branch prints: nothing, or the line for the admin state. -/
private theorem prints_adminState :
    Prints (before.map Interface.toJson) after.toJson (.branch adminCondition [adminStatement] [])
      (if before.map Interface.enabled = some after.enabled then [] else adminText after.enabled)
    := by
  have hcond := eval_adminCondition before after
  have ha := eval_member (eval_data (before.map Interface.toJson) after.toJson) "enabled"
  rw [member_enabled] at ha
  have hstate : Prints (before.map Interface.toJson) after.toJson adminStatement
      (adminText after.enabled) := by
    have hprinted : List.Forall₂ (Prints (before.map Interface.toJson) after.toJson)
        (if (Value.bool after.enabled).isTrue then [.text "no shutdown"] else [.text "shutdown"])
        [adminText after.enabled] := by
      cases after.enabled <;> exact .cons (prints_text _) .nil
    have h := prints_branch ha hprinted
    rwa [List.flatten_singleton] at h
  split
  · -- the condition is false, and the other branch is empty
    next hsame =>
    have hnothing : List.Forall₂ (Prints (before.map Interface.toJson) after.toJson)
        (if (Value.bool (!decide (before.map Interface.enabled = some after.enabled))).isTrue
          then [adminStatement] else []) [] := by
      rw [if_neg (by simp [Value.isTrue, hsame])]
      exact .nil
    exact prints_branch hcond hnothing
  · -- the condition is true, and the statement prints one of the two texts
    next hsame =>
    rw [← List.flatten_singleton (l := adminText after.enabled)]
    refine prints_branch hcond ?_
    rw [if_pos (by simp [Value.isTrue, hsame])]
    exact .cons hstate .nil

/-- **The template of an interface** has the lines that `directCommands` lists, as commands. -/
theorem templateCommands_eq :
    templateCommands before after
      = .ok ((directCommands "no" before after).flatMap commandLines) := by
  -- statement by statement, as the template has them
  have hname := eval_member (eval_data (before.map Interface.toJson) after.toJson) "name"
  rw [member_name] at hname
  have hrender := render_of_prints read_commandTemplate <|
    .cons (prints_text "interface ") <| .cons (prints_print hname) <| .cons (prints_text "\n") <|
    .cons (prints_updateStatement (member_beforeValue before member_description)
      (member_description after) "description " "no description") <|
    .cons (prints_text "\n") <|
    .cons (prints_updateStatement (member_beforeValue before member_mtu) (member_mtu after)
      "mtu " "no mtu") <|
    .cons (prints_text "\n") <|
    .cons (prints_adminState before after) .nil
  -- the statements that print a setting end with a line feed, so the commands are those of each
  have hfeed : ∀ s t : Text, commandLines (s ++ (("\n" : Text) ++ t))
      = commandLines s ++ commandLines t := commandLines_append_cons
  have hadmin : commandLines (if before.map Interface.enabled = some after.enabled then []
        else adminText after.enabled)
      = (if before.map Interface.enabled = some after.enabled then []
          else if after.enabled then [("no shutdown" : Text)]
          else ["shutdown"]).flatMap commandLines := by
    cases after.enabled <;> split <;> simp [adminText]
  rw [templateCommands, renderedLines, hrender]
  refine congrArg Except.ok ?_
  simp only [List.flatten_cons, List.flatten_nil, List.append_nil]
  rw [← List.append_assoc, hfeed, hfeed, hfeed,
    commandLines_updateText (fun _ => rfl) same_ofText,
    commandLines_updateText (fun _ => rfl) same_mtuValue, hadmin, directCommands,
    List.flatMap_append, List.flatMap_append, List.flatMap_append, List.flatMap_singleton,
    List.append_assoc, List.append_assoc]
  rfl

end Rendering

end Interfaces

/-! ### The template of the BGP process -/

namespace Bgp

/-- The tokens of the template. -/
private def commandTokens : List Token :=
  [.data "router bgp ", .valueStart, .name "data", .symbol .bracketOpen, .literal "as",
    .symbol .bracketClose, .valueEnd, .data "\n"]
    ++ updateTokens "router_id" "bgp router-id " "no bgp router-id"

/-- The statements of the template. -/
private def commandProgram : List Stmt :=
  [.text "router bgp ", .print (.item (.var "data") (.const (.ofText "as"))), .text "\n",
   updateStatement "router_id" "bgp router-id " "no bgp router-id"]

set_option maxRecDepth 20000 in
/-- The text of the template is these tokens. Both sides are closed, so this is computed. -/
private theorem tokens_commandTemplate : Token.ofText commandTemplate = commandTokens := by
  decide +kernel

/-- These tokens are read as these statements. -/
private theorem statements_commandTokens :
    Reader.statements (16 * (commandTokens.length + 1)) [] commandTokens
      = .ok (commandProgram, []) := by
  rfl

/-- Read in both steps, the template is a list of statements that only print. -/
private theorem read_commandTemplate : Template.read commandTemplate = .ok commandProgram :=
  read_of_tokens tokens_commandTemplate statements_commandTokens

/-- The router identifier of a process, undefined if there is none. -/
theorem member_routerId (b : BgpGlobal) :
    Value.member (Value.ofJson b.toJson) "router_id"
      = settingValue .ofText (b.routerId.map Ipv4.toText) := by
  obtain ⟨system, routerId⟩ := b
  cases routerId <;> rfl

/-- The number of the system, by its key instead of its field. -/
theorem item_system (b : BgpGlobal) :
    Value.item (Value.ofJson b.toJson) (.ofText "as") = .integer b.system.toNat := by
  obtain ⟨system, routerId⟩ := b
  cases routerId <;> rfl

/-- **The template of the process** has a line for the process and the line that its router
identifier needs, as commands. -/
theorem commands_eq (before : Option BgpGlobal) (after : BgpGlobal) :
    commands before after
      = .ok ((["router bgp " ++ Decimal.digitsOf after.system.toNat]
          ++ Interfaces.settingLines (before.bind fun b => b.routerId.map Ipv4.toText)
            (after.routerId.map Ipv4.toText) ("bgp router-id " ++ ·)
            "no bgp router-id").flatMap commandLines) := by
  -- the key is a reserved word, so the template asks for it as an item
  have hsystem : Expr.eval (changeScope (before.map BgpGlobal.toJson) after.toJson)
      (.item (.var "data") (.const (.ofText "as"))) = .ok (.integer after.system.toNat) := by
    rw [Expr.eval, eval_data]
    show Except.ok (Value.item _ _) = _
    rw [item_system]
  have hbefore : Value.member (beforeValue (before.map BgpGlobal.toJson)) "router_id"
      = settingValue .ofText (before.bind fun b => b.routerId.map Ipv4.toText) := by
    cases before with
    | none => rfl
    | some b => exact member_routerId b
  have hrender := render_of_prints read_commandTemplate <|
    .cons (prints_text "router bgp ") <| .cons (prints_print hsystem) <|
    .cons (prints_text "\n") <|
    .cons (prints_updateStatement hbefore (member_routerId after) "bgp router-id "
      "no bgp router-id") .nil
  have hfeed : ∀ s t : Text, commandLines (s ++ (("\n" : Text) ++ t))
      = commandLines s ++ commandLines t := commandLines_append_cons
  rw [commands, Interfaces.renderedLines, hrender]
  refine congrArg Except.ok ?_
  simp only [List.flatten_cons, List.flatten_nil, List.append_nil]
  rw [← List.append_assoc, hfeed, commandLines_updateText (fun _ => rfl) Interfaces.same_ofText,
    List.flatMap_append, List.flatMap_singleton]
  rfl

end Bgp

end VendorCli
