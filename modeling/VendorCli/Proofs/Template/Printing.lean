import VendorCli.Template.Engine
import VendorCli.Interfaces.Writing
import VendorCli.Proofs.Text.Lines
/-!
# Templates that only print

Command templates are made of text, printed expressions and branches. Carrying such statements out
changes nothing but the output, to which each of them adds its own text:

* `Prints` says this of one statement, whatever has been printed before, and `runAll_of_prints` of
  a whole list of them;
* `render_of_prints` turns it into the result of `Engine.render`.

The expressions in command templates ask for the two records of a change. `eval_before` and
`eval_data` give their values, a missing record being undefined, and `eval_update` is the call of
`update` on any four expressions. `commandLines_updateText` says in terms of settings what that call
prints: the lines that `settingLines` lists.
-/

namespace VendorCli.Template

open Text

/-! ### The records of a change -/

/-- The value of the record before a change, undefined if there is none. -/
def beforeValue (before : Option Json) : Value :=
  (before.map Value.ofJson).getD .undefined

/-- Where the expressions of a command template are evaluated: the records of the change are the
only variables. -/
def changeScope (before : Option Json) (after : Json) : Scope :=
  ⟨State.start.frames, Value.ofJson (Interfaces.changeVariables before after)⟩

section Expressions

variable (before : Option Json) (after : Json)

theorem eval_before :
    Expr.eval (changeScope before after) (.var "before") = .ok (beforeValue before) := by
  cases before <;> rfl

theorem eval_data :
    Expr.eval (changeScope before after) (.var "data") = .ok (Value.ofJson after) := by
  cases before <;> rfl

/-- A field of a value is evaluated after the value. -/
theorem eval_member {s : Scope} {e : Expr} {v : Value} (h : e.eval s = .ok v) (name : Text) :
    Expr.eval s (.member e name) = .ok (Value.member v name) := by
  rw [Expr.eval, h]
  rfl

/-- Two values are put together as texts. -/
theorem eval_concat {s : Scope} {l r : Expr} {v w : Value} (hl : l.eval s = .ok v)
    (hr : r.eval s = .ok w) :
    Expr.eval s (.binary .concat l r) = .ok (Value.ofText (v.display ++ w.display)) := by
  rw [Expr.eval, hl, hr]
  cases v.isTrue <;> simp [bind, Except.bind, Value.binary, Value.concat]

/-- **The call of `update`**, on any four expressions. -/
theorem eval_update {e₁ e₂ e₃ e₄ : Expr} {v₁ v₂ v₃ v₄ : Value}
    (h₁ : e₁.eval (changeScope before after) = .ok v₁)
    (h₂ : e₂.eval (changeScope before after) = .ok v₂)
    (h₃ : e₃.eval (changeScope before after) = .ok v₃)
    (h₄ : e₄.eval (changeScope before after) = .ok v₄) :
    Expr.eval (changeScope before after)
        (.call (.var "update") [(none, e₁), (none, e₂), (none, e₃), (none, e₄)])
      = .ok (Value.ofText (Function.updateText v₁ v₂ v₃.display v₄.display)) := by
  -- neither record goes by the name of the function, so the name is found last
  have hfind : (changeScope before after).find? "update" = some (.function "update") := by
    cases before <;> rfl
  rw [Expr.eval, hfind]
  simp only [Expr.evalArguments, h₁, h₂, h₃, h₄]
  rfl

end Expressions

/-! ### Statements -/

section Statements

variable {before : Option Json} {after : Json}

/-- How a command template is carried out for a change; `insert?` is how it would include others. -/
def changeEnv (before : Option Json) (after : Json)
    (insert? : Text → State → Except RenderFault (Option State)) : Env :=
  ⟨Value.ofJson (Interfaces.changeVariables before after), .plain, .plain, insert?⟩

/-- **Printing.** For a change, a statement adds a text to the output and does nothing else. -/
def Prints (before : Option Json) (after : Json) (s : Stmt) (t : Text) : Prop :=
  ∀ insert? out, Stmt.run (changeEnv before after insert?) s ⟨State.start.frames, out⟩
    = .ok ⟨State.start.frames, out ++ t⟩

theorem prints_text (t : Text) : Prints before after (.text t) t := by
  intro insert? out
  rw [Stmt.run, State.print]

/-- In plain mode, what is safe and what is not are written alike. -/
theorem Mode.write_plain (v : Value) : Mode.plain.write v = v.display := by
  cases v <;> first | rfl | (rename_i t safe; cases safe <;> rfl)

/-- A value is printed as it is displayed. -/
theorem prints_print {e : Expr} {v : Value} (h : e.eval (changeScope before after) = .ok v) :
    Prints before after (.print e) v.display := by
  intro insert? out
  rw [Stmt.run, Env.scope]
  show (e.eval (changeScope before after) >>= _) = _
  rw [h]
  show Except.ok (State.print _ (Mode.plain.write v)) = _
  rw [Mode.write_plain, State.print]

/-- Statements that print, print one after the other. -/
theorem runAll_of_prints {body : List Stmt} {ts : List Text}
    (h : List.Forall₂ (Prints before after) body ts)
    (insert? : Text → State → Except RenderFault (Option State)) (out : Text) :
    Stmt.runAll (changeEnv before after insert?) body ⟨State.start.frames, out⟩
      = .ok ⟨State.start.frames, out ++ ts.flatten⟩ := by
  -- on the statements, for whatever has been printed before them
  induction h generalizing out with
  | nil => rw [Stmt.runAll, List.flatten_nil, List.append_nil]
  | cons hs _ ih =>
    rw [Stmt.runAll, hs insert? out]
    show Stmt.runAll (changeEnv before after insert?) _ _ = _
    rw [ih, List.flatten_cons, List.append_assoc]

/-- A branch prints what its statements print, those of the condition. -/
theorem prints_branch {condition : Expr} {v : Value} {yes no : List Stmt} {ts : List Text}
    (hc : condition.eval (changeScope before after) = .ok v)
    (h : List.Forall₂ (Prints before after) (if v.isTrue then yes else no) ts) :
    Prints before after (.branch condition yes no) ts.flatten := by
  intro insert? out
  rw [Stmt.run, Env.scope]
  show (condition.eval (changeScope before after) >>= _) = _
  rw [hc]
  show (if v.isTrue then _ else _) = _
  cases hv : v.isTrue <;> rw [hv] at h <;> exact runAll_of_prints h insert? out

/-- **Rendering.** A template whose statements print some texts renders as these. -/
theorem render_of_prints {source : Text} {body : List Stmt} {ts : List Text}
    (hread : read source = .ok body) (h : List.Forall₂ (Prints before after) body ts) :
    Engine.empty.render source (Interfaces.changeVariables before after) = .ok ts.flatten := by
  rw [Engine.render, hread]
  -- nothing was printed before the first statement
  have hout : Engine.empty.output .plain body (Interfaces.changeVariables before after)
      = .ok ts.flatten := by
    rw [Engine.output, Engine.depthLimit, Engine.runFrom]
    change Except.map State.output
      (Stmt.runAll (changeEnv before after _) body ⟨State.start.frames, []⟩) = _
    rw [runAll_of_prints h]
    rfl
  simp only [hout]

end Statements

/-! ### Settings -/

/-- The value of a setting that may be missing. -/
def settingValue {α : Type} (encode : α → Value) (setting : Option α) : Value :=
  (setting.map encode).getD .undefined

/-- The statement of a template that prints the line for a setting. -/
def updateStatement (field change removal : Text) : Stmt :=
  .print (.call (.var "update")
    [(none, .member (.var "before") field), (none, .member (.var "data") field),
     (none, .binary .concat (.const (.ofText change)) (.member (.var "data") field)),
     (none, .const (.ofText removal))])

/-- The tag for a setting prints what `update` makes of both values. -/
theorem prints_updateStatement {α : Type} {encode : α → Value} {before : Option Json} {after : Json}
    {field : Text} {old new : Option α}
    (hold : Value.member (beforeValue before) field = settingValue encode old)
    (hnew : Value.member (Value.ofJson after) field = settingValue encode new)
    (change removal : Text) :
    Prints before after (updateStatement field change removal)
      (Function.updateText (settingValue encode old) (settingValue encode new)
        (change ++ (settingValue encode new).display) removal) := by
  have hb := eval_member (eval_before before after) field
  have ha := eval_member (eval_data before after) field
  rw [hold] at hb
  rw [hnew] at ha
  have hchange := eval_concat (l := .const (.ofText change)) (v := .ofText change) rfl ha
  have hremoval : Expr.eval (changeScope before after) (.const (.ofText removal))
      = .ok (.ofText removal) := rfl
  have hcall := eval_update before after hb ha hchange hremoval
  exact prints_print hcall

/-- **What `update` prints** for a setting: the commands among the lines that the setting needs. -/
theorem commandLines_updateText {α : Type} [DecidableEq α] {encode : α → Value}
    (hset : ∀ a, (encode a).isUnset = false)
    (hsame : ∀ a b, Value.same (encode a) (encode b) = decide (a = b))
    (old new : Option α) (change removal : Text) :
    commandLines (Function.updateText (settingValue encode old) (settingValue encode new)
        (change ++ (settingValue encode new).display) removal)
      = (Interfaces.settingLines old new (fun a => change ++ (encode a).display)
          removal).flatMap commandLines := by
  -- a missing value is undefined, and nothing that is set is the same as that
  have hundef : ∀ a, Value.same .undefined (encode a) = false := by
    intro a
    have := hset a
    cases h : encode a <;> simp_all [Value.isUnset, Value.same, Value.operands?, Value.asReal?,
      Value.asInt?]
  have hnone : Value.undefined.isUnset = true := rfl
  -- by both values: added, taken away, changed or kept
  cases new with
  | none =>
    cases old with
    | none => simp [Function.updateText, settingValue, hnone, Interfaces.settingLines]
    | some b => simp [Function.updateText, settingValue, hnone, Interfaces.settingLines, hset]
  | some a =>
    cases old with
    | none => simp [Function.updateText, settingValue, Interfaces.settingLines, hset, hundef]
    | some b =>
      by_cases hba : b = a <;>
        simp [Function.updateText, settingValue, Interfaces.settingLines, hset, hsame, hba]

end VendorCli.Template
