import VendorCli.Proofs.Interfaces.Blocks
import VendorCli.Proofs.Interfaces.Reading
/-!
# What a device does with the commands of an interface

A device keeps three settings of an interface, and each line of a change sets or removes one of
them. The actions of lines are read off the lines alone, the way the device would read them:

* `actionsOf` reads the lines of a change, all of them about the interface of one name;
* `Executes` says that lines lead from one state to another by actions of some kind only, so that
  the lines of one setting after the other can be put together (`Executes.append`);
* the commands between two records lead from the state that the first tells to the state that the
  second tells, by actions on settings that differ alone (`commands_execute`).

The second record has to come from the reader of the platform. A description that ends with blanks,
as only other records have it, would lose them to trimming where it is not quoted.
-/

namespace VendorCli.Interfaces

open Text

/-! ### States and actions -/

/-- The settings of an interface, as a device keeps them. -/
structure State where
  description : Option Text
  mtu : Option UInt16
  enabled : Bool
deriving DecidableEq, Repr

namespace State

/-- The state of an interface that nothing is configured for. -/
def initial : State := ⟨none, none, true⟩

/-- The state that a record tells. -/
def of (i : Interface) : State := ⟨i.description, i.mtu, i.enabled⟩

/-- The state before a change. -/
def before (i : Option Interface) : State :=
  ⟨earlier i Interface.description, earlier i Interface.mtu, (i.map Interface.enabled).getD true⟩

end State

/-- What a line does to an interface. -/
inductive Action where
  /-- The interface is named, and nothing else. -/
  | mention
  | setDescription (t : Text)
  | removeDescription
  | setMtu (n : UInt16)
  | removeMtu
  | enable
  | disable
deriving DecidableEq, Repr

namespace Action

/-- The state after an action. -/
def apply (s : State) : Action → State
  | mention => s
  | setDescription t => { s with description := some t }
  | removeDescription => { s with description := none }
  | setMtu n => { s with mtu := some n }
  | removeMtu => { s with mtu := none }
  | enable => { s with enabled := true }
  | disable => { s with enabled := false }

/-- Whether the setting that an action is about differs between two states. -/
def Differs (s t : State) : Action → Prop
  | mention => True
  | setDescription _ | removeDescription => s.description ≠ t.description
  | setMtu _ | removeMtu => s.mtu ≠ t.mtu
  | enable | disable => s.enabled ≠ t.enabled

end Action

/-- The state after some actions, from the left. -/
def run (s : State) (actions : List Action) : State :=
  actions.foldl Action.apply s

/-- Whether an action is about a setting that a change of the interface changes. All are, if the
interface was not there before. -/
def Needed (before : Option Interface) (after : Interface) (a : Action) : Prop :=
  ∀ i, before = some i → a.Differs (State.of i) (State.of after)

/-! ### Lines -/

/-- The action of setting an MTU, given its digits. -/
def mtuAction? (digits : Text) : Option Action :=
  (Decimal.nat? Decimal.max16 digits).map fun n => .setMtu (UInt16.ofNat n)

/-- The action of a line below that of an interface, `no` being the word that negates a line. -/
def settingAction? (no line : Text) : Option Action :=
  match dropLead? "description " line, dropLead? "mtu " line with
  | some t, _ => some (.setDescription t)
  | none, some digits => mtuAction? digits
  | none, none =>
    if line = no ++ " description" then some .removeDescription
    else if line = no ++ " mtu" then some .removeMtu
    else if line = no ++ " shutdown" then some .enable
    else if line = "shutdown" then some .disable
    else none

/-- The actions of lines that begin with that of the interface. -/
def sectionActions? (no name : Text) : List Text → Option (List Action)
  | [] => none
  | header :: settings =>
    if header = trim ("interface " ++ name) then settings.mapM (settingAction? no) else none

/-- The action of a statement that sets something, given what follows the name. -/
def setAction? (rest : Text) : Option Action :=
  match dropLead? "description " rest, dropLead? "mtu " rest with
  | some value, _ => some (.setDescription (unquoted value))
  | none, some digits => mtuAction? digits
  | none, none => if rest = "disable" then some .disable else none

/-- The action of a statement that deletes something, given what follows the name. -/
def deleteAction? (rest : Text) : Option Action :=
  if rest = "description" then some .removeDescription
  else if rest = "mtu" then some .removeMtu
  else if rest = "disable" then some .enable
  else none

/-- The action of a statement about an interface. -/
def statementAction? (name line : Text) : Option Action :=
  match dropLead? (statement "set " name []) line, dropLead? (statement "delete " name []) line with
  | some rest, _ => setAction? rest
  | none, some rest => deleteAction? rest
  | none, none => if line = trim ("set " ++ ("interfaces " ++ name)) then some .mention else none

/-- The actions of the lines of a change, if all of them are about the interface of this name.
Blanks around a line count for nothing. -/
def actionsOf (p : Platform) (name : Text) (lines : List Text) : Option (List Action) :=
  match p with
  | .ciscoIos | .ciscoIosXr | .generic => sectionActions? "no" name (lines.map trim)
  | .juniperJunos => (lines.map trim).mapM (statementAction? name)
  | .huawei => sectionActions? "undo" name (lines.map trim)

/-! ### Execution -/

section Execution

variable {action? : Text → Option Action} {allowed : Action → Prop} {s t u : State}

/-- The lines, trimmed, have allowed actions, which lead from one state to another. -/
def Executes (action? : Text → Option Action) (allowed : Action → Prop) (s : State)
    (lines : List Text) (t : State) : Prop :=
  ∃ actions, (lines.map trim).mapM action? = some actions ∧ run s actions = t ∧
    ∀ a ∈ actions, allowed a

namespace Executes

theorem nil (s : State) : Executes action? allowed s [] s :=
  ⟨[], rfl, rfl, by simp⟩

theorem single {line : Text} {a : Action} (h : action? (trim line) = some a) (hrun : a.apply s = t)
    (ha : allowed a) : Executes action? allowed s [line] t :=
  ⟨[a], by simp [h], hrun, by simpa using ha⟩

/-- Lines after lines, from the state that the first ones lead to. -/
theorem append {ls ms : List Text} (h : Executes action? allowed s ls t)
    (h' : Executes action? allowed t ms u) : Executes action? allowed s (ls ++ ms) u := by
  obtain ⟨as, hls, rfl, has⟩ := h
  obtain ⟨bs, hms, rfl, hbs⟩ := h'
  refine ⟨as ++ bs, ?_, List.foldl_append, ?_⟩
  · rw [List.map_append, List.mapM_append, hls, hms]
    rfl
  · intro a ha
    exact (List.mem_append.mp ha).elim (has a) (hbs a)

/-- Without lines, the state stays as it is. -/
theorem eq_of_nil (h : Executes action? allowed s [] t) : s = t := by
  obtain ⟨actions, hnil, rfl, -⟩ := h
  cases hnil
  rfl

/-- **One setting.** It is enough to look at the changes that need a line. -/
theorem settingLines {α : Type} [DecidableEq α] {before after : Option α} {set : α → Text}
    {removal : Text} (same : before = after → s = t)
    (hset : ∀ a, after = some a → before ≠ after → Executes action? allowed s [set a] t)
    (hremoval : after = none → before ≠ after → Executes action? allowed s [removal] t) :
    Executes action? allowed s (Interfaces.settingLines before after set removal) t := by
  unfold Interfaces.settingLines
  split
  · next a =>
    split
    · next h =>
      rw [same h]
      exact .nil t
    · next h => exact hset a rfl h
  · exact hremoval rfl (by simp)
  · rw [same rfl]
    exact .nil t

/-- The line for the admin state. -/
theorem adminLines {unchanged : Prop} [Decidable unchanged] {enabled : Bool} {on off : Text}
    (same : unchanged → s.enabled = enabled) (hon : action? (trim on) = some .enable)
    (hoff : action? (trim off) = some .disable)
    (hallowed : ¬ unchanged → allowed .enable ∧ allowed .disable) :
    Executes action? allowed s (if unchanged then [] else if enabled then [on] else [off])
      { s with enabled } := by
  by_cases h : unchanged
  · rw [if_pos h, ← same h]
    exact .nil s
  · rw [if_neg h]
    cases enabled with
    | true => exact .single hon rfl (hallowed h).1
    | false => exact .single hoff rfl (hallowed h).2

end Executes

end Execution

/-! ### The actions of commands -/

/-- The action read off a written MTU is to set it. -/
theorem mtuAction?_digitsOf (n : UInt16) :
    mtuAction? (Decimal.digitsOf n.toNat) = some (.setMtu n) := by
  have hle : n.toNat ≤ Decimal.max16 := Nat.le_of_lt_succ n.toNat_lt
  rw [mtuAction?, Decimal.nat?_digitsOf hle, Option.map_some, UInt16.ofNat_toNat]

/-- Whether a text ends with a character that is no blank. -/
def Ends (t : Text) : Prop :=
  ∃ s c, t = s ++ [c] ∧ isBlank c = false

/-- A text that ends with no blank still does so after another one. -/
theorem Ends.append {t : Text} (h : Ends t) (s : Text) : Ends (s ++ t) := by
  obtain ⟨u, c, rfl, hc⟩ := h
  exact ⟨s ++ u, c, (List.append_assoc ..).symm, hc⟩

/-- A text with no blank at either end is as it is when trimmed. -/
theorem trim_of_ends {t : Text} (hbegins : Begins t) (hends : Ends t) : trim t = t := by
  refine trim_eq_self (fun c hc => ?_) (fun c hc => ?_)
  · obtain ⟨d, s, rfl, hd⟩ := hbegins
    cases hc
    exact hd
  · obtain ⟨s, d, rfl, hd⟩ := hends
    rw [List.getLast?_concat] at hc
    cases hc
    exact hd

/-- A written number ends with a digit, which is no blank. -/
theorem ends_digitsOf (n : Nat) : Ends (Decimal.digitsOf n) := by
  -- the digits of a number are never none, so there is a last one
  rcases List.eq_nil_or_concat' (Decimal.digitsOf n) with h | ⟨s, c, h⟩
  · exact absurd h (Decimal.digitsOf_ne_nil n)
  · refine ⟨s, c, h, Decimal.not_isBlank_of_isDigit (Decimal.isDigit_of_mem_digitsOf (n := n) ?_)⟩
    simp [h]

/-- A value ends with a quote, or has no blank at all. -/
theorem ends_quoted (t : Text) : Ends (quoted t) := by
  unfold quoted
  split
  · exact ⟨_, '"', rfl, rfl⟩
  · next h =>
    rw [needsQuotes, Bool.or_eq_true, not_or] at h
    obtain ⟨hne, hany⟩ := h
    rcases List.eq_nil_or_concat' t with rfl | ⟨s, c, rfl⟩
    · exact absurd rfl hne
    · simp only [List.any_eq_true, Bool.or_eq_true, not_exists, not_and, not_or] at hany
      exact ⟨s, c, rfl, by simpa using (hany c (by simp)).1.1⟩

/-- **All settings.** If each line has the action that it stands for, the lines for the settings
lead from the state before a change to that of the record, by needed actions alone. The admin state
may be left out only if the states agree in it, and written only if the records do not. -/
theorem executes_settings {action? : Text → Option Action} {before : Option Interface}
    {after : Interface} {describe : Text → Text} {resize : UInt16 → Text}
    {undescribe unsize on off : Text} {unchanged : Prop} [Decidable unchanged]
    (hdescribe : ∀ t, after.description = some t →
      action? (trim (describe t)) = some (.setDescription t))
    (hundescribe : action? (trim undescribe) = some .removeDescription)
    (hresize : ∀ n, action? (trim (resize n)) = some (.setMtu n))
    (hunsize : action? (trim unsize) = some .removeMtu)
    (hon : action? (trim on) = some .enable) (hoff : action? (trim off) = some .disable)
    (hsame : unchanged → (State.before before).enabled = after.enabled)
    (hchanged : ¬ unchanged → before.map Interface.enabled ≠ some after.enabled) :
    Executes action? (Needed before after) (State.before before)
      (settingLines (earlier before Interface.description) after.description describe undescribe
        ++ settingLines (earlier before Interface.mtu) after.mtu resize unsize
        ++ (if unchanged then [] else if after.enabled then [on] else [off]))
      (State.of after) := by
  -- one setting after the other, the states between them having the settings written so far
  have hdescription : Executes action? (Needed before after) (State.before before)
      (settingLines (earlier before Interface.description) after.description describe undescribe)
      ⟨after.description, earlier before Interface.mtu, (State.before before).enabled⟩ := by
    have hneeded : earlier before Interface.description ≠ after.description → ∀ i, before = some i →
        (State.of i).description ≠ (State.of after).description := by
      rintro hne i rfl
      exact hne
    refine .settingLines (fun h => ?_) (fun t ht hne => ?_) (fun hnone hne => ?_)
    · rw [← h]
      rfl
    · exact .single (hdescribe t ht) (by rw [ht]; rfl) (hneeded hne)
    · exact .single hundescribe (by rw [hnone]; rfl) (hneeded hne)
  have hmtu : Executes action? (Needed before after)
      ⟨after.description, earlier before Interface.mtu, (State.before before).enabled⟩
      (settingLines (earlier before Interface.mtu) after.mtu resize unsize)
      ⟨after.description, after.mtu, (State.before before).enabled⟩ := by
    have hneeded : earlier before Interface.mtu ≠ after.mtu → ∀ i, before = some i →
        (State.of i).mtu ≠ (State.of after).mtu := by
      rintro hne i rfl
      exact hne
    refine .settingLines (fun h => ?_) (fun n hn hne => ?_) (fun hnone hne => ?_)
    · rw [← h]
    · exact .single (hresize n) (by rw [hn]; rfl) (hneeded hne)
    · exact .single hunsize (by rw [hnone]; rfl) (hneeded hne)
  have hneeded : ¬ unchanged → ∀ i, before = some i →
      (State.of i).enabled ≠ (State.of after).enabled := by
    rintro hne i rfl henabled
    exact hchanged hne (congrArg some henabled)
  exact (hdescription.append hmtu).append
    (.adminLines hsame hon hoff fun hne => ⟨hneeded hne, hneeded hne⟩)

section Direct

variable {no : Text}

/-- A line that begins with `description` sets all that follows, quotes and all. -/
theorem settingAction?_description (no t : Text) :
    settingAction? no ("description " ++ t) = some (.setDescription t) := by
  rw [settingAction?, dropLead?_append]

/-- A line with `mtu` and a written number sets that number. -/
theorem settingAction?_mtu (no : Text) (n : UInt16) :
    settingAction? no ("mtu " ++ Decimal.digitsOf n.toNat) = some (.setMtu n) := by
  have hother : dropLead? "description " ("mtu " ++ Decimal.digitsOf n.toNat) = none := rfl
  rw [settingAction?, hother, dropLead?_append]
  exact mtuAction?_digitsOf n

/-- The lines without a value. -/
theorem settingAction?_plain (hno : IsNegation no) :
    settingAction? no (trim (no ++ " description")) = some .removeDescription ∧
    settingAction? no (trim (no ++ " mtu")) = some .removeMtu ∧
    settingAction? no (trim (no ++ " shutdown")) = some .enable ∧
    settingAction? no (trim "shutdown") = some .disable := by
  rcases hno with rfl | rfl <;> decide

/-- **Commands in a section** begin with the line of the interface, and those that follow lead from
the state before to that of the record. -/
theorem executes_direct (hno : IsNegation no) (before : Option Interface) {after : Interface}
    (hdesc : ∀ t, after.description = some t → trim ("description " ++ t) = "description " ++ t) :
    ∃ settings, directCommands no before after = ("interface " ++ after.name) :: settings ∧
      Executes (settingAction? no) (Needed before after) (State.before before) settings
        (State.of after) := by
  obtain ⟨hundescribe, hunsize, hon, hoff⟩ := settingAction?_plain hno
  refine ⟨_, by rw [directCommands, List.append_assoc, List.append_assoc]; rfl, ?_⟩
  rw [← List.append_assoc]
  refine executes_settings ?_ hundescribe ?_ hunsize hon hoff ?_ id
  · -- a description is written as it stands, and trimming leaves it so by assumption
    intro t ht
    rw [hdesc t ht, settingAction?_description]
  · -- the line of an MTU begins with a letter and ends with a digit
    intro n
    have htrim : trim ("mtu " ++ Decimal.digitsOf n.toNat) = "mtu " ++ Decimal.digitsOf n.toNat :=
      trim_of_ends ⟨'m', _, rfl, rfl⟩ ((ends_digitsOf n.toNat).append _)
    rw [htrim, settingAction?_mtu]
  · -- left out, the admin state is the one that the record before has
    intro h
    rw [State.before, h]
    rfl

end Direct

section Statements

variable (name : Text)

/-- A statement begins with its verb, so only its end can be trimmed. -/
theorem trim_statement {verb name rest : Text} (hverb : Begins verb) (hrest : Ends rest) :
    trim (statement verb name rest) = statement verb name rest := by
  refine trim_of_ends ?_ ?_
  · obtain ⟨c, v, rfl, hc⟩ := hverb
    exact ⟨c, _, rfl, hc⟩
  · rw [statement_eq_append]
    exact hrest.append _

/-- The action of a statement that sets something is read off what follows the name. -/
theorem statementAction?_set {rest : Text} (h : Ends rest) :
    statementAction? name (trim (statement "set " name rest)) = setAction? rest := by
  have hverb : Begins "set " := ⟨'s', _, rfl, rfl⟩
  rw [trim_statement hverb h, statement_eq_append, statementAction?, dropLead?_append]

/-- The action of a statement that deletes something is read off what follows the name. The verb
alone tells it from a statement that sets. -/
theorem statementAction?_delete {rest : Text} (h : Ends rest) :
    statementAction? name (trim (statement "delete " name rest)) = deleteAction? rest := by
  have hverb : Begins "delete " := ⟨'d', _, rfl, rfl⟩
  have hother : dropLead? (statement "set " name []) (statement "delete " name rest) = none := rfl
  rw [trim_statement hverb h, statementAction?, hother, statement_eq_append _ _ rest,
    dropLead?_append]

/-- Quoting is undone when the device reads the value. -/
theorem setAction?_description (t : Text) :
    setAction? ("description " ++ quoted t) = some (.setDescription t) := by
  rw [setAction?, dropLead?_append]
  exact congrArg (some ∘ Action.setDescription) (unquoted_quoted t)

/-- A statement with `mtu` and a written number sets that number. -/
theorem setAction?_mtu (n : UInt16) :
    setAction? ("mtu " ++ Decimal.digitsOf n.toNat) = some (.setMtu n) := by
  have hother : dropLead? "description " ("mtu " ++ Decimal.digitsOf n.toNat) = none := rfl
  rw [setAction?, hother, dropLead?_append]
  exact mtuAction?_digitsOf n

/-- The bare statement of an interface mentions it, and is none that sets or deletes. -/
theorem statementAction?_mention :
    statementAction? name (trim ("set " ++ ("interfaces " ++ name))) = some .mention := by
  -- the statement of the name ends where one about a setting goes on with a space
  have hset : dropLead? (statement "set " name []) (trim ("set " ++ ("interfaces " ++ name)))
      = none := by
    rw [Option.eq_none_iff_forall_ne_some]
    intro rest hrest
    rw [dropLead?_eq_some_iff] at hrest
    -- such a statement would be longer than the bare one, by the space after the name
    have hlength := congrArg List.length hrest
    have hle : (trim ("set " ++ ("interfaces " ++ name))).length
        ≤ ("set " ++ ("interfaces " ++ name) : Text).length :=
      (trim_cons_isPrefix rfl _).length_le
    simp only [statement, List.length_append, List.length_cons] at hlength hle
    omega
  have hdelete : dropLead? (statement "delete " name []) (trim ("set " ++ ("interfaces " ++ name)))
      = none := by
    rw [show trim ("set " ++ ("interfaces " ++ name)) = 's' :: _ from trim_cons rfl _]
    rfl
  rw [statementAction?, hset, hdelete]
  exact if_pos rfl

/-- **Statements** lead from the state before to that of the record. -/
theorem executes_statements (before : Option Interface) (after : Interface) :
    Executes (statementAction? after.name) (Needed before after) (State.before before)
      (statementCommands before after) (State.of after) := by
  have hset : ∀ {rest : Text}, Ends rest →
      statementAction? after.name (trim (statement "set " after.name rest)) = setAction? rest :=
    statementAction?_set after.name
  have hdelete : ∀ {rest : Text}, Ends rest →
      statementAction? after.name (trim (statement "delete " after.name rest))
        = deleteAction? rest :=
    statementAction?_delete after.name
  have hsettings : Executes (statementAction? after.name) (Needed before after)
      (State.before before) (settingStatements before after) (State.of after) := by
    refine executes_settings (fun t _ => ?_) (hdelete ⟨"descriptio", 'n', rfl, rfl⟩) (fun n => ?_)
      (hdelete ⟨"mt", 'u', rfl, rfl⟩) (hdelete ⟨"disabl", 'e', rfl, rfl⟩)
      (hset ⟨"disabl", 'e', rfl, rfl⟩) id ?_
    · rw [hset ((ends_quoted t).append _), setAction?_description]
    · rw [hset ((ends_digitsOf _).append _), setAction?_mtu]
    · -- an admin state that is written differs from that of the record before, if there is one
      intro hne heq
      rw [heq] at hne
      exact hne rfl
  rw [statementCommands_eq]
  split
  · -- without statements for the settings, the state is that of the record already
    next hnone =>
    rw [List.isEmpty_iff] at hnone
    rw [hnone.1] at hsettings
    rw [hsettings.eq_of_nil]
    exact .single (statementAction?_mention after.name) rfl fun _ _ => trivial
  · exact hsettings

end Statements

/-! ### Changes between records -/

/-- Trimmed, the lines of commands on one line each are the commands. -/
theorem map_trim_planned (p : Platform) {commands : List Text}
    -- a command that has no line break is cut into one line, which is the command trimmed
    (h : ∀ c ∈ commands, Begins c ∧ (p ≠ .juniperJunos → OneLine c)) :
    (planned p commands).map trim = commands.map trim := by
  have hcut : (∀ c ∈ commands, OneLine c) →
      (commands.flatMap Template.commandLines).map trim = commands.map trim := by
    intro hone
    have hlines : commands.flatMap Template.commandLines = commands.map trim := by
      refine flatMap_eq_map fun c hc => ?_
      obtain ⟨ch, t, rfl, hch⟩ := (h c hc).1
      exact Template.commandLines_of_oneLine hch (hone _ hc)
    rw [hlines, List.map_map]
    exact List.map_congr_left fun c _ => trim_trim c
  cases p
  case juniperJunos => rfl
  case huawei => rfl
  all_goals exact hcut fun c hc => (h c hc).2 (by decide)

/-- With a record that the reader of the platform returns, commands in sections are each on one
line. -/
theorem oneLine_of_readable {p : Platform} {before : Option Interface} {after : Interface}
    (h : Readable p after) (hp : p ≠ .juniperJunos) {c : Text}
    (hc : c ∈ commandsOf p before after) : OneLine c := by
  obtain ⟨hname, hdesc⟩ := h hp
  have hslot := (commandsOf_sublist p before after).subset hc
  cases p
  case juniperJunos => exact absurd rfl hp
  case huawei =>
    exact oneLine_of_mem_directSlots (.inr rfl) hname (fun t ht => (hdesc t ht).1) hslot
  all_goals exact oneLine_of_mem_directSlots (.inl rfl) hname (fun t ht => (hdesc t ht).1) hslot

/-- The lines of a change lead to the state of the record after it. -/
theorem exists_actions {p : Platform} (before : Option Interface) {after : Interface}
    (h : Readable p after) :
    ∃ actions, actionsOf p after.name (planned p (commandsOf p before after)) = some actions ∧
      run (State.before before) actions = State.of after ∧
      ∀ a ∈ actions, Needed before after a := by
  have htrim : (planned p (commandsOf p before after)).map trim
      = (commandsOf p before after).map trim :=
    map_trim_planned p fun c hc =>
      ⟨begins_of_mem_slotsOf ((commandsOf_sublist p before after).subset hc),
        fun hp => oneLine_of_readable h hp hc⟩
  -- both platforms with sections differ in the negating word alone
  have hdirect : ∀ no, IsNegation no → p ≠ .juniperJunos →
      ∃ actions, sectionActions? no after.name ((directCommands no before after).map trim)
        = some actions ∧ run (State.before before) actions = State.of after ∧
          ∀ a ∈ actions, Needed before after a := by
    intro no hno hp
    obtain ⟨settings, hcommands, actions, hactions, hrun⟩ :=
      executes_direct hno before fun t ht => ((h hp).2 t ht).2
    refine ⟨actions, ?_, hrun⟩
    rw [hcommands, List.map_cons, sectionActions?, if_pos rfl, hactions]
  cases p
  case juniperJunos => exact executes_statements before after
  case huawei =>
    rw [actionsOf, htrim]
    exact hdirect _ (.inr rfl) (by decide)
  all_goals
    rw [actionsOf, htrim]
    exact hdirect _ (.inl rfl) (by decide)

/-- **Changes reach the record.** The commands from one record to another that a platform's reader
returns lead from the settings of the one to those of the other, and none is about a setting that is
the same in both. Without a record before, they lead there from an interface that nothing is
configured for. -/
theorem commands_execute {p : Platform} {path : ConfigPath} {output : Text} {after : Interface}
    (h : (Units.readerOf p).interpret path output = .ok (some after)) :
    (∀ before, ∃ lines actions, (Units.styleOf p).commands (some before) after = .ok lines ∧
      actionsOf p after.name lines = some actions ∧
      run (State.of before) actions = State.of after ∧
      ∀ a ∈ actions, a.Differs (State.of before) (State.of after)) ∧
    ∃ lines actions, (Units.styleOf p).commands none after = .ok lines ∧
      actionsOf p after.name lines = some actions ∧ run .initial actions = State.of after := by
  obtain ⟨-, hreadable⟩ := readable_of_interpret h
  constructor
  · intro before
    obtain ⟨actions, hactions, hrun, hneeded⟩ := exists_actions (some before) hreadable
    exact ⟨_, actions, styleOf_commands p _ _, hactions, hrun, fun a ha => hneeded a ha before rfl⟩
  · obtain ⟨actions, hactions, hrun, -⟩ := exists_actions none hreadable
    exact ⟨_, actions, styleOf_commands p _ _, hactions, hrun⟩

/-- On Junos, the statements that set a description, remove an MTU and disable the interface. -/
theorem statements_execute :
    let before := { Interface.named "ge-0/0/0" with mtu := some 1500 }
    let after :=
      { Interface.named "ge-0/0/0" with description := some "to \"core\"", enabled := false }
    ∃ actions, actionsOf .juniperJunos "ge-0/0/0"
        ["set interfaces ge-0/0/0 description \"to \\\"core\\\"\"",
          "delete interfaces ge-0/0/0 mtu", "set interfaces ge-0/0/0 disable"] = some actions ∧
      run (State.of before) actions = State.of after := by
  intro before after
  have h : (Units.readerOf .juniperJunos).interpret (pathOf "ge-0/0/0")
      "set interfaces ge-0/0/0 description \"to \\\"core\\\"\"\nset interfaces ge-0/0/0 disable"
      = .ok (some after) := rfl
  obtain ⟨lines, actions, hlines, hactions, hrun, -⟩ := (commands_execute h).1 before
  cases hlines
  exact ⟨actions, hactions, hrun⟩

end VendorCli.Interfaces
