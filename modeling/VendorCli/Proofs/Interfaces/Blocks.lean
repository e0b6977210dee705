import VendorCli.Proofs.Interfaces.Changes
import VendorCli.Proofs.Number.Digits
/-!
# The lines of interface blocks

A change of an interface has at most one command for the interface itself and one for each of its
settings. `slotsOf` lists these four commands, whether or not the change needs them. The lines of a
block keep to that shape (`Shaped`) as long as every command stays on one line: then each line is a
whole command of the list, and no part of a name or a description is a line of its own.

Names and descriptions are not checked for line feeds, so commands need not stay on one line. The
shape is kept exactly by the changes whose commands do (`recorded_block_shaped_iff`). They all do
without line feeds in names and descriptions (`oneLine_of_feedless`), but a description with one
adds whatever line it likes (`description_adds_command`).

The proof looks at the first line of a command that falls into several lines. It begins like the
command, so it could only be taken for the command itself, which has a line feed that no line has.
-/

namespace VendorCli.Interfaces

open Text Template

/-! ### Slots -/

/-- The command for a setting after a change, whether or not the change needs it. -/
def settingSlot {α : Type} (after : Option α) (set : α → Text) (removal : Text) : Text :=
  match after with
  | some a => set a
  | none => removal

/-- The commands that a change can need, `no` being the word that negates a line. -/
def directSlots (no name : Text) (after : Interface) : List Text :=
  ["interface " ++ name,
   settingSlot after.description ("description " ++ ·) (no ++ " description"),
   settingSlot after.mtu (fun n => "mtu " ++ Decimal.digitsOf n.toNat) (no ++ " mtu"),
   if after.enabled then no ++ " shutdown" else "shutdown"]

/-- The statements that a change can need. -/
def statementSlots (name : Text) (after : Interface) : List Text :=
  ["set " ++ ("interfaces " ++ name),
   settingSlot after.description (fun t => statement "set " name ("description " ++ quoted t))
    (statement "delete " name "description"),
   settingSlot after.mtu (fun n => statement "set " name ("mtu " ++ Decimal.digitsOf n.toNat))
    (statement "delete " name "mtu"),
   if after.enabled then statement "delete " name "disable" else statement "set " name "disable"]

/-- The commands that a change of an interface to some settings can need: one for the interface
itself, and one each for its description, its MTU and its admin state. -/
def slotsOf (p : Platform) (name : Text) (after : Interface) : List Text :=
  match p with
  | .ciscoIos | .ciscoIosXr | .generic => directSlots "no" name after
  | .juniperJunos => statementSlots name after
  | .huawei => directSlots "undo" name after

/-- **Shape.** The lines of a change are whole commands, each at most once, that the change can need
for the interface of this name; those of a removal are the one command that removes it. -/
def Shaped (p : Platform) (name : Text) (after : Option Interface) (lines : List Text) : Prop :=
  match after with
  | some after => lines.Sublist ((slotsOf p name after).map trim)
  | none => lines = [trim ((Units.styleOf p).removal name)]

instance (p : Platform) (name : Text) (after : Option Interface) (lines : List Text) :
    Decidable (Shaped p name after lines) :=
  match after with
  | some after => inferInstanceAs (Decidable (lines.Sublist ((slotsOf p name after).map trim)))
  | none => inferInstanceAs (Decidable (lines = [trim ((Units.styleOf p).removal name)]))

/-! ### Commands and their slots -/

section Slots

/-- A change of a setting needs the command for it, or none. -/
theorem settingLines_sublist {α : Type} [DecidableEq α] (before after : Option α) (set : α → Text)
    (removal : Text) :
    (settingLines before after set removal).Sublist [settingSlot after set removal] := by
  cases after with
  -- there is a value now, which is new or the same as before
  | some a =>
    by_cases h : before = some a <;> simp [settingLines, settingSlot, h]
  | none => cases before <;> simp [settingLines, settingSlot]

/-- The commands on IOS and VRP are some of those that a change can need. -/
theorem directCommands_sublist (no : Text) (before : Option Interface) (after : Interface) :
    (directCommands no before after).Sublist (directSlots no after.name after) := by
  have hadmin : (if before.map Interface.enabled = some after.enabled then []
      else if after.enabled then [no ++ " shutdown"] else ["shutdown"]).Sublist
        [if after.enabled then no ++ " shutdown" else ("shutdown" : Text)] := by
    cases after.enabled <;> split <;> simp
  exact (((List.Sublist.refl _).append (settingLines_sublist _ _ _ _)).append
    (settingLines_sublist _ _ _ _)).append hadmin

/-- So are the statements on Junos, of which the name alone stands for itself. -/
theorem statementCommands_sublist (before : Option Interface) (after : Interface) :
    (statementCommands before after).Sublist (statementSlots after.name after) := by
  rw [statementCommands_eq]
  split
  · exact List.singleton_sublist.mpr List.mem_cons_self
  · have hadmin : (if (before.map Interface.enabled).getD true = after.enabled then []
        else if after.enabled then [statement "delete " after.name "disable"]
        else [statement "set " after.name "disable"]).Sublist
          [if after.enabled then statement "delete " after.name "disable"
            else statement "set " after.name "disable"] := by
      cases after.enabled <;> split <;> simp
    exact .cons _ (((settingLines_sublist _ _ _ _).append (settingLines_sublist _ _ _ _)).append
      hadmin)

/-- **Commands have slots.** On every platform they are some of those that a change can need, in
that order. -/
theorem commandsOf_sublist (p : Platform) (before : Option Interface) (after : Interface) :
    (commandsOf p before after).Sublist (slotsOf p after.name after) := by
  cases p
  case juniperJunos => exact statementCommands_sublist before after
  all_goals exact directCommands_sublist _ before after

/-- **What a command can be.** Beside the line of the interface there are lines with a value, and
lines of fixed words. -/
theorem eq_of_mem_directSlots {no name c : Text} {after : Interface}
    (h : c ∈ directSlots no name after) :
    c = "interface " ++ name ∨
    (∃ t, after.description = some t ∧ c = "description " ++ t) ∨
    (∃ n : UInt16, c = "mtu " ++ Decimal.digitsOf n.toNat) ∨
    c = "shutdown" ∨
    ∃ t ∈ ([" description", " mtu", " shutdown"] : List Text), c = no ++ t := by
  simp only [directSlots, List.mem_cons, List.not_mem_nil, or_false] at h
  rcases h with rfl | rfl | rfl | rfl
  · exact .inl rfl
  -- a description and an MTU are set or taken back, by whether the record has them
  · cases hdesc : after.description with
    | some t => exact .inr (.inl ⟨t, rfl, rfl⟩)
    | none => exact .inr (.inr (.inr (.inr ⟨_, by simp, rfl⟩)))
  · cases after.mtu with
    | some n => exact .inr (.inr (.inl ⟨n, rfl⟩))
    | none => exact .inr (.inr (.inr (.inr ⟨_, by simp, rfl⟩)))
  · cases after.enabled with
    | true => exact .inr (.inr (.inr (.inr ⟨_, by simp, rfl⟩)))
    | false => exact .inr (.inr (.inr (.inl rfl)))

/-- **What a statement about a setting can be.** -/
theorem eq_of_mem_tail {name c : Text} {after : Interface}
    (h : c ∈ (statementSlots name after).tail) :
    (∃ t, after.description = some t ∧ c = statement "set " name ("description " ++ quoted t)) ∨
    (∃ n : UInt16, c = statement "set " name ("mtu " ++ Decimal.digitsOf n.toNat)) ∨
    c = statement "set " name "disable" ∨
    ∃ t ∈ (["description", "mtu", "disable"] : List Text), c = statement "delete " name t := by
  simp only [statementSlots, List.tail_cons, List.mem_cons, List.not_mem_nil, or_false] at h
  rcases h with rfl | rfl | rfl
  · cases hdesc : after.description with
    | some t => exact .inl ⟨t, rfl, rfl⟩
    | none => exact .inr (.inr (.inr ⟨_, by simp, rfl⟩))
  · cases after.mtu with
    | some n => exact .inr (.inl ⟨n, rfl⟩)
    | none => exact .inr (.inr (.inr ⟨_, by simp, rfl⟩))
  · cases after.enabled with
    | true => exact .inr (.inr (.inr ⟨_, by simp, rfl⟩))
    | false => exact .inr (.inr (.inl rfl))

/-- Every command begins with a character that is no blank. -/
theorem begins_of_mem_directSlots {no name : Text} {after : Interface} {t : Text} (hno : Begins no)
    (h : t ∈ directSlots no name after) : Begins t := by
  obtain ⟨c, s, rfl, hc⟩ := hno
  rcases eq_of_mem_directSlots h with rfl | ⟨d, -, rfl⟩ | ⟨n, rfl⟩ | rfl | ⟨w, -, rfl⟩
  · exact ⟨'i', _, rfl, rfl⟩
  · exact ⟨'d', _, rfl, rfl⟩
  · exact ⟨'m', _, rfl, rfl⟩
  · exact ⟨'s', _, rfl, rfl⟩
  · exact ⟨c, _, rfl, hc⟩

/-- So does every statement. -/
theorem begins_of_mem_statementSlots {name : Text} {after : Interface} {t : Text}
    (h : t ∈ statementSlots name after) : Begins t := by
  rcases List.mem_cons.mp h with rfl | h
  · exact ⟨'s', _, rfl, rfl⟩
  · rcases eq_of_mem_tail h with ⟨d, -, rfl⟩ | ⟨n, rfl⟩ | rfl | ⟨w, -, rfl⟩
    · exact ⟨'s', _, rfl, rfl⟩
    · exact ⟨'s', _, rfl, rfl⟩
    · exact ⟨'s', _, rfl, rfl⟩
    · exact ⟨'d', _, rfl, rfl⟩

/-- So does whatever a change can need, on every platform. -/
theorem begins_of_mem_slotsOf {p : Platform} {name : Text} {after : Interface} {t : Text}
    (h : t ∈ slotsOf p name after) : Begins t := by
  cases p
  case juniperJunos => exact begins_of_mem_statementSlots h
  case huawei => exact begins_of_mem_directSlots ⟨'u', _, rfl, rfl⟩ h
  all_goals exact begins_of_mem_directSlots ⟨'n', _, rfl, rfl⟩ h

end Slots

/-! ### The lines of one command -/

section Lines

variable (p : Platform)

/-- A command on one line is that line, trimmed. -/
theorem linesOf_of_oneLine {t : Text} (hb : Begins t) (h : OneLine t) : linesOf p t = [trim t] := by
  obtain ⟨c, s, rfl, hc⟩ := hb
  cases p
  case juniperJunos => exact endedLines_of_oneLine h
  case huawei => exact endedLines_of_oneLine h
  all_goals exact commandLines_of_oneLine hc h

/-- No line of a command has a line feed in it. -/
theorem not_mem_of_mem_linesOf {t l : Text} (h : l ∈ linesOf p t) : '\n' ∉ l := by
  cases p
  case juniperJunos => exact not_mem_of_mem_endedLines h
  case huawei => exact not_mem_of_mem_endedLines h
  all_goals exact (of_mem_commandLines h).feedless

/-- The first line begins as the command does. -/
theorem exists_linesOf_cons {c : Char} (hc : isBlank c = false) (s : Text) :
    ∃ u rest, linesOf p (c :: s) = (c :: u) :: rest := by
  cases p
  case juniperJunos =>
    rw [linesOf, trim_cons hc]
    exact exists_endedLines_cons List.not_mem_nil hc _
  case huawei =>
    rw [linesOf, trim_cons hc]
    exact exists_endedLines_cons List.not_mem_nil hc _
  all_goals exact exists_commandLines_cons hc s

end Lines

/-! ### Commands that fall into several lines -/

section Direct

variable {no name : Text} {after : Interface} {c slot : Text}

/-- The words that negate a line. -/
def IsNegation (no : Text) : Prop :=
  no = "no" ∨ no = "undo"

/-- The words that negate a line begin with no blank. -/
theorem IsNegation.begins (h : IsNegation no) : Begins no := by
  rcases h with rfl | rfl
  · exact ⟨'n', _, rfl, rfl⟩
  · exact ⟨'u', _, rfl, rfl⟩

/-- A line feed in a command comes from the name or from the description. -/
theorem eq_of_feed_direct (hno : IsNegation no) (hc : c ∈ directSlots no name after)
    (hfeed : '\n' ∈ c) :
    ('\n' ∈ name ∧ c = "interface " ++ name) ∨
    ∃ t, after.description = some t ∧ '\n' ∈ t ∧ c = "description " ++ t := by
  rcases eq_of_mem_directSlots hc with rfl | ⟨t, ht, rfl⟩ | ⟨n, rfl⟩ | rfl | ⟨w, hw, rfl⟩
  · exact .inl ⟨by simpa using hfeed, rfl⟩
  · exact .inr ⟨t, ht, by simpa using hfeed, rfl⟩
  -- numbers and fixed words have no line feed
  · refine absurd hfeed ?_
    simpa using Decimal.not_mem_digitsOf rfl
  · exact absurd hfeed (by decide)
  · -- fixed words have no line feed
    have hword : '\n' ∉ no := by
      rcases hno with rfl | rfl <;> decide
    have hrest : '\n' ∉ w := (by decide : ∀ w ∈ ([" description", " mtu", " shutdown"] : List Text),
      '\n' ∉ w) w hw
    rcases List.mem_append.mp hfeed with h | h
    · exact absurd h hword
    · exact absurd h hrest

/-- Commands with a line feed in them can be told from all others by their first character: there is
one for the interface, and one for a description that is set. -/
theorem eq_of_head?_eq (hno : IsNegation no) (hc : c ∈ directSlots no name after) (hfeed : '\n' ∈ c)
    (hslot : slot ∈ directSlots no name after) (hhead : slot.head? = c.head?) : slot = c := by
  -- what negates a line begins with another letter than the two commands
  have hword : ∀ w : Text, (no ++ w).head? ≠ some 'i' ∧ (no ++ w).head? ≠ some 'd' := by
    intro w
    rcases hno with rfl | rfl
    · exact ⟨ne_of_beq_false rfl, ne_of_beq_false rfl⟩
    · exact ⟨ne_of_beq_false rfl, ne_of_beq_false rfl⟩
  rcases eq_of_feed_direct hno hc hfeed with ⟨-, rfl⟩ | ⟨t, hdesc, -, rfl⟩
  · change slot.head? = some 'i' at hhead
    rcases eq_of_mem_directSlots hslot with rfl | ⟨u, -, rfl⟩ | ⟨n, rfl⟩ | rfl | ⟨w, -, rfl⟩
    · rfl
    · cases hhead
    · cases hhead
    · cases hhead
    · exact absurd hhead (hword w).1
  · change slot.head? = some 'd' at hhead
    rcases eq_of_mem_directSlots hslot with rfl | ⟨u, hu, rfl⟩ | ⟨n, rfl⟩ | rfl | ⟨w, -, rfl⟩
    · cases hhead
    · rw [hdesc] at hu
      cases hu
      rfl
    · cases hhead
    · cases hhead
    · exact absurd hhead (hword w).2

/-- With the line of the interface and the description on one line each, every command is. -/
theorem oneLine_of_mem_directSlots (hno : IsNegation no) (hname : OneLine ("interface " ++ name))
    (hdesc : ∀ t, after.description = some t → '\n' ∉ t) (hc : c ∈ directSlots no name after) :
    OneLine c := by
  by_cases hfeed : '\n' ∈ c
  · rcases eq_of_feed_direct hno hc hfeed with ⟨-, rfl⟩ | ⟨t, ht, hbroken, -⟩
    · exact hname
    · exact absurd hbroken (hdesc t ht)
  · exact .of_not_mem hfeed

/-- A command whose lines are all commands that the change can need is one line. -/
theorem oneLine_of_direct (p : Platform) (hno : IsNegation no) (hc : c ∈ directSlots no name after)
    (hlines : ∀ l ∈ linesOf p c, l ∈ (directSlots no name after).map trim) : OneLine c := by
  intro hbroken
  -- the first line of the broken command, with the character that it begins with
  have hbegins : ∀ t ∈ directSlots no name after, Begins t :=
    fun t => begins_of_mem_directSlots hno.begins
  obtain ⟨ch, s, rfl, hch⟩ := hbegins c hc
  obtain ⟨u, rest, hfirst⟩ := exists_linesOf_cons p hch s
  have hmem : ch :: u ∈ linesOf p (ch :: s) := by
    rw [hfirst]
    exact List.mem_cons_self
  obtain ⟨slot, hslot, htrim⟩ := List.mem_map.mp (hlines _ hmem)
  -- the first line begins as the command does, so it can only be taken for the command itself
  have hhead : slot.head? = (ch :: s).head? := by
    obtain ⟨d, t, rfl, hd⟩ := hbegins slot hslot
    rw [trim_cons hd, List.cons.injEq] at htrim
    rw [htrim.1]
    rfl
  have heq := eq_of_head?_eq hno hc (trim_subset _ hbroken) hslot hhead
  rw [heq] at htrim
  exact not_mem_of_mem_linesOf p hmem (htrim ▸ hbroken)

end Direct

section Statements

variable {name : Text} {after : Interface} {c : Text}

/-- If there is a line feed in the name, a statement about a setting cannot be one line. -/
theorem mem_trim_statement {verb rest : Text} {d : Char} (hverb : Begins verb) (h : '\n' ∈ name)
    (hd : isBlank d = false) : '\n' ∈ trim (statement verb name (d :: rest)) := by
  obtain ⟨v, s, rfl, hv⟩ := hverb
  have hsplit : statement (v :: s) name (d :: rest)
      = v :: ((s ++ "interfaces " ++ name ++ [' ']) ++ d :: rest) := by
    simp [statement]
  rw [hsplit, trim_cons hv, trimEnd_append_cons hd]
  simp [h]

/-- With a line feed in the name, only the statement of the name alone can be one line. -/
theorem mem_trim_of_mem_tail (h : '\n' ∈ name) (hc : c ∈ (statementSlots name after).tail) :
    '\n' ∈ trim c := by
  -- the statement goes on after the name with a letter, so the name is inside the trimmed text
  have hset : Begins "set " := ⟨'s', _, rfl, rfl⟩
  rcases eq_of_mem_tail hc with ⟨t, -, rfl⟩ | ⟨n, rfl⟩ | rfl | ⟨w, hw, rfl⟩
  · exact mem_trim_statement hset h (d := 'd') rfl
  · exact mem_trim_statement hset h (d := 'm') rfl
  · exact mem_trim_statement hset h (d := 'd') rfl
  · have hwords : ∀ w ∈ (["description", "mtu", "disable"] : List Text), Begins w := by
      simp only [List.forall_mem_cons]
      exact ⟨⟨'d', _, rfl, rfl⟩, ⟨'m', _, rfl, rfl⟩, ⟨'d', _, rfl, rfl⟩, by simp⟩
    obtain ⟨d, u, rfl, hd⟩ := hwords w hw
    exact mem_trim_statement ⟨'d', _, rfl, rfl⟩ h hd

/-- Without a line feed in the name, only the statement that sets a description can have one. -/
theorem exists_description_of_feed (h : '\n' ∉ name) (hc : c ∈ statementSlots name after)
    (hfeed : '\n' ∈ c) :
    ∃ t, after.description = some t ∧ '\n' ∈ quoted t ∧
      c = statement "set " name ("description " ++ quoted t) := by
  -- but for the name, the words of a statement have no line feed
  have hplain : ∀ verb rest : Text, '\n' ∉ verb → '\n' ∉ rest →
      '\n' ∉ statement verb name rest := by
    intro verb rest hverb hrest
    simp [statement, hverb, hrest, h]
  rcases List.mem_cons.mp hc with rfl | hc
  · simp [h] at hfeed
  · rcases eq_of_mem_tail hc with ⟨t, ht, rfl⟩ | ⟨n, rfl⟩ | rfl | ⟨w, hw, rfl⟩
    · exact ⟨t, ht, by simpa [statement, h] using hfeed, rfl⟩
    · refine absurd hfeed (hplain _ _ (by decide) ?_)
      simpa using Decimal.not_mem_digitsOf rfl
    · exact absurd hfeed (hplain _ _ (by decide) (by decide))
    · refine absurd hfeed (hplain _ _ (by decide) ?_)
      exact (by decide : ∀ w ∈ (["description", "mtu", "disable"] : List Text), '\n' ∉ w) w hw

theorem statement_eq_append (verb name rest : Text) :
    statement verb name rest = statement verb name [] ++ rest := by
  simp [statement]

/-- The statement that sets a description can be told from all others by what follows the name: two
letters are enough. -/
theorem eq_of_begins_description {t u slot : Text} (hdesc : after.description = some t)
    (hslot : slot ∈ statementSlots name after)
    (hbegins : statement "set " name [] ++ 'd' :: 'e' :: u <+: slot) :
    slot = statement "set " name ("description " ++ quoted t) := by
  -- another statement has another letter behind the name
  have hset : ∀ a b v, (a ≠ 'd' ∨ b ≠ 'e') →
      ¬ statement "set " name [] ++ 'd' :: 'e' :: u <+: statement "set " name (a :: b :: v) := by
    intro a b v hne hpre
    rw [statement_eq_append "set " name (a :: b :: v), List.prefix_append_right_inj,
      List.cons_prefix_cons, List.cons_prefix_cons] at hpre
    rcases hne with hne | hne
    · exact hne hpre.1.symm
    · exact hne hpre.2.1.symm
  rcases List.mem_cons.mp hslot with rfl | hslot
  -- the statement of the name alone is too short
  · have hlength := hbegins.length_le
    simp only [statement, List.length_append, List.length_cons] at hlength
    omega
  · rcases eq_of_mem_tail hslot with ⟨v, hv, rfl⟩ | ⟨n, rfl⟩ | rfl | ⟨w, -, rfl⟩
    · rw [hdesc] at hv
      cases hv
      rfl
    · exact absurd hbegins (hset 'm' 't' _ (.inl (by decide)))
    · exact absurd hbegins (hset 'd' 'i' _ (.inr (by decide)))
    · simp [statement] at hbegins

/-- A description whose lines are all statements that the change can need is on one line. -/
theorem oneLine_of_description {t : Text} (h : '\n' ∉ name) (hdesc : after.description = some t)
    (hlines : ∀ l ∈ endedLines (trim (statement "set " name ("description " ++ quoted t))),
      l ∈ (statementSlots name after).map trim) :
    OneLine (statement "set " name ("description " ++ quoted t)) := by
  intro hbroken
  obtain ⟨s, hs⟩ : ∃ s : Text, statement "set " name [] = 's' :: s := ⟨_, rfl⟩
  have hfeed : '\n' ∉ statement "set " name [] ++ ['d'] := by
    simp [statement, h]
  -- the first line goes at least as far as `set interfaces <name> de`, before the value itself
  have htrim : trim (statement "set " name ("description " ++ quoted t))
      = (statement "set " name [] ++ ['d']) ++ 'e' :: trimEnd ("scription " ++ quoted t) := by
    rw [statement_eq_append, hs, show 's' :: s ++ ("description " ++ quoted t)
      = 's' :: ((s ++ ['d']) ++ 'e' :: ("scription " ++ quoted t)) by simp, trim_cons rfl,
      trimEnd_append_cons rfl]
    simp
  obtain ⟨u, rest, hfirst⟩ := exists_endedLines_cons
    (s := statement "set " name [] ++ ['d']) (c := 'e') hfeed rfl
    (trimEnd ("scription " ++ quoted t))
  have hclean : '\n' ∉ (statement "set " name [] ++ ['d']) ++ 'e' :: u := by
    refine not_mem_of_mem_endedLines
      (t := trim (statement "set " name ("description " ++ quoted t))) ?_
    rw [htrim, hfirst]
    exact List.mem_cons_self
  rw [htrim, hfirst] at hlines
  obtain ⟨slot, hslot, hline⟩ := List.mem_map.mp (hlines _ List.mem_cons_self)
  -- the first line begins as the statement does, so it can only be taken for the statement itself
  have hbegins : statement "set " name [] ++ 'd' :: 'e' :: u <+: slot := by
    obtain ⟨c, w, rfl, hc⟩ := begins_of_mem_statementSlots hslot
    have := trim_cons_isPrefix hc w
    rwa [hline, List.append_assoc] at this
  rw [eq_of_begins_description hdesc hslot hbegins] at hline
  exact hclean (hline ▸ hbroken)

/-- Statements whose lines keep to the shape of a change are each on one line. -/
theorem oneLine_of_statements {commands : List Text}
    (hsub : commands.Sublist (statementSlots name after))
    (hshape : (commands.flatMap (linesOf .juniperJunos)).Sublist
      ((statementSlots name after).map trim))
    (hc : c ∈ commands) : OneLine c := by
  by_cases hname : '\n' ∈ name
  · -- there is room for the line of the name alone, and a broken command has more than one line
    intro hbroken
    obtain ⟨a, b, rfl⟩ := List.append_of_mem hc
    -- every statement about a setting has the line feed of the name, trimmed or not
    have htail : ((statementSlots name after).tail.map trim).filter (fun l => '\n' ∉ l) = [] := by
      rw [List.filter_eq_nil_iff]
      intro l hl
      obtain ⟨slot, hslot, rfl⟩ := List.mem_map.mp hl
      simp [mem_trim_of_mem_tail hname hslot]
    -- and no line has one
    have hclean : ((a ++ c :: b).flatMap (linesOf .juniperJunos)).filter (fun l => '\n' ∉ l)
        = (a ++ c :: b).flatMap (linesOf .juniperJunos) := by
      rw [List.filter_eq_self]
      intro l hl
      obtain ⟨t, -, ht⟩ := List.mem_flatMap.mp hl
      simpa using not_mem_of_mem_linesOf .juniperJunos ht
    have hroom := (hshape.filter fun l => '\n' ∉ l).length_le
    have hslots : (statementSlots name after).map trim
        = trim ("set " ++ ("interfaces " ++ name)) :: (statementSlots name after).tail.map trim :=
      rfl
    have hlines : 2 ≤ (linesOf .juniperJunos c).length := two_le_length_endedLines hbroken
    rw [hclean, hslots, List.filter_cons, htail, List.flatMap_append, List.flatMap_cons,
      List.length_append, List.length_append] at hroom
    split at hroom
    · rw [List.length_singleton] at hroom
      omega
    · rw [List.length_nil] at hroom
      omega
  · by_cases hfeed : '\n' ∈ c
    -- without a line feed in the name, the command is that of the description
    · obtain ⟨t, hdesc, -, rfl⟩ := exists_description_of_feed hname (hsub.subset hc) hfeed
      refine oneLine_of_description hname hdesc fun l hl => hshape.subset ?_
      exact List.mem_flatMap.mpr ⟨_, hc, hl⟩
    · exact .of_not_mem hfeed

end Statements

/-! ### Blocks -/

/-- **The commands of a change** keep to its shape exactly if each of them is on one line. -/
theorem shaped_commandsOf_iff (p : Platform) (before : Option Interface) (after : Interface) :
    Shaped p after.name (some after) ((commandsOf p before after).flatMap (linesOf p))
      ↔ ∀ c ∈ commandsOf p before after, OneLine c := by
  have hsub := commandsOf_sublist p before after
  constructor
  -- the lines of each command are among the slots, so it is on one line
  · intro hshape c hc
    have hlines : ∀ l ∈ linesOf p c, l ∈ (slotsOf p after.name after).map trim :=
      fun l hl => hshape.subset (List.mem_flatMap.mpr ⟨c, hc, hl⟩)
    cases p
    case juniperJunos => exact oneLine_of_statements hsub hshape hc
    case huawei => exact oneLine_of_direct _ (.inr rfl) (hsub.subset hc) hlines
    all_goals exact oneLine_of_direct _ (.inl rfl) (hsub.subset hc) hlines
  · intro hone
    -- one line for each command, and the commands are some of the slots
    rw [flatMap_eq_map fun c hc =>
      linesOf_of_oneLine p (begins_of_mem_slotsOf (hsub.subset hc)) (hone c hc)]
    exact hsub.map trim

/-- Replacing a character brings in no line feed. -/
theorem not_mem_replaceChar {c : Char} {by_ t : Text} (hby : '\n' ∉ by_) (ht : '\n' ∉ t) :
    '\n' ∉ Text.replaceChar c by_ t := by
  intro hmem
  obtain ⟨d, hd, hmem⟩ := List.mem_flatMap.mp hmem
  split at hmem
  · exact hby hmem
  · rw [List.mem_singleton] at hmem
    exact ht (hmem ▸ hd)

/-- Neither does putting a value between quotes. -/
theorem not_mem_quoted {t : Text} (h : '\n' ∉ t) : '\n' ∉ quoted t := by
  unfold quoted
  split
  · have hslashes : '\n' ∉ Text.replaceChar '\\' ['\\', '\\'] t :=
      not_mem_replaceChar (by decide) h
    have hquotes : '\n' ∉ Text.replaceChar '"' ['\\', '"']
        (Text.replaceChar '\\' ['\\', '\\'] t) := not_mem_replaceChar (by decide) hslashes
    simpa using hquotes
  · exact h

/-- Without line feeds in the name and the description, every command is on one line. -/
theorem oneLine_of_feedless {p : Platform} {before : Option Interface} {after : Interface}
    (hname : '\n' ∉ after.name) (hdesc : ∀ t, after.description = some t → '\n' ∉ t) :
    ∀ c ∈ commandsOf p before after, OneLine c := by
  intro c hc
  have hheader : OneLine ("interface " ++ after.name) := .of_not_mem (by simpa using hname)
  have hslot := (commandsOf_sublist p before after).subset hc
  cases p
  case juniperJunos =>
    refine .of_not_mem fun hfeed => ?_
    obtain ⟨t, ht, h, -⟩ := exists_description_of_feed hname hslot hfeed
    exact not_mem_quoted (hdesc t ht) h
  case huawei => exact oneLine_of_mem_directSlots (.inr rfl) hheader hdesc hslot
  all_goals exact oneLine_of_mem_directSlots (.inl rfl) hheader hdesc hslot

/-- **The shape of a block.** The block of a change of an interface has, between the lines that
enter and leave configuration mode, lines of the shape of the change exactly if each command of the
change is on one line. -/
theorem recorded_block_shaped_iff {path : ConfigPath} (hpath : path.schema = configPath)
    {change : Change} {before after : Option Interface} (hbefore : Holds change.before before)
    (hafter : Holds change.after after) {d : Device} {c : WriteContext} {block : Text}
    (hblock : (Registry.builtin.write path change d c).2.2 = c.record block) :
    ∃ name body, path.key? "name" = some name ∧ Text.lines block = d.platform.dialect.wrap body ∧
      (Shaped d.platform name after body
        ↔ ∀ command ∈ changeCommands d.platform before after, OneLine command) := by
  obtain ⟨lines, hplan, hne, rfl⟩ := exists_recorded hblock
  rcases plan_builtin hpath hbefore hafter hplan with rfl | ⟨i, rfl, hname, rfl⟩ |
    ⟨i, rfl, rfl, hname, rfl⟩
  · -- a plan without lines leaves no block
    exact absurd rfl hne
  · -- a creation or an update
    refine ⟨i.name, _, hname, lines_blockOf d _, ?_⟩
    rw [flatMap_effectiveLines_planned _ fun t ht =>
      begins_of_mem_slotsOf ((commandsOf_sublist d.platform before i).subset ht)]
    exact shaped_commandsOf_iff d.platform before i
  · -- a removal, with one command
    refine ⟨i.name, _, hname, lines_blockOf d _, ?_⟩
    have hbegins : ∀ t ∈ [(Units.styleOf d.platform).removal i.name], Begins t := by
      rw [List.forall_mem_singleton]
      cases d.platform
      case juniperJunos => exact ⟨'d', _, rfl, rfl⟩
      case huawei => exact ⟨'u', _, rfl, rfl⟩
      all_goals exact ⟨'n', _, rfl, rfl⟩
    rw [effectiveLines_of_begins hbegins, List.map_singleton, List.flatMap_singleton,
      changeCommands, List.forall_mem_singleton]
    constructor
    · intro hshape hfeed
      have hline : trim ((Units.styleOf d.platform).removal i.name)
          ∈ endedLines (trim ((Units.styleOf d.platform).removal i.name)) := by
        rw [show endedLines _ = _ from hshape]
        exact List.mem_singleton_self _
      exact not_mem_of_mem_endedLines hline hfeed
    · exact endedLines_of_oneLine

/-- On a router with VRP, a loopback interface with a description has a block of this shape. -/
theorem recorded_loopback_shaped :
    ∃ body, Text.lines "system-view\ninterface LoopBack0\ndescription uplink\nundo shutdown\nreturn"
        = Dialect.vrp.wrap body ∧
      Shaped .huawei "LoopBack0"
        (some { Interface.named "LoopBack0" with description := some "uplink" }) body := by
  have hbefore : Holds none none := .none
  have hafter : Holds
      (some (Interface.toJson { Interface.named "LoopBack0" with description := some "uplink" }))
      (some { Interface.named "LoopBack0" with description := some "uplink" }) := .some rfl
  have hblock : (Registry.builtin.write (pathOf "LoopBack0")
      ⟨none, some (Interface.toJson
        { Interface.named "LoopBack0" with description := some "uplink" })⟩
      ⟨.replay (.named "router"), .huawei, "router"⟩ .sending).2.2
        = WriteContext.sending.record
          "system-view\ninterface LoopBack0\ndescription uplink\nundo shutdown\nreturn" := rfl
  obtain ⟨name, body, hname, hlines, hshape⟩ :=
    recorded_block_shaped_iff rfl hbefore hafter hblock
  cases hname
  exact ⟨body, hlines, hshape.mpr (by decide)⟩

/-- **A description can add a command.** What follows a line feed in a description is a line of the
block. Here it removes a physical interface, a change that is refused when it is asked for. -/
theorem description_adds_command :
    let i := { Interface.named "LoopBack0" with
      description := some "uplink\nundo interface GigabitEthernet0/0/1" }
    ∃ block body,
      (Registry.builtin.write (pathOf "LoopBack0") ⟨none, some i.toJson⟩
          { session := .replay (.named "router"), platform := .huawei, hostname := "router" }
          .sending).2.2 = WriteContext.sending.record block ∧
      Text.lines block = Dialect.vrp.wrap body ∧
      ("undo interface GigabitEthernet0/0/1" : Text) ∈ body ∧
      ¬ Shaped .huawei "LoopBack0" (some i) body := by
  refine ⟨"system-view\ninterface LoopBack0\ndescription uplink\n"
      ++ "undo interface GigabitEthernet0/0/1\nundo shutdown\nreturn",
    ["interface LoopBack0", "description uplink", "undo interface GigabitEthernet0/0/1",
      "undo shutdown"], rfl, by decide, by decide, by decide⟩

end VendorCli.Interfaces
