import VendorCli.Proofs.Registry.Outcomes
/-!
# Changes of interfaces

What the built-in units do with a change of an interface, from the values before and after it to the
block that is sent.

* `Units.styleOf` is the style in which a platform writes interfaces, and `changeCommands` the
  commands of a change in it, as they are before they are cut into lines;
* `plan_builtin` says which records and which lines a change that is not refused has;
* `exists_recorded` and `lines_blockOf` lead to the lines of the block: between the lines that enter
  and leave configuration mode stand those of the commands, one command after the other.
-/

namespace VendorCli

open Text Template

/-! ### Styles -/

/-- How a platform writes interfaces. -/
def Units.styleOf : Platform → Interfaces.Style
  | .ciscoIos => iosStyle
  | .ciscoIosXr => iosStyle
  | .juniperJunos => junosStyle
  | .huawei => vrpStyle
  | .generic => iosStyle

/-- The writer of interfaces on a platform. -/
theorem Units.writer_configPath {path : ConfigPath} (h : path.schema = Interfaces.configPath)
    (p : Platform) :
    Registry.builtin.writer path p = .ok (Interfaces.writer (styleOf p)).toWriter := by
  rw [Registry.writer, Registry.find, h]
  cases p <;> rfl

namespace Interfaces

/-- Without a record before, a setting has a line if it has a value. -/
theorem settingLines_none {α : Type} [DecidableEq α] (after : Option α) (set : α → Text)
    (removal : Text) : settingLines none after set removal = (after.map set).toList := by
  cases after <;> rfl

/-- A statement about an interface, after a verb. -/
def statement (verb name rest : Text) : Text :=
  verb ++ ("interfaces " ++ name) ++ ' ' :: rest

/-- The statements for the settings of an interface. -/
def settingStatements (before : Option Interface) (after : Interface) : List Text :=
  settingLines (earlier before Interface.description) after.description
      (fun t => statement "set " after.name ("description " ++ quoted t))
      (statement "delete " after.name "description")
    ++ settingLines (earlier before Interface.mtu) after.mtu
      (fun n => statement "set " after.name ("mtu " ++ Decimal.digitsOf n.toNat))
      (statement "delete " after.name "mtu")
    ++ (if (before.map Interface.enabled).getD true = after.enabled then []
        else if after.enabled then [statement "delete " after.name "disable"]
        else [statement "set " after.name "disable"])

/-- The statements of a change, the bare one standing in where a new interface has no other. -/
theorem statementCommands_eq (before : Option Interface) (after : Interface) :
    statementCommands before after
      = if (settingStatements before after).isEmpty ∧ before.isNone
        then ["set " ++ ("interfaces " ++ after.name)] else settingStatements before after := by
  unfold statementCommands settingStatements
  cases (before.map Interface.enabled).getD true <;> cases after.enabled <;> rfl

/-- The commands that take an interface from one record to another. -/
def commandsOf (p : Platform) (before : Option Interface) (after : Interface) : List Text :=
  match p with
  | .ciscoIos | .ciscoIosXr | .generic => directCommands "no" before after
  | .juniperJunos => statementCommands before after
  | .huawei => directCommands "undo" before after

/-- The commands of a change. -/
def changeCommands (p : Platform) : Option Interface → Option Interface → List Text
  | before, some after => commandsOf p before after
  | some before, none => [(Units.styleOf p).removal before.name]
  | none, none => []

/-- The lines that a platform makes of the commands between two records: a template is cut into
lines, and each line trimmed, before it is known what is a command. -/
def planned (p : Platform) (commands : List Text) : List Text :=
  match p with
  | .ciscoIos | .ciscoIosXr | .generic => commands.flatMap commandLines
  | .juniperJunos | .huawei => commands

/-- No platform fails to write a record, and the lines are made of its commands. -/
theorem styleOf_commands (p : Platform) (before : Option Interface) (after : Interface) :
    (Units.styleOf p).commands before after = .ok (planned p (commandsOf p before after)) := by
  cases p
  case juniperJunos => rfl
  case huawei => rfl
  all_goals exact Units.iosStyle_commands before after

/-- The record that a value holds, where there is one. -/
def Holds (v : Option Json) (i : Option Interface) : Prop :=
  Option.Rel (fun v i => Interface.ofJson v = .ok i) v i

/-! ### Plans -/

section Plans

variable {path : ConfigPath} {p : Platform} {change : Change} {before after : Option Interface}

/-- The record that a writer decodes is the one that the value holds. -/
theorem record_of_holds {v : Json} {i i' : Interface} {s : Style} (h : Interface.ofJson v = .ok i)
    (hr : (writer s).record path v = .ok i') : i' = i := by
  have hdecode : Interface.ofJson v = .ok i' := decode_of_record path hr
  exact Except.ok.inj (hdecode.symm.trans h)

/-- The check of the name passes only for the name that the path has. -/
theorem keyOf_eq_ok {i : Interface} {name : Text} (h : keyOf path i = .ok name) :
    path.key? "name" = some i.name ∧ name = i.name := by
  obtain ⟨key, hkey, h⟩ := exists_of_bind_eq_ok h
  unfold ConfigPath.requireKey at hkey
  split at hkey
  · next v hv =>
    cases hkey
    split at h
    · next heq =>
      cases h
      exact ⟨by rw [hv, heq], heq⟩
    · cases h
  · cases hkey

/-- The check of the name passes if the path has it. -/
theorem keyOf_of_key? {i : Interface} (h : path.key? "name" = some i.name) :
    keyOf path i = .ok i.name := by
  rw [keyOf, requireKey_eq_ok_iff.mpr h]
  exact if_pos rfl

/-- **The plan of a change.** If the built-in units do not refuse a change of an interface, the path
names that interface, and the lines are made of the commands of the change; there are none if
nothing changes. -/
theorem plan_builtin (hpath : path.schema = configPath) (hbefore : Holds change.before before)
    (hafter : Holds change.after after) {lines : List Text}
    (h : Registry.builtin.plan path p change = .ok lines) :
    lines = [] ∨
    (∃ i, after = some i ∧ path.key? "name" = some i.name ∧
      lines = planned p (commandsOf p before i)) ∨
    (∃ i, before = some i ∧ after = none ∧ path.key? "name" = some i.name ∧
      lines = [(Units.styleOf p).removal i.name]) := by
  rw [Registry.plan, Units.writer_configPath hpath] at h
  change (writer (Units.styleOf p)).plan path change = .ok lines at h
  -- each of the four kinds of change is a chain of steps none of which has failed
  obtain ⟨vb, va⟩ := change
  cases hbefore with
  | none =>
    cases hafter with
    | none =>
      cases h
      exact .inl rfl
    | some ha =>
      obtain ⟨i, hi, h⟩ := exists_of_bind_eq_ok h
      obtain rfl := record_of_holds ha hi
      obtain ⟨name, hname, h⟩ := exists_of_bind_eq_ok h
      obtain ⟨_, _, h⟩ := exists_of_bind_eq_ok h
      rw [styleOf_commands] at h
      cases h
      exact .inr (.inl ⟨i, rfl, (keyOf_eq_ok hname).1, rfl⟩)
  | some hb =>
    cases hafter with
    | none =>
      obtain ⟨i, hi, h⟩ := exists_of_bind_eq_ok h
      obtain rfl := record_of_holds hb hi
      obtain ⟨name, hname, h⟩ := exists_of_bind_eq_ok h
      obtain ⟨_, _, h⟩ := exists_of_bind_eq_ok h
      cases h
      obtain ⟨hkey, rfl⟩ := keyOf_eq_ok hname
      exact .inr (.inr ⟨i, rfl, rfl, hkey, rfl⟩)
    | some ha =>
      obtain ⟨b, hb', h⟩ := exists_of_bind_eq_ok h
      obtain rfl := record_of_holds hb hb'
      obtain ⟨i, hi, h⟩ := exists_of_bind_eq_ok h
      obtain rfl := record_of_holds ha hi
      split at h
      · cases h
        exact .inl rfl
      · obtain ⟨name, hname, h⟩ := exists_of_bind_eq_ok h
        rw [styleOf_commands] at h
        cases h
        exact .inr (.inl ⟨i, rfl, (keyOf_eq_ok hname).1, rfl⟩)

end Plans

/-! ### Blocks -/

/-- A change that leaves a block in the context has lines that are not blank, and the block is made
of them. -/
theorem exists_recorded {r : Registry} {path : ConfigPath} {change : Change} {d : Device}
    {c : WriteContext} {block : Text} (h : (r.write path change d c).2.2 = c.record block) :
    ∃ lines, r.plan path d.platform change = .ok lines ∧ Device.effectiveLines lines ≠ [] ∧
      block = d.blockOf (Device.effectiveLines lines) := by
  -- the context is longer by one block, so there was something to record
  have hne : c ≠ c.record block := by
    intro hc
    have := congrArg (fun c => c.blocks.length) hc
    simp [WriteContext.record] at this
  -- a context only grows, so the block that it has now is the one that was recorded last
  have hinj : ∀ b, c.record b = c.record block → block = b := by
    intro b hb
    have := congrArg WriteContext.blocks hb
    simpa [WriteContext.record, eq_comm] using this
  cases hplan : r.plan path d.platform change with
  | error e =>
    rw [Registry.write_of_error hplan] at h
    exact absurd h hne
  | ok lines =>
    by_cases hblank : Device.effectiveLines lines = []
    · rw [Registry.write_of_ok hplan, d.apply_of_blank path hblank] at h
      exact absurd h hne
    · exact ⟨lines, rfl, hblank, hinj _ ((Registry.recorded_of_ok hplan hblank c).symm.trans h)⟩

/-- **The lines of a block.** Between the lines that enter configuration mode and those that leave
it stand the lines of the commands. -/
theorem lines_blockOf (d : Device) (lines : List Text) :
    Text.lines (d.blockOf lines) = d.platform.dialect.wrap (lines.flatMap endedLines) := by
  -- every dialect enters, commits and leaves with lines of its own, none of them blank or broken
  have hwrap : ∀ (enter commit : List Text) (leave : Text),
      (∀ l ∈ enter ++ commit, endedLines l = [l]) → '\n' ∉ leave → leave ≠ [] →
      Text.lines (Text.unlines (enter ++ lines ++ commit ++ [leave]))
        = enter ++ lines.flatMap endedLines ++ commit ++ [leave] := by
    intro enter commit leave hone hfeed hne
    have hid : ∀ ls : List Text, (∀ l ∈ ls, endedLines l = [l]) → ls.flatMap endedLines = ls := by
      intro ls hls
      have hmap : ls.flatMap endedLines = ls.map id := flatMap_eq_map hls
      rw [hmap, List.map_id]
    rw [lines_unlines_concat _ hfeed hne, List.flatMap_append, List.flatMap_append,
      hid enter fun l hl => hone l (by simp [hl]), hid commit fun l hl => hone l (by simp [hl])]
  rw [Device.blockOf]
  cases d.platform
  all_goals exact hwrap _ _ _ (by decide) (by decide) (by decide)

/-- Whether a text begins with a character that is no blank. -/
def Begins (t : Text) : Prop :=
  ∃ c s, t = c :: s ∧ isBlank c = false

/-- The lines of a block that come from one command. -/
def linesOf (p : Platform) (command : Text) : List Text :=
  match p with
  | .ciscoIos | .ciscoIosXr | .generic => commandLines command
  | .juniperJunos | .huawei => endedLines (trim command)

/-- Commands that begin with no blank are all sent, trimmed. -/
theorem effectiveLines_of_begins {commands : List Text} (h : ∀ t ∈ commands, Begins t) :
    Device.effectiveLines commands = commands.map trim := by
  rw [Device.effectiveLines, List.filter_eq_self]
  intro t ht
  obtain ⟨u, hu, rfl⟩ := List.mem_map.mp ht
  obtain ⟨c, s, rfl, hc⟩ := h u hu
  simp [trim_cons hc]

/-- The lines of a block, from the commands that it was made of. -/
theorem flatMap_effectiveLines_planned (p : Platform) {commands : List Text}
    (h : ∀ t ∈ commands, Begins t) :
    (Device.effectiveLines (planned p commands)).flatMap endedLines
      = commands.flatMap (linesOf p) := by
  -- commands as they are, trimmed by the device
  have htrimmed : (Device.effectiveLines commands).flatMap endedLines
      = commands.flatMap fun t => endedLines (trim t) := by
    rw [effectiveLines_of_begins h, List.flatMap_map]
  -- commands cut into lines by a template, which leaves the device nothing to do
  have hcut : (Device.effectiveLines (commands.flatMap commandLines)).flatMap endedLines
      = commands.flatMap commandLines := by
    have hline : ∀ l ∈ commands.flatMap commandLines, Neat l := by
      intro l hl
      obtain ⟨t, -, ht⟩ := List.mem_flatMap.mp hl
      exact of_mem_commandLines ht
    have heffective : Device.effectiveLines (commands.flatMap commandLines)
        = commands.flatMap commandLines := by
      rw [Device.effectiveLines, List.map_congr_left fun l hl => (hline l hl).trim_eq, List.map_id',
        List.filter_eq_self]
      intro l hl
      simpa using (hline l hl).ne_nil
    have hmap : (commands.flatMap commandLines).flatMap endedLines
        = (commands.flatMap commandLines).map id := by
      refine flatMap_eq_map fun l hl => ?_
      obtain ⟨htrim, -, hfeed⟩ := hline l hl
      rw [id, ← htrim]
      exact endedLines_of_oneLine (by rwa [OneLine, htrim])
    rw [heffective, hmap, List.map_id]
  cases p
  case juniperJunos => exact htrimmed
  case huawei => exact htrimmed
  all_goals exact hcut

end Interfaces
end VendorCli
