import VendorCli.Proofs.Interfaces.Execution
import VendorCli.Proofs.Record.Decoding
/-!
# Updates of interfaces

An update leads from the record of an interface to another record of it. There is nothing to do
between equal records. Otherwise the writer looks whether the path names the interface of the record
after the update, and lists the commands between the two (`plan_update`); there are commands unless,
in statements, all settings are the same (`commandsOf_eq_nil_iff`).

Two things follow that a user of updates has to know.

* The record before is not compared to the path. A record of another interface is refused when an
  interface is created or deleted, but an update takes it for the state of the interface that the
  path names (`written_of_other_record_iff`, `other_state_updated`).
* Records can differ in the kind of the interface alone, which no command carries. Such an update
  sends nothing as statements, and a block with the line of the interface and nothing else on all
  other platforms (`silent_update_iff`, `kind_alone_written`).
-/

namespace VendorCli.Interfaces

open Text

/-- Records of one name and kind with the same settings are equal. -/
theorem eq_of_state {i j : Interface} (hname : i.name = j.name) (hkind : i.kind = j.kind)
    (hstate : State.of i = State.of j) : i = j := by
  rw [State.of, State.of, State.mk.injEq] at hstate
  obtain ⟨hdescription, hmtu, henabled⟩ := hstate
  cases i
  cases j
  cases hname
  cases hkind
  cases hdescription
  cases hmtu
  cases henabled
  rfl

/-! ### Commands of updates -/

section Commands

variable {p : Platform} {before after : Interface}

/-- There is no line for a setting exactly if it does not change. -/
theorem settingLines_eq_nil_iff {α : Type} [DecidableEq α] {before after : Option α}
    {set : α → Text} {removal : Text} :
    settingLines before after set removal = [] ↔ before = after := by
  cases after with
  | some a => by_cases h : before = some a <;> simp [settingLines, h]
  | none => cases before <;> simp [settingLines]

/-- An update has commands, unless nothing changes where nothing has to be said about that. -/
theorem commandsOf_eq_nil_iff : commandsOf p (some before) after = [] ↔
    p = .juniperJunos ∧ State.of before = State.of after := by
  -- line by line, the interface is entered before anything is said about it
  have hdirect : ∀ no, directCommands no (some before) after ≠ [] := by
    intro no h
    rw [directCommands, List.append_eq_nil_iff, List.append_eq_nil_iff, List.append_eq_nil_iff] at h
    exact List.cons_ne_nil _ _ h.1.1.1
  cases p
  case juniperJunos =>
    -- a line for the admin state is there exactly if that changes
    have hadmin : (if before.enabled = after.enabled then []
        else if after.enabled then [statement "delete " after.name "disable"]
        else [statement "set " after.name "disable"]) = [] ↔ before.enabled = after.enabled := by
      split
      · next h => exact iff_of_true rfl h
      · next h =>
        refine iff_of_false ?_ h
        split <;> exact List.cons_ne_nil _ _
    rw [commandsOf, statementCommands_eq, if_neg (by simp), settingStatements,
      List.append_eq_nil_iff, List.append_eq_nil_iff, settingLines_eq_nil_iff,
      settingLines_eq_nil_iff]
    simp only [earlier, Option.bind_some, Option.map_some, Option.getD_some, hadmin, State.of,
      State.mk.injEq, and_assoc, true_and]
  all_goals exact iff_of_false (hdirect _) (fun h => Platform.noConfusion h.1)

/-- If no setting changes, the line of the interface is all that there is to say. -/
theorem commandsOf_of_unchanged (hp : p ≠ .juniperJunos) (h : State.of before = State.of after) :
    commandsOf p (some before) after = ["interface " ++ after.name] := by
  have hdescription : earlier (some before) Interface.description = after.description :=
    congrArg State.description h
  have hmtu : earlier (some before) Interface.mtu = after.mtu := congrArg State.mtu h
  have henabled : before.enabled = after.enabled := congrArg State.enabled h
  have hdirect : ∀ no, directCommands no (some before) after = ["interface " ++ after.name] := by
    intro no
    rw [directCommands, settingLines_eq_nil_iff.mpr hdescription, settingLines_eq_nil_iff.mpr hmtu,
      Option.map_some, if_pos (congrArg some henabled)]
    rfl
  cases p
  case juniperJunos => exact absurd rfl hp
  all_goals exact hdirect _

/-- The commands of a change leave lines to send, if there are any. -/
theorem effectiveLines_planned_eq_nil_iff {commands : List Text} (h : ∀ t ∈ commands, Begins t) :
    Device.effectiveLines (planned p commands) = [] ↔ commands = [] := by
  constructor
  · intro hblank
    -- what is left to send has all lines of all commands, and each command has a line
    have hlines := flatMap_effectiveLines_planned p h
    rw [hblank, List.flatMap_nil, eq_comm, List.flatMap_eq_nil_iff] at hlines
    refine List.eq_nil_iff_forall_not_mem.mpr fun t ht => ?_
    obtain ⟨c, s, rfl, hc⟩ := h t ht
    obtain ⟨u, rest, hcons⟩ := exists_linesOf_cons p hc s
    exact List.cons_ne_nil _ _ (hcons.symm.trans (hlines _ ht))
  · rintro rfl
    cases p <;> rfl

/-- The commands of a change begin with their verb or word, and with no blank. -/
theorem begins_of_mem_commandsOf {before : Option Interface} {t : Text}
    (h : t ∈ commandsOf p before after) : Begins t :=
  begins_of_mem_slotsOf ((commandsOf_sublist p before after).subset h)

/-- An update leaves lines to send, unless nothing changes where nothing has to be said about
that. -/
theorem effectiveLines_update_eq_nil_iff :
    Device.effectiveLines (planned p (commandsOf p (some before) after)) = [] ↔
      p = .juniperJunos ∧ State.of before = State.of after :=
  (effectiveLines_planned_eq_nil_iff fun _ => begins_of_mem_commandsOf).trans commandsOf_eq_nil_iff

end Commands

/-! ### Plans of updates -/

section Plans

variable {path : ConfigPath} {p : Platform} {change : Change} {before after : Interface}

/-- A value tells one record, if any. -/
theorem Holds.unique {v : Option Json} {i j : Option Interface} (hi : Holds v i) (hj : Holds v j) :
    i = j := by
  cases hi with
  | none =>
    cases hj
    rfl
  | some hi =>
    cases hj with
    | some hj => rw [Except.ok.inj (hi.symm.trans hj)]

theorem Holds.eq_of_some {v : Option Json} {i j : Interface} (hi : Holds v (some i))
    (hj : Holds v (some j)) : i = j :=
  Option.some.inj (hi.unique hj)

/-- A change that is not refused is between records. -/
theorem exists_holds_of_plan (hpath : path.schema = configPath) {lines : List Text}
    (h : Registry.builtin.plan path p change = .ok lines) :
    ∃ before after, Holds change.before before ∧ Holds change.after after := by
  rw [Registry.plan, Units.writer_configPath hpath] at h
  change (writer (Units.styleOf p)).plan path change = .ok lines at h
  -- every record of the change is decoded before anything else is looked at
  obtain ⟨vb, va⟩ := change
  cases vb with
  | none =>
    cases va with
    | none => exact ⟨none, none, .none, .none⟩
    | some va =>
      obtain ⟨i, hi, -⟩ := exists_of_bind_eq_ok h
      exact ⟨none, some i, .none, .some (decode_of_record path hi)⟩
  | some vb =>
    cases va with
    | none =>
      obtain ⟨i, hi, -⟩ := exists_of_bind_eq_ok h
      exact ⟨some i, none, .some (decode_of_record path hi), .none⟩
    | some va =>
      obtain ⟨b, hb, h⟩ := exists_of_bind_eq_ok h
      obtain ⟨a, ha, -⟩ := exists_of_bind_eq_ok h
      exact ⟨some b, some a, .some (decode_of_record path hb), .some (decode_of_record path ha)⟩

/-- **The plan of an update.** Between equal records there is nothing to do. Otherwise the path has
to name the interface of the record after the update, and that is all that is asked. -/
theorem plan_update (hpath : path.schema = configPath) (hbefore : Holds change.before (some before))
    (hafter : Holds change.after (some after)) :
    Registry.builtin.plan path p change
      = if before = after then .ok []
        else (keyOf path after).map fun _ => planned p (commandsOf p (some before) after) := by
  rw [Registry.plan, Units.writer_configPath hpath]
  change (writer (Units.styleOf p)).plan path change = _
  obtain ⟨vb, va⟩ := change
  cases hbefore with
  | some hb =>
    cases hafter with
    -- both decode, so what is left is the comparison and the check of the name
    | some ha =>
      change ((writer (Units.styleOf p)).record path _ >>= fun b =>
        (writer (Units.styleOf p)).record path _ >>= fun a =>
          if b = a then .ok [] else keyOf path a >>= fun _ =>
            (Units.styleOf p).commands (some b) a) = _
      rw [Interface.record_eq_ok_iff.mpr hb, Interface.record_eq_ok_iff.mpr ha]
      change (if before = after then _ else keyOf path after >>= fun _ =>
        (Units.styleOf p).commands (some before) after) = _
      rw [styleOf_commands]
      cases keyOf path after <;> rfl

/-- An update between different records is refused unless the path names the second one. -/
theorem key?_of_plan_update (hpath : path.schema = configPath)
    (hbefore : Holds change.before (some before)) (hafter : Holds change.after (some after))
    (hne : before ≠ after) {lines : List Text}
    (h : Registry.builtin.plan path p change = .ok lines) :
    path.key? "name" = some after.name := by
  rw [plan_update hpath hbefore hafter, if_neg hne] at h
  cases hkey : keyOf path after with
  | ok key => exact (keyOf_eq_ok hkey).1
  | error e =>
    rw [hkey] at h
    cases h

end Plans

/-! ### Updates that are applied -/

section Applied

variable {path : ConfigPath} {change : Change} {before after : Interface} {d : Device}
  (hpath : path.schema = configPath) (hbefore : Holds change.before (some before))
  (hafter : Holds change.after (some after)) (hkey : path.key? "name" = some after.name)
  (hne : before ≠ after)

include hpath hbefore hafter hkey hne

/-- An update between different records, with the path that names the second one, is applied. -/
theorem plan_update_of_ne (p : Platform) :
    Registry.builtin.plan path p change = .ok (planned p (commandsOf p (some before) after)) := by
  rw [plan_update hpath hbefore hafter, if_neg hne, keyOf_of_key? hkey]
  rfl

/-- Statements for the same settings are none at all, so nothing is sent. -/
theorem write_update_of_silent
    (hsilent : d.platform = .juniperJunos ∧ State.of before = State.of after) (c : WriteContext) :
    Registry.builtin.write path change d c = (.ok (), d, c) := by
  have hplan := plan_update_of_ne hpath hbefore hafter hkey hne d.platform
  exact Registry.write_of_blank hplan (effectiveLines_update_eq_nil_iff.mpr hsilent) c

/-- In all other cases there is a block with the commands between the two records. -/
theorem write_update_of_commands
    -- a plan that has lines to send is recorded, and sent unless in check mode
    (hcommands : ¬ (d.platform = .juniperJunos ∧ State.of before = State.of after))
    (c : WriteContext) :
    let block := d.blockOf (Device.effectiveLines
      (planned d.platform (commandsOf d.platform (some before) after)))
    (Registry.builtin.write path change d c).2
      = (if c.checkMode then d else d.record block, c.record block) := by
  have hplan := plan_update_of_ne hpath hbefore hafter hkey hne d.platform
  have hlines := mt effectiveLines_update_eq_nil_iff.mp hcommands
  exact Prod.ext (Registry.device_of_ok hplan hlines c) (Registry.recorded_of_ok hplan hlines c)

end Applied

/-! ### Updates from another record -/

section Writes

variable {path : ConfigPath} {change : Change} {before after : Interface} {d : Device} {name : Text}

/-- Lines for a change with a record that is not about the interface of the path are those of an
update, and that record is the one before it. -/
theorem eq_nil_or_updates_of_other {lines : List Text} (hpath : path.schema = configPath)
    (hname : path.key? "name" = some name)
    (hother : (∃ i, Holds change.before (some i) ∧ i.name ≠ name) ∨
      ∃ i, Holds change.after (some i) ∧ i.name ≠ name)
    (hplan : Registry.builtin.plan path d.platform change = .ok lines) :
    lines = [] ∨ ∃ before after, Holds change.before (some before) ∧
      Holds change.after (some after) ∧ before.name ≠ name ∧ after.name = name := by
  obtain ⟨b, a, hb, ha⟩ := exists_holds_of_plan hpath hplan
  -- an accepted change is one between equal records, one to a record of the path's interface, or a
  -- removal of it
  rcases plan_builtin hpath hb ha hplan with hnil | ⟨i, rfl, hkey, -⟩ | ⟨i, rfl, rfl, hkey, -⟩
  · exact .inl hnil
  · obtain rfl : name = i.name := Option.some.inj (hname.symm.trans hkey)
    rcases hother with ⟨j, hj, hne⟩ | ⟨j, hj, hne⟩
    · exact .inr ⟨j, i, hj, ha, hne, rfl⟩
    · -- the record after the change is the one of the path, so it is not the other one
      exact absurd (congrArg Interface.name (hj.eq_of_some ha)) hne
  · obtain rfl : name = i.name := Option.some.inj (hname.symm.trans hkey)
    rcases hother with ⟨j, hj, hne⟩ | ⟨j, hj, -⟩
    · exact absurd (congrArg Interface.name (hj.eq_of_some hb)) hne
    · -- in a removal there is no record after the change at all
      cases hj.unique ha

/-- **Updates from another record.** A change one of whose records is not about the interface of the
path leaves the device and the context alone, unless it is an update to a record of that interface
from a record of another one. Such an update is applied on every platform, with the commands that
lead from the settings of the other interface; only on Junos are there none if the settings are the
same. -/
theorem written_of_other_record_iff (hpath : path.schema = configPath)
    (hname : path.key? "name" = some name)
    (hother : (∃ i, Holds change.before (some i) ∧ i.name ≠ name) ∨
      ∃ i, Holds change.after (some i) ∧ i.name ≠ name) (d : Device) (c : WriteContext) :
    let d' := (Registry.builtin.write path change d c).2.1
    let c' := (Registry.builtin.write path change d c).2.2
    (c' = c → d' = d) ∧
    (c' ≠ c ↔ ∃ before after, Holds change.before (some before) ∧
      Holds change.after (some after) ∧ before.name ≠ name ∧ after.name = name ∧
      (d.platform = .juniperJunos → State.of before ≠ State.of after)) ∧
    ∀ before after, Holds change.before (some before) → Holds change.after (some after) → c' ≠ c →
      c' = c.record (d.blockOf (Device.effectiveLines
        (planned d.platform (commandsOf d.platform (some before) after)))) := by
  intro d' c'
  by_cases hupdates : ∃ before after, Holds change.before (some before) ∧
      Holds change.after (some after) ∧ before.name ≠ name ∧ after.name = name
  · -- an update from a record of another interface: it is silent, or there is a block
    obtain ⟨before, after, hbefore, hafter, hne, rfl⟩ := hupdates
    have hdiffer : before ≠ after := fun h => hne (congrArg Interface.name h)
    by_cases hsilent : d.platform = .juniperJunos ∧ State.of before = State.of after
    · have hunchanged : d' = d ∧ c' = c := by
        have hwrite := write_update_of_silent hpath hbefore hafter hname hdiffer hsilent c
        simp only [d', c', hwrite, and_self]
      refine ⟨fun _ => hunchanged.1, iff_of_false (absurd hunchanged.2) ?_,
        fun _ _ _ _ h => absurd hunchanged.2 h⟩
      rintro ⟨b, a, hb, ha, -, -, hcommands⟩
      obtain rfl := hb.eq_of_some hbefore
      obtain rfl := ha.eq_of_some hafter
      exact hcommands hsilent.1 hsilent.2
    · have hrecorded : c' = _ := congrArg Prod.snd
        (write_update_of_commands hpath hbefore hafter hname hdiffer hsilent c)
      have hwritten : c' ≠ c := hrecorded ▸ c.record_ne _
      refine ⟨fun h => absurd h hwritten, iff_of_true hwritten ⟨before, after, hbefore, hafter,
        hne, rfl, fun hjunos hstate => hsilent ⟨hjunos, hstate⟩⟩, fun b a hb ha _ => ?_⟩
      obtain rfl := hb.eq_of_some hbefore
      obtain rfl := ha.eq_of_some hafter
      exact hrecorded
  · -- all other changes are refused or have no lines
    have hunchanged : d' = d ∧ c' = c := by
      cases hplan : Registry.builtin.plan path d.platform change with
      | error e => simp only [d', c', Registry.write_of_error hplan, and_self]
      | ok lines =>
        obtain rfl := (eq_nil_or_updates_of_other hpath hname hother hplan).resolve_right hupdates
        simp only [d', c', Registry.write_of_blank hplan rfl, and_self]
    refine ⟨fun _ => hunchanged.1, iff_of_false (absurd hunchanged.2) ?_,
      fun _ _ _ _ h => absurd hunchanged.2 h⟩
    rintro ⟨before, after, hbefore, hafter, hne, heq, -⟩
    exact hupdates ⟨before, after, hbefore, hafter, hne, heq⟩

/-- On IOS, the description of a loopback is not written if that of another one was the same. -/
theorem other_description_taken :
    let before := { Interface.named "Loopback1" with description := some "uplink" }
    let after := { Interface.named "Loopback0" with description := some "uplink" }
    let change : Change := ⟨some before.toJson, some after.toJson⟩
    let d : Device := ⟨.replay (.named "r1"), .ciscoIos, "r1"⟩
    let c := (Registry.builtin.write (pathOf "Loopback0") change d .sending).2.2
    c ≠ .sending ∧ c = WriteContext.sending.record
      (d.blockOf (Device.effectiveLines (planned d.platform ["interface Loopback0"]))) := by
  intro before after change d c
  have hbefore : Holds change.before (some before) := .some (Interface.ofJson_toJson before)
  have hafter : Holds change.after (some after) := .some (Interface.ofJson_toJson after)
  have hpath : (pathOf "Loopback0").schema = configPath := by decide
  have hkey : (pathOf "Loopback0").key? "name" = some ("Loopback0" : Text) := by decide
  have hother : before.name ≠ "Loopback0" := by decide
  have h := written_of_other_record_iff hpath hkey (.inl ⟨before, hbefore, hother⟩) d .sending
  have hwritten : c ≠ .sending :=
    h.2.1.mpr ⟨before, after, hbefore, hafter, by decide, by decide, by decide⟩
  exact ⟨hwritten, h.2.2 before after hbefore hafter hwritten⟩

/-- On Junos, a description that only another interface has is deleted. -/
theorem other_state_updated :
    let before := { Interface.named "lo1" with description := some "uplink" }
    let change : Change := ⟨some before.toJson, some (Interface.named "lo0").toJson⟩
    let d : Device := ⟨.replay (.named "r1"), .juniperJunos, "r1"⟩
    let written := Registry.builtin.write (pathOf "lo0") change d .sending
    written.1 = .ok () ∧ written.2.2.blocks
      = [("configure\ndelete interfaces lo0 description\ncommit\nexit" : Text)] := by
  decide +kernel

/-! ### Silent updates -/

/-- **Updates that change nothing.** If two records agree in all but the kind of the interface, an
update between them that is accepted leaves the device and the context alone if the kind is the same
too, and always on Junos. Everywhere else there is a block that has the line of the interface and
nothing else, and it is sent unless in check mode. -/
theorem silent_update_iff (hpath : path.schema = configPath)
    (hbefore : Holds change.before (some before)) (hafter : Holds change.after (some after))
    (hname : before.name = after.name) (hstate : State.of before = State.of after)
    (haccepted : (Registry.builtin.write path change d .checking).1 = .ok ()) (c : WriteContext) :
    (Registry.builtin.write path change d c = (.ok (), d, c) ↔
      before.kind = after.kind ∨ d.platform = .juniperJunos) ∧
    (¬ (before.kind = after.kind ∨ d.platform = .juniperJunos) →
      ∃ block, (Registry.builtin.write path change d c).2.2 = c.record block ∧
        (Registry.builtin.write path change d c).2.1 = (if c.checkMode then d else d.record block) ∧
        Text.lines block
          = d.platform.dialect.wrap (linesOf d.platform ("interface " ++ after.name))) := by
  -- equal records are told apart first, since an update between them is accepted on any path
  by_cases hsame : before = after
  · have hplan := plan_update (p := d.platform) hpath hbefore hafter
    rw [if_pos hsame] at hplan
    have hkind : before.kind = after.kind ∨ d.platform = .juniperJunos :=
      .inl (congrArg Interface.kind hsame)
    exact ⟨iff_of_true (Registry.write_of_blank hplan rfl c) hkind, absurd hkind⟩
  · have hkind : before.kind ≠ after.kind := fun h => hsame (eq_of_state hname h hstate)
    -- that the update is accepted in check mode is what shows the path's name
    have hkey : path.key? "name" = some after.name := by
      cases hplan : Registry.builtin.plan path d.platform change with
      | ok lines => exact key?_of_plan_update hpath hbefore hafter hsame hplan
      | error e =>
        rw [Registry.write_of_error hplan] at haccepted
        cases haccepted
    by_cases hjunos : d.platform = .juniperJunos
    · have hwrite :=
        write_update_of_silent hpath hbefore hafter hkey hsame ⟨hjunos, hstate⟩ c
      exact ⟨iff_of_true hwrite (.inr hjunos), absurd (.inr hjunos)⟩
    · have hwrite :=
        write_update_of_commands hpath hbefore hafter hkey hsame (fun h => hjunos h.1) c
      have hrecorded := congrArg Prod.snd hwrite
      refine ⟨iff_of_false (fun h => ?_) (not_or.mpr ⟨hkind, hjunos⟩),
        fun _ => ⟨_, hrecorded, congrArg Prod.fst hwrite, ?_⟩⟩
      · rw [h] at hrecorded
        exact WriteContext.record_ne c _ hrecorded.symm
      · -- the settings are the same, so the line of the interface is all that the block has
        rw [lines_blockOf, flatMap_effectiveLines_planned _ fun _ => begins_of_mem_commandsOf,
          commandsOf_of_unchanged hjunos hstate, List.flatMap_singleton]

/-- On Junos nothing is sent for another kind of interface. -/
theorem kind_alone_silent :
    let before := { Interface.named "lo0" with kind := .other }
    let change : Change := ⟨some before.toJson, some (Interface.named "lo0").toJson⟩
    let d : Device := ⟨.replay (.named "r1"), .juniperJunos, "r1"⟩
    Registry.builtin.write (pathOf "lo0") change d .sending = (.ok (), d, .sending) := by
  intro before change d
  have hpath : (pathOf "lo0").schema = configPath := by decide
  have hbefore : Holds change.before (some before) := .some (Interface.ofJson_toJson before)
  have hafter : Holds change.after (some (Interface.named "lo0")) :=
    .some (Interface.ofJson_toJson _)
  have haccepted : (Registry.builtin.write (pathOf "lo0") change d .checking).1 = .ok () := by
    decide +kernel
  exact (silent_update_iff hpath hbefore hafter rfl rfl haccepted .sending).1.mpr (.inr rfl)

/-- On IOS, a block without any command for the interface is sent for another kind of it. -/
theorem kind_alone_written :
    let before := { Interface.named "Loopback10" with kind := .other }
    let change : Change := ⟨some before.toJson, some (Interface.named "Loopback10").toJson⟩
    let d : Device := ⟨.replay (.named "r1"), .ciscoIos, "r1"⟩
    let written := Registry.builtin.write (pathOf "Loopback10") change d .sending
    written.1 = .ok () ∧ written.2.1.history = written.2.2.blocks ∧
      written.2.2.blocks = [("configure terminal\ninterface Loopback10\nend" : Text)] := by
  decide +kernel

end Writes

end VendorCli.Interfaces
