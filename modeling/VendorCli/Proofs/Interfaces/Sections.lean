import VendorCli.Proofs.Interfaces.Execution
/-!
# Sections of interfaces

On all platforms but one, an interface is read from the section that its line opens, and written as
the lines of one.

* Only the settings of the interface itself count. Lines nested below one of them can be added, and
  the reader returns what it did before (`nested_lines_ignored`).
* What is written for a record that was read is read as that record (`written_section_read`). The
  line for the admin state is always there, but it disables the interface only if it is not negated.
-/

namespace VendorCli.Interfaces

open Text

/-! ### Nested lines -/

section Nested

variable {name output extended opening line : Text} {above inside below inserted : List Text}

/-- **Nested lines are ignored.** Below the line that opens the section of an interface, lines can
be put in after any line that counts. If all of them that count are indented further than it, the
interface and its primary address are read as before. -/
theorem nested_lines_ignored
    (houtput : lines output = above ++ opening :: (inside ++ line :: below))
    (hextended : lines extended = above ++ opening :: (inside ++ line :: (inserted ++ below)))
    (hopens : Section.Opens ("interface " ++ name) (above.filterMap Section.keptLine?)
      (Section.indentation opening, trim opening))
    (hline : Section.isKept (trim line) = true)
    (hdeeper : ∀ l ∈ inserted, Section.isKept (trim l) = true →
      Section.indentation line < Section.indentation l) :
    (∀ path, fromSections path name extended = fromSections path name output) ∧
    ∀ regex, (Section.bodyOf? extended ("interface " ++ name)).bind (Addresses.primary? regex)
      = (Section.bodyOf? output ("interface " ++ name)).bind (Addresses.primary? regex) := by
  -- the line begins with a letter, so it is neither blank nor a separator
  have hkept : Section.isKept (trim opening) = true := by
    have htext : trim opening = trim ("interface " ++ name) := hopens.text
    have hcons : trim ("interface " ++ name) = 'i' :: trimEnd ("nterface " ++ name) :=
      trim_cons rfl _
    rw [htext, hcons]
    rfl
  have hbody : Section.bodyOf? extended ("interface " ++ name)
      = Section.bodyOf? output ("interface " ++ name) :=
    Section.bodyOf?_insert houtput hextended hkept hopens hline hdeeper
  constructor
  · intro path
    rw [fromSections, fromSections, hbody]
  · intro regex
    rw [hbody]

end Nested

/-- Lines of a service instance are nested below it, with a blank line and a separator among
them. -/
theorem service_instance_ignored :
    let extended : Text := "interface GigabitEthernet0/1\n mtu 1500\n service instance 10 ethernet"
      ++ "\n  description customer-A\n\n!\n  shutdown\n ip address 10.0.0.1 255.255.255.0"
    fromSections (pathOf "GigabitEthernet0/1") "GigabitEthernet0/1" extended
        = .ok (some { Interface.named "GigabitEthernet0/1" with mtu := some 1500 }) ∧
      (Section.bodyOf? extended "interface GigabitEthernet0/1").bind
          (Addresses.primary? (Addresses.primaryLine "ip"))
        = some ⟨Ipv4.ofOctets 10 0 0 1, 24⟩ := by
  intro extended
  let opening : Text := "interface GigabitEthernet0/1"
  let inside : List Text := [" mtu 1500"]
  let line : Text := " service instance 10 ethernet"
  let inserted : List Text := ["  description customer-A", "", "!", "  shutdown"]
  let below : List Text := [" ip address 10.0.0.1 255.255.255.0"]
  let output : Text := "interface GigabitEthernet0/1\n mtu 1500\n service instance 10 ethernet"
    ++ "\n ip address 10.0.0.1 255.255.255.0"
  have houtput : lines output = [] ++ opening :: (inside ++ line :: below) := by decide +kernel
  have hextended : lines extended = [] ++ opening :: (inside ++ line :: (inserted ++ below)) := by
    decide +kernel
  have hopens : Section.Opens ("interface " ++ "GigabitEthernet0/1") []
      (Section.indentation opening, trim opening) := .nil (by decide)
  obtain ⟨hrecord, haddress⟩ :=
    nested_lines_ignored houtput hextended hopens rfl (by decide +kernel)
  constructor
  · rw [hrecord]
    decide +kernel
  · refine (haddress _).trans ?_
    decide +kernel

/-! ### Written sections -/

section Written

variable {no : Text} {i : Interface}

/-- The line for the admin state. -/
def stateText (no : Text) (i : Interface) : Text :=
  if i.enabled then no ++ " shutdown" else "shutdown"

/-- The commands of an interface that was not there before are its line and the settings of the
record. -/
theorem directCommands_none (no : Text) (i : Interface) : directCommands no none i
    = ("interface " ++ i.name) :: settingTexts id i [stateText no i] := by
  have hadmin : (if (none : Option Interface).map Interface.enabled = some i.enabled then []
      else if i.enabled then [no ++ " shutdown"] else ["shutdown"]) = [stateText no i] := by
    rw [if_neg (by simp), stateText]
    split <;> rfl
  rw [directCommands, hadmin, earlier, earlier, Option.bind_none, Option.bind_none,
    settingLines_none, settingLines_none]
  simp [settingTexts]

/-- The line for the admin state is read for what it says: only without the word that negates it
does it disable the interface. -/
theorem stateText_spec (hno : IsNegation no) :
    Neat (stateText no i) ∧ Section.isKept (stateText no i) = true ∧
      (descriptionIn? (stateText no i) = none ∧ sizeIn? (stateText no i) = none) ∧
      ("shutdown" = stateText no i ↔ i.enabled = false) := by
  have hline : stateText no i = "no shutdown" ∧ i.enabled = true ∨
      stateText no i = "undo shutdown" ∧ i.enabled = true ∨
      stateText no i = "shutdown" ∧ i.enabled = false := by
    rw [stateText]
    cases i.enabled
    · -- the line disables the interface, whatever the word for negation is
      exact .inr (.inr ⟨rfl, rfl⟩)
    · rcases hno with rfl | rfl
      · exact .inl ⟨rfl, rfl⟩
      · exact .inr (.inl ⟨rfl, rfl⟩)
  -- each of the three lines is looked at for itself
  rcases hline with ⟨hline, he⟩ | ⟨hline, he⟩ | ⟨hline, he⟩
  all_goals
    rw [hline, he]
    exact ⟨⟨by decide, by decide, by decide⟩, rfl, ⟨rfl, rfl⟩, by decide⟩

/-- Settings of a record that was read from a section are lines of one. -/
theorem neat_of_mem_settingTexts (hno : IsNegation no)
    (hdescription : ∀ t, i.description = some t → Neat ("description " ++ t)) {l : Text}
    (h : l ∈ settingTexts id i [stateText no i]) : Neat l ∧ Section.isKept l = true := by
  rcases eq_of_mem_settingTexts h with ⟨t, ht, rfl⟩ | ⟨n, rfl⟩ | h
  · exact ⟨hdescription t ht, rfl⟩
  -- the line of an MTU begins with a letter and ends with a digit
  · have htrim : trim ("mtu " ++ Decimal.digitsOf n.toNat) = "mtu " ++ Decimal.digitsOf n.toNat :=
      trim_of_ends ⟨'m', _, rfl, rfl⟩ ((ends_digitsOf n.toNat).append _)
    refine ⟨⟨htrim, List.cons_ne_nil _ _, ?_⟩, rfl⟩
    simpa using Decimal.not_mem_digitsOf rfl
  · obtain ⟨hneat, hkept, -⟩ := stateText_spec (i := i) hno
    rw [List.mem_singleton.mp h]
    exact ⟨hneat, hkept⟩

/-- The first line that a platform makes of the commands is that of the interface, and the others
are the commands themselves, if they are neat. -/
theorem exists_planned_cons {p : Platform} (hp : p ≠ .juniperJunos) {c : Char} {s : Text}
    {settings : List Text} (hc : isBlank c = false) (hone : OneLine (c :: s))
    (h : ∀ l ∈ settings, Neat l) :
    ∃ u, planned p ((c :: s) :: settings) = (c :: u) :: settings ∧ OneLine (c :: u) ∧
      trim (c :: u) = trim (c :: s) := by
  have hcut : ((c :: s) :: settings).flatMap Template.commandLines = trim (c :: s) :: settings := by
    have hrest : settings.flatMap Template.commandLines = settings.map id :=
      flatMap_eq_map fun l hl => Template.commandLines_of_neat (h l hl)
    rw [List.flatMap_cons, Template.commandLines_of_oneLine hc hone, hrest, List.map_id]
    rfl
  have htrim : OneLine (trim (c :: s)) ∧ trim (trim (c :: s)) = trim (c :: s) := by
    rw [OneLine, trim_trim]
    exact ⟨hone, rfl⟩
  -- without a template, commands are not cut into lines before they are sent
  cases p
  case juniperJunos => exact absurd rfl hp
  case huawei => exact ⟨s, rfl, hone, rfl⟩
  all_goals
    rw [planned, hcut]
    rw [trim_cons hc] at htrim ⊢
    exact ⟨_, rfl, htrim⟩

/-- **Written sections are read.** The commands that create an interface as it was read, presented
as a section, are read as the same interface: with its description, MTU, admin state and kind. -/
theorem written_section_read {p : Platform} (hp : p ≠ .juniperJunos) {path : ConfigPath}
    {name output : Text} {i : Interface} (h : fromSections path name output = .ok (some i)) :
    ∃ lines, (Units.styleOf p).commands none i = .ok lines ∧
      fromSections path name (Section.sectionOf lines) = .ok (some i) := by
  obtain ⟨rfl, hkind, hone, hneat⟩ := fromSections_spec h
  -- platforms differ in the word that negates, and in how the first line is cut
  obtain ⟨no, hno, hcommands⟩ : ∃ no, IsNegation no ∧ commandsOf p none i
      = directCommands no none i := by
    cases p
    case juniperJunos => exact absurd rfl hp
    case huawei => exact ⟨_, .inr rfl, rfl⟩
    all_goals exact ⟨_, .inl rfl, rfl⟩
  have hsettings : ∀ l ∈ settingTexts id i [stateText no i], Neat l ∧ Section.isKept l = true :=
    fun l hl => neat_of_mem_settingTexts hno hneat hl
  obtain ⟨u, hlines, hfirst, htrim⟩ := exists_planned_cons (c := 'i') (s := "nterface " ++ i.name)
    hp rfl hone fun l hl => (hsettings l hl).1
  refine ⟨('i' :: u) :: settingTexts id i [stateText no i], ?_, ?_⟩
  · -- what is written is the line of the interface and the settings of the record
    rw [styleOf_commands, hcommands, directCommands_none]
    exact congrArg Except.ok hlines
  · -- the line of the interface opens the section, and its settings are read back from there
    have hread : Section.commands? (Section.sectionOf (('i' :: u)
        :: settingTexts id i [stateText no i])) ("interface " ++ i.name)
          = some (settingTexts id i [stateText no i]) :=
      Section.commands?_sectionOf rfl rfl hfirst htrim.symm (by simp [settingTexts]) hsettings
    obtain ⟨-, -, hadmin, hoff⟩ := stateText_spec (i := i) hno
    have hrecord : ofLines path i.name id "shutdown" (settingTexts id i [stateText no i])
        = .ok i := by
      refine ofLines_settingTexts hkind (fun t ht => ⟨?_, ?_, rfl⟩) (by simpa using hadmin)
        (by simpa using hoff) ⟨rfl, rfl⟩
      · -- a line that is only the word would not be neat
        rintro rfl
        exact absurd (hneat [] ht).trim_eq (by decide)
      · exact fun hfeed => (hneat t ht).feedless (List.mem_append_right _ hfeed)
    rw [fromSections_eq, hread]
    dsimp only
    rw [hrecord]
    rfl

end Written

/-- On Huawei, an interface that is disabled and described. -/
theorem written_section_read_vlan :
    let i := { Interface.named "Vlanif10" with
      description := some "no shutdown", mtu := some 1500, enabled := false }
    fromSections (pathOf "Vlanif10") "Vlanif10"
      (Section.sectionOf ["interface Vlanif10", "description no shutdown", "mtu 1500", "shutdown"])
      = .ok (some i) := by
  intro i
  have h : fromSections (pathOf "Vlanif10") "Vlanif10"
      "#\ninterface Vlanif10\n shutdown\n  mtu 9000\n mtu 01500\n description no shutdown"
      = .ok (some i) := by decide +kernel
  have hcommands : (Units.styleOf .huawei).commands none i
      = .ok ["interface Vlanif10", "description no shutdown", "mtu 1500", "shutdown"] := by
    decide +kernel
  obtain ⟨lines, hlines, hread⟩ := written_section_read (p := .huawei) (by decide) h
  cases hcommands.symm.trans hlines
  exact hread

end VendorCli.Interfaces
