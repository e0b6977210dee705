import VendorCli.Proofs.Addresses.Writing
import VendorCli.Proofs.Interfaces.Updates
import VendorCli.Proofs.Registry.Nodes
import VendorCli.Proofs.Session.Reads
/-!
# Rehearsed changes

A change can be rehearsed over a replay session without captured output, which accepts all lines
that do not ask for the state of the device. No command of the built-in units does that by itself
(`configures_of_plan`), so whether a line of a block does depends on the texts that a change comes
with: the name of an interface and the index of a subinterface, which the path has, and a
description. Plain texts are harmless: those without a line feed, and without a bar that stands
alone.

Descriptions need not be plain. `rehearsal_succeeds_iff` says that a change that is accepted in
check mode fails when it is rehearsed exactly if its block has a line that is taken for one that
asks; `piped_description_refused` has such a change.
-/

namespace VendorCli

open Text
open Replay (Asks)

/-! ### Plain texts -/

/-- A text on one line, in which no bar stands alone. -/
def Plain (t : Text) : Prop :=
  '\n' ∉ t ∧ ['|'] ∉ words t

instance (t : Text) : Decidable (Plain t) :=
  inferInstanceAs (Decidable ('\n' ∉ t ∧ ['|'] ∉ words t))

namespace Plain

variable {s t : Text}

/-- Plain texts may be put together, for no bar becomes a word by that. -/
theorem append (hs : Plain s) (ht : Plain t) : Plain (s ++ t) := by
  refine ⟨by simp [hs.1, ht.1], fun hbar => ?_⟩
  exact (singleton_mem_words_append rfl hbar).elim hs.2 ht.2

/-- Blanks around a plain text make no difference. -/
theorem trim (ht : Plain t) : Plain (trim t) :=
  ⟨fun hfeed => ht.1 (trim_subset t hfeed), by rw [words_trim]; exact ht.2⟩

/-- A text without a line feed and without a bar is plain. -/
theorem of_not_mem (hfeed : '\n' ∉ t) (hbar : '|' ∉ t) : Plain t := by
  refine ⟨hfeed, fun hmem => ?_⟩
  obtain ⟨s, u, rfl, -⟩ := (singleton_mem_words_iff rfl).mp hmem
  exact hbar (by simp)

/-- A backslash before each character of a kind makes no bar stand alone. -/
theorem escaped {c : Char} (hbar : c ≠ '|') (hblank : isBlank c = false) (ht : Plain t) :
    Plain (replaceChar c ['\\', c] t) := by
  refine ⟨fun hfeed => ?_, fun hmem => ?_⟩
  -- a line feed is not among what is written for a character
  · obtain ⟨d, hd, hfeed⟩ := List.mem_flatMap.mp hfeed
    split at hfeed
    · rw [List.mem_cons, List.mem_singleton] at hfeed
      rcases hfeed with hfeed | rfl
      · cases hfeed
      · cases hblank
    · exact ht.1 (List.mem_singleton.mp hfeed ▸ hd)
  -- and a bar that stands alone has stood alone before
  · have hslash : isBlank '\\' = false := rfl
    have hword : Unbroken ['\\', c] := ⟨List.cons_ne_nil _ _, by simp [hslash, hblank]⟩
    refine ht.2 (singleton_mem_words_replaceChar rfl hword ?_ hmem)
    simpa using hbar.symm

/-- A value in a statement is plain if it is so without quotes and backslashes. -/
theorem quoted (ht : Plain t) : Plain (Interfaces.quoted t) := by
  unfold Interfaces.quoted
  split
  -- backslashes are escaped first, and double quotes then
  · have hinner := escaped (c := '"') (by decide) rfl (escaped (c := '\\') (by decide) rfl ht)
    exact (append (s := ['"']) (by decide) hinner).append (by decide)
  · exact ht

/-- A number is plain. -/
theorem digitsOf (n : Nat) : Plain (Decimal.digitsOf n) :=
  .of_not_mem (Decimal.not_mem_digitsOf rfl) (Decimal.not_mem_digitsOf rfl)

/-- So is an address, which has digits and points. -/
theorem toText (ip : Ipv4) : Plain ip.toText := by
  refine .of_not_mem (fun h => ?_) (fun h => ?_) <;>
  · rcases Ipv4.eq_or_isDigit_of_mem_toText h with h | h <;> cases h

end Plain

/-! ### Commands -/

/-- **A line that configures**: it is plain, and begins with a word that does not ask. -/
def Configures (line : Text) : Prop :=
  Plain line ∧ ∃ w ∈ (words line).head?, w ≠ "show".toList ∧ w ≠ "display".toList

instance (line : Text) : Decidable (Configures line) :=
  inferInstanceAs (Decidable
    (Plain line ∧ ∃ w ∈ (words line).head?, w ≠ "show".toList ∧ w ≠ "display".toList))

namespace Configures

variable {line t : Text}

/-- A line that configures does not ask, either by its first word or behind a bar. -/
theorem not_asks (h : Configures line) : ¬ Asks line := by
  obtain ⟨⟨-, hbar⟩, w, hw, hne⟩ := h
  refine Replay.not_asks hbar fun v hv => ?_
  rwa [Option.mem_unique hv hw]

/-- Blanks around a line that configures make no difference. -/
theorem trim (h : Configures line) : Configures (trim line) :=
  ⟨h.1.trim, by rw [words_trim]; exact h.2⟩

/-- A value behind the words of a command, which decide what it is. -/
theorem value (lead : Text) (hlead : Configures lead ∧ lead.getLast? = some ' ') (ht : Plain t) :
    Configures (lead ++ t) := by
  obtain ⟨⟨hplain, w, hw, hne⟩, hblank⟩ := hlead
  obtain ⟨l, rfl⟩ := List.getLast?_eq_some_iff.mp hblank
  refine ⟨hplain.append ht, w, ?_, hne⟩
  rw [words_append_cons isBlank_space, words_nil, List.append_nil] at hw
  rw [List.append_assoc, List.singleton_append, words_append_cons isBlank_space, Option.mem_def,
    List.head?_append, Option.mem_def.mp hw, Option.some_or]

end Configures

section Interfaces

variable {no name c : Text} {after : Interface}

/-- **Lines on IOS and VRP** configure, if the name and the description are plain. -/
theorem configures_of_mem_directSlots (hno : Interfaces.IsNegation no) (hname : Plain name)
    (hdesc : ∀ t, after.description = some t → Plain t)
    (hc : c ∈ Interfaces.directSlots no name after) : Configures c := by
  -- one line for each setting, and those that take a setting back
  rcases Interfaces.eq_of_mem_directSlots hc with rfl | ⟨t, ht, rfl⟩ | ⟨n, rfl⟩ | rfl | ⟨w, hw, rfl⟩
  · exact .value "interface " (by decide +kernel) hname
  · exact .value "description " (by decide +kernel) (hdesc t ht)
  · exact .value "mtu " (by decide +kernel) (.digitsOf _)
  · decide +kernel
  · -- what negates a setting has no value
    have hfixed : ∀ w ∈ ([" description", " mtu", " shutdown"] : List Text),
        Configures ("no" ++ w) ∧ Configures ("undo" ++ w) := by decide +kernel
    rcases hno with rfl | rfl
    · exact (hfixed w hw).1
    · exact (hfixed w hw).2

/-- **Statements on Junos** configure, if the name and what follows it are plain. -/
theorem configures_statement {verb rest : Text} (hverb : verb = "set " ∨ verb = "delete ")
    (hname : Plain name) (hrest : Plain rest) :
    Configures (Interfaces.statement verb name rest) := by
  have hplain : Plain (("interfaces " ++ name) ++ ' ' :: rest) :=
    (Plain.append (by decide +kernel) hname).append (.append (s := [' ']) (by decide +kernel) hrest)
  rw [Interfaces.statement, List.append_assoc]
  rcases hverb with rfl | rfl
  · exact .value "set " (by decide +kernel) hplain
  · exact .value "delete " (by decide +kernel) hplain

/-- Each statement for an interface is one of those. -/
theorem configures_of_mem_statementSlots (hname : Plain name)
    (hdesc : ∀ t, after.description = some t → Plain t)
    (hc : c ∈ Interfaces.statementSlots name after) : Configures c := by
  have hset : ∀ {rest}, Plain rest → Configures (Interfaces.statement "set " name rest) :=
    configures_statement (.inl rfl) hname
  rcases List.mem_cons.mp hc with rfl | hc
  · exact .value "set " (by decide +kernel) (.append (by decide +kernel) hname)
  · rcases Interfaces.eq_of_mem_tail hc with ⟨t, ht, rfl⟩ | ⟨n, rfl⟩ | rfl | ⟨w, hw, rfl⟩
    · exact hset (.append (s := "description ") (by decide +kernel) (hdesc t ht).quoted)
    · exact hset (.append (s := "mtu ") (by decide +kernel) (.digitsOf _))
    · exact hset (by decide +kernel)
    · refine configures_statement (.inr rfl) hname ?_
      have hfixed : ∀ w ∈ (["description", "mtu", "disable"] : List Text), Plain w := by
        decide +kernel
      exact hfixed w hw

/-- The commands for a record are some of the lines of its platform. -/
theorem configures_of_mem_commandsOf {p : Platform} {before : Option Interface}
    (hname : Plain after.name) (hdesc : ∀ t, after.description = some t → Plain t)
    (hc : c ∈ Interfaces.commandsOf p before after) : Configures c := by
  have hslot := (Interfaces.commandsOf_sublist p before after).subset hc
  cases p
  case juniperJunos => exact configures_of_mem_statementSlots hname hdesc hslot
  case huawei => exact configures_of_mem_directSlots (.inr rfl) hname hdesc hslot
  all_goals exact configures_of_mem_directSlots (.inl rfl) hname hdesc hslot

/-- The command that removes an interface configures. -/
theorem configures_removal (p : Platform) (hname : Plain name) :
    Configures ((Units.styleOf p).removal name) := by
  cases p
  case juniperJunos => exact .value "delete interfaces " (by decide +kernel) hname
  case huawei => exact .value "undo interface " (by decide +kernel) hname
  all_goals exact .value "no interface " (by decide +kernel) hname

end Interfaces

/-- A command that configures is a line that does. -/
theorem configures_of_mem_commandLines {c l : Text} (hc : Configures c)
    (hl : l ∈ Template.commandLines c) : Configures l := by
  rw [Template.commandLines_of_not_mem hc.1.1] at hl
  split at hl
  · cases hl
  · rw [List.mem_singleton.mp hl]
    exact hc.trim

/-- The lines of a plan are commands that configure. -/
theorem configures_of_mem_planned {p : Platform} {commands : List Text} {l : Text}
    (h : ∀ c ∈ commands, Configures c) (hl : l ∈ Interfaces.planned p commands) : Configures l := by
  -- a command that configures is on one line, so cutting it leaves it as it is
  have hcut : l ∈ commands.flatMap Template.commandLines → Configures l := by
    intro hl
    obtain ⟨c, hc, hl⟩ := List.mem_flatMap.mp hl
    exact configures_of_mem_commandLines (h c hc) hl
  cases p
  case juniperJunos => exact h l hl
  case huawei => exact h l hl
  all_goals exact hcut hl

/-! ### Plans -/

/-- **The plan of a change of the BGP process.** If the writer does not refuse a change, there are
no lines, or those of the template for two records, or the line that removes the process. -/
theorem Bgp.plan_writer {path : ConfigPath} {change : Change} {lines : List Text}
    (h : writer.plan path change = .ok lines) :
    lines = [] ∨ (∃ before after, commands before after = .ok lines) ∨
      ∃ b : BgpGlobal, lines = ["no router bgp " ++ Decimal.digitsOf b.system.toNat] := by
  obtain ⟨before, after⟩ := change
  -- a plan has passed all of its checks, whose results are named and not looked at
  cases before with
  | none =>
    cases after with
    | none =>
      cases h
      exact .inl rfl
    | some after =>
      obtain ⟨a, -, h⟩ := exists_of_bind_eq_ok h
      obtain ⟨⟨⟩, -, h⟩ := exists_of_bind_eq_ok h
      exact .inr (.inl ⟨none, a, h⟩)
  | some before =>
    cases after with
    | none =>
      obtain ⟨b, -, h⟩ := exists_of_bind_eq_ok h
      obtain ⟨⟨⟩, -, h⟩ := exists_of_bind_eq_ok h
      cases h
      exact .inr (.inr ⟨b, rfl⟩)
    | some after =>
      obtain ⟨b, -, h⟩ := exists_of_bind_eq_ok h
      obtain ⟨a, -, h⟩ := exists_of_bind_eq_ok h
      split at h
      · cases h
        exact .inl rfl
      · obtain ⟨⟨⟩, -, h⟩ := exists_of_bind_eq_ok h
        split at h
        · exact .inr (.inl ⟨some b, a, h⟩)
        · cases h

section Plans

variable {path : ConfigPath} {p : Platform} {change : Change} {lines : List Text}

/-- **The BGP process** is configured by numbers and addresses alone. -/
theorem configures_of_bgp (h : Bgp.writer.plan path change = .ok lines) {l : Text}
    (hl : l ∈ lines) : Configures l := by
  rcases Bgp.plan_writer h with rfl | ⟨before, after, h⟩ | ⟨b, rfl⟩
  · cases hl
  · rw [Bgp.commands_eq] at h
    cases h
    obtain ⟨c, hc, hl⟩ := List.mem_flatMap.mp hl
    refine configures_of_mem_commandLines ?_ hl
    rw [List.singleton_append, List.mem_cons] at hc
    rcases hc with rfl | hc
    · exact .value "router bgp " (by decide +kernel) (.digitsOf _)
    · have hslot := (Interfaces.settingLines_sublist _ _ _ _).subset hc
      rw [List.mem_singleton.mp hslot]
      cases after.routerId with
      | none => decide +kernel
      | some id => exact .value "bgp router-id " (by decide +kernel) (.toText id)
  · rw [List.mem_singleton.mp hl]
    exact .value "no router bgp " (by decide +kernel) (.digitsOf _)

/-- **An address** is configured at a plain name, by an address and a mask. -/
theorem configures_of_address
    (hname : ∀ name, Interfaces.subinterfaceName path = .ok name → Plain name)
    (h : Addresses.writer.plan path change = .ok lines) {l : Text} (hl : l ∈ lines) :
    Configures l := by
  rcases Addresses.plan_writer h with rfl | ⟨lead, v, a, name, hlead, -, hsub, rfl⟩
  · cases hl
  · have haddress : Plain (a.ip.toText ++ ' ' :: a.netmask.toText) :=
      (Plain.toText _).append (.append (s := [' ']) (by decide) (.toText _))
    rw [List.mem_cons, List.mem_singleton] at hl
    rcases hl with rfl | rfl
    · exact .value "interface " (by decide +kernel) (hname name hsub)
    · rw [Addresses.addressLine, List.append_assoc]
      rcases Addresses.lead_of_requested? hlead with rfl | rfl
      · exact .value "ip address " (by decide +kernel) haddress
      · exact .value "no ip address " (by decide +kernel) haddress

/-- All texts that a change of an interface or an address comes with are plain: the name and the
index in the path, and the description after the change. -/
structure PlainTexts (path : ConfigPath) (change : Change) : Prop where
  name : ∀ t, path.key? "name" = some t → Plain t
  index : ∀ t, path.key? "index" = some t → Plain t
  description : path.schema = Interfaces.configPath → ∀ i t,
    Interfaces.Holds change.after (some i) → i.description = some t → Plain t

/-- The name of a subinterface is made of the texts in the path. -/
theorem PlainTexts.subinterfaceName (h : PlainTexts path change) {name : Text}
    (hname : Interfaces.subinterfaceName path = .ok name) : Plain name := by
  obtain ⟨key, hkey, hname⟩ := exists_of_bind_eq_ok hname
  have hplain : Plain key := h.name key (requireKey_eq_ok_iff.mp hkey)
  split at hname
  · cases hname
    exact hplain
  · next index hindex =>
    cases hname
    split
    · exact hplain
    · exact hplain.append (.append (s := ['.']) (by decide) (h.index _ hindex))

/-- **No command asks by itself.** With plain texts, all lines of a change configure. -/
theorem configures_of_plan (htexts : PlainTexts path change)
    (h : Registry.builtin.plan path p change = .ok lines) {l : Text} (hl : l ∈ lines) :
    Configures l := by
  obtain ⟨w, hw, hplan⟩ := exists_of_bind_eq_ok h
  obtain ⟨n, hn, rfl⟩ := Units.exists_node_of_writer hw
  -- one case for each node that has a writer
  cases n with
  | interface =>
    obtain ⟨before, after, hbefore, hafter⟩ := Interfaces.exists_holds_of_plan hn h
    rcases Interfaces.plan_builtin hn hbefore hafter h with
      rfl | ⟨i, rfl, hkey, rfl⟩ | ⟨i, rfl, rfl, hkey, rfl⟩
    · cases hl
    · refine configures_of_mem_planned (fun c hc => ?_) hl
      exact configures_of_mem_commandsOf (htexts.name _ hkey)
        (fun t => htexts.description hn i t hafter) hc
    · rw [List.mem_singleton.mp hl]
      exact configures_removal p (htexts.name _ hkey)
  | address => exact configures_of_address (fun _ => htexts.subinterfaceName) hplan hl
  | bgpGlobal => exact configures_of_bgp hplan hl

end Plans

/-! ### Blocks -/

/-- The lines that enter and leave configuration mode ask for nothing. -/
theorem not_asks_of_mem_wrap {p : Platform} {ls : List Text} (h : ∀ l ∈ ls, ¬ Asks l) {l : Text}
    (hl : l ∈ p.dialect.wrap ls) : ¬ Asks l := by
  -- the dialect of a platform has fixed lines
  have hfixed : ∀ l ∈ p.dialect.enter ++ p.dialect.commit ++ p.dialect.leave, ¬ Asks l := by
    cases p <;> decide +kernel
  simp only [Dialect.wrap, List.mem_append] at hl hfixed
  rcases hl with ((hl | hl) | hl) | hl
  · exact hfixed l (.inl (.inl hl))
  · exact h l hl
  · exact hfixed l (.inl (.inr hl))
  · exact hfixed l (.inr hl)

/-- A block of lines that configure has no line that asks. -/
theorem not_asks_of_mem_block {d : Device} {lines : List Text} (h : ∀ l ∈ lines, Configures l)
    {l : Text} (hl : l ∈ Text.lines (d.blockOf (Device.effectiveLines lines))) : ¬ Asks l := by
  rw [Interfaces.lines_blockOf] at hl
  refine not_asks_of_mem_wrap (fun l hl => ?_) hl
  obtain ⟨e, he, hl⟩ := List.mem_flatMap.mp hl
  obtain ⟨c, hc, rfl⟩ := List.mem_map.mp (List.mem_of_mem_filter he)
  -- each line is trimmed and has no line feed, so it is the only one of its text
  rw [endedLines_of_oneLine (.of_not_mem (h c hc).1.1), List.mem_singleton] at hl
  exact hl ▸ (h c hc).trim.not_asks

/-! ### Changes -/

namespace Registry

/-- **Rehearsals.** A change that is accepted in check mode is sent with success over a session
without captured output exactly if its block has no line that asks for the state of the device.
Otherwise the block is rejected, and the failure names a line that does. With plain texts, no line
does. -/
theorem rehearsal_succeeds_iff {path : ConfigPath} {change : Change} {p : Platform}
    {identifier hostname : Text}
    (hchecked : (builtin.write path change ⟨.replay (.named identifier), p, hostname⟩ .checking).1
      = .ok ()) :
    let d : Device := ⟨.replay (.named identifier), p, hostname⟩
    let result := (builtin.write path change d .sending).1
    let blocks := (builtin.write path change d .sending).2.2.blocks
    (result = .ok () ↔ ∀ block ∈ blocks, ∀ line ∈ Text.lines block, ¬ Asks line) ∧
    (result ≠ .ok () → ∃ block ∈ blocks, ∃ line ∈ Text.lines block, Asks line ∧
      result = .error (.writeFailed path.toText block
        (SessionError.unknownCommand (normalizeCommand line)).message)) ∧
    (PlainTexts path change → result = .ok ()) := by
  intro d result blocks
  -- a change that is accepted in check mode has a plan
  cases hplan : builtin.plan path d.platform change with
  | error e =>
    have hrefused := congrArg Prod.fst (write_of_error hplan .checking)
    cases hrefused.symm.trans hchecked
  | ok lines =>
    -- a plan without lines sends nothing, so there is no block
    by_cases hblank : Device.effectiveLines lines = []
    · have hwritten := write_of_blank hplan hblank .sending
      have hresult : result = .ok () := congrArg Prod.fst hwritten
      have hblocks : blocks = [] := congrArg (fun w => w.2.2.blocks) hwritten
      exact ⟨iff_of_true hresult (by simp [hblocks]), absurd hresult, fun _ => hresult⟩
    · have hblocks : blocks = [d.blockOf (Device.effectiveLines lines)] :=
        congrArg WriteContext.blocks (recorded_of_ok hplan hblank .sending)
      have hresult : result
          = (d.applied path.toText (Device.effectiveLines lines)).map fun _ => () := by
        have hwritten := congrArg Prod.fst (write_of_ok hplan .sending)
        rwa [d.apply_of_send path hblank rfl] at hwritten
      -- the block is the only one, and what becomes of it depends on the first line that asks
      rw [Device.applied_named] at hresult
      rw [hblocks, List.forall_mem_singleton]
      have hplain : PlainTexts path change → ∀ line ∈ Text.lines (d.blockOf
          (Device.effectiveLines lines)), ¬ Asks line := fun htexts line =>
        not_asks_of_mem_block fun l => configures_of_plan htexts hplan
      cases hfind : (Text.lines (d.blockOf (Device.effectiveLines lines))).find?
          fun line => Asks line with
      -- no line asks, and the block is taken
      | none =>
        rw [hfind] at hresult
        have hnone : ∀ line ∈ Text.lines (d.blockOf (Device.effectiveLines lines)),
            ¬ Asks line := by
          simpa using List.find?_eq_none.mp hfind
        exact ⟨iff_of_true hresult hnone, absurd hresult, fun _ => hresult⟩
      -- a line asks, and the block is rejected for it
      | some line =>
        rw [hfind] at hresult
        have hmem := List.mem_of_find?_eq_some hfind
        have hasks : Asks line := by simpa using List.find?_some hfind
        have hrejected : result ≠ .ok () := by
          rw [hresult]
          exact nofun
        exact ⟨iff_of_false hrejected fun h => h line hmem hasks,
          fun _ => ⟨_, List.mem_singleton_self _, line, hmem, hasks, hresult⟩,
          fun htexts => absurd hasks (hplain htexts line hmem)⟩

/-- On VRP, a description with a bar among other characters. -/
theorem rehearsal_of_plain :
    let i := { Interface.named "Loopback0" with description := some "core|edge" }
    let d : Device := ⟨.replay (.named "r1"), .huawei, "r1"⟩
    (builtin.write (Interfaces.pathOf "Loopback0") ⟨none, some i.toJson⟩ d .sending).1
      = .ok () := by
  intro i d
  have hchecked : (builtin.write (Interfaces.pathOf "Loopback0") ⟨none, some i.toJson⟩
      ⟨.replay (.named "r1"), .huawei, "r1"⟩ .checking).1 = .ok () := by
    decide +kernel
  refine (rehearsal_succeeds_iff hchecked).2.2 ⟨?_, ?_, ?_⟩
  · intro t ht
    cases ht
    decide
  · intro t ht
    cases ht
  · intro _ j t hj ht
    cases hj.eq_of_some (.some i.ofJson_toJson)
    cases ht
    decide

/-- On IOS, the line of a description with a bar between words is taken for one that asks, and the
block is rejected for it, although the same change is accepted in check mode. -/
theorem piped_description_refused :
    let i := { Interface.named "Loopback0" with description := some "core | edge" }
    let change : Change := ⟨none, some i.toJson⟩
    let path := Interfaces.pathOf "Loopback0"
    let d : Device := ⟨.replay (.named "r1"), .ciscoIos, "r1"⟩
    let block : Text :=
      "configure terminal\ninterface Loopback0\ndescription core | edge\nno shutdown\nend"
    (builtin.write path change d .checking).1 = .ok () ∧
      (builtin.write path change d .checking).2.2.blocks = [block] ∧
      (builtin.write path change d .sending).1
        = .error (.writeFailed path.toText block "Unknown command: description core | edge") := by
  decide +kernel

end Registry

end VendorCli
