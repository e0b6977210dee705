import VendorCli.Bgp
import VendorCli.Proofs.Pattern.Lines
import VendorCli.Proofs.Section.Commands
import VendorCli.Proofs.Section.Outline
/-!
# What is read of a BGP process

The reader of a process looks at an output line by line: the first line that opens the section of a
process tells the number of the autonomous system, and the first line with a router identifier tells
that (`found?_eq`). It does not ask which section a line belongs to.

`settings_found_at_any_depth` says what this comes to where an output has the section of a process.
The settings that are found are those of the process itself exactly if its number is the first, and
the first identifier anywhere is the first one among its direct sub-commands; an identifier of an
address family is taken for that of the process if no other stands before it
(`family_routerId_found`).
-/

namespace VendorCli.Bgp

open Text Pattern

/-! ### Lines -/

/-- The number of the autonomous system in a line that opens the section of a process. -/
def systemIn? (line : Text) : Option UInt32 :=
  ((valueAfter? "router bgp " CharClass.digit.contains line).bind
    (Decimal.nat? Decimal.max32)).map UInt32.ofNat

/-- The router identifier in a line. -/
def routerIdIn? (line : Text) : Option Ipv4 :=
  (valueAfter? "bgp router-id " (CharClass.compl .blank).contains line).bind Ipv4.ofText?

/-- The pattern of a line with one named value, which goes to its end. -/
private def wholeLine (lead name : Text) (s : CharClass) : Regex :=
  ⟨.ofWhole lead (.plus true (.set s)), [(1, name)]⟩

/-- Both patterns of the reader are of this form. -/
private theorem processLine_eq : processLine = wholeLine "router bgp " "as" .digit := rfl

private theorem routerIdLine_eq :
    routerIdLine = wholeLine "bgp router-id " "id" (.compl .blank) := rfl

/-- What such a line is taken for is made of the value in it. -/
private theorem valueOf?_wholeLine {α : Type} (lead name : Text) (s : CharClass)
    (f : Text → Option α) :
    Output.valueOf? (wholeLine lead name s)
        (fun c => ((wholeLine lead name s).named? c name).bind f)
      = fun line => (valueAfter? lead s.contains line).bind f := by
  funext line
  -- the one name of the pattern is that of its first group
  have hnamed : ∀ c, (wholeLine lead name s).named? c name = c.get? 1 := by
    intro c
    simp [wholeLine, Regex.named?, Regex.indexOf?]
  have hcaptured : ((wholeLine lead name s).captures? line).map (Captures.get? · 1)
      = (valueAfter? lead s.contains line).map some := captured_ofWhole
  have hbind := congrArg (Option.bind · (Option.bind · f)) hcaptured
  simp only [Option.bind_map] at hbind
  rw [Output.valueOf?]
  simp only [hnamed]
  exact hbind

/-- **Lines one by one.** What is found in an output is in its lines, however they are nested. -/
theorem found?_eq (output : Text) : found? output
    = ((Output.trimmedLines 0 output).findSome? systemIn?).map fun system =>
        ⟨system, (Output.trimmedLines 0 output).findSome? routerIdIn?⟩ := by
  have hsystem : systemIn? = Option.map UInt32.ofNat ∘ fun line =>
      (valueAfter? "router bgp " CharClass.digit.contains line).bind
        (Decimal.nat? Decimal.max32) := rfl
  have hid : routerIdIn? = fun line =>
      (valueAfter? "bgp router-id " (CharClass.compl .blank).contains line).bind Ipv4.ofText? := rfl
  rw [found?, Output.firstValue?, Output.firstValue?, processLine_eq, routerIdLine_eq,
    valueOf?_wholeLine, valueOf?_wholeLine, hsystem, ← List.map_findSome?, ← hid]
  cases (Output.trimmedLines 0 output).findSome? _ <;> rfl

/-- Nothing is told by a line that does not count. -/
theorem isKept_of_valueAfter? {lead line v : Text} {allowed : Char → Bool} {c : Char}
    (hc : Section.isKept [c] = true) (h : valueAfter? (c :: lead) allowed line = some v) :
    Section.isKept line = true := by
  obtain ⟨rfl, -⟩ := valueAfter?_eq_some_iff.mp h
  exact hc

/-- A blank line or a separator has no number. -/
theorem systemIn?_of_not_kept {line : Text} (h : Section.isKept line = false) :
    systemIn? line = none := by
  cases hvalue : valueAfter? "router bgp " CharClass.digit.contains line with
  | none => rw [systemIn?, hvalue, Option.bind_none, Option.map_none]
  | some v => simp [isKept_of_valueAfter? rfl hvalue] at h

/-- A blank line or a separator has no identifier. -/
theorem routerIdIn?_of_not_kept {line : Text} (h : Section.isKept line = false) :
    routerIdIn? line = none := by
  cases hvalue : valueAfter? "bgp router-id " (CharClass.compl .blank).contains line with
  | none => rw [routerIdIn?, hvalue, Option.bind_none]
  | some v => simp [isKept_of_valueAfter? rfl hvalue] at h

/-! ### Sections -/

/-- The first router identifier among the direct sub-commands of a section. -/
def ownRouterId? (s : Section) : Option Ipv4 :=
  (s.children.map Section.line).findSome? routerIdIn?

/-- What is put in between lines changes what is found first in them exactly if nothing is found
before it, and something else is found first in it than after it. -/
theorem findSome?_insert_eq_iff {α β : Type} {f : α → Option β} {above inserted below : List α} :
    (above ++ (inserted ++ below)).findSome? f = (above ++ below).findSome? f ↔
      above.findSome? f ≠ none ∨ inserted.findSome? f = none ∨
        inserted.findSome? f = below.findSome? f := by
  rw [List.findSome?_append, List.findSome?_append, List.findSome?_append]
  -- only if nothing is found above do the other lines matter
  cases above.findSome? f with
  | some b => simp
  | none =>
    cases inserted.findSome? f with
    | none => simp
    | some b => simp

/-- Lines after the one that opens the section of a process have no influence on the number of the
system, so only the router identifier can change. -/
theorem found?_insert_eq_iff {output extended : Text} {above inserted below : List Text}
    (houtput : lines output = above ++ below)
    (hextended : lines extended = above ++ (inserted ++ below))
    (hopening : ∃ l ∈ above, systemIn? (trim l) ≠ none) :
    found? extended = found? output ↔
      (above.map trim).findSome? routerIdIn? ≠ none ∨
        (inserted.map trim).findSome? routerIdIn? = none ∨
        (inserted.map trim).findSome? routerIdIn? = (below.map trim).findSome? routerIdIn? := by
  -- the number is found above, so the two records can only differ in their identifiers
  obtain ⟨system, hsystem⟩ : ∃ system, (above.map trim).findSome? systemIn? = some system := by
    obtain ⟨l, hl, hne⟩ := hopening
    rw [← Option.isSome_iff_exists, List.findSome?_isSome_iff]
    exact ⟨trim l, List.mem_map_of_mem hl, Option.isSome_iff_ne_none.mpr hne⟩
  have hlines : Output.trimmedLines 0 output = above.map trim ++ below.map trim := by
    rw [Output.trimmedLines, List.drop_zero, houtput, List.map_append]
  have hlines' : Output.trimmedLines 0 extended
      = above.map trim ++ (inserted.map trim ++ below.map trim) := by
    rw [Output.trimmedLines, List.drop_zero, hextended, List.map_append, List.map_append]
  -- further lines come after one with a number, so the number stays
  have hfirst : ∀ ls, (above.map trim ++ ls).findSome? systemIn? = some system := fun ls => by
    rw [List.findSome?_append, hsystem, Option.some_or]
  rw [found?_eq, found?_eq, hlines, hlines', hfirst, hfirst, Option.map_some, Option.map_some,
    Option.some.injEq, BgpGlobal.mk.injEq, ← findSome?_insert_eq_iff]
  exact and_iff_right rfl

/-- **The nesting of a line plays no part.** Where an output has the section of a process at the top
level, settings are found: the first number of a system and the first router identifier of all
lines, at every depth of every section. They are those of the process exactly if its number is the
first, and its own first identifier the first of all, if there is any. Lines put in below a line
that opens such a section, under one of its sub-commands or elsewhere, leave the settings as they
are exactly if an identifier stands before them, or if they have none, or the same first one as the
lines after them. -/
theorem settings_found_at_any_depth {output : Text} {s : Section} {n : UInt32}
    (hs : s ∈ Section.ofConfig output) (hn : systemIn? s.line = some n) :
    let everywhere := Section.allLines (Section.ofConfig output)
    (∃ system, everywhere.findSome? systemIn? = some system ∧
      found? output = some ⟨system, everywhere.findSome? routerIdIn?⟩) ∧
    (found? output = some ⟨n, ownRouterId? s⟩ ↔
      everywhere.findSome? systemIn? = some n ∧
        everywhere.findSome? routerIdIn? = ownRouterId? s) ∧
    ∀ above inserted below extended, lines output = above ++ below →
      lines extended = above ++ (inserted ++ below) →
      (∃ l ∈ above, systemIn? (trim l) ≠ none) →
      (found? extended = found? output ↔
        (above.map trim).findSome? routerIdIn? ≠ none ∨
          (inserted.map trim).findSome? routerIdIn? = none ∨
          (inserted.map trim).findSome? routerIdIn? = (below.map trim).findSome? routerIdIn?) := by
  intro everywhere
  have hfound : found? output = (everywhere.findSome? systemIn?).map fun system =>
      ⟨system, everywhere.findSome? routerIdIn?⟩ := by
    rw [found?_eq, Section.findSome?_allLines fun _ => systemIn?_of_not_kept,
      Section.findSome?_allLines fun _ => routerIdIn?_of_not_kept]
  -- the line that opens the section is one of those in which a number is looked for
  obtain ⟨system, hsystem⟩ : ∃ system, everywhere.findSome? systemIn? = some system := by
    rw [← Option.isSome_iff_exists, List.findSome?_isSome_iff]
    refine ⟨s.line, ?_, by rw [hn]; rfl⟩
    rw [show everywhere = _ from Section.allLines_ofConfig output]
    exact List.mem_map_of_mem (Section.mem_of_mem_nest hs)
  rw [hsystem, Option.map_some] at hfound
  refine ⟨⟨system, hsystem, hfound⟩, ?_, fun _ _ _ _ => found?_insert_eq_iff⟩
  -- two results are compared by their fields
  rw [hfound, hsystem, Option.some.injEq, BgpGlobal.mk.injEq, Option.some.injEq]

/-- An address family has an identifier of its own, and the process has one before it. -/
theorem own_routerId_found :
    let output : Text := "router bgp 65000\n bgp router-id 10.0.0.1\n address-family ipv4 vrf RED\n"
      ++ "  bgp router-id 10.0.0.9\n"
    ∃ s ∈ Section.ofConfig output, systemIn? s.line = some 65000 ∧
      found? output = some ⟨65000, ownRouterId? s⟩ := by
  intro output
  let s : Section := (Section.ofConfig output).head (by decide +kernel)
  have hs : s ∈ Section.ofConfig output := List.head_mem _
  have hsystem : systemIn? s.line = some 65000 := by decide +kernel
  refine ⟨s, hs, hsystem, ?_⟩
  exact (settings_found_at_any_depth hs hsystem).2.1.mpr ⟨by decide +kernel, by decide +kernel⟩

/-- **An identifier of an address family** is taken for that of the process, which has none: the
line with it is put in below a sub-command of the process, and the settings change. -/
theorem family_routerId_found :
    let output : Text := "router bgp 65000\n address-family ipv4 vrf RED\n"
    let extended : Text := output ++ "  bgp router-id 10.0.0.9\n"
    (∃ s ∈ Section.ofConfig extended, systemIn? s.line = some 65000 ∧ ownRouterId? s = none ∧
        s.children.map Section.line = [("address-family ipv4 vrf RED" : Text)]) ∧
      found? output = some ⟨65000, none⟩ ∧
      found? extended = some ⟨65000, some (Ipv4.ofOctets 10 0 0 9)⟩ := by
  intro output extended
  let s : Section := (Section.ofConfig extended).head (by decide +kernel)
  have hs : s ∈ Section.ofConfig extended := List.head_mem _
  refine ⟨⟨s, hs, ?_⟩, by decide +kernel, by decide +kernel⟩
  decide +kernel

end VendorCli.Bgp
