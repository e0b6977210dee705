import VendorCli.Proofs.Interfaces.Settings
import VendorCli.Units
/-!
# What the readers of interfaces return

Facts about the records that are read from a configuration, whatever the configuration says:

* `Units.readerOf` is the reader of interfaces on a platform;
* a description that is quoted in a statement is read as it was (`unquoted_quoted`);
* an interface that is found has the name that was asked for and the kind that the name tells; in a
  configuration of sections its name and its description are each on one line, and the description
  ends with no blank (`fromSections_spec`); in one of statements the description has no line feed
  (`fromStatements_spec`).
-/

namespace VendorCli

open Text

/-! ### Readers -/

/-- How a platform is asked about an interface, and how the answer is read. -/
def Units.readerOf : Platform → RecordReader Interface
  | .ciscoIos | .ciscoIosXr | .generic => interfaceReader showInterface Interfaces.fromSections
  | .juniperJunos => interfaceReader (fun _ => showStatements) Interfaces.fromStatements
  | .huawei =>
    interfaceReader ("display current-configuration interface " ++ ·) Interfaces.fromSections

namespace Interfaces

/-! ### Quoted descriptions -/

/-- A character as it stands between quotes. -/
def escaped (c : Char) : Text :=
  if c = '"' ∨ c = '\\' then ['\\', c] else [c]

/-- Doubling backslashes and then escaping quotes is escaping character by character. -/
theorem replaceChar_replaceChar (t : Text) :
    replaceChar '"' ['\\', '"'] (replaceChar '\\' ['\\', '\\'] t) = t.flatMap escaped := by
  induction t with
  | nil => rfl
  | cons c t ih =>
    rw [replaceChar_cons, List.flatMap_cons, ← ih]
    -- backslashes are doubled first, and doubling one makes no quote that would be escaped again
    by_cases hslash : c = '\\'
    · subst hslash
      rfl
    · by_cases hquote : c = '"' <;> simp [escaped, replaceChar, hslash, hquote]

/-- The text between the quotes that a statement has. -/
theorem quoted_of_needsQuotes {t : Text} (h : needsQuotes t = true) :
    quoted t = '"' :: t.flatMap escaped ++ ['"'] := by
  rw [quoted, if_pos h, replaceChar_replaceChar]

/-- What stands between quotes is read without its backslashes. -/
theorem unquoted_quotation (body : Text) :
    unquoted ('"' :: body ++ ['"']) = withoutBackslashes body := by
  have hlead : dropLead? ['"'] ('"' :: body ++ ['"']) = some (body ++ ['"']) := by
    simp [dropLead?]
  have htail : dropTail? ['"'] (body ++ ['"']) = some body := by
    simp [dropTail?]
  rw [unquoted, hlead, Option.bind_some, htail]

/-- Escaped characters are read as they were. -/
private theorem withoutBackslashes_flatMap (t : Text) :
    withoutBackslashes (t.flatMap escaped) = t := by
  induction t with
  | nil => rfl
  | cons c t ih =>
    rw [List.flatMap_cons]
    by_cases h : c = '"' ∨ c = '\\'
    · -- the character was escaped, so the backslash before it is dropped
      rw [escaped, if_pos h, List.cons_append, List.cons_append, List.nil_append,
        withoutBackslashes, ih]
    · -- the character stands alone, and it is no backslash that would drop the next one
      rw [escaped, if_neg h, List.cons_append, List.nil_append, withoutBackslashes, ih]
      · rintro rfl
        simp at h
      · rintro d rest rfl
        simp at h

/-- **Round trip.** A value that stands in a statement is read as it was. -/
theorem unquoted_quoted (t : Text) : unquoted (quoted t) = t := by
  by_cases hneeds : needsQuotes t = true
  · rw [quoted_of_needsQuotes hneeds, unquoted_quotation]
    exact withoutBackslashes_flatMap t
  · -- the value has no quote at its front that would be taken for an opening one
    have hlead : dropLead? ['"'] t = none := by
      cases t with
      | nil => rfl
      | cons c t =>
        have hc : ¬ c = '"' := by
          rintro rfl
          simp [needsQuotes] at hneeds
        simp [dropLead?, List.isPrefixOf?, Ne.symm hc]
    rw [quoted, if_neg hneeds, unquoted, hlead]
    rfl

/-- Reading a quotation leaves out backslashes and changes no order. -/
theorem withoutBackslashes_sublist (t : Text) : (withoutBackslashes t).Sublist t := by
  -- along the reader: a backslash goes, and what it stands before stays
  fun_induction withoutBackslashes t with
  | case1 => exact .slnil
  | case2 => exact List.nil_sublist _
  | case3 c rest ih => exact .cons _ (ih.cons_cons c)
  | case4 c rest _ _ ih => exact ih.cons_cons c

/-- Reading a value only leaves characters out. -/
theorem unquoted_subset (t : Text) : unquoted t ⊆ t := by
  unfold unquoted
  split
  · next inner h =>
    obtain ⟨rest, hlead, htail⟩ := Option.bind_eq_some_iff.mp h
    rw [dropLead?_eq_some_iff] at hlead
    rw [dropTail?, List.isSuffixOf?_eq_some_iff_append_eq] at htail
    intro c hc
    have hin : c ∈ inner := (withoutBackslashes_sublist inner).subset hc
    rw [hlead, ← htail]
    simp [hin]
  · exact List.Subset.refl t

/-! ### Records that are read -/

section Records

variable {path : ConfigPath} {name output : Text} {i : Interface}

/-- A record that is found in sections is told by the direct sub-commands of one. -/
theorem exists_commands_of_fromSections (h : fromSections path name output = .ok (some i)) :
    ∃ ls, Section.commands? output ("interface " ++ name) = some ls ∧
      ofLines path name id "shutdown" ls = .ok i := by
  rw [fromSections_eq] at h
  split at h
  · cases h
  · next ls hls =>
    obtain ⟨j, hj, hr⟩ := exists_of_map_some_eq_ok h
    cases hj
    exact ⟨ls, hls, hr⟩

/-- A record that is found in statements is told by what they say about the interface. -/
theorem ofLines_of_fromStatements (h : fromStatements path name output = .ok (some i)) :
    ofLines path name unquoted "disable" (Statements.under ("interfaces " ++ name) output)
      = .ok i := by
  rw [fromStatements_eq] at h
  split at h
  · cases h
  · obtain ⟨j, hj, hr⟩ := exists_of_map_some_eq_ok h
    cases hj
    exact hr

/-- **Records from sections** have their name and their description on one line each. The
description ends with no blank. -/
theorem fromSections_spec (h : fromSections path name output = .ok (some i)) :
    i.name = name ∧ i.kind = InterfaceKind.ofName name ∧ OneLine ("interface " ++ name) ∧
      ∀ t, i.description = some t → Neat ("description " ++ t) := by
  obtain ⟨ls, hls, hr⟩ := exists_commands_of_fromSections h
  obtain ⟨hone, hneat⟩ := Section.commands?_spec hls
  obtain ⟨hname, hkind, hdescription⟩ := ofLines_spec hr
  refine ⟨hname, hkind, hone, fun t ht => ?_⟩
  obtain ⟨v, hv, rfl⟩ := hdescription t ht
  exact hneat _ hv

/-- **Records from statements** have no line feed in their description. -/
theorem fromStatements_spec (h : fromStatements path name output = .ok (some i)) :
    i.name = name ∧ i.kind = InterfaceKind.ofName name ∧
      ∀ t, i.description = some t → '\n' ∉ t := by
  obtain ⟨hname, hkind, hdescription⟩ := ofLines_spec (ofLines_of_fromStatements h)
  refine ⟨hname, hkind, fun t ht hfeed => ?_⟩
  obtain ⟨v, hv, rfl⟩ := hdescription t ht
  exact (neat_of_mem_under hv).feedless (List.mem_append_right _ (unquoted_subset v hfeed))

end Records

/-- What is true of the records that a platform's reader returns. -/
def Readable (p : Platform) (i : Interface) : Prop :=
  p ≠ .juniperJunos → OneLine ("interface " ++ i.name) ∧
    ∀ t, i.description = some t → '\n' ∉ t ∧ trim ("description " ++ t) = "description " ++ t

/-- **Records that are read** are those of the interface that the path names. -/
theorem readable_of_interpret {p : Platform} {path : ConfigPath} {output : Text} {i : Interface}
    (h : (Units.readerOf p).interpret path output = .ok (some i)) :
    path.requireKey "name" = .ok i.name ∧ Readable p i := by
  have hsections : (do
      let name ← path.requireKey "name"
      fromSections path name output) = .ok (some i) →
      path.requireKey "name" = .ok i.name ∧ Readable p i := by
    intro h
    obtain ⟨name, hkey, h⟩ := exists_of_bind_eq_ok h
    obtain ⟨rfl, -, hone, hneat⟩ := fromSections_spec h
    refine ⟨hkey, fun _ => ⟨hone, fun t ht => ⟨fun hfeed => ?_, (hneat t ht).trim_eq⟩⟩⟩
    exact (hneat t ht).feedless (List.mem_append_right _ hfeed)
  -- all platforms but one read sections, and of statements nothing more is said
  cases p
  case juniperJunos =>
    obtain ⟨name, hkey, h⟩ := exists_of_bind_eq_ok h
    exact ⟨by rw [hkey, (fromStatements_spec h).1], fun hne => absurd rfl hne⟩
  all_goals exact hsections h

end Interfaces

end VendorCli
