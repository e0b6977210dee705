import VendorCli.Proofs.Diff.Readings
import VendorCli.Proofs.Text.Lines
/-!
# What a line diff shows

The lines of a report stand behind signs (`Report.behind`). For texts without carriage returns the
lines behind a space or a minus sign are the lines of the old text, those behind a space or a plus
sign the lines of the new one, the report counts those behind a minus and behind a plus sign, and it
has changes exactly if the texts differ (`between_loses_nothing`).

A script is taken apart into its lines, each with its fate (`Script.entries`). Each of them is shown
as one line, its sign in front (`lines_body`); which of them are behind a sign is then a matter of
fates alone. A diff compares lines with their endings and a reader of it sees none, so two texts
that differ in their last line feed alone have the same lines and different full lines. Put together
the full lines are the text again (`flatten_fullLines`).
-/

namespace VendorCli.Diff

open Text Script

/-! ### Full lines -/

/-- A line without the line feed at its end. -/
def chomp (l : Text) : Text :=
  if l.getLast? = some '\n' then l.dropLast else l

/-- A line that has no carriage return, and a line feed only at its end. -/
structure IsFullLine (l : Text) : Prop where
  feedless : '\n' ∉ chomp l
  returnless : '\r' ∉ l

theorem chomp_concat (p : Text) : chomp (p ++ ['\n']) = p := by
  rw [chomp, if_pos (by simp), List.dropLast_concat]

theorem chomp_of_not_mem {p : Text} (h : '\n' ∉ p) : chomp p = p :=
  if_neg fun hlast => h (List.mem_of_mem_getLast? hlast)

/-- Taking off the line feed puts no character in. -/
theorem chomp_subset (l : Text) : chomp l ⊆ l := by
  rw [chomp]
  split
  · exact l.dropLast_subset
  · exact List.Subset.refl l

/-- Put together, the full lines of a text are the text. -/
theorem flatten_fullLines (t : Text) : (fullLines t).flatten = t := by
  -- along the cutting; the last two cases are a character before nothing and before a line
  fun_induction fullLines t with
  | case1 => rfl
  | case2 rest ih => rw [List.flatten_cons, ih]; rfl
  | case3 c rest hreturn hend ih => rw [List.flatten_cons, ih]; rfl
  | case4 c rest hreturn hend hnil ih =>
    rw [hnil, List.flatten_nil] at ih
    rw [← ih]
    rfl
  | case5 c rest hreturn hend first others hcons ih =>
    rw [hcons, List.flatten_cons] at ih
    rw [List.flatten_cons, List.cons_append, ih]

theorem fullLines_feed (t : Text) : fullLines ('\n' :: t) = ['\n'] :: fullLines t := by
  rw [fullLines.eq_3 _ _ (by rintro rest h; cases h), if_pos (.inl rfl)]

/-- A character that ends no line belongs to the line that follows it. -/
theorem fullLines_cons {c : Char} (hfeed : c ≠ '\n') (hreturn : c ≠ '\r') (t : Text) :
    fullLines (c :: t) = match fullLines t with
      | [] => [[c]]
      | first :: others => (c :: first) :: others := by
  have hcut := fullLines.eq_3 c t fun rest h => absurd h hreturn
  rw [if_neg (by simp [hfeed, hreturn])] at hcut
  refine hcut.trans ?_
  cases fullLines t <;> rfl

/-- **One full line at a time.** Text up to a line feed is a full line with it. -/
theorem fullLines_append_feed {p : Text} (hfeed : '\n' ∉ p) (hreturn : '\r' ∉ p) (t : Text) :
    fullLines (p ++ '\n' :: t) = (p ++ ['\n']) :: fullLines t := by
  induction p with
  | nil => exact fullLines_feed t
  | cons c p ih =>
    rw [List.mem_cons, not_or] at hfeed hreturn
    rw [List.cons_append, fullLines_cons (Ne.symm hfeed.1) (Ne.symm hreturn.1),
      ih hfeed.2 hreturn.2]
    rfl

/-- A text without an end of line is one full line. -/
theorem fullLines_of_not_mem {p : Text} (hfeed : '\n' ∉ p) (hreturn : '\r' ∉ p) (hne : p ≠ []) :
    fullLines p = [p] := by
  induction p with
  | nil => exact absurd rfl hne
  | cons c p ih =>
    rw [List.mem_cons, not_or] at hfeed hreturn
    rw [fullLines_cons (Ne.symm hfeed.1) (Ne.symm hreturn.1)]
    by_cases hp : p = []
    · subst hp
      simp [fullLines]
    · rw [ih hfeed.2 hreturn.2 hp]

theorem dropReturn_of_not_mem {p : Text} (h : '\r' ∉ p) : dropReturn p = p :=
  if_neg fun hlast => h (List.mem_of_mem_getLast? hlast)

/-- The lines of a text are its full lines without their line feeds, which stand nowhere else. -/
theorem lines_eq_map_chomp {t : Text} (h : '\r' ∉ t) :
    lines t = (fullLines t).map chomp ∧ ∀ l ∈ fullLines t, '\n' ∉ chomp l := by
  induction t using line_induction with
  | last p hp =>
    -- an empty text has no line, and none that is full either
    by_cases hne : p = []
    · subst hne
      simp [fullLines]
    · rw [lines_of_not_mem hp hne, fullLines_of_not_mem hp h hne]
      simp [chomp_of_not_mem hp, hp]
  | line p t hp ih =>
    rw [List.mem_append, List.mem_cons, not_or, not_or] at h
    obtain ⟨hlines, hfeed⟩ := ih h.2.2
    rw [lines_append_feed hp, fullLines_append_feed hp h.1, List.map_cons, chomp_concat, hlines,
      dropReturn_of_not_mem h.1, List.forall_mem_cons, chomp_concat]
    exact ⟨rfl, hp, hfeed⟩

/-- The full lines of a text without carriage returns are full lines. -/
theorem isFullLine_of_mem_fullLines {t l : Text} (h : '\r' ∉ t) (hl : l ∈ fullLines t) :
    IsFullLine l where
  feedless := (lines_eq_map_chomp h).2 l hl
  returnless hmem := h (flatten_fullLines t ▸ List.mem_flatten_of_mem hl hmem)

/-! ### The lines of a script -/

namespace Script

/-- The lines of a script, each with its fate. -/
def entries (s : Script) : List (Fate × Text) :=
  s.flatMap fun r => r.lines.map fun l => (r.fate, l)

variable {s : Script}

theorem entries_cons (r : Run) (s : Script) :
    entries (r :: s) = (r.lines.map fun l => (r.fate, l)) ++ entries s :=
  rfl

/-- A reading leaves out the lines of one fate. -/
theorem without_eq (fate : Fate) (s : Script) :
    s.without fate = (s.entries.filter fun e => e.1 ≠ fate).map (·.2) := by
  induction s with
  | nil => rfl
  | cons r s ih =>
    rw [without_cons, ih, entries_cons, List.filter_append, List.map_append]
    by_cases h : r.fate = fate <;> simp [h, List.filter_map, Function.comp_def]

/-- The lines of one fate are counted. -/
theorem count_eq (fate : Fate) (s : Script) :
    s.count fate = (s.entries.filter fun e => e.1 = fate).length := by
  induction s with
  | nil => rfl
  | cons r s ih =>
    rw [count, ih, entries_cons, List.filter_append, List.length_append]
    by_cases h : r.fate = fate <;> simp [h, List.filter_map, Function.comp_def]

/-- A line of a script is one of the old or of the new side. -/
theorem mem_without_of_mem_entries {e : Fate × Text} (h : e ∈ s.entries) :
    e.2 ∈ s.without .insert ∨ e.2 ∈ s.without .delete := by
  have hmem : ∀ fate, e.1 ≠ fate → e.2 ∈ s.without fate := by
    intro fate hne
    rw [without_eq]
    exact List.mem_map_of_mem (List.mem_filter.mpr ⟨h, by simpa using hne⟩)
  by_cases hfate : e.1 = .insert
  · exact .inr (hmem .delete (by rw [hfate]; decide))
  · exact .inl (hmem .insert hfate)

/-- What is shown of a script is each of its lines behind its sign. -/
theorem body_eq (s : Script) : body s = s.entries.flatMap fun e => signed e.1 e.2 := by
  rw [body, entries, List.flatMap_assoc]
  simp only [List.flatMap_map]

end Script

/-! ### Lines behind signs -/

/-- A full line is shown behind its sign, and with a line feed. -/
theorem signed_eq {l : Text} (h : IsFullLine l) (fate : Fate) :
    signed fate l = (fate.sign :: chomp l) ++ ['\n'] := by
  rw [signed, chomp]
  cases hlast : l.getLast? with
  | none => rfl
  | some c =>
    have hc : c ∈ l := List.mem_of_mem_getLast? hlast
    -- the line feed that is shown is the line's own, if it has one
    by_cases hfeed : c = '\n'
    · subst hfeed
      obtain ⟨p, rfl⟩ := List.getLast?_eq_some_iff.mp hlast
      simp
    · have hreturn : c ≠ '\r' := fun hr => h.returnless (hr ▸ hc)
      simp [hfeed, hreturn]

/-- **Full lines are shown one on a line**, each behind its sign. -/
theorem lines_body {s : Script} (h : ∀ e ∈ s.entries, IsFullLine e.2) :
    lines (body s) = s.entries.map fun e => e.1.sign :: chomp e.2 := by
  rw [body_eq]
  generalize s.entries = entries at h ⊢
  -- on the lines of the script: each one is shown as a line, so cutting gives it back
  induction entries with
  | nil => exact lines_nil
  | cons e entries ih =>
    rw [List.forall_mem_cons] at h
    obtain ⟨hfull, hrest⟩ := h
    have hfeed : '\n' ∉ e.1.sign :: chomp e.2 := by
      rw [List.mem_cons, not_or]
      exact ⟨by cases e.1 <;> decide, hfull.feedless⟩
    have hreturn : '\r' ∉ e.1.sign :: chomp e.2 := by
      rw [List.mem_cons, not_or]
      exact ⟨by cases e.1 <;> decide, fun hmem => hfull.returnless (chomp_subset e.2 hmem)⟩
    rw [List.flatMap_cons, signed_eq hfull, List.append_assoc, List.singleton_append,
      lines_append_feed hfeed, dropReturn_of_not_mem hreturn, ih hrest, List.map_cons]

/-- The lines of a report that stand behind one of some signs, without the sign. -/
def Report.behind (r : Report) (signs : List Char) : List Text :=
  (lines (r.details.getD [])).filterMap fun
    | sign :: line => if sign ∈ signs then some line else none
    | [] => none

section Between

variable {before after : Text} (hbefore : '\r' ∉ before) (hafter : '\r' ∉ after)
include hbefore hafter

/-- The lines of the report are those of the script, each behind its sign. -/
theorem lines_details : lines ((Report.between before after).details.getD [])
    = (script before after).entries.map fun e => e.1.sign :: chomp e.2 := by
  -- every line of the script is one of the two texts
  have hfull : ∀ e ∈ (script before after).entries, IsFullLine e.2 := by
    intro e he
    have hmem := mem_without_of_mem_entries he
    rw [without_insert_script, without_delete_script] at hmem
    exact hmem.elim (isFullLine_of_mem_fullLines hbefore) (isFullLine_of_mem_fullLines hafter)
  have hdetails : (Report.between before after).details.getD [] = body (script before after) := by
    rw [Report.between]
    by_cases h : body (script before after) = [] <;> simp [h]
  rw [hdetails, lines_body hfull]

/-- What stands behind some signs is told by the fates that have these signs. -/
theorem behind_between (signs : List Char) : (Report.between before after).behind signs
    = ((script before after).entries.filter fun e => e.1.sign ∈ signs).map fun e => chomp e.2 := by
  rw [Report.behind, lines_details hbefore hafter, List.filterMap_map]
  change (script before after).entries.filterMap
    (fun e => if e.1.sign ∈ signs then some (chomp e.2) else none) = _
  induction (script before after).entries with
  | nil => rfl
  | cons e entries ih =>
    by_cases h : e.1.sign ∈ signs <;> simp [h, ih]

/-- The lines behind all signs but that of one fate are those that are read without this fate. -/
theorem behind_without {fate : Fate} {signs : List Char}
    (hsigns : ∀ other : Fate, other.sign ∈ signs ↔ other ≠ fate) :
    (Report.between before after).behind signs
      = ((script before after).without fate).map chomp := by
  rw [behind_between hbefore hafter, without_eq, List.map_map]
  simp only [hsigns]
  rfl

/-- The lines behind the sign of one fate are as many as the script has of it. -/
theorem length_behind (fate : Fate) :
    ((Report.between before after).behind [fate.sign]).length
      = (script before after).count fate := by
  have hsign : ∀ other : Fate, other.sign ∈ [fate.sign] ↔ other = fate := by
    intro other
    cases other <;> cases fate <;> decide
  rw [behind_between hbefore hafter, count_eq, List.length_map]
  simp only [hsign]

end Between

/-- A script without edits reads the same on both sides. -/
theorem without_eq_of_count {s : Script} (hdelete : s.count .delete = 0)
    (hinsert : s.count .insert = 0) : s.without .insert = s.without .delete := by
  have hall : ∀ fate, s.count fate = 0 → s.without fate = s.entries.map (·.2) := by
    intro fate h
    rw [count_eq, List.length_eq_zero_iff, List.filter_eq_nil_iff] at h
    rw [without_eq, List.filter_eq_self.mpr]
    simpa using h
  rw [hall _ hinsert, hall _ hdelete]

/-- A diff has changes exactly if the texts differ. -/
theorem hasChanges_iff (before after : Text) :
    (Report.between before after).hasChanges = true ↔ before ≠ after := by
  -- changes are what the report counts
  have hchanges : (Report.between before after).hasChanges = false ↔
      (script before after).count .insert = 0 ∧ (script before after).count .delete = 0 := by
    simp [Report.hasChanges, Report.between]
  rw [← Bool.not_eq_false, Ne, not_iff_not, hchanges]
  constructor
  · rintro ⟨hinsert, hdelete⟩
    -- without edits both texts have the same full lines, and these make up the texts
    have hfull : fullLines before = fullLines after := by
      rw [← without_insert_script before after, ← without_delete_script before after]
      exact without_eq_of_count hdelete hinsert
    rw [← flatten_fullLines before, hfull, flatten_fullLines]
  · rintro rfl
    -- equal texts are kept as they are, with nothing to count
    rw [script_self]
    by_cases h : fullLines before = [] <;> simp [run, h, count]

/-- **A line diff loses nothing.** Every line of it is behind one of three signs. Behind a space or
a minus sign stand the lines of the old text, behind a space or a plus sign those of the new one.
The lines behind a minus and those behind a plus sign are counted, and the diff has changes exactly
if the texts differ, be it in their last line feed. -/
theorem between_loses_nothing {before after : Text} (hbefore : '\r' ∉ before)
    (hafter : '\r' ∉ after) :
    let r := Report.between before after
    (∀ line ∈ lines (r.details.getD []), ∃ sign ∈ [' ', '-', '+'], ∃ rest, line = sign :: rest) ∧
      r.behind [' ', '-'] = lines before ∧ r.behind [' ', '+'] = lines after ∧
      r.deletions = (r.behind ['-']).length ∧ r.additions = (r.behind ['+']).length ∧
      (r.hasChanges = true ↔ before ≠ after) := by
  intro r
  refine ⟨?_, ?_, ?_, ?_, ?_, hasChanges_iff before after⟩
  · intro line hline
    rw [lines_details hbefore hafter] at hline
    obtain ⟨e, -, rfl⟩ := List.mem_map.mp hline
    exact ⟨e.1.sign, by cases e.1 <;> decide, chomp e.2, rfl⟩
  · -- all signs but the plus sign are those of the old text
    have hsigns : ∀ other : Fate, other.sign ∈ [' ', '-'] ↔ other ≠ .insert := by
      intro other
      cases other <;> decide
    rw [behind_without hbefore hafter hsigns, without_insert_script, (lines_eq_map_chomp hbefore).1]
  · -- all signs but the minus sign are those of the new text
    have hsigns : ∀ other : Fate, other.sign ∈ [' ', '+'] ↔ other ≠ .delete := by
      intro other
      cases other <;> decide
    rw [behind_without hbefore hafter hsigns, without_delete_script, (lines_eq_map_chomp hafter).1]
  · exact (length_behind hbefore hafter .delete).symm
  · exact (length_behind hbefore hafter .insert).symm

/-- A line is changed and the last line feed is gone. -/
theorem changed_mtu_loses_nothing :
    let before : Text := "name: lo0\nmtu: 1500\n"
    let after : Text := "name: lo0\nmtu: 9000"
    let r := Report.between before after
    '\r' ∉ before ∧ '\r' ∉ after ∧ r.details = some
      (" name: lo0\n-mtu: 1500\n+mtu: 9000\n" : Text) ∧
      r.behind [' ', '-'] = lines before ∧ r.behind [' ', '+'] = lines after ∧
      r.deletions = 1 ∧ r.additions = 1 ∧ r.hasChanges = true := by
  intro before after r
  have hbefore : '\r' ∉ before := by decide +kernel
  have hafter : '\r' ∉ after := by decide +kernel
  obtain ⟨-, hold, hnew, -, -, hchanges⟩ := between_loses_nothing hbefore hafter
  exact ⟨hbefore, hafter, by decide +kernel, hold, hnew, by decide +kernel, by decide +kernel,
    hchanges.mpr (by decide +kernel)⟩

end VendorCli.Diff
