import VendorCli.Proofs.Section.Commands
import VendorCli.Proofs.Section.Outline
/-!
# Sections that are written and read again

Flattening writes each line of a section behind as many spaces as it is deep, whatever its
indentation was in the source. `level` is that change alone: every section keeps its line and what
is nested under it, and its indentation becomes its depth.

Reading what was flattened gives the levelled sections (`ofConfig_unlines_flatten`). The lines come
back with their depths, since none of them has a blank at its start or would be passed over
(`keptLines_unlines_spaces`); and lines that are indented by their depths are nested as they were
(`nest_depthLines`). Levelling makes no difference to flattening (`flattenAll_levelAll`), so a
second round gives the same lines.
-/

namespace VendorCli.Section

open Text

/-! ### Sections from the top down -/

/-- **Induction on sections.** What holds of no sections, and of a section with others after it if
it holds of what is nested under the section and of the others, holds of all lists of sections. -/
theorem forest_induction {motive : List Section → Prop} (nil : motive [])
    (cons : ∀ s rest, motive s.children → motive rest → motive (s :: rest)) :
    ∀ sections, motive sections
  | [] => nil
  -- structural on the first section, whose children are as much a part of it as what follows
  | ⟨line, indent, children⟩ :: rest =>
    cons ⟨line, indent, children⟩ rest (forest_induction nil cons children)
      (forest_induction nil cons rest)

/-- A section is written before what is nested under it, and that before the others. -/
theorem flattenAll_cons (base : Nat) (s : Section) (rest : List Section) :
    flattenAll base (s :: rest)
      = (spaces base ++ s.line) :: (flattenAll (base + 1) s.children ++ flattenAll base rest) := by
  obtain ⟨line, indent, children⟩ := s
  rw [flattenAll, flatten, List.cons_append]

/-- Sections are written one after the other. -/
theorem flatMap_flatten (base : Nat) (sections : List Section) :
    sections.flatMap (flatten base) = flattenAll base sections := by
  induction sections with
  | nil => rw [flattenAll, List.flatMap_nil]
  | cons s rest ih => rw [flattenAll, List.flatMap_cons, ih]

/-- The lines of sections from the top down, each with its depth. -/
def depthLines (depth : Nat) (sections : List Section) : List KeptLine :=
  (outlineAll depth sections).map fun e => (e.1, e.2.2)

theorem depthLines_nil (depth : Nat) : depthLines depth [] = [] := by
  rw [depthLines, outlineAll_nil, List.map_nil]

/-- A section's own line is as deep as the section, what is nested under it one deeper. -/
theorem depthLines_cons (depth : Nat) (s : Section) (rest : List Section) :
    depthLines depth (s :: rest)
      = (depth, s.line) :: (depthLines (depth + 1) s.children ++ depthLines depth rest) := by
  rw [depthLines, outlineAll_cons, List.map_cons, List.map_append, depthLines, depthLines]

/-- A line is written behind as many spaces as it is deep. -/
theorem flattenAll_eq (base : Nat) (sections : List Section) :
    flattenAll base sections = (depthLines base sections).map fun l => spaces l.1 ++ l.2 := by
  induction sections using forest_induction generalizing base with
  | nil => rw [flattenAll, depthLines_nil, List.map_nil]
  | cons s rest ihchildren ihrest =>
    rw [flattenAll_cons, depthLines_cons, List.map_cons, List.map_append, ihchildren, ihrest]

/-- No line is less deep than the sections that it is in. -/
theorem le_of_mem_depthLines {depth : Nat} {sections : List Section} {l : KeptLine}
    (h : l ∈ depthLines depth sections) : depth ≤ l.1 := by
  -- on the sections, those nested under one being deeper
  induction sections using forest_induction generalizing depth with
  | nil =>
    rw [depthLines_nil] at h
    exact absurd h List.not_mem_nil
  | cons s rest ihchildren ihrest =>
    rw [depthLines_cons, List.mem_cons, List.mem_append] at h
    rcases h with rfl | h | h
    · exact le_rfl
    · exact (Nat.le_succ depth).trans (ihchildren h)
    · exact ihrest h

/-! ### Levels -/

mutual

/-- The section with its depth for its indentation, and the same for all that is nested under it. -/
def level (depth : Nat) : Section → Section
  | ⟨line, _, children⟩ => ⟨line, depth, levelAll (depth + 1) children⟩

/-- Several sections with their depths for their indentations. -/
def levelAll (depth : Nat) : List Section → List Section
  | [] => []
  | s :: rest => level depth s :: levelAll depth rest

end

/-- A section with its depth for its indentation. -/
theorem levelAll_cons (depth : Nat) (s : Section) (rest : List Section) :
    levelAll depth (s :: rest)
      = ⟨s.line, depth, levelAll (depth + 1) s.children⟩ :: levelAll depth rest := by
  obtain ⟨line, indent, children⟩ := s
  rw [levelAll, level]

/-- Levelled sections are written as before. -/
theorem flattenAll_levelAll (base depth : Nat) (sections : List Section) :
    flattenAll base (levelAll depth sections) = flattenAll base sections := by
  induction sections using forest_induction generalizing base depth with
  | nil => rw [levelAll]
  | cons s rest ihchildren ihrest =>
    rw [levelAll_cons, flattenAll_cons, flattenAll_cons, ihchildren, ihrest]

/-- **Nesting by depth.** Lines that are indented by their depths are nested as they were. -/
theorem nest_depthLines (depth : Nat) (sections : List Section) :
    nest (depthLines depth sections) = levelAll depth sections := by
  -- on the sections: what is nested is deeper than the section, and what follows is not
  induction sections using forest_induction generalizing depth with
  | nil => rw [depthLines_nil, nest_nil, levelAll]
  | cons s rest ihchildren ihrest =>
    -- the next section, if there is one, is just as deep
    have hrest : ∀ first ∈ (depthLines depth rest).head?, first.1 ≤ depth := by
      intro first hfirst
      cases rest with
      | nil =>
        rw [depthLines_nil] at hfirst
        cases hfirst
      | cons t rest =>
        rw [depthLines_cons] at hfirst
        cases hfirst
        exact le_rfl
    rw [depthLines_cons, nest_cons_append (fun _ => le_of_mem_depthLines) hrest, ihchildren, ihrest,
      levelAll_cons]

/-! ### Reading again -/

/-- Neat lines that count, each behind some spaces, are read from their text with the numbers of
these spaces for their indentations. -/
theorem keptLines_unlines_spaces {ls : List KeptLine}
    (h : ∀ l ∈ ls, Neat l.2 ∧ isKept l.2 = true) :
    keptLines (unlines (ls.map fun l => spaces l.1 ++ l.2)) = ls := by
  have hlines : lines (unlines (ls.map fun l => spaces l.1 ++ l.2))
      -- every line is one of the text that is read, and is kept with its spaces taken off again
      = ls.map fun l => spaces l.1 ++ l.2 := by
    refine lines_unlines fun t ht => ?_
    obtain ⟨l, hl, rfl⟩ := List.mem_map.mp ht
    exact (h l hl).1.indented fun hfeed => absurd (List.eq_of_mem_replicate hfeed) (by decide)
  have hkept : ls.filterMap (keptLine? ∘ fun l => spaces l.1 ++ l.2) = ls.filterMap some :=
    List.filterMap_congr fun l hl => keptLine?_spaces (h l hl).1 (h l hl).2 l.1
  rw [keptLines_eq, hlines, List.filterMap_map, hkept, List.filterMap_some]

/-- The lines of the sections that a text is read as are neat, and they count. -/
theorem neat_of_mem_depthLines {config : Text} {l : KeptLine}
    (h : l ∈ depthLines 0 (ofConfig config)) : Neat l.2 ∧ isKept l.2 = true := by
  obtain ⟨e, he, rfl⟩ := List.mem_map.mp h
  have hline : e.2 ∈ keptLines config := by
    rw [← map_snd_outlineAll_nest 0 (keptLines config)]
    exact List.mem_map_of_mem he
  have hneat : Neat e.2.2 := neat_of_mem_keptLines hline
  have hkept : isKept e.2.2 = true := isKept_of_mem_keptLines hline
  exact ⟨hneat, hkept⟩

/-- **Flattening and reading again.** If the sections that a text is read as are flattened and the
lines are joined and read again, the result is the same sections with their depths for their
indentations. Flattening these gives the same lines. -/
theorem ofConfig_unlines_flatten (config : Text) :
    let sections := ofConfig config
    let again := ofConfig (unlines (sections.flatMap (flatten 0)))
    again = levelAll 0 sections ∧ again.flatMap (flatten 0) = sections.flatMap (flatten 0) := by
  intro sections again
  have hagain : again = levelAll 0 sections := by
    have hlines : keptLines (unlines (sections.flatMap (flatten 0))) = depthLines 0 sections := by
      rw [flatMap_flatten, flattenAll_eq, keptLines_unlines_spaces fun _ => neat_of_mem_depthLines]
    calc again = nest (depthLines 0 sections) := congrArg nest hlines
      _ = levelAll 0 sections := nest_depthLines 0 sections
  refine ⟨hagain, ?_⟩
  rw [hagain, flatMap_flatten, flatMap_flatten, flattenAll_levelAll]

end VendorCli.Section
