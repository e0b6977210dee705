import VendorCli.Proofs.Section.Nesting
/-!
# The sub-commands of a section

What a reader sees of a section are its direct sub-commands, one a line (`commands?`). They are neat
lines whatever the configuration is (`commands?_spec`).

`sectionOf` goes the other way and makes a section of lines, the first of which opens it. Its
sub-commands are the other lines (`commands?_sectionOf`), if none of them would be passed over as
blank or as a separator.
-/

namespace VendorCli.Section

open Text

variable {config header : Text} {ls : List Text}

/-! ### Reading -/

/-- The direct sub-commands of the first top-level section with this line. -/
def commands? (config header : Text) : Option (List Text) :=
  (find? (ofConfig config) [header]).map fun s => s.children.map line

/-- The body of a section is its sub-commands, one space further in. -/
theorem bodyOf?_eq (config header : Text) : bodyOf? config header
    = (commands? config header).map fun ls => unlines (ls.map ([' '] ++ ·)) := by
  have hbody : ∀ s : Section, s.body = unlines ((s.children.map line).map ([' '] ++ ·)) := by
    intro s
    rw [body, List.map_map]
    rfl
  rw [bodyOf?, commands?, Option.map_map, funext hbody]
  rfl

/-- A kept line counts. -/
theorem isKept_of_mem_keptLines {k : KeptLine} (h : k ∈ keptLines config) : isKept k.2 = true := by
  rw [keptLines_eq] at h
  obtain ⟨l, -, hkept, rfl⟩ := exists_of_mem_filterMap_keptLine? h
  exact hkept

/-- A kept line is neat. -/
theorem neat_of_mem_keptLines {k : KeptLine} (h : k ∈ keptLines config) : Neat k.2 := by
  have hkept := isKept_of_mem_keptLines h
  rw [keptLines_eq] at h
  obtain ⟨l, hl, -, rfl⟩ := exists_of_mem_filterMap_keptLine? h
  refine ⟨trim_trim l, ?_, fun hfeed => not_mem_of_mem_lines hl (trim_subset l hfeed)⟩
  intro hnil
  rw [hnil] at hkept
  cases hkept

/-- The lines of sections are lines of the configuration. -/
theorem mem_of_mem_nest {ls : List KeptLine} {s : Section} (h : s ∈ nest ls) :
    (s.indent, s.line) ∈ ls := by
  -- the sections after the first are nested from the lines that are not indented further
  induction ls using nest.induct with
  | case1 => simp at h
  | case2 indent line rest _ ih =>
    rw [nest, List.mem_cons] at h
    rcases h with rfl | h
    · exact List.mem_cons_self
    · exact List.mem_cons_of_mem _ ((List.dropWhile_sublist _).subset (ih h))

/-- **Sub-commands** are neat, and a section can only be found by a line. -/
theorem commands?_spec (h : commands? config header = some ls) :
    OneLine header ∧ ∀ l ∈ ls, Neat l := by
  rw [commands?, Option.map_eq_some_iff] at h
  obtain ⟨s, hs, rfl⟩ := h
  -- the section was opened by a kept line, and so were those under it
  obtain ⟨above, opening, rest, hsplit, hopens⟩ := exists_opens_of_findLine? hs
  have hneat : ∀ k ∈ above ++ opening :: rest, Neat k.2 := fun k hk =>
    neat_of_mem_keptLines (hsplit ▸ hk)
  constructor
  · rw [OneLine, ← hopens.text]
    exact (hneat opening (by simp)).feedless
  · rw [find?, ofConfig, hsplit, findLine?_nest_of_opens hopens] at hs
    cases hs
    intro l hl
    obtain ⟨c, hc, rfl⟩ := List.mem_map.mp hl
    have hin := (List.takeWhile_sublist _).subset (mem_of_mem_nest hc)
    exact hneat _ (List.mem_append_right _ (List.mem_cons_of_mem _ hin))

/-! ### Writing -/

/-- Lines as a section: the first as it is, the others one space further in. -/
def sectionOf : List Text → Text
  | [] => []
  | header :: settings => unlines (header :: settings.map (' ' :: ·))

/-- A section of lines has the line that opens it and the others, one space further in. -/
theorem lines_sectionOf {settings : List Text} (hne : settings ≠ [])
    (h : ∀ l ∈ settings, Neat l) :
    lines (sectionOf (header :: settings)) = endedLines header ++ settings.map ([' '] ++ ·) := by
  have hsettings : lines (unlines (settings.map ([' '] ++ ·))) = settings.map ([' '] ++ ·) :=
    lines_unlines_indent (by simp) h
  obtain ⟨first, others, rfl⟩ := List.exists_cons_of_ne_nil hne
  rw [List.map_cons] at hsettings
  have hcut : sectionOf (header :: first :: others)
      = header ++ '\n' :: unlines (([' '] ++ first) :: others.map ([' '] ++ ·)) :=
    unlines_cons_cons _ _ _
  rw [hcut, lines_append_cons, hsettings, endedLines]
  rfl

/-- What counts of a line that opens a section is the line itself, at the top level. -/
theorem filterMap_endedLines {c : Char} {s : Text} (hc : isBlank c = false)
    (hkept : isKept [c] = true) (hone : OneLine (c :: s)) :
    (endedLines (c :: s)).filterMap keptLine? = [(0, trim (c :: s))] := by
  obtain ⟨u, rest, hlines, htrim, hblank⟩ :=
    Template.exists_endedLines_of_oneLine hc hone
  have hfirst : keptLine? (c :: u) = some (0, trim (c :: s)) := by
    have hlevel : indentation (c :: u) = 0 := by
      rw [indentation, List.takeWhile_cons_of_neg (by simp [hc])]
      rfl
    rw [keptLine?_of_kept (by rw [trim_cons hc]; exact hkept), hlevel, htrim]
  have hrest : rest.filterMap keptLine? = [] := by
    rw [List.filterMap_eq_nil_iff]
    intro l hl
    exact keptLine?_of_not_kept (by rw [hblank l hl]; rfl)
  rw [hlines, List.filterMap_cons_some hfirst, hrest]

/-- **Round trip.** The sub-commands of a section that is made of lines are those after the first,
if all of them count. -/
theorem commands?_sectionOf {c : Char} {s : Text} {settings : List Text} (hc : isBlank c = false)
    (hkept : isKept [c] = true) (hone : OneLine (c :: s)) (hheader : trim header = trim (c :: s))
    (hne : settings ≠ []) (hsettings : ∀ l ∈ settings, Neat l ∧ isKept l = true) :
    commands? (sectionOf ((c :: s) :: settings)) header = some settings := by
  have hneat : ∀ l ∈ settings, Neat l := fun l hl => (hsettings l hl).1
  -- all settings count, at the first level
  have hlevel : (settings.map ([' '] ++ ·)).filterMap keptLine? = settings.map (1, ·) := by
    rw [List.filterMap_map, ← List.filterMap_eq_map]
    refine List.filterMap_congr fun l hl => ?_
    exact keptLine?_spaces (hsettings l hl).1 (hsettings l hl).2 1
  have hlines : keptLines (sectionOf ((c :: s) :: settings))
      = [] ++ (0, trim (c :: s)) :: settings.map (1, ·) := by
    rw [keptLines_eq, lines_sectionOf hne hneat, List.filterMap_append,
      filterMap_endedLines hc hkept hone, hlevel]
    rfl
  have hopens : Opens header [] (0, trim (c :: s)) := .nil hheader.symm
  -- the section takes them all, and none of them takes another
  have htake : ((settings.map (1, ·)).takeWhile fun k : KeptLine => 0 < k.1)
      = settings.map (1, ·) := by
    rw [List.takeWhile_eq_self_iff]
    intro k hk
    obtain ⟨l, -, rfl⟩ := List.mem_map.mp hk
    rfl
  have hnest : nest (settings.map (1, ·)) = settings.map fun l => ⟨l, 1, []⟩ := by
    have hall : ∀ k ∈ settings.map ((1, ·) : Text → KeptLine), k.1 = 1 := by simp
    rw [nest_of_level hall, List.map_map]
    rfl
  rw [commands?, find?, ofConfig, hlines, findLine?_nest_of_opens hopens, htake, hnest,
    Option.map_some, List.map_map]
  exact congrArg some (List.map_id' settings)

end VendorCli.Section
