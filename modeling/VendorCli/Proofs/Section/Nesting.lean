import VendorCli.Proofs.Text.Lines
import VendorCli.Section.Search
/-!
# Where a line stands among the others

`nest` makes a tree of lines that only have an indentation. This module says what can be told of
that tree from the lines alone:

* a line is at the top level if no line before it is indented less (`TopLevel`);
* the section that a search finds is opened by the first such line with the text searched for
  (`findLine?_nest_of_opens`), and a search that finds anything finds it by such a line
  (`exists_opens_of_findLine?`);
* a section has no part in lines that are indented further than one of its own sub-commands: they
  can be put in after it, and neither the sub-commands nor their order changes
  (`map_line_nest_insert`, `bodyOf?_insert`).
-/

namespace VendorCli.Section

/-! ### Kept lines -/

/-- A line with its indentation, if it counts. -/
def keptLine? (line : Text) : Option KeptLine :=
  if isKept (Text.trim line) then some (indentation line, Text.trim line) else none

theorem keptLines_eq (config : Text) :
    keptLines config = (Text.lines config).filterMap keptLine? := rfl

theorem keptLine?_of_kept {line : Text} (h : isKept (Text.trim line) = true) :
    keptLine? line = some (indentation line, Text.trim line) :=
  if_pos h

theorem keptLine?_of_not_kept {line : Text} (h : isKept (Text.trim line) = false) :
    keptLine? line = none :=
  if_neg (by simp [h])

/-- A line that counts comes from a line of the text. -/
theorem exists_of_mem_filterMap_keptLine? {ls : List Text} {k : KeptLine}
    (h : k ∈ ls.filterMap keptLine?) :
    ∃ l ∈ ls, isKept (Text.trim l) = true ∧ k = (indentation l, Text.trim l) := by
  obtain ⟨l, hl, hk⟩ := List.mem_filterMap.mp h
  by_cases hkept : isKept (Text.trim l) = true
  · rw [keptLine?_of_kept hkept] at hk
    exact ⟨l, hl, hkept, (Option.some.inj hk).symm⟩
  · rw [keptLine?_of_not_kept (by simpa using hkept)] at hk
    cases hk

theorem byteLength_spaces (n : Nat) : Text.byteLength (Text.spaces n) = n := by
  induction n with
  | zero => rfl
  | succ n ih =>
    rw [Text.spaces, List.replicate_succ, Text.byteLength, ← Text.spaces, ih, Nat.add_comm]
    rfl

theorem isBlank_of_mem_spaces {n : Nat} {c : Char} (h : c ∈ Text.spaces n) :
    Text.isBlank c = true := by
  rw [List.eq_of_mem_replicate h]
  rfl

/-- A neat line begins with no blank, so the spaces before it are all of its indentation. -/
theorem indentation_spaces {l : Text} (h : Text.Neat l) (n : Nat) :
    indentation (Text.spaces n ++ l) = n := by
  obtain ⟨c, t, rfl⟩ := List.exists_cons_of_ne_nil h.ne_nil
  have hc : Text.isBlank c = false :=
    Text.not_isBlank_of_head?_trim (t := c :: t) (by rw [h.trim_eq]; rfl)
  rw [indentation, List.takeWhile_append_of_pos fun _ => isBlank_of_mem_spaces,
    List.takeWhile_cons_of_neg (by simp [hc]), List.append_nil, byteLength_spaces]

/-- A neat line behind some spaces is kept with their number. -/
theorem keptLine?_spaces {l : Text} (h : Text.Neat l) (hkept : isKept l = true) (n : Nat) :
    keptLine? (Text.spaces n ++ l) = some (n, l) := by
  have htrim : Text.trim (Text.spaces n ++ l) = l :=
    Text.trim_indent (fun _ => isBlank_of_mem_spaces) h
  rw [keptLine?_of_kept (by rw [htrim]; exact hkept), htrim, indentation_spaces h]

/-! ### Nesting -/

@[simp] theorem nest_nil : nest [] = [] := by
  rw [nest]

/-- A line takes what is indented further, up to the first line that is not. -/
theorem nest_cons (l : KeptLine) (ls : List KeptLine) :
    nest (l :: ls) = ⟨l.2, l.1, nest (ls.takeWhile fun k => l.1 < k.1)⟩
      :: nest (ls.dropWhile fun k => l.1 < k.1) := by
  rw [nest]

/-- What a line takes and what it leaves, wherever they come from. -/
theorem nest_cons_append {l : KeptLine} {taken left : List KeptLine}
    (htaken : ∀ k ∈ taken, l.1 < k.1) (hleft : ∀ first ∈ left.head?, first.1 ≤ l.1) :
    nest (l :: (taken ++ left)) = ⟨l.2, l.1, nest taken⟩ :: nest left := by
  have hpos : ∀ k ∈ taken, decide (l.1 < k.1) = true := fun k hk => decide_eq_true (htaken k hk)
  rw [nest_cons, List.takeWhile_append_of_pos hpos, List.dropWhile_append_of_pos hpos]
  cases left with
  | nil => rw [List.takeWhile_nil, List.dropWhile_nil, List.append_nil]
  | cons first left =>
    have hneg : ¬ l.1 < first.1 := Nat.not_lt.mpr (hleft first rfl)
    rw [List.takeWhile_cons_of_neg (by simpa using hneg),
      List.dropWhile_cons_of_neg (by simpa using hneg), List.append_nil]

/-- What a line leaves begins no further in than the line. -/
theorem le_of_mem_head?_dropWhile {n : Nat} {ls : List KeptLine} {first : KeptLine}
    (h : first ∈ (ls.dropWhile fun k => n < k.1).head?) : first.1 ≤ n := by
  have hnot := List.head?_dropWhile_not (fun k : KeptLine => decide (n < k.1)) ls
  rw [Option.mem_def.mp h] at hnot
  simpa using hnot

/-- What a line leaves is shorter than the line with all that follows it, so inductions are on the
length. -/
theorem length_dropWhile_lt {p : KeptLine → Bool} {l : KeptLine} (ls : List KeptLine) :
    (ls.dropWhile p).length < (l :: ls).length := by
  have hle : (ls.dropWhile p).length ≤ ls.length := (List.dropWhile_sublist p).length_le
  rw [List.length_cons]
  omega

/-- Lines with one indentation are all at one level, with nothing below them. -/
theorem nest_of_level {n : Nat} {ls : List KeptLine} (h : ∀ l ∈ ls, l.1 = n) :
    nest ls = ls.map fun l => ⟨l.2, l.1, []⟩ := by
  -- on the lines: the first one takes nothing, since the next is not indented further
  induction ls with
  | nil => exact nest_nil
  | cons l ls ih =>
    rw [List.forall_mem_cons] at h
    have hstop : ∀ k, ls.head? = some k → ¬ l.1 < k.1 := by
      intro k hk
      have hlevel := h.2 k (List.mem_of_mem_head? hk)
      omega
    have htake : (ls.takeWhile fun k => l.1 < k.1) = [] := by
      cases ls with
      | nil => rfl
      | cons k ls => exact List.takeWhile_cons_of_neg (by simpa using hstop k rfl)
    have hdrop : (ls.dropWhile fun k => l.1 < k.1) = ls := by
      cases ls with
      | nil => rfl
      | cons k ls => exact List.dropWhile_cons_of_neg (by simpa using hstop k rfl)
    rw [nest_cons, htake, hdrop, nest_nil, ih h.2, List.map_cons]

/-! ### The line that opens a section -/

/-- A line is at the top level if none of those before it is indented less. -/
def TopLevel (above : List KeptLine) (line : KeptLine) : Prop :=
  ∀ l ∈ above, line.1 ≤ l.1

/-- **The opening line.** A line opens the section that is looked for if it has the text of the
header, blanks around that aside, and is the first line at the top level that has. -/
structure Opens (header : Text) (above : List KeptLine) (line : KeptLine) : Prop where
  text : line.2 = Text.trim header
  top : TopLevel above line
  first : ∀ before l after, above = before ++ l :: after → TopLevel before l →
    l.2 ≠ Text.trim header

section Opening

variable {header : Text} {above rest : List KeptLine} {line l : KeptLine}

/-- The first of all lines opens the section that has its text. -/
theorem Opens.nil (h : line.2 = Text.trim header) : Opens header [] line where
  text := h
  top := by simp [TopLevel]
  first := by simp

/-- Lines at the top level after a line and what it takes are at the top level after it. -/
theorem TopLevel.of_dropWhile {before after : List KeptLine}
    (h : (above.dropWhile fun k => l.1 < k.1) = before ++ line :: after)
    (htop : TopLevel before line) :
    TopLevel (l :: (above.takeWhile fun k => l.1 < k.1) ++ before) line := by
  -- the line that `l` no longer takes bounds all that follow at the top level
  have hle : line.1 ≤ l.1 := by
    have hhead : ∀ k, (before ++ line :: after).head? = some k → k.1 ≤ l.1 := by
      intro k hk
      have hnot := List.head?_dropWhile_not (fun k : KeptLine => decide (l.1 < k.1)) above
      rw [h, hk] at hnot
      simpa using hnot
    cases before with
    | nil => exact hhead line rfl
    | cons k before => exact (htop k List.mem_cons_self).trans (hhead k rfl)
  intro k hk
  rw [List.mem_append, List.mem_cons] at hk
  rcases hk with (rfl | hk) | hk
  · exact hle
  · have hlt : l.1 < k.1 := by simpa using List.mem_takeWhile_imp hk
    omega
  · exact htop k hk

/-- What opens a section after a line and what that takes opens it among the lines that are left. -/
theorem Opens.dropWhile (h : Opens header (l :: above) line) :
    Opens header (above.dropWhile fun k => l.1 < k.1) line where
  text := h.text
  top := fun k hk => h.top k (List.mem_cons_of_mem _ ((List.dropWhile_sublist _).subset hk))
  first := by
    intro before k after hsplit htop
    refine h.first (l :: (above.takeWhile fun k => l.1 < k.1) ++ before) k after ?_
      (htop.of_dropWhile hsplit)
    rw [List.cons_append, List.cons_append, List.append_assoc, ← hsplit,
      List.takeWhile_append_dropWhile]

/-- A line at the top level is not taken by a line before it. -/
theorem TopLevel.dropWhile_append (h : TopLevel (l :: above) line) :
    ((above ++ line :: rest).dropWhile fun k => l.1 < k.1)
      = (above.dropWhile fun k => l.1 < k.1) ++ line :: rest := by
  have hle : ¬ l.1 < line.1 := Nat.not_lt.mpr (h l List.mem_cons_self)
  rw [List.dropWhile_append]
  split
  · next hempty =>
    rw [List.dropWhile_cons_of_neg (by simpa using hle), List.isEmpty_iff.mp hempty,
      List.nil_append]
  · rfl

/-- **What a search finds** is the section of the line that opens it, with all that is indented
further below that line. -/
theorem findLine?_nest_of_opens (h : Opens header above line) :
    findLine? header (nest (above ++ line :: rest))
      = some ⟨line.2, line.1, nest (rest.takeWhile fun k => line.1 < k.1)⟩ := by
  -- on the number of lines, for what the first one leaves is no tail of them
  induction hn : above.length using Nat.strongRecOn generalizing above with
  | _ n ih =>
    cases above with
    | nil =>
      rw [List.nil_append, nest_cons, findLine?, List.find?_cons_of_pos (by simp [h.text])]
    | cons l above =>
      -- the first line has another text, so the search goes on after what it takes
      have hother : l.2 ≠ Text.trim header :=
        h.first [] l above rfl fun k hk => absurd hk List.not_mem_nil
      have hshorter : (above.dropWhile fun k => l.1 < k.1).length < n := hn ▸ length_dropWhile_lt _
      rw [List.cons_append, nest_cons, findLine?, List.find?_cons_of_neg (by simpa using hother),
        h.top.dropWhile_append]
      exact ih _ hshorter h.dropWhile rfl

/-- What opens a section among the lines that a line leaves opens it after that line. -/
theorem Opens.cons_of_dropWhile {ls before : List KeptLine} (hother : l.2 ≠ Text.trim header)
    (hsplit : (ls.dropWhile fun k => l.1 < k.1) = before ++ line :: rest)
    (h : Opens header before line) :
    Opens header (l :: (ls.takeWhile fun k => l.1 < k.1) ++ before) line where
  text := h.text
  top := h.top.of_dropWhile hsplit
  first := by
    intro above k after hat htop
    cases above with
    | nil =>
      rw [List.nil_append, List.cons_append, List.cons.injEq] at hat
      exact hat.1 ▸ hother
    | cons m above =>
      rw [List.cons_append, List.cons_append, List.cons.injEq] at hat
      obtain ⟨rfl, hat⟩ := hat
      rcases List.append_eq_append_iff.mp hat with ⟨more, rfl, hbefore⟩ | ⟨more, htake, hbefore⟩
      · exact h.first more k after hbefore fun j hj =>
          htop j (List.mem_cons_of_mem _ (List.mem_append_right _ hj))
      · -- the lines that `l` takes are indented further than it, so they are not at the top level
        cases more with
        | nil => exact h.first [] k after (by simpa using hbefore.symm) (by simp [TopLevel])
        | cons j more =>
          rw [List.cons_append, List.cons.injEq] at hbefore
          have hmem : j ∈ ls.takeWhile fun k => l.1 < k.1 := by
            rw [htake]
            simp
          have hlt : l.1 < j.1 := by simpa using List.mem_takeWhile_imp hmem
          have hle : k.1 ≤ l.1 := htop l List.mem_cons_self
          rw [hbefore.1] at hle
          omega

/-- A search that finds a section finds it by a line that opens it. -/
theorem exists_opens_of_findLine? {ls : List KeptLine} {s : Section}
    (h : findLine? header (nest ls) = some s) :
    ∃ above line rest, ls = above ++ line :: rest ∧ Opens header above line := by
  -- on the number of lines, again by what the first one leaves
  induction hn : ls.length using Nat.strongRecOn generalizing ls with
  | _ n ih =>
    cases ls with
    | nil =>
      rw [nest_nil] at h
      cases h
    | cons l ls =>
      -- the first line has the text, and there is none before it
      by_cases htext : l.2 = Text.trim header
      · refine ⟨[], l, ls, rfl, htext, fun k hk => absurd hk List.not_mem_nil, ?_⟩
        intro before k after hsplit
        exact absurd hsplit.symm (by simp)
      · -- the line that opens the section is among those that the first one leaves
        rw [nest_cons, findLine?, List.find?_cons_of_neg (by simpa using htext)] at h
        have hshorter : (ls.dropWhile fun k => l.1 < k.1).length < n := hn ▸ length_dropWhile_lt _
        obtain ⟨above, line, rest, hsplit, hopens⟩ := ih _ hshorter h rfl
        refine ⟨_, line, rest, ?_, hopens.cons_of_dropWhile htext hsplit⟩
        rw [List.cons_append, List.cons_append, List.append_assoc, ← hsplit,
          List.takeWhile_append_dropWhile]

end Opening

/-! ### Lines below a sub-command -/

section Insertion

variable {xs ys zs : List KeptLine} {l : KeptLine}

/-- Lines that are indented further than `l` are dropped with it. -/
theorem dropWhile_insert {n : Nat} (h : ∀ y ∈ ys, l.1 < y.1) (hn : n < l.1) :
    ((l :: (ys ++ zs)).dropWhile fun k => n < k.1) = (l :: zs).dropWhile fun k => n < k.1 := by
  have hys : ∀ y ∈ ys, decide (n < y.1) = true := by
    intro y hy
    have := h y hy
    simp only [decide_eq_true_eq]
    omega
  rw [List.dropWhile_cons_of_pos (by simpa using hn),
    List.dropWhile_cons_of_pos (by simpa using hn),
    List.dropWhile_append_of_pos hys]

/-- Lines that are indented further than `l` are taken with it. -/
theorem takeWhile_insert {n : Nat} (h : ∀ y ∈ ys, l.1 < y.1) (hn : n < l.1) :
    ((l :: (ys ++ zs)).takeWhile fun k => n < k.1)
      = l :: (ys ++ zs.takeWhile fun k => n < k.1) := by
  have hys : ∀ y ∈ ys, decide (n < y.1) = true := by
    intro y hy
    have := h y hy
    simp only [decide_eq_true_eq]
    omega
  rw [List.takeWhile_cons_of_pos (by simpa using hn), List.takeWhile_append_of_pos hys]

/-- **Lines put in below another** change no line of its own level, and none of the levels above. -/
theorem map_line_nest_insert (h : ∀ y ∈ ys, l.1 < y.1) :
    (nest (xs ++ l :: (ys ++ zs))).map line = (nest (xs ++ l :: zs)).map line := by
  -- on the number of lines; the two texts part where the new lines stand
  induction hn : xs.length using Nat.strongRecOn generalizing xs with
  | _ n ih =>
    cases xs with
    | nil =>
      -- `l` takes the new lines, and what it leaves is what it left without them
      have hys : ∀ y ∈ ys, decide (l.1 < y.1) = true := fun y hy => by simpa using h y hy
      rw [List.nil_append, List.nil_append, nest_cons, nest_cons, List.map_cons, List.map_cons,
        List.dropWhile_append_of_pos hys]
    | cons x xs =>
      have hshorter : (xs.dropWhile fun k => x.1 < k.1).length < n := hn ▸ length_dropWhile_lt _
      have hrest : (nest ((xs ++ l :: (ys ++ zs)).dropWhile fun k => x.1 < k.1)).map line
          = (nest ((xs ++ l :: zs).dropWhile fun k => x.1 < k.1)).map line := by
        rw [List.dropWhile_append, List.dropWhile_append]
        split
        · next hempty =>
          by_cases hlt : x.1 < l.1
          · -- the first line takes `l` and the new lines with it
            rw [dropWhile_insert h hlt]
          · -- the first line leaves `l`, with nothing before it
            rw [List.dropWhile_cons_of_neg (by simpa using hlt),
              List.dropWhile_cons_of_neg (by simpa using hlt)]
            have hnil : (xs.dropWhile fun k => x.1 < k.1) = [] := List.isEmpty_iff.mp hempty
            have hleft := ih _ hshorter rfl
            rwa [hnil] at hleft
        · -- `l` is further down among the lines that are left
          exact ih _ hshorter rfl
      rw [List.cons_append, List.cons_append, nest_cons, nest_cons, List.map_cons, List.map_cons,
        hrest]

/-- The same for the lines that a line above takes. -/
theorem map_line_nest_takeWhile_insert {n : Nat} (h : ∀ y ∈ ys, l.1 < y.1) :
    (nest ((xs ++ l :: (ys ++ zs)).takeWhile fun k => n < k.1)).map line
      = (nest ((xs ++ l :: zs).takeWhile fun k => n < k.1)).map line := by
  rw [List.takeWhile_append, List.takeWhile_append]
  split
  · by_cases hlt : n < l.1
    · -- the lines that are taken go on past the place of the insertion
      rw [takeWhile_insert h hlt, List.takeWhile_cons_of_pos (by simpa using hlt),
        map_line_nest_insert h]
    · -- they end before it
      rw [List.takeWhile_cons_of_neg (by simpa using hlt),
        List.takeWhile_cons_of_neg (by simpa using hlt)]
  · rfl

/-- The body of a section depends on the lines of its sub-commands alone. -/
theorem body_eq_of_map_line {s t : Section} (h : s.children.map line = t.children.map line) :
    s.body = t.body := by
  have hbody : ∀ s : Section, s.body = Text.unlines ((s.children.map line).map (' ' :: ·)) := by
    intro s
    rw [body, List.map_map]
    rfl
  rw [hbody, hbody, h]

/-- **Nested lines leave the body alone.** Below the line that opens a section, lines can be put in
after any line that counts, if all of them that count are indented further than it. -/
theorem bodyOf?_insert {header output extended opening line : Text}
    {above inside below inserted : List Text}
    (houtput : Text.lines output = above ++ opening :: (inside ++ line :: below))
    (hextended : Text.lines extended = above ++ opening :: (inside ++ line :: (inserted ++ below)))
    (hkept : isKept (Text.trim opening) = true)
    (hopens : Opens header (above.filterMap keptLine?) (indentation opening, Text.trim opening))
    (hline : isKept (Text.trim line) = true)
    (hdeeper : ∀ l ∈ inserted, isKept (Text.trim l) = true → indentation line < indentation l) :
    bodyOf? extended header = bodyOf? output header := by
  -- of the new lines only those that count matter, and these are indented further
  have hys : ∀ y ∈ inserted.filterMap keptLine?, (indentation line, Text.trim line).1 < y.1 := by
    intro y hy
    obtain ⟨l, hl, hl', rfl⟩ := exists_of_mem_filterMap_keptLine? hy
    exact hdeeper l hl hl'
  have hlines : keptLines output = above.filterMap keptLine? ++ (indentation opening,
      Text.trim opening) :: (inside.filterMap keptLine? ++ (indentation line, Text.trim line)
        :: below.filterMap keptLine?) := by
    rw [keptLines_eq, houtput, List.filterMap_append, List.filterMap_cons_some
      (keptLine?_of_kept hkept), List.filterMap_append, List.filterMap_cons_some
      (keptLine?_of_kept hline)]
  have hlines' : keptLines extended = above.filterMap keptLine? ++ (indentation opening,
      Text.trim opening) :: (inside.filterMap keptLine? ++ (indentation line, Text.trim line)
        :: (inserted.filterMap keptLine? ++ below.filterMap keptLine?)) := by
    rw [keptLines_eq, hextended, List.filterMap_append, List.filterMap_cons_some
      (keptLine?_of_kept hkept), List.filterMap_append, List.filterMap_cons_some
      (keptLine?_of_kept hline), List.filterMap_append]
  rw [bodyOf?, bodyOf?, ofConfig, ofConfig, hlines, hlines', find?, find?,
    findLine?_nest_of_opens hopens, findLine?_nest_of_opens hopens, Option.map_some,
    Option.map_some]
  exact congrArg some (body_eq_of_map_line (map_line_nest_takeWhile_insert hys))

end Insertion

end VendorCli.Section
