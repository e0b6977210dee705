import VendorCli.Proofs.Section.Outline
/-!
# Parents

A section is nested under the line that it belongs to, its parent. `parentsAll` lists, for all lines
of sections from the top down, the place of the parent of each among them.

For sections that are read from a text, the parent is found in the lines alone: it is the closest
line before that is indented less, and a line without such a line before it is at the top level
(`parentsAll_nest`). Together with the lines themselves, which are those of the text that count
(`keptLines_eq_countedLines`), this says all of the tree that a text is read as
(`ofConfig_nests_by_indentation`).
-/

namespace VendorCli.Section

open Text

/-! ### The lines that count -/

/-- A trimmed line counts if it is not empty and not a separator. -/
def Counts (l : Text) : Prop :=
  l ≠ [] ∧ ¬ ['!'] <+: l ∧ ¬ ['#'] <+: l

instance : DecidablePred Counts := fun l =>
  inferInstanceAs (Decidable (l ≠ [] ∧ ¬ ['!'] <+: l ∧ ¬ ['#'] <+: l))

/-- The lines of a text that count, trimmed, each with the number of bytes that it is indented
by. -/
def countedLines (config : Text) : List KeptLine :=
  ((lines config).filter fun l => Counts (trim l)).map fun l =>
    (byteLength l - byteLength (trimStart l), trim l)

/-- The lines that are kept are those that count. -/
theorem isKept_iff {l : Text} : isKept l = true ↔ Counts l := by
  cases l with
  | nil => simp [isKept, Counts]
  | cons c l =>
    rw [isKept, Counts, List.cons_prefix_cons, List.cons_prefix_cons, Bool.and_eq_true,
      decide_eq_true_iff, decide_eq_true_iff]
    simp [eq_comm]

theorem byteLength_append (s t : Text) : byteLength (s ++ t) = byteLength s + byteLength t := by
  induction s with
  | nil => rw [List.nil_append, byteLength, Nat.zero_add]
  | cons c s ih => rw [List.cons_append, byteLength, byteLength, ih, Nat.add_assoc]

/-- The indentation of a line is what trimming takes off its start. -/
theorem indentation_eq (l : Text) : indentation l = byteLength l - byteLength (trimStart l) := by
  have hsplit : byteLength l = indentation l + byteLength (trimStart l) := by
    rw [indentation, trimStart, ← byteLength_append, List.takeWhile_append_dropWhile]
  omega

/-- The kept lines of a text, told by its bytes. -/
theorem keptLines_eq_countedLines (config : Text) : keptLines config = countedLines config := by
  rw [keptLines_eq, countedLines, ← List.filterMap_eq_map, List.filterMap_filter]
  refine List.filterMap_congr fun l _ => ?_
  by_cases h : Counts (trim l)
  · rw [keptLine?_of_kept (isKept_iff.mpr h), if_pos (decide_eq_true h), indentation_eq]
    rfl
  · have hkept : isKept (trim l) = false := by
      rw [← Bool.not_eq_true, isKept_iff]
      exact h
    rw [keptLine?_of_not_kept hkept, if_neg (by simpa using h)]

/-! ### Parents in sections -/

mutual

/-- For the lines of a section from the top down, the place of the parent of each. The section
itself has the place `place`, and `above` is that of its parent, if it has one. -/
def parents (above : Option Nat) (place : Nat) : Section → List (Option Nat)
  | ⟨_, _, children⟩ => above :: parentsAll (some place) (place + 1) children

/-- For the lines of several sections from the top down, the place of the parent of each. -/
def parentsAll (above : Option Nat) (place : Nat) : List Section → List (Option Nat)
  | [] => []
  | s :: rest => parents above place s ++ parentsAll above (place + (outline 0 s).length) rest

end

/-- Nesting loses no line. -/
theorem length_outlineAll_nest (depth : Nat) (ls : List KeptLine) :
    (outlineAll depth (nest ls)).length = ls.length := by
  rw [← List.length_map (f := (·.2)), map_snd_outlineAll_nest]

/-- A line has its place, what it takes comes right after it, and then what it leaves. -/
theorem parentsAll_nest_cons (above : Option Nat) (place : Nat) (l : KeptLine)
    (ls : List KeptLine) :
    parentsAll above place (nest (l :: ls))
      = above :: (parentsAll (some place) (place + 1) (nest (ls.takeWhile fun k => l.1 < k.1))
        ++ parentsAll above (place + 1 + (ls.takeWhile fun k => l.1 < k.1).length)
          (nest (ls.dropWhile fun k => l.1 < k.1))) := by
  rw [nest_cons, parentsAll, parents, outline, List.length_cons, length_outlineAll_nest,
    List.cons_append]
  congr 3
  omega

/-! ### Parents in lines -/

section Lines

variable {above between : List KeptLine} {k l : KeptLine} {j : Nat}

/-- Of the lines above `l`, the one at place `j` is the closest that is indented less. -/
def Closest (above : List KeptLine) (l : KeptLine) (j : Nat) : Prop :=
  ∃ before k between, above = before ++ k :: between ∧ before.length = j ∧ k.1 < l.1 ∧
    TopLevel between l

/-- The place of the closest line above that is indented less. -/
def closest? (above : List KeptLine) (l : KeptLine) : Option Nat :=
  match (above.rdropWhile fun k => l.1 ≤ k.1).length with
  | 0 => none
  | j + 1 => some j

theorem closest?_nil (l : KeptLine) : closest? [] l = none := rfl

/-- Lines that are not indented less make no difference. -/
theorem closest?_append (h : TopLevel between l) (above : List KeptLine) :
    closest? (above ++ between) l = closest? above l := by
  -- on the lines in between, from the last one back
  induction between using List.reverseRecOn with
  | nil => rw [List.append_nil]
  | append_singleton between k ih =>
    have hk : l.1 ≤ k.1 := h k (by simp)
    rw [← List.append_assoc, closest?, List.rdropWhile_concat_pos _ _ _ (by simpa using hk)]
    exact ih fun m hm => h m (by simp [hm])

/-- The line right above is the closest if it is indented less. -/
theorem closest?_concat (h : k.1 < l.1) (above : List KeptLine) :
    closest? (above ++ [k]) l = some above.length := by
  rw [closest?, List.rdropWhile_concat_neg _ _ _ (by simpa using h), List.length_append]
  rfl

/-- At the top level, no line above is indented less. -/
theorem closest?_of_topLevel (h : TopLevel above l) : closest? above l = none := by
  rw [← List.nil_append above, closest?_append h]
  rfl

/-- A line that is indented less is the closest if none after it is. -/
theorem closest?_of_split (hless : k.1 < l.1) (h : TopLevel between l) (before : List KeptLine) :
    closest? (before ++ k :: between) l = some before.length := by
  rw [← List.singleton_append, ← List.append_assoc, closest?_append h, closest?_concat hless]

/-- A line is at the top level, or one of the lines above is the closest that is indented less. -/
theorem topLevel_or_exists_split (above : List KeptLine) (l : KeptLine) :
    TopLevel above l ∨ ∃ before k between, above = before ++ k :: between ∧ k.1 < l.1 ∧
      TopLevel between l := by
  -- on the lines above, from the last one back
  induction above using List.reverseRecOn with
  | nil => exact .inl fun k hk => absurd hk List.not_mem_nil
  | append_singleton above k ih =>
    by_cases hk : k.1 < l.1
    · exact .inr ⟨above, k, [], rfl, hk, fun m hm => absurd hm List.not_mem_nil⟩
    · have hconcat : ∀ {between : List KeptLine}, TopLevel between l →
          TopLevel (between ++ [k]) l := by
        intro between hbetween m hm
        rcases List.mem_append.mp hm with hm | hm
        · exact hbetween m hm
        · rw [List.mem_singleton.mp hm]
          omega
      rcases ih with htop | ⟨before, m, between, rfl, hless, hbetween⟩
      · exact .inl (hconcat htop)
      · exact .inr ⟨before, m, between ++ [k], by simp, hless, hconcat hbetween⟩

/-- The place that is found is that of the closest line. -/
theorem closest?_eq_some_iff : closest? above l = some j ↔ Closest above l j := by
  constructor
  · intro h
    rcases topLevel_or_exists_split above l with htop | ⟨before, k, between, rfl, hless, hbetween⟩
    · rw [closest?_of_topLevel htop] at h
      cases h
    · rw [closest?_of_split hless hbetween] at h
      exact ⟨before, k, between, rfl, Option.some.inj h, hless, hbetween⟩
  · rintro ⟨before, k, between, rfl, rfl, hless, hbetween⟩
    exact closest?_of_split hless hbetween before

/-- No place is found exactly at the top level. -/
theorem closest?_eq_none_iff : closest? above l = none ↔ TopLevel above l := by
  refine ⟨fun h => ?_, closest?_of_topLevel⟩
  rcases topLevel_or_exists_split above l with htop | ⟨before, k, between, rfl, hless, hbetween⟩
  · exact htop
  · rw [closest?_of_split hless hbetween] at h
    cases h

/-- For each of several lines, the place of the closest line before it that is indented less. -/
def closestAll (above : List KeptLine) : List KeptLine → List (Option Nat)
  | [] => []
  | l :: ls => closest? above l :: closestAll (above ++ [l]) ls

/-- The lines before are above those after. -/
theorem closestAll_append (above ls ms : List KeptLine) :
    closestAll above (ls ++ ms) = closestAll above ls ++ closestAll (above ++ ls) ms := by
  induction ls generalizing above with
  | nil => rw [List.append_nil]; rfl
  | cons l ls ih =>
    rw [List.cons_append, closestAll, closestAll, ih, List.append_assoc, List.cons_append]
    rfl

theorem length_closestAll (above ls : List KeptLine) :
    (closestAll above ls).length = ls.length := by
  induction ls generalizing above with
  | nil => rfl
  | cons l ls ih => rw [closestAll, List.length_cons, List.length_cons, ih]

/-- A line has its closest line among those before it. -/
theorem getElem?_closestAll (above : List KeptLine) (l : KeptLine) (below : List KeptLine) :
    (closestAll [] (above ++ l :: below))[above.length]? = some (closest? above l) := by
  rw [closestAll_append, closestAll,
    List.getElem?_append_right (by rw [length_closestAll]), length_closestAll, Nat.sub_self]
  rfl

end Lines

/-! ### Nesting by indentation -/

/-- What is not indented further than a line is at the top level after it and what it takes. -/
theorem topLevel_cons_takeWhile {k l : KeptLine} (h : k.1 ≤ l.1) (ls : List KeptLine) :
    TopLevel (l :: ls.takeWhile fun m => l.1 < m.1) k := by
  intro m hm
  rcases List.mem_cons.mp hm with rfl | hm
  · exact h
  · have hlt : l.1 < m.1 := by simpa using List.mem_takeWhile_imp hm
    omega

/-- **Parents by indentation.** Among lines that follow others, the parents in the sections that
they are nested into are the closest lines before that are indented less, if that is so for the
lines that are not indented further than the first one. -/
theorem parentsAll_nest {above ls : List KeptLine} {p : Option Nat}
    (h : ∀ first ∈ ls.head?, ∀ k ∈ ls, k.1 ≤ first.1 → closest? above k = p) :
    parentsAll p above.length (nest ls) = closestAll above ls := by
  -- on the number of lines: the first line splits the others into what it takes and what it leaves
  induction hn : ls.length using Nat.strongRecOn generalizing above ls p with
  | _ n ih =>
    cases ls with
    | nil => rw [nest_nil, parentsAll, closestAll]
    | cons l ls =>
      let taken : List KeptLine := ls.takeWhile fun k => l.1 < k.1
      let left : List KeptLine := ls.dropWhile fun k => l.1 < k.1
      have hown : closest? above l = p := h l rfl l List.mem_cons_self le_rfl
      -- what the line takes is indented further, so the line is the closest to all that begins
      -- there
      have htaken : parentsAll (some above.length) (above.length + 1) (nest taken)
          = closestAll (above ++ [l]) taken := by
        have hshorter : taken.length < n := by
          have hle : taken.length ≤ ls.length := (List.takeWhile_sublist _).length_le
          rw [← hn, List.length_cons]
          omega
        rw [← ih _ hshorter (fun _ _ k hk _ => ?_) rfl, List.length_append, List.length_singleton]
        exact closest?_concat (by simpa using List.mem_takeWhile_imp hk) above
      -- what it leaves begins no further in, so neither the line nor what it takes is closer
      have hleft : parentsAll p (above.length + 1 + taken.length) (nest left)
          = closestAll (above ++ l :: taken) left := by
        have hshorter : left.length < n := hn ▸ length_dropWhile_lt ls
        rw [← ih _ hshorter (fun first hfirst k hk hle => ?_) rfl, List.length_append,
          List.length_cons, Nat.add_assoc, Nat.add_comm 1]
        have hle : k.1 ≤ l.1 := hle.trans (le_of_mem_head?_dropWhile hfirst)
        rw [closest?_append (topLevel_cons_takeWhile hle ls)]
        exact h l rfl k (List.mem_cons_of_mem _ ((List.dropWhile_sublist _).subset hk)) hle
      calc parentsAll p above.length (nest (l :: ls))
          = p :: (closestAll (above ++ [l]) taken ++ closestAll (above ++ l :: taken) left) := by
            rw [parentsAll_nest_cons, htaken, hleft]
        _ = closestAll above (l :: (taken ++ left)) := by
            rw [closestAll, hown, closestAll_append, List.append_assoc, List.singleton_append]
        _ = closestAll above (l :: ls) := by
            rw [List.takeWhile_append_dropWhile]

/-- **The tree of a text.** From the top down, the sections that a text is read as have exactly the
lines of the text that count, in order and each once, with their indentation. The parent of a line
is the closest line before it that is indented less, and the lines that have none are those at the
top level. -/
theorem ofConfig_nests_by_indentation (config : Text) :
    let ls := countedLines config
    let ps := parentsAll none 0 (ofConfig config)
    (outlineAll 0 (ofConfig config)).map (·.2) = ls ∧ ps.length = ls.length ∧
    ∀ above l below, ls = above ++ l :: below →
      (∀ j, ps[above.length]? = some (some j) ↔ Closest above l j) ∧
      (ps[above.length]? = some none ↔ TopLevel above l) := by
  intro ls ps
  have hls : keptLines config = ls := keptLines_eq_countedLines config
  have hps : ps = closestAll [] ls := by
    rw [← hls]
    exact parentsAll_nest fun _ _ k _ _ => closest?_nil k
  refine ⟨?_, ?_, ?_⟩
  · rw [ofConfig, map_snd_outlineAll_nest, hls]
  · rw [hps, length_closestAll]
  · intro above l below hsplit
    rw [hps, hsplit, getElem?_closestAll]
    exact ⟨fun j => by rw [Option.some.injEq, closest?_eq_some_iff],
      by rw [Option.some.injEq, closest?_eq_none_iff]⟩

/-- Lines that come out again need not meet the indentation of a line before them. -/
example : parentsAll none 0 (ofConfig "a\n    b\n      c\n  d\n\n!\n   e\nf\n")
    = [none, some 0, some 1, some 0, some 3, none] := by
  decide +kernel

end VendorCli.Section
