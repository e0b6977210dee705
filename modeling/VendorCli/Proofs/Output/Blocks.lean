import VendorCli.Output.Block
import VendorCli.Proofs.Text.Lines
/-!
# What blocks are made of

Cutting an output into blocks takes its lines apart and changes none of them. `Block.parts` are the
header lines, each with the lines up to the next one; the blocks are these with their lines joined
(`Block.map_ofLines`).

* The parts, put together again, are the lines from the first header on (`Block.flatMap_parts`), so
  these are what the joined texts of the blocks are (`unlines_flatten` for the line feeds between
  them).
* A text that is joined and cut again has the same lines, up to carriage returns at their ends
  (`exists_of_mem_lines_unlines`), which matter to no header (`Block.isHeader_congr`).
-/

namespace VendorCli

open Text

namespace Text

/-! ### Lines of joined lines -/

/-- Lines that are joined in groups and then joined again are joined. -/
theorem unlines_flatten {groups : List (List Text)} (h : ∀ g ∈ groups, g ≠ []) :
    unlines (groups.map unlines) = unlines groups.flatten := by
  -- on the groups, none of which is empty, so a line feed stands between any two of them
  induction groups with
  | nil => rfl
  | cons g groups ih =>
    rw [List.forall_mem_cons] at h
    cases groups with
    | nil => rw [List.map_singleton, List.flatten_singleton]; rfl
    | cons k groups =>
      have hrest : (k :: groups).flatten ≠ [] := by
        rw [List.flatten_cons]
        exact List.append_ne_nil_of_left_ne_nil (h.2 k List.mem_cons_self) _
      rw [List.flatten_cons, unlines_append h.1 hrest, ← ih h.2]
      exact unlines_cons_cons _ _ _

/-- A single line is a text of that line, or an empty one. -/
theorem lines_unlines_singleton {l : Text} (h : '\n' ∉ l) :
    (lines (unlines [l])).headD [] = l ∧ (lines (unlines [l])).tail = [] := by
  rw [show unlines [l] = l from rfl]
  by_cases hne : l = []
  · rw [hne, lines_nil]
    exact ⟨rfl, rfl⟩
  · rw [lines_of_not_mem h hne]
    exact ⟨rfl, rfl⟩

/-- The first line of joined lines is the first of these, perhaps without a carriage return. -/
theorem trim_headD_lines_unlines {l : Text} (h : '\n' ∉ l) (ls : List Text) :
    trim ((lines (unlines (l :: ls))).headD []) = trim l := by
  cases ls with
  | nil => rw [(lines_unlines_singleton h).1]
  | cons m ls =>
    rw [unlines_cons_cons, lines_append_feed h]
    exact Template.trim_dropReturn l

/-- The other lines of joined lines are the lines of the others. -/
theorem tail_lines_unlines {l : Text} (h : '\n' ∉ l) (ls : List Text) :
    (lines (unlines (l :: ls))).tail = lines (unlines ls) := by
  cases ls with
  | nil => rw [(lines_unlines_singleton h).2, unlines, join_nil, lines_nil]
  | cons m ls => rw [unlines_cons_cons, lines_append_feed h, List.tail_cons]

/-- Lines that are joined and cut again are the same lines, perhaps without a carriage return. -/
theorem exists_of_mem_lines_unlines {ls : List Text} (h : ∀ l ∈ ls, '\n' ∉ l) {k : Text}
    (hk : k ∈ lines (unlines ls)) : ∃ l ∈ ls, trim k = trim l := by
  -- on the lines: the first one is cut off the text, and the rest is the text of the others
  induction ls with
  | nil => simp [unlines] at hk
  | cons l ls ih =>
    rw [List.forall_mem_cons] at h
    obtain ⟨first, others, hsplit⟩ := List.exists_cons_of_ne_nil (List.ne_nil_of_mem hk)
    have hfirst := trim_headD_lines_unlines h.1 ls
    have htail := tail_lines_unlines h.1 ls
    rw [hsplit] at hk hfirst htail
    rcases List.mem_cons.mp hk with rfl | hk
    · exact ⟨l, List.mem_cons_self, hfirst⟩
    · obtain ⟨j, hj, htrim⟩ := ih h.2 (htail ▸ hk)
      exact ⟨j, List.mem_cons_of_mem l hj, htrim⟩

end Text

namespace Block

variable {header : Regex} {ls : List Text}

/-! ### The parts of an output -/

/-- The header lines among some lines, each with the lines up to the next one. -/
def parts (header : Regex) : List Text → List (Text × List Text)
  | [] => []
  | l :: ls =>
    if isHeader header l then (l, ls.takeWhile fun k => !isHeader header k) :: parts header ls
    else parts header ls

/-- A header opens a part, to which the lines up to the next header belong. -/
theorem parts_cons_of_isHeader {l : Text} (h : isHeader header l = true) (ls : List Text) :
    parts header (l :: ls)
      = (l, ls.takeWhile fun k => !isHeader header k) :: parts header ls :=
  if_pos h

/-- Any other line opens none. -/
theorem parts_cons_of_not {l : Text} (h : isHeader header l = false) (ls : List Text) :
    parts header (l :: ls) = parts header ls :=
  if_neg (by simp [h])

/-- The parts begin with the headers, in their order. -/
theorem map_fst_parts (header : Regex) (ls : List Text) :
    (parts header ls).map (·.1) = ls.filter (isHeader header) := by
  induction ls with
  | nil => rfl
  | cons l ls ih =>
    cases h : isHeader header l with
    | true => rw [parts_cons_of_isHeader h, List.map_cons, ih, List.filter_cons_of_pos h]
    | false => rw [parts_cons_of_not h, ih, List.filter_cons_of_neg (by simp [h])]

/-- Nothing from the first header on is lost. -/
theorem flatMap_parts (header : Regex) (ls : List Text) :
    (parts header ls).flatMap (fun p => p.1 :: p.2) = ls.dropWhile fun l => !isHeader header l := by
  -- on the lines: a part takes what the search for the next header passes over
  induction ls with
  | nil => rfl
  | cons l ls ih =>
    cases h : isHeader header l with
    | true =>
      rw [parts_cons_of_isHeader h, List.flatMap_cons, ih, List.cons_append,
        List.takeWhile_append_dropWhile, List.dropWhile_cons_of_neg (by simp [h])]
    | false => rw [parts_cons_of_not h, ih, List.dropWhile_cons_of_pos (by simp [h])]

/-- The lines of a part are lines of the output. -/
theorem mem_of_mem_parts {p : Text × List Text} (hp : p ∈ parts header ls) {l : Text}
    (hl : l ∈ p.1 :: p.2) : l ∈ ls := by
  have hmem : l ∈ (parts header ls).flatMap fun p => p.1 :: p.2 := List.mem_flatMap.mpr ⟨p, hp, hl⟩
  rw [flatMap_parts] at hmem
  exact (List.dropWhile_sublist _).subset hmem

/-- A part begins with a header. -/
theorem isHeader_of_mem_parts {p : Text × List Text} (hp : p ∈ parts header ls) :
    isHeader header p.1 = true := by
  have hmem : p.1 ∈ ls.filter (isHeader header) := by
    rw [← map_fst_parts]
    exact List.mem_map_of_mem hp
  exact (List.mem_filter.mp hmem).2

/-- No other line of a part is a header. -/
theorem not_isHeader_of_mem_parts {p : Text × List Text} (hp : p ∈ parts header ls) {l : Text}
    (hl : l ∈ p.2) : isHeader header l = false := by
  -- on the lines: what a part has was passed over, or it is a part of what follows
  induction ls with
  | nil => cases hp
  | cons k ls ih =>
    cases hk : isHeader header k with
    | false =>
      rw [parts_cons_of_not hk] at hp
      exact ih hp
    | true =>
      rw [parts_cons_of_isHeader hk, List.mem_cons] at hp
      rcases hp with rfl | hp
      · simpa using List.mem_takeWhile_imp hl
      · exact ih hp

/-- **Blocks and parts.** A block has the lines of its part. -/
theorem map_ofLines (header : Regex) (ls : List Text) :
    (ofLines header ls).map (fun b => (b.header, b.text))
      = (parts header ls).map fun p => (trim p.1, unlines (p.1 :: p.2)) := by
  induction ls with
  | nil => rfl
  | cons l ls ih =>
    rw [ofLines]
    cases hcaps : header.captures? (trim l) with
    | none => rw [parts_cons_of_not (by rw [isHeader, hcaps]; rfl), ← ih]
    | some caps =>
      rw [parts_cons_of_isHeader (by rw [isHeader, hcaps]; rfl), List.map_cons, List.map_cons, ← ih]

/-! ### Cutting an output -/

/-- Blanks around a line do not make it a header or not. -/
theorem isHeader_congr {k l : Text} (h : trim k = trim l) :
    isHeader header k = isHeader header l := by
  rw [isHeader, isHeader, h]

/-- **Cutting into blocks.** There is one block for each line that matches the header, in the same
order. The joined texts of the blocks are the joined lines of the output from the first such line
on. Of the lines of a block's text, the first matches the header and is what the block has for it,
and the others do not match; an empty text counts as one empty line. -/
theorem split_loses_nothing (header : Regex) (output : Text) :
    (split header output).map (·.header) = ((lines output).filter (isHeader header)).map trim ∧
    unlines ((split header output).map (·.text))
      = unlines ((lines output).dropWhile fun l => !isHeader header l) ∧
    ∀ b ∈ split header output,
      isHeader header ((lines b.text).headD []) = true ∧
      trim ((lines b.text).headD []) = b.header ∧
      ∀ l ∈ (lines b.text).tail, isHeader header l = false := by
  have hparts := map_ofLines header (lines output)
  refine ⟨?_, ?_, ?_⟩
  · -- headers and texts are both read off the parts
    have hheaders := congrArg (List.map Prod.fst) hparts
    rw [List.map_map, List.map_map] at hheaders
    rw [← map_fst_parts, List.map_map]
    exact hheaders
  · -- each part has its header at least, so the texts are joined by single line feeds
    have htexts := congrArg (List.map Prod.snd) hparts
    rw [List.map_map, List.map_map] at htexts
    have hgroups : ∀ g ∈ (parts header (lines output)).map fun p => p.1 :: p.2, g ≠ [] := by
      intro g hg
      obtain ⟨p, -, rfl⟩ := List.mem_map.mp hg
      exact List.cons_ne_nil _ _
    rw [← flatMap_parts, List.flatMap_def, ← unlines_flatten hgroups, List.map_map]
    exact congrArg unlines htexts
  · -- a block has only joined lines, so these are traced back to the lines of its part
    intro b hb
    have hpart : (b.header, b.text)
        ∈ (parts header (lines output)).map fun p => (trim p.1, unlines (p.1 :: p.2)) := by
      rw [← hparts]
      exact List.mem_map_of_mem hb
    obtain ⟨⟨first, body⟩, hp, heq⟩ := List.mem_map.mp hpart
    obtain ⟨hheader, htext⟩ := Prod.mk.inj heq
    have hmem : ∀ l ∈ first :: body, '\n' ∉ l :=
      fun l hl => not_mem_of_mem_lines (mem_of_mem_parts hp hl)
    obtain ⟨hfeed, hfeeds⟩ := List.forall_mem_cons.mp hmem
    have hhead := trim_headD_lines_unlines hfeed body
    rw [← htext]
    refine ⟨(isHeader_congr hhead).trans (isHeader_of_mem_parts hp), hhead.trans hheader,
      fun l hl => ?_⟩
    rw [tail_lines_unlines hfeed] at hl
    obtain ⟨k, hk, htrim⟩ := exists_of_mem_lines_unlines hfeeds hl
    rw [isHeader_congr htrim]
    exact not_isHeader_of_mem_parts hp hk

end Block

end VendorCli
