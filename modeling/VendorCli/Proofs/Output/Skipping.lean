import VendorCli.Output.Spec
import VendorCli.Proofs.Output.Fields
import VendorCli.Proofs.Text.Lines
/-!
# Skipped lines

A specification can have the leading lines of an output ignored. Without a header, its record is
that of the text after those lines (`Text.afterLines`). With a header, the output is cut into blocks
first and the lines are ignored in each block, beginning with the header line of the block itself;
those before the first header are not counted (`Spec.apply_eq`).

So the text after the lines gives the same result only if no lines are ignored or no output has
blocks (`Spec.skipping_leads_iff`).
-/

namespace VendorCli

namespace Text

/-! ### Texts after some lines -/

/-- The text after its first line. -/
def afterLine (t : Text) : Text :=
  (t.dropWhile (· ≠ '\n')).tail

/-- The text after its first `n` lines, if it has so many. -/
def afterLines : Nat → Text → Text
  | 0, t => t
  | n + 1, t => afterLines n (afterLine t)

/-- Without a line feed, nothing comes after the first line. -/
theorem afterLine_of_not_mem {p : Text} (h : '\n' ∉ p) : afterLine p = [] := by
  have hdrop : p.dropWhile (· ≠ '\n') = [] := by
    rw [List.dropWhile_eq_nil_iff]
    intro c hc
    have hne : c ≠ '\n' := fun hfeed => h (hfeed ▸ hc)
    simpa using hne
  rw [afterLine, hdrop, List.tail_nil]

/-- After a line feed comes the text after the first line. -/
theorem afterLine_append_feed {p : Text} (h : '\n' ∉ p) (t : Text) :
    afterLine (p ++ '\n' :: t) = t := by
  have hdrop : (p ++ '\n' :: t).dropWhile (· ≠ '\n') = '\n' :: t := by
    rw [List.dropWhile_append_of_pos, List.dropWhile_cons_of_neg (by simp)]
    intro c hc
    have hne : c ≠ '\n' := fun hfeed => h (hfeed ▸ hc)
    simpa using hne
  rw [afterLine, hdrop, List.tail_cons]

theorem length_lines_le_one {p : Text} (h : '\n' ∉ p) : (lines p).length ≤ 1 := by
  by_cases hne : p = []
  · rw [hne, lines_nil]
    exact Nat.zero_le 1
  · rw [lines_of_not_mem h hne]
    exact Nat.le_refl 1

/-- The text after its first line has the other lines. -/
theorem lines_afterLine (t : Text) : lines (afterLine t) = (lines t).drop 1 := by
  by_cases h : '\n' ∈ t
  · obtain ⟨p, q, rfl, hp⟩ := exists_line h
    rw [afterLine_append_feed hp, lines_append_feed hp, List.drop_succ_cons, List.drop_zero]
  · rw [afterLine_of_not_mem h, lines_nil, List.drop_eq_nil_of_le (length_lines_le_one h)]

/-- **The lines of the text after `n` lines** are those of the text without the first `n`. -/
theorem lines_afterLines (n : Nat) (t : Text) : lines (afterLines n t) = (lines t).drop n := by
  induction n generalizing t with
  | zero => rfl
  | succ n ih => rw [afterLines, ih, lines_afterLine, List.drop_drop, Nat.add_comm]

end Text

open Text

namespace Block

/-! ### Blocks -/

variable {header : Regex} {output line : Text}

/-- The block with its text after `n` lines, of which the header line is the first. -/
def after (n : Nat) (b : Block) : Block :=
  { b with text := afterLines n b.text }

/-- There are no blocks if no line is a header. -/
theorem split_eq_nil (h : ∀ line ∈ lines output, isHeader header line = false) :
    split header output = [] := by
  rw [split]
  -- on the lines: each of them is passed over
  generalize lines output = ls at h ⊢
  induction ls with
  | nil => rfl
  | cons line ls ih =>
    rw [List.forall_mem_cons] at h
    have hline : header.captures? (trim line) = none := by
      rw [← Option.isNone_iff_eq_none, ← Option.isSome_eq_false_iff]
      exact h.1
    rw [ofLines, hline]
    exact ih h.2

/-- A header that is the only line opens the only block, which has no other line. -/
theorem split_of_isHeader (hfeed : '\n' ∉ line) (h : isHeader header line = true) :
    ∃ b : Block, split header (line ++ ['\n']) = [b] ∧
      ∀ n, Output.trimmedLines 0 (afterLines (n + 1) b.text) = [] := by
  rw [isHeader, Option.isSome_iff_exists] at h
  obtain ⟨caps, hcaps⟩ := h
  have hlines : lines (line ++ ['\n']) = [dropReturn line] := endedLines_of_not_mem hfeed
  refine ⟨⟨keyOf caps, trim line, dropReturn line⟩, ?_, fun n => ?_⟩
  · rw [split, hlines, ofLines, Template.trim_dropReturn, hcaps]
    rfl
  · have hone : '\n' ∉ dropReturn line := fun hmem => hfeed ((dropReturn_sublist line).subset hmem)
    have hlength : (lines (dropReturn line)).length ≤ n + 1 :=
      (length_lines_le_one hone).trans (Nat.le_add_left 1 n)
    rw [Output.trimmedLines, lines_afterLines, List.drop_zero, List.drop_eq_nil_of_le hlength,
      List.map_nil]

end Block

namespace Extractor

/-! ### Extractors -/

variable {e : Extractor} {n : Nat} {output : Text}

/-- Skipped lines are those that the text after them does not have. -/
theorem trimmedLines_eq (n : Nat) (output : Text) :
    Output.trimmedLines n output = Output.trimmedLines 0 (afterLines n output) := by
  rw [Output.trimmedLines, Output.trimmedLines, lines_afterLines, List.drop_zero]

/-- An extractor that skips lines is one that does not, on the text after them. -/
theorem record_skip (rules : List CompiledRule) (n : Nat) (output : Text) :
    (Extractor.mk rules n).record output = (Extractor.mk rules 0).record (afterLines n output) := by
  rw [record, record, trimmedLines_eq]

/-- With blocks, it is one that does not, on each block after as many lines. -/
theorem recordAll_skip (rules : List CompiledRule) (n : Nat) (blocks : List Block)
    (found : List (Text × Record)) : (Extractor.mk rules n).recordAll blocks found
      = (Extractor.mk rules 0).recordAll (blocks.map (Block.after n)) found := by
  induction blocks generalizing found with
  | nil => rfl
  | cons b blocks ih =>
    rw [List.map_cons, recordAll, recordAll, record_skip]
    exact bind_congr fun r => ih _

/-- An extractor skips as many lines as it was told. -/
theorem skip_of_ofRules {rules : List Rule} (h : ofRules rules n = .ok e) : e.skip = n := by
  rw [ofRules] at h
  cases hcompiled : compileAll rules with
  | error fault =>
    rw [hcompiled] at h
    cases h
  | ok compiled =>
    rw [hcompiled] at h
    cases h
    rfl

/-- Without lines there is a record, of fallbacks alone. -/
theorem exists_record_of_no_lines (h : Output.trimmedLines e.skip output = []) :
    ∃ r, e.record output = .ok r := by
  have hfault : e.rules.findSome? (CompiledRule.fault? · []) = none := by
    rw [List.findSome?_eq_none_iff]
    -- without lines there is no match, and without a match no text to refuse
    intro c _
    have hrelevant : c.relevant [] = [] := by
      rw [CompiledRule.relevant]
      split <;> rfl
    rw [CompiledRule.fault?, hrelevant]
    rfl
  rw [record_eq e output h, hfault]
  exact ⟨_, rfl⟩

end Extractor

namespace Spec

/-! ### Specifications -/

variable {s : Spec} {e : Extractor} {pattern : Text} {header : Regex}

/-- The records of blocks as a value. -/
def valueOfRecords (records : List (Text × Record)) : Json :=
  Json.ofFields (records.map fun kr => (kr.1, Json.ofFields kr.2))

/-- The specification that skips no lines. -/
def unskipped (s : Spec) : Spec :=
  { s with skipLines := 0 }

/-- Some output has blocks: the rules and the header can be read, and a line is a header. -/
def Splits (s : Spec) : Prop :=
  ∃ e pattern header, Extractor.ofRules s.rules 0 = .ok e ∧ s.blockHeader = some pattern ∧
    headerOf pattern = .ok header ∧ ∃ line, '\n' ∉ line ∧ Block.isHeader header line = true

/-- The value of an output whose lines are skipped before they are read: at the start of the output,
or at the start of each of its blocks. -/
def valueAfterSkipping (s : Spec) (output : Text) : Except Error Json := do
  let e ← Extractor.ofRules s.rules 0
  match s.blockHeader with
  | none => (e.record (afterLines s.skipLines output)).map Json.ofFields
  | some pattern =>
    let header ← headerOf pattern
    let records ← e.recordAll ((Block.split header output).map (Block.after s.skipLines)) []
    return valueOfRecords records

/-- **What a specification makes of an output**: the record of the text after the skipped lines, or
the records of the blocks of the whole text, each after as many lines of its own. -/
theorem apply_eq (s : Spec) (output : Text) : s.apply output = s.valueAfterSkipping output := by
  rw [apply, valueAfterSkipping, Extractor.ofRules, Extractor.ofRules]
  -- the number of skipped lines is no part of what can go wrong with the rules
  cases Extractor.compileAll s.rules with
  | error e => rfl
  | ok rules =>
    cases s.blockHeader with
    | none =>
      change (Extractor.mk rules s.skipLines).record output >>= _ = _
      rw [Extractor.record_skip]
      rfl
    | some pattern =>
      change headerOf pattern >>= _ = headerOf pattern >>= _
      refine bind_congr fun header => ?_
      change (Extractor.mk rules s.skipLines).recordAll _ _ >>= _ = _
      rw [Extractor.recordAll_skip]
      rfl

/-- With rules and a header that can be read, each block has its lines skipped. -/
theorem apply_by_block (he : Extractor.ofRules s.rules 0 = .ok e)
    (hpattern : s.blockHeader = some pattern) (hheader : headerOf pattern = .ok header)
    (output : Text) : s.apply output
      = (e.recordAll ((Block.split header output).map (Block.after s.skipLines)) []).map
          valueOfRecords := by
  rw [apply_eq, valueAfterSkipping, he, hpattern]
  change headerOf pattern >>= _ = _
  rw [hheader]
  rfl

/-- Without blocks, lines are skipped at the start of the output. -/
theorem apply_of_not_splits (h : ¬ s.Splits) (output : Text) :
    s.apply output = s.unskipped.apply (afterLines s.skipLines output) := by
  have hrules : s.unskipped.rules = s.rules := rfl
  have hblock : s.unskipped.blockHeader = s.blockHeader := rfl
  -- without blocks, malformed rules or a malformed header give the same fault on both sides
  cases he : Extractor.ofRules s.rules 0 with
  | error fault =>
    rw [apply_eq, apply_eq, valueAfterSkipping, valueAfterSkipping, hrules, he]
    rfl
  | ok e =>
    cases hpattern : s.blockHeader with
    | none =>
      rw [apply_eq, apply_eq, valueAfterSkipping, valueAfterSkipping, hrules, hblock, he, hpattern]
      rfl
    | some pattern =>
      cases hheader : headerOf pattern with
      | error fault =>
        rw [apply_eq, apply_eq, valueAfterSkipping, valueAfterSkipping, hrules, hblock, he,
          hpattern]
        change headerOf pattern >>= _ = headerOf pattern >>= _
        rw [hheader]
        rfl
      | ok header =>
        -- a line of some output would be a line that the header matches
        have hno : ∀ t : Text, Block.split header t = [] := by
          intro t
          refine Block.split_eq_nil fun line hline => Bool.eq_false_iff.mpr fun hline' => h ?_
          exact ⟨e, pattern, header, he, hpattern, hheader, line,
            not_mem_of_mem_lines hline, hline'⟩
        rw [apply_by_block he hpattern hheader, hno,
          apply_by_block (s := s.unskipped) he hpattern hheader, hno]
        rfl

/-- If some output has blocks, skipped lines are missing in each of them: a header alone makes a
block, although its line is skipped. -/
theorem exists_apply_ne (h : s.Splits) (hskip : s.skipLines ≠ 0) :
    ∃ output, s.apply output ≠ s.unskipped.apply (afterLines s.skipLines output) := by
  obtain ⟨e, pattern, header, he, hpattern, hheader, line, hfeed, hline⟩ := h
  obtain ⟨n, hn⟩ := Nat.exists_eq_succ_of_ne_zero hskip
  -- an output of the header alone, whose one block is empty once lines are skipped in it
  obtain ⟨b, hblocks, hempty⟩ := Block.split_of_isHeader hfeed hline
  obtain ⟨r, hr⟩ : ∃ r, e.record (afterLines (n + 1) b.text) = .ok r := by
    refine Extractor.exists_record_of_no_lines ?_
    rw [Extractor.skip_of_ofRules he]
    exact hempty n
  -- the header makes a block with a record of fallbacks; the text after it has no block at all
  have hwith : s.apply (line ++ ['\n']) = .ok (valueOfRecords [(b.key, r)]) := by
    rw [apply_by_block he hpattern hheader, hblocks, hn, List.map_singleton, Extractor.recordAll]
    change Except.map _ (e.record (afterLines (n + 1) b.text) >>= _) = _
    rw [hr]
    rfl
  have hwithout : s.unskipped.apply (afterLines s.skipLines (line ++ ['\n']))
      = .ok (valueOfRecords []) := by
    have hlines : lines (afterLines s.skipLines (line ++ ['\n'])) = [] := by
      rw [hn, lines_afterLines, show lines (line ++ ['\n']) = _ from endedLines_of_not_mem hfeed,
        List.drop_succ_cons, List.drop_nil]
    rw [apply_by_block (s := s.unskipped) he hpattern hheader, Block.split, hlines]
    rfl
  refine ⟨line ++ ['\n'], ?_⟩
  rw [hwith, hwithout]
  intro heq
  cases heq

/-- **Skipped lines.** What a specification makes of an output is the value of the output or of its
blocks after the skipped lines. It is the same as without skipping on the text after the skipped
lines, for every output, exactly if no lines are skipped or no output has blocks. -/
theorem skipping_leads_iff (s : Spec) :
    (∀ output, s.apply output = s.valueAfterSkipping output) ∧
      ((∀ output, s.apply output = s.unskipped.apply (afterLines s.skipLines output))
        ↔ s.skipLines = 0 ∨ ¬ s.Splits) := by
  refine ⟨s.apply_eq, ?_, ?_⟩
  · -- if the lines matter to some output, one of these shows it
    intro h
    by_contra hnot
    rw [not_or, not_not] at hnot
    obtain ⟨output, hne⟩ := exists_apply_ne hnot.2 hnot.1
    exact hne (h output)
  · rintro (hzero | hsplits) output
    · have hsame : s.unskipped = s := by rw [unskipped, ← hzero]
      rw [hsame, hzero]
      rfl
    · exact apply_of_not_splits hsplits output

/-- **A size is lost in its block**: with the command and an empty line skipped, the header and the
line below it are skipped as well, and the size in that line is not found. -/
theorem size_skipped_in_block :
    let s : Spec := ⟨2, some "^interface (\\S+)$", [.ofInteger "mtu" "mtu (\\d+)"]⟩
    let output : Text := "show running-config\n\ninterface Gi0/1\n mtu 9000\n"
    let hasSize (v : Json) : Bool := ((v.field? "Gi0/1").bind (Json.field? "mtu")).isSome
    afterLines s.skipLines output = "interface Gi0/1\n mtu 9000\n" ∧
      (s.apply output).map hasSize = .ok false ∧
      (s.unskipped.apply (afterLines s.skipLines output)).map hasSize = .ok true ∧
      s.apply output ≠ s.unskipped.apply (afterLines s.skipLines output) := by
  intro s output hasSize
  have hwith : (s.apply output).map hasSize = .ok false := by decide +kernel
  have hwithout : (s.unskipped.apply (afterLines s.skipLines output)).map hasSize = .ok true := by
    decide +kernel
  refine ⟨by decide +kernel, hwith, hwithout, fun heq => ?_⟩
  rw [heq, hwithout] at hwith
  cases hwith

end Spec

end VendorCli
