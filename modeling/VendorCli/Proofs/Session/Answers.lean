import VendorCli.Dialect
import VendorCli.Proofs.Text.Lines
import VendorCli.Session.Replay
/-!
# The answers to the lines of a command

A replay session that has not captured a command as a whole answers it line by line, and a dialect
looks for error messages in what the answers make together. Putting answers together never joins a
line of one to a line of the other, so nothing is hidden and nothing is made up:

* `Dialect.Reports` says that a text has a line that reports an error, and `reports_appendAnswer`
  that a text made of two answers has one if one of the answers has;
* `Rejected` says what makes a line of a command fail, by its captured answer or by the want of one;
* a command is answered without an error message exactly if none of its lines is rejected
  (`answer_accepts_iff`).
-/

namespace VendorCli

/-! ### Error messages -/

namespace Dialect

/-- Whether a text has a line that reports an error: without the blanks around it, it starts with
one of the marks of the dialect. -/
def Reports (d : Dialect) (output : Text) : Prop :=
  ∃ l ∈ Text.lines output, ∃ mark ∈ d.errorMarks, mark <+: Text.trim l

instance (d : Dialect) (output : Text) : Decidable (d.Reports output) :=
  inferInstanceAs (Decidable (∃ l ∈ Text.lines output, ∃ mark ∈ d.errorMarks, mark <+: Text.trim l))

variable {d : Dialect}

/-- A line reports an error if it starts with a mark. -/
theorem isError_iff {line : Text} :
    d.isError line = true ↔ ∃ mark ∈ d.errorMarks, mark <+: line := by
  simp [isError, Text.startsWith]

/-- No message is found where no line reports an error. -/
theorem detectError?_eq_none_iff {output : Text} :
    d.detectError? output = none ↔ ¬ d.Reports output := by
  rw [detectError?, List.find?_eq_none, List.forall_mem_map, Reports]
  simp only [isError_iff, not_exists, not_and]

/-- A dialect in which an error message has some text. -/
def MarksText (d : Dialect) : Prop :=
  [] ∉ d.errorMarks

/-- No mark of a platform is empty. -/
theorem marksText_dialect (p : Platform) : p.dialect.MarksText := by
  unfold MarksText
  cases p <;> decide

section Reports

variable {p t : Text}

theorem reports_nil : ¬ d.Reports [] := by
  simp [Reports]

theorem reports_singleton {output l : Text} (h : Text.lines output = [l]) :
    d.Reports output ↔ ∃ mark ∈ d.errorMarks, mark <+: Text.trim l := by
  simp [Reports, h]

/-- Up to a line feed, a text reports what its first line does. -/
theorem reports_append_feed (hp : '\n' ∉ p) :
    d.Reports (p ++ '\n' :: t) ↔ (∃ mark ∈ d.errorMarks, mark <+: Text.trim p) ∨ d.Reports t := by
  rw [Reports, Text.lines_append_feed hp, List.exists_mem_cons_iff, Template.trim_dropReturn,
    Reports]

/-- A line feed at the end of a text adds no error message to it. -/
theorem reports_feed (hd : d.MarksText) (t : Text) : d.Reports (t ++ ['\n']) ↔ d.Reports t := by
  -- line by line; only the last one is changed by the line feed
  induction t using Text.line_induction with
  | last p hp =>
    rw [reports_append_feed hp, or_iff_left reports_nil]
    by_cases hne : p = []
    · -- the line is empty, and no mark is
      subst hne
      refine iff_of_false ?_ reports_nil
      rintro ⟨mark, hmark, hstart⟩
      rw [show Text.trim [] = [] from rfl, List.prefix_nil] at hstart
      exact hd (hstart ▸ hmark)
    · exact (reports_singleton (Text.lines_of_not_mem hp hne)).symm
  | line p t hp ih =>
    rw [List.append_assoc, List.cons_append, reports_append_feed hp, reports_append_feed hp, ih]

/-- Lines that are ended report what they report alone, before whatever text. -/
theorem reports_append_cons (hd : d.MarksText) (s t : Text) :
    d.Reports (s ++ '\n' :: t) ↔ d.Reports s ∨ d.Reports t := by
  rw [← reports_feed hd s, Reports, Text.lines_append_cons]
  simp only [List.mem_append, or_and_right, exists_or, Reports]

end Reports

end Dialect

/-! ### Answers put together -/

namespace Replay

open Dialect

/-- **Answers put together** report an error exactly if one of them does. -/
theorem reports_appendAnswer {d : Dialect} (hd : d.MarksText) (output answer : Text) :
    d.Reports (appendAnswer output answer) ↔ d.Reports output ∨ d.Reports answer := by
  unfold appendAnswer
  split
  · -- nothing has been answered yet
    next h =>
    rw [List.isEmpty_iff.mp h, or_iff_left reports_nil]
  · -- the texts are put together as they are, or with a line feed between them
    split
    · next h =>
      rw [Bool.or_eq_true] at h
      rcases h with h | h
      · rw [List.isEmpty_iff.mp h, List.nil_append, or_iff_right reports_nil]
      · -- the line feed that the output ends with stands between the two
        obtain ⟨s, rfl⟩ := List.isSuffixOf_iff_suffix.mp h
        rw [List.append_assoc, List.singleton_append, reports_append_cons hd, reports_feed hd]
    · exact reports_append_cons hd output answer

/-! ### Lines -/

/-- Whether a command with one space between its words reads the state of a device. -/
def Reads (command : Text) : Prop :=
  "show ".toList <+: command ∨ "display ".toList <+: command ∨ " | ".toList <:+: command

instance (command : Text) : Decidable (Reads command) :=
  inferInstanceAs (Decidable (_ ∨ _ ∨ _))

/-- A piece occurs in a text if it is an infix of it. -/
theorem occursIn_iff {piece t : Text} : Text.occursIn piece t = true ↔ piece <:+: t := by
  induction t with
  | nil => simp [Text.occursIn, List.infix_nil]
  | cons c t ih =>
    rw [Text.occursIn, Bool.or_eq_true, ih, List.infix_cons_iff, Text.startsWith,
      List.isPrefixOf_iff_prefix]

/-- The test of a command for reading the state of a device. -/
theorem isRead_iff {command : Text} : isRead command = true ↔ Reads command := by
  rw [isRead, Bool.or_eq_true, Bool.or_eq_true, occursIn_iff, Text.startsWith, Text.startsWith,
    List.isPrefixOf_iff_prefix, List.isPrefixOf_iff_prefix, or_assoc, Reads]

/-- A line that was not captured and reads the state of a device. -/
def Unknown (r : Replay) (line : Text) : Prop :=
  r.response? line = none ∧ Reads (normalizeCommand line)

instance (r : Replay) (line : Text) : Decidable (r.Unknown line) :=
  inferInstanceAs (Decidable (_ ∧ _))

/-- **A rejected line** has a captured answer that reports an error, or none where it needs one. -/
def Rejected (d : Dialect) (r : Replay) (line : Text) : Prop :=
  (∃ output, r.response? line = some output ∧ d.Reports output) ∨ r.Unknown line

instance (d : Dialect) (r : Replay) (line : Text) : Decidable (Rejected d r line) :=
  inferInstanceAs (Decidable ((∃ output ∈ r.response? line, d.Reports output) ∨ r.Unknown line))

variable {r : Replay} {d : Dialect}

/-- An unknown line is not answered. -/
theorem answerLine_of_unknown {line : Text} (h : r.Unknown line) :
    r.answerLine line = .error (.unknownCommand (normalizeCommand line)) := by
  rw [answerLine, h.1]
  exact if_pos (isRead_iff.mpr h.2)

/-- A line that is neither captured nor unknown is accepted without a word. -/
theorem answerLine_of_known {line : Text} (h : ¬ r.Unknown line) :
    r.answerLine line = .ok ((r.response? line).getD []) := by
  unfold answerLine
  cases hresponse : r.response? line with
  | some output => rfl
  | none => exact if_neg fun hread => h ⟨hresponse, isRead_iff.mp hread⟩

theorem reports_getD {o : Option Text} :
    d.Reports (o.getD []) ↔ ∃ output, o = some output ∧ d.Reports output := by
  cases o <;> simp [reports_nil]

/-- The answers to some lines fail at the first unknown one. -/
theorem answerLines_of_unknown {ls : List Text} (h : ∃ l ∈ ls, r.Unknown l) (output : Text) :
    ∃ e, r.answerLines ls output = .error e := by
  -- on the lines; one that is not unknown is answered, whatever was answered before
  induction ls generalizing output with
  | nil =>
    obtain ⟨l, hl, -⟩ := h
    cases hl
  | cons line rest ih =>
    rw [answerLines]
    by_cases hline : r.Unknown line
    · rw [answerLine_of_unknown hline]
      exact ⟨_, rfl⟩
    · have hrest : ∃ l ∈ rest, r.Unknown l := by
        simpa [hline] using h
      rw [answerLine_of_known hline]
      exact ih hrest _

/-- Where no line is unknown, the answers report an error if what stands before them does or the
captured answer to one of the lines. -/
theorem exists_answerLines (hd : d.MarksText) {ls : List Text} (h : ∀ l ∈ ls, ¬ r.Unknown l)
    (output : Text) :
    ∃ answer, r.answerLines ls output = .ok answer ∧
      (d.Reports answer ↔ d.Reports output ∨
        ∃ l ∈ ls, ∃ captured, r.response? l = some captured ∧ d.Reports captured) := by
  -- on the lines, with what was answered before in front
  induction ls generalizing output with
  | nil => exact ⟨output, rfl, by simp⟩
  | cons line rest ih =>
    rw [List.forall_mem_cons] at h
    obtain ⟨answer, hanswer, hreports⟩ :=
      ih h.2 (appendAnswer output ((r.response? line).getD []))
    refine ⟨answer, ?_, ?_⟩
    · rw [answerLines, answerLine_of_known h.1]
      exact hanswer
    · rw [hreports, reports_appendAnswer hd, reports_getD, or_assoc, List.exists_mem_cons_iff]

/-- **Accepted commands.** A command that was not captured as a whole is answered without an error
message exactly if none of its lines is rejected. -/
theorem answer_accepts_iff (hd : d.MarksText) {command : Text} (h : r.response? command = none) :
    (∃ output, r.answer command = .ok output ∧ ¬ d.Reports output) ↔
      ∀ line ∈ commandLines command, ¬ Rejected d r line := by
  rw [answer, h]
  dsimp only
  by_cases hunknown : ∃ l ∈ commandLines command, r.Unknown l
  · -- some line has no answer, so neither has the command
    obtain ⟨e, he⟩ := answerLines_of_unknown hunknown []
    rw [he]
    refine iff_of_false ?_ ?_
    · rintro ⟨output, houtput, -⟩
      cases houtput
    · intro hall
      obtain ⟨l, hl, hl'⟩ := hunknown
      exact hall l hl (.inr hl')
  · -- all lines have answers, and what they report is what their captured answers do
    have hknown : ∀ l ∈ commandLines command, ¬ r.Unknown l := fun l hl hl' => hunknown ⟨l, hl, hl'⟩
    obtain ⟨answer, hanswer, hreports⟩ := exists_answerLines hd hknown []
    rw [hanswer]
    constructor
    · rintro ⟨output, houtput, hclean⟩ l hl (hl' | hl')
      · cases houtput
        exact hclean (hreports.mpr (.inr ⟨l, hl, hl'⟩))
      · exact hknown l hl hl'
    · intro hall
      refine ⟨answer, rfl, fun hdirty => ?_⟩
      rcases hreports.mp hdirty with hnil | ⟨l, hl, hl'⟩
      · exact reports_nil hnil
      · exact hall l hl (.inl hl')

end Replay

end VendorCli
