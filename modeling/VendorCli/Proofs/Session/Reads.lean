import VendorCli.Proofs.Device.Rejections
import VendorCli.Proofs.Text.Words
/-!
# Lines that ask for the state of a device

A replay session without captured output has to tell by its text whether a line reads the state of
the device or changes it. What counts are the words of the line: it asks for the state if it begins
with `show` or `display` and goes on, or if it has a bar between other words
(`Replay.reads_normalizeCommand_iff`).

A block is answered by such a session unless one of its lines asks for the state
(`Replay.answer_named`), and a device takes it unless one does (`Device.applied_named`). Nothing is
said about where in a block the line stands, so a line with a text that a user has chosen can be
taken for one that asks.
-/

namespace VendorCli

open Text

namespace Replay

/-- Whether a line asks for the state of a device, by its words. -/
def Asks (line : Text) : Prop :=
  (∃ w v rest, (w = "show".toList ∨ w = "display".toList) ∧ words line = w :: v :: rest) ∨
    ∃ before after, before ≠ [] ∧ after ≠ [] ∧ words line = before ++ "|".toList :: after

section Words

variable {line : Text}

/-- A command that goes on after a word begins with that word and has another one. -/
theorem exists_words_of_lead {w : Text} (hw : Unbroken w)
    (h : w ++ [' '] <+: normalizeCommand line) : ∃ v rest, words line = w :: v :: rest := by
  obtain ⟨t, ht⟩ := h
  rw [List.append_assoc, List.singleton_append] at ht
  obtain ⟨hsplit, -, hrest⟩ := eq_of_unwords_eq (fun _ => unbroken_of_mem_words) ht.symm
  obtain ⟨v, rest, hcons⟩ := List.exists_cons_of_ne_nil hrest
  refine ⟨v, rest, ?_⟩
  rw [hsplit, hcons, words_of_not_isBlank hw.1 hw.2, List.singleton_append]

/-- A bar between spaces is a word between other words. -/
theorem exists_words_of_bar {s t : Text} (h : normalizeCommand line = s ++ " | " ++ t) :
    ∃ before after, before ≠ [] ∧ after ≠ [] ∧ words line = before ++ "|".toList :: after := by
  have hwords : ∀ w ∈ words line, Unbroken w := fun _ => unbroken_of_mem_words
  -- both of the spaces around the bar stand between two words
  have hfirst : unwords (words line) = s ++ ' ' :: ('|' :: ' ' :: t) := h.trans (by simp)
  have hsecond : unwords (words line) = (s ++ [' ', '|']) ++ ' ' :: t := h.trans (by simp)
  obtain ⟨hsplit, hs, -⟩ := eq_of_unwords_eq hwords hfirst
  obtain ⟨-, -, ht⟩ := eq_of_unwords_eq hwords hsecond
  refine ⟨words s, words t, hs, ht, ?_⟩
  have hbar : words ('|' :: ' ' :: t) = ['|'] :: words t :=
    words_append_blank (List.cons_ne_nil '|' []) (List.forall_mem_singleton.mpr rfl)
      isBlank_space t
  rw [hsplit, hbar]
  rfl

/-- **What counts are the words.** The test on the text of a command holds exactly if its words ask
for the state. -/
theorem reads_normalizeCommand_iff : Reads (normalizeCommand line) ↔ Asks line := by
  rw [Reads, Asks]
  constructor
  · rintro (h | h | ⟨s, t, h⟩)
    · -- the word `show` with a space after it
      obtain ⟨v, rest, hcons⟩ := exists_words_of_lead (w := "show") (by decide) h
      exact .inl ⟨_, v, rest, .inl rfl, hcons⟩
    · obtain ⟨v, rest, hcons⟩ := exists_words_of_lead (w := "display") (by decide) h
      exact .inl ⟨_, v, rest, .inr rfl, hcons⟩
    · -- a bar with spaces around it
      exact .inr (exists_words_of_bar h.symm)
  · rw [normalizeCommand]
    rintro (⟨w, v, rest, hw, h⟩ | ⟨before, after, hbefore, hafter, h⟩)
    · have hlead : w ++ [' '] <+: unwords (words line) :=
        ⟨unwords (v :: rest), by rw [h, unwords_cons_cons]; simp⟩
      rcases hw with rfl | rfl
      · exact .inl hlead
      · exact .inr (.inl hlead)
    -- what stands before and after the bar has a word each, so it has a space on either side
    · obtain ⟨w, after, rfl⟩ := List.exists_cons_of_ne_nil hafter
      refine .inr (.inr ⟨unwords before, unwords (w :: after), ?_⟩)
      rw [h, unwords_append hbefore (List.cons_ne_nil _ _), unwords_cons_cons]
      simp

end Words

instance (line : Text) : Decidable (Asks line) :=
  decidable_of_iff _ reads_normalizeCommand_iff

/-- The test of a session is the question for the words. -/
theorem isRead_normalizeCommand (line : Text) :
    isRead (normalizeCommand line) = decide (Asks line) := by
  rw [Bool.eq_iff_iff, isRead_iff, reads_normalizeCommand_iff, decide_eq_true_iff]

/-- A line asks for nothing if no word of it is a bar and the first one neither `show` nor
`display`. -/
theorem not_asks {line : Text} (hbar : ['|'] ∉ words line)
    (hhead : ∀ w ∈ (words line).head?, w ≠ "show".toList ∧ w ≠ "display".toList) : ¬ Asks line := by
  rintro (⟨w, v, rest, hw, h⟩ | ⟨before, after, -, -, h⟩)
  · obtain ⟨hshow, hdisplay⟩ := hhead w (by rw [h]; rfl)
    exact hw.elim hshow hdisplay
  · exact hbar (by simp [h])

theorem not_asks_of_blank {line : Text} (h : trim line = []) : ¬ Asks line := by
  have hwords : words line = [] := by rw [← words_trim, h, words_nil]
  exact not_asks (by simp [hwords]) (by simp [hwords])

/-! ### Sessions without captured output -/

/-- A line that asks is not answered, any other with nothing. -/
theorem answerLine_named (identifier line : Text) :
    (named identifier).answerLine line
      = if Asks line then .error (.unknownCommand (normalizeCommand line)) else .ok [] := by
  change (if isRead (normalizeCommand line) then _ else _) = _
  rw [isRead_normalizeCommand]
  simp only [decide_eq_true_eq]

/-- Of several lines, the first that asks decides. -/
theorem answerLines_named (identifier : Text) (ls : List Text) (output : Text) :
    (named identifier).answerLines ls output =
      match ls.find? fun line => Asks line with
      | some line => .error (.unknownCommand (normalizeCommand line))
      | none => .ok output := by
  -- on the lines; answers of nothing leave what was answered before as it is
  induction ls with
  | nil => rfl
  | cons line rest ih =>
    rw [answerLines, answerLine_named, List.find?_cons]
    by_cases h : Asks line
    · rw [if_pos h, decide_eq_true h]
      rfl
    · rw [if_neg h, decide_eq_false h]
      exact ih

/-- **Without captured output** a command is answered with nothing, unless a line of it asks for the
state of the device: then there is no answer, and the failure names the first such line. -/
theorem answer_named (identifier command : Text) :
    (named identifier).answer command =
      match (Text.lines command).find? fun line => Asks line with
      | some line => .error (.unknownCommand (normalizeCommand line))
      | none => .ok [] := by
  have hfind : (commandLines command).find? (fun line => Asks line)
      = (Text.lines command).find? fun line => Asks line := by
    rw [commandLines, List.find?_filter]
    refine congrArg (List.find? · _) (funext fun line => ?_)
    by_cases h : trim line = []
    · -- blank lines are passed over, and ask for nothing
      simp [not_asks_of_blank h]
    · simp [h]
  change (named identifier).answerLines (commandLines command) [] = _
  rw [answerLines_named, hfind]

end Replay

/-! ### Devices -/

namespace Device

/-- A block is taken over such a session unless a line of it asks for the state of the device. -/
theorem applied_named (identifier : Text) (p : Platform) (hostname path : Text)
    (lines : List Text) :
    let d : Device := ⟨.replay (.named identifier), p, hostname⟩
    d.applied path lines =
      match (Text.lines (d.blockOf lines)).find? fun line => Replay.Asks line with
      | some line => .error (.writeFailed path (d.blockOf lines)
          (SessionError.unknownCommand (normalizeCommand line)).message)
      | none => .ok [] := by
  intro d
  have hanswer : d.answer (d.blockOf lines) = (Replay.named identifier).answer (d.blockOf lines) :=
    rfl
  rw [applied, hanswer, Replay.answer_named]
  cases (Text.lines (d.blockOf lines)).find? fun line => Replay.Asks line with
  | some line => rfl
  | none =>
    have hquiet : d.detectError? [] = none := by
      rw [detectError?, Dialect.detectError?_eq_none_iff]
      exact Dialect.reports_nil
    simp only [hquiet]

end Device

end VendorCli
