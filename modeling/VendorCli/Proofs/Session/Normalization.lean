import VendorCli.Proofs.Text.Tables
import VendorCli.Proofs.Text.Words
import VendorCli.Session.Basic
/-!
# Answers by words

A replay session looks a command up twice, as a whole and line by line, each time by its words. The
words of a text are those of its lines one after the other (`words_eq_flatMap_lines`), and a blank
line has none, so both look-ups see nothing but the words of the lines that are not blank
(`Replay.lineWords`). Commands that agree in these get the same answer (`Replay.answer_congr`), the
first line without an answer included.

Captured output can be given to a session at once or one command after the other, with the same
result (`Replay.foldl_withResponse`): each command has the last output that was captured for its
words (`Replay.response?_ofFixtures`), and is answered with it (`Replay.execute_of_response`).

What is sent changes the history of a session and nothing else (`Replay.execute_eq`), so in a run of
commands each one is answered as if it were the only one, and the history has all of them
(`Replay.executeAll_eq`).
-/

namespace VendorCli

open Text

/-! ### Words and lines -/

namespace Text

/-- A carriage return is a blank, and no part of a word. -/
theorem words_dropReturn (t : Text) : words (dropReturn t) = words t := by
  rw [← words_trim (dropReturn t), Template.trim_dropReturn, words_trim]

/-- The words of a text are those of its lines. -/
theorem words_eq_flatMap_lines (t : Text) : words t = (lines t).flatMap words := by
  -- line by line; a line feed is a blank, so no word goes on behind it
  induction t using line_induction with
  | last p hp =>
    by_cases hne : p = []
    · rw [hne, lines_nil, words_nil, List.flatMap_nil]
    · rw [lines_of_not_mem hp hne, List.flatMap_singleton]
  | line p t hp ih =>
    rw [words_append_cons isBlank_newline, lines_append_feed hp, List.flatMap_cons,
      words_dropReturn,
      ih]

/-- Joined words tell which words they are. -/
theorem unwords_words_inj {s t : Text} (h : unwords (words s) = unwords (words t)) :
    words s = words t := by
  have hwords := congrArg words h
  rwa [words_unwords fun _ => unbroken_of_mem_words,
    words_unwords fun _ => unbroken_of_mem_words] at hwords

end Text

/-- Commands have the same normalized form exactly if they have the same words. -/
theorem normalizeCommand_eq_iff {s t : Text} :
    normalizeCommand s = normalizeCommand t ↔ words s = words t :=
  ⟨unwords_words_inj, congrArg unwords⟩

namespace Replay

variable {r : Replay} {s t : Text}

/-- The words of each line of a command that is not blank. -/
def lineWords (command : Text) : List (List Text) :=
  (commandLines command).map words

/-- Blank lines have no words, so the other lines have all of them. -/
theorem words_eq_flatten_lineWords (command : Text) :
    words command = (lineWords command).flatten := by
  rw [words_eq_flatMap_lines, lineWords, commandLines, ← List.flatMap_def]
  -- on the lines of the command
  induction lines command with
  | nil => rfl
  | cons line rest ih =>
    rw [List.flatMap_cons, ih, List.filter_cons]
    split
    · rw [List.flatMap_cons]
    · next h =>
      have hblank : trim line = [] := by simpa using h
      rw [← words_trim line, hblank, words_nil, List.nil_append]

/-! ### Answers -/

/-- A look-up depends on the words alone. -/
theorem response?_congr (h : words s = words t) : r.response? s = r.response? t := by
  rw [response?, response?, normalizeCommand_eq_iff.mpr h]

/-- So does the answer to a line, and the failure for want of one. -/
theorem answerLine_congr (h : words s = words t) : r.answerLine s = r.answerLine t := by
  rw [answerLine, answerLine, response?_congr h, normalizeCommand_eq_iff.mpr h]

/-- Lines with the same words are answered alike, up to the first that is not answered. -/
theorem answerLines_congr {ls ms : List Text} (h : ls.map words = ms.map words) (output : Text) :
    r.answerLines ls output = r.answerLines ms output := by
  -- on the lines of both commands, which are as many
  induction ls generalizing ms output with
  | nil => rw [List.map_eq_nil_iff.mp h.symm]
  | cons l ls ih =>
    obtain ⟨m, ms, rfl, hm, hms⟩ := List.map_eq_cons_iff.mp h.symm
    rw [answerLines, answerLines, answerLine_congr hm]
    exact congrArg _ (funext fun answer => ih hms.symm _)

/-- **Only the words count.** Commands whose lines have the same words have the same answer. -/
theorem answer_congr (h : lineWords s = lineWords t) : r.answer s = r.answer t := by
  have hwhole : words s = words t := by
    rw [words_eq_flatten_lineWords, words_eq_flatten_lineWords, h]
  rw [answer, answer, response?_congr hwhole, answerLines_congr h]

/-! ### Captured output -/

/-- A response with the normalized form of its command. -/
def normalizedResponse (co : Text × Text) : Text × Text :=
  (normalizeCommand co.1, co.2)

/-- Responses that are added one after the other are put into the table one after the other. -/
theorem foldl_withResponse (responses : List (Text × Text)) (r : Replay) :
    responses.foldl (fun r co => r.withResponse co.1 co.2) r =
      { r with responses := insertAll (responses.map normalizedResponse) r.responses } := by
  induction responses generalizing r with
  | nil => rfl
  | cons co responses ih => exact ih (r.withResponse co.1 co.2)

/-- Among normalized responses, a command is looked up by its normalized form. -/
theorem lookup?_map_normalizedResponse (command : Text) (responses : List (Text × Text)) :
    lookup? (normalizeCommand command) (responses.map normalizedResponse)
      = (responses.find? fun co => normalizeCommand co.1 = normalizeCommand command).map (·.2) := by
  rw [lookup?, List.find?_map, Option.map_map]
  rfl

/-- **The last output counts** of all that was captured for a command. -/
theorem response?_ofFixtures (f : Fixtures) (command : Text) :
    (ofFixtures f).response? command = (f.responses.reverse.find? fun co =>
      normalizeCommand co.1 = normalizeCommand command).map (·.2) := by
  change lookup? _ (insertAll (f.responses.map normalizedResponse) []) = _
  rw [lookup?_insertAll, lookup?_nil, Option.or_none, ← List.map_reverse,
    lookup?_map_normalizedResponse]

/-! ### Runs -/

/-- The history has no influence on answers. -/
theorem answer_record (r : Replay) (sent : Text) : (r.record sent).answer = r.answer :=
  funext (Session.answer_record (.replay r) sent)

/-- **One command.** It is answered as if nothing had been sent before, and it is the last one of
the history. -/
theorem execute_eq (r : Replay) (command : Text) :
    r.execute command = (r.answer command, r.record command) := by
  change ((r.record command).answer command, r.record command) = _
  rw [answer_record]

/-- **A run of commands.** Each is answered as if it were the only one, and the history has them
all. -/
theorem executeAll_eq (commands : List Text) (r : Replay) :
    executeAll commands r
      = (commands.map r.answer, { r with history := r.history ++ commands }) := by
  -- on the commands, for every session: the one that is left differs in its history alone
  induction commands generalizing r with
  | nil => rw [executeAll, List.map_nil, List.append_nil]
  | cons command rest ih =>
    rw [executeAll, execute_eq]
    dsimp only
    rw [ih, answer_record, List.map_cons, record, List.append_assoc, List.singleton_append]

/-- A command that was captured as a whole has that output, whatever its lines are. -/
theorem execute_of_response {output : Text} (h : r.response? s = some output) :
    (r.execute s).1 = .ok output := by
  rw [execute_eq, answer, h]

/-- **Replay by words.** Captured output gives the same session at once and one command after the
other, in which each command has the last output that was captured for its words. In every session
a command that was captured is answered with that output; the answer to any command, or the failure,
depends on the words of its lines that are not blank, and on nothing that was sent before; and
whatever comes of it, the command is put at the end of the history as it is and nothing else
changes. -/
theorem replay_by_words (f : Fixtures) :
    ofFixtures f = f.responses.foldl (fun r co => r.withResponse co.1 co.2)
      (named (f.hostname.getD "replay")) ∧
    (∀ command, (ofFixtures f).response? command = (f.responses.reverse.find? fun co =>
      normalizeCommand co.1 = normalizeCommand command).map (·.2)) ∧
    ∀ r : Replay,
      (∀ s output, r.response? s = some output → (r.execute s).1 = .ok output) ∧
      (∀ s t, lineWords s = lineWords t → (r.execute s).1 = (r.execute t).1) ∧
      (∀ command, (r.execute command).2 = { r with history := r.history ++ [command] }) ∧
      ∀ commands, executeAll commands r =
        (commands.map fun command => (r.execute command).1,
          { r with history := r.history ++ commands }) := by
  refine ⟨?_, response?_ofFixtures f, fun r => ⟨fun s output => execute_of_response,
    fun s t h => ?_, fun command => ?_, fun commands => ?_⟩⟩
  · rw [foldl_withResponse]
    rfl
  · rw [execute_eq, execute_eq]
    exact answer_congr h
  · rw [execute_eq]
    rfl
  · rw [executeAll_eq]
    simp only [execute_eq]

/-- Of two outputs for the same words the later one is the answer, and two commands whose lines have
the same words fail alike. -/
theorem replay_by_words_respaced :
    let f : Fixtures := ⟨none, [("show  clock", "11:59"), ("show clock ", "12:00")]⟩
    let r := ofFixtures f
    r.response? " show clock" = some "12:00" ∧ (r.execute " show clock").1 = .ok "12:00" ∧
    lineWords "interface lo0\n\nshow  users" = lineWords " interface  lo0\nshow users" ∧
    (r.execute "interface lo0\n\nshow  users").1
      = (r.execute " interface  lo0\nshow users").1 := by
  intro f r
  have hclock : r.response? " show clock" = some "12:00" := by decide +kernel
  have hwords : lineWords "interface lo0\n\nshow  users"
      = lineWords " interface  lo0\nshow users" := by decide +kernel
  obtain ⟨-, -, hsession⟩ := replay_by_words f
  obtain ⟨hcaptured, hrespaced, -, -⟩ := hsession r
  exact ⟨hclock, hcaptured _ _ hclock, hwords, hrespaced _ _ hwords⟩

end Replay

end VendorCli
