import VendorCli.Transcript
import VendorCli.Proofs.Section.Parents
/-!
# What cleaning leaves of a transcript

Cleaning takes the echo of the command off the front of a transcript, and blank lines and prompts
off its end. For any text this is told line by line (`exists_clean_eq`): the lines are the echo, if
the first one is an echo (`Echoes`), then the lines that are kept, and then the longest run of lines
at the end that are blank or prompts (`Trails`).

A transcript that is made of an echo behind a prompt, a body, blank lines and another prompt gives
back its body (`clean_recovers_body`), unless the body itself ends with a line that could be taken
for what follows it.
-/

namespace VendorCli.Transcript

open Text

/-! ### Prompts -/

/-- A text that can be a prompt: one word of two bytes or more, with `#` or `>` at its end. -/
structure Prompts (t : Text) : Prop where
  unbroken : ∀ c ∈ t, isBlank c = false
  long : 2 ≤ byteLength t
  closed : ['#'] <:+ t ∨ ['>'] <:+ t

/-- A line that is no part of an answer if nothing but such lines follows it. -/
def Trails (line : Text) : Prop :=
  trim line = [] ∨ Prompts (trim line)

/-- A line that ends with a command, blanks around both aside. -/
def Echoes (command line : Text) : Prop :=
  command ≠ [] ∧ trim command <:+ trim line

instance (command line : Text) : Decidable (Echoes command line) :=
  inferInstanceAs (Decidable (_ ∧ _))

/-- Before a character of one byte there is another one exactly if there is another byte. -/
theorem two_le_byteLength_iff {c : Char} (hc : c.utf8Size = 1) (t : Text) :
    2 ≤ byteLength (t ++ [c]) ↔ 1 < (t ++ [c]).length := by
  have hlast : byteLength [c] = 1 := hc
  rw [Section.byteLength_append, hlast, List.length_append, List.length_singleton]
  cases t with
  | nil => simp [byteLength]
  | cons d t =>
    have hd : 0 < d.utf8Size := Char.utf8Size_pos d
    rw [byteLength, List.length_cons]
    omega

/-- The test for a prompt, told by bytes. -/
theorem isPrompt_iff {t : Text} : isPrompt t = true ↔ Prompts t := by
  -- characters are counted here, which comes to the same as bytes with a sign at the end
  have hlong : ['#'] <:+ t ∨ ['>'] <:+ t → (1 < t.length ↔ 2 ≤ byteLength t) := by
    rintro (⟨s, rfl⟩ | ⟨s, rfl⟩)
    · exact (two_le_byteLength_iff rfl s).symm
    · exact (two_le_byteLength_iff rfl s).symm
  have hparts : isPrompt t = true ↔
      ((∀ c ∈ t, isBlank c = false) ∧ (['#'] <:+ t ∨ ['>'] <:+ t)) ∧ 1 < t.length := by
    simp [isPrompt, endsWith, List.isSuffixOf_iff_suffix]
  rw [hparts]
  constructor
  · rintro ⟨⟨hunbroken, hclosed⟩, hlength⟩
    exact ⟨hunbroken, (hlong hclosed).mp hlength, hclosed⟩
  · rintro ⟨hunbroken, hlength, hclosed⟩
    exact ⟨⟨hunbroken, hclosed⟩, (hlong hclosed).mpr hlength⟩

theorem isTrailer_iff {line : Text} : isTrailer line = true ↔ Trails line := by
  rw [isTrailer, Bool.or_eq_true, List.isEmpty_iff, isPrompt_iff, Trails]

instance (line : Text) : Decidable (Trails line) :=
  decidable_of_iff _ isTrailer_iff

/-! ### Lines that are dropped -/

/-- The first line is dropped if it is an echo. -/
theorem dropEcho_cons (command first : Text) (rest : List Text) :
    dropEcho command (first :: rest) = if Echoes command first then rest else first :: rest := by
  have hecho : (!command.isEmpty && endsWith (trim command) (trim first)) = true ↔
      Echoes command first := by
    simp [Echoes, endsWith, List.isSuffixOf_iff_suffix]
  rw [dropEcho]
  exact if_congr hecho rfl rfl

theorem dropTrailers_eq (ls : List Text) : dropTrailers ls = ls.rdropWhile isTrailer := rfl

/-- The last line that is kept does not trail. -/
theorem not_trails_of_getLast? {ls : List Text} {l : Text}
    (h : (dropTrailers ls).getLast? = some l) : ¬ Trails l := by
  rw [dropTrailers_eq] at h
  have hne : ls.rdropWhile isTrailer ≠ [] := by
    rintro hnil
    rw [hnil] at h
    cases h
  rw [List.getLast?_eq_some_getLast hne, Option.some.injEq] at h
  rw [← isTrailer_iff, ← h]
  exact List.rdropWhile_last_not isTrailer ls hne

/-- Lines that trail are dropped up to the last one that does not. -/
theorem dropTrailers_append {ls trailers : List Text} (htrailers : ∀ l ∈ trailers, Trails l)
    (hlast : ∀ l, ls.getLast? = some l → ¬ Trails l) : dropTrailers (ls ++ trailers) = ls := by
  rw [dropTrailers_eq]
  -- on the trailing lines, from the last one back
  induction trailers using List.reverseRecOn with
  | nil =>
    rw [List.append_nil, List.rdropWhile_eq_self_iff]
    intro hne
    rw [isTrailer_iff]
    exact hlast _ (List.getLast?_eq_some_getLast hne)
  | append_singleton trailers l ih =>
    rw [← List.append_assoc,
      List.rdropWhile_concat_pos _ _ _ (isTrailer_iff.mpr (htrailers l (by simp)))]
    exact ih fun k hk => htrailers k (by simp [hk])

/-- **Cleaning, line by line.** The lines of a transcript are the echo, the lines that are kept and
the longest run of lines at the end that trail. -/
theorem exists_clean_eq (command output : Text) :
    ∃ kept trailers, clean command output = unlines kept ∧
      lines output = (lines output).head?.toList.filter (Echoes command) ++ (kept ++ trailers) ∧
      (∀ l ∈ trailers, Trails l) ∧ ∀ l, kept.getLast? = some l → ¬ Trails l := by
  refine ⟨dropTrailers (dropEcho command (lines output)),
    (dropEcho command (lines output)).rtakeWhile isTrailer, rfl, ?_,
    fun l hl => isTrailer_iff.mp (List.mem_rtakeWhile_imp hl), fun l => not_trails_of_getLast?⟩
  rw [dropTrailers_eq, List.rdropWhile_append_rtakeWhile]
  -- the echo can only be the first line
  cases lines output with
  | nil => rfl
  | cons first rest =>
    rw [dropEcho_cons]
    by_cases h : Echoes command first <;> simp [h]

/-! ### Transcripts of a command -/

/-- **Exchanges.** A command on one line, with what a device sends for it: the command again, behind
what stands before it on that line, then the lines of the answer, blank lines, and a prompt. -/
structure Exchange where
  command : Text
  /-- What the command is typed behind. -/
  prompt : Text
  body : List Text
  blanks : List Text
  /-- What the next command is typed behind. -/
  next : Text
  command_feedless : '\n' ∉ command
  command_ne_blank : trim command ≠ []
  prompt_feedless : '\n' ∉ prompt
  body_lines : ∀ l ∈ body, '\n' ∉ l ∧ l.getLast? ≠ some '\r'
  body_last : ∀ l, body.getLast? = some l → ¬ Trails l
  blank_lines : ∀ l ∈ blanks, '\n' ∉ l ∧ trim l = []
  next_prompts : Prompts next

namespace Exchange

variable (x : Exchange)

/-- The transcript of the exchange. -/
def output : Text :=
  unlines ((x.prompt ++ x.command) :: (x.body ++ x.blanks) ++ [x.next])

/-- A prompt has no blank, so no line feed. -/
theorem next_feedless : '\n' ∉ x.next := fun h => by
  have hblank := x.next_prompts.unbroken '\n' h
  cases hblank

theorem next_trails : Trails x.next := by
  refine .inr ?_
  rw [trim_of_not_isBlank x.next_prompts.unbroken]
  exact x.next_prompts

theorem next_ne_nil : x.next ≠ [] := by
  intro h
  have hlong := x.next_prompts.long
  rw [h] at hlong
  exact absurd hlong (by decide)

/-- The lines of a transcript are those that it is made of. The body keeps every character, since
none of its lines has a carriage return to lose. -/
theorem lines_output : lines x.output
    = dropReturn (x.prompt ++ x.command) :: (x.body ++ (x.blanks.map dropReturn ++ [x.next])) := by
  -- the lines of the body are ended as they are
  have hkept : ∀ l ∈ x.body, endedLines l = [id l] := by
    intro l hl
    rw [endedLines_of_not_mem (x.body_lines l hl).1, dropReturn, if_neg (x.body_lines l hl).2, id]
  have hbody : x.body.flatMap endedLines = x.body := by
    rw [flatMap_eq_map hkept, List.map_id]
  have hblanks : x.blanks.flatMap endedLines = x.blanks.map dropReturn :=
    flatMap_eq_map fun l hl => endedLines_of_not_mem (x.blank_lines l hl).1
  have hfirst : '\n' ∉ x.prompt ++ x.command := by
    rw [List.mem_append, not_or]
    exact ⟨x.prompt_feedless, x.command_feedless⟩
  rw [output, lines_unlines_concat _ x.next_feedless x.next_ne_nil, List.flatMap_cons,
    List.flatMap_append, hbody, hblanks, endedLines_of_not_mem hfirst]
  simp

/-- The first line echoes the command. -/
theorem echoes : Echoes x.command (dropReturn (x.prompt ++ x.command)) := by
  refine ⟨?_, ?_⟩
  · rintro h
    exact x.command_ne_blank (by rw [h]; rfl)
  · rw [Template.trim_dropReturn]
    exact trim_isSuffix_trim_append x.prompt x.command

/-- Cleaning leaves the body of an exchange. -/
theorem clean_output : clean x.command x.output = unlines x.body := by
  have htrails : ∀ l ∈ x.blanks.map dropReturn ++ [x.next], Trails l := by
    intro l hl
    rcases List.mem_append.mp hl with hl | hl
    · obtain ⟨k, hk, rfl⟩ := List.mem_map.mp hl
      exact .inl ((Template.trim_dropReturn k).trans (x.blank_lines k hk).2)
    · exact List.mem_singleton.mp hl ▸ x.next_trails
  rw [clean, x.lines_output, dropEcho_cons, if_pos x.echoes,
    dropTrailers_append htrails x.body_last]

end Exchange

/-- **Cleaning.** Of an exchange, the body is left, with every character of its lines. Of any text,
its lines are left without the first one if that echoes the command, and then without the longest
run at the end of lines that are blank or prompts. -/
theorem clean_recovers_body :
    (∀ x : Exchange, clean x.command x.output = unlines x.body) ∧
    ∀ command output, ∃ kept trailers, clean command output = unlines kept ∧
      lines output = (lines output).head?.toList.filter (Echoes command) ++ (kept ++ trailers) ∧
      (∀ l ∈ trailers, Trails l) ∧ ∀ l, kept.getLast? = some l → ¬ Trails l :=
  ⟨Exchange.clean_output, exists_clean_eq⟩

/-- The answer of a router whose configuration has a blank line inside. -/
theorem clean_running_config :
    clean "show running-config"
      "R1#show running-config\n\ninterface Loopback0\n description edge>\n \n\nR1#"
      = "\ninterface Loopback0\n description edge>".toList :=
  clean_recovers_body.1
    { command := "show running-config"
      prompt := "R1#"
      body := [[], "interface Loopback0", " description edge>"]
      blanks := [" ", []]
      next := "R1#"
      command_feedless := by decide
      command_ne_blank := by decide
      prompt_feedless := by decide
      body_lines := by decide
      body_last := by
        rintro l hl
        cases hl
        decide
      blank_lines := by decide
      next_prompts := isPrompt_iff.mp (by decide) }

end VendorCli.Transcript
