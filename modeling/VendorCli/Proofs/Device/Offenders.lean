import VendorCli.Proofs.Registry.Outcomes
/-!
# The line that a device is said to have rejected

A device that echoes what it is sent answers a rejected line with the line behind a prompt and an
error message on the next line (`RejectsAfter`). The line that is then reported is found by its end:
it is the first line of the block that the last echo before the message ends with.

* The first error message is the one that was looked at, and no echo before it is taken for it
  (`exists_message_of_rejectsAfter`).
* Blanks before a prompt do not matter (`suffix_trim_iff`), so the search among the lines is for one
  that the last echo ends with (`offendingLine?_eq`).
* Such a line is always found, but it is the rejected one only if no line before that in the block
  is an end of the echo as well (`rejected_line_named_iff`). `shutdown` is one of `no shutdown`, so
  it is blamed for it (`shutdown_named_for_negation`).
-/

namespace VendorCli

open Text

/-! ### Ends of a text -/

namespace Text

/-- A text that does not begin with a blank ends where the blanks before the other text do. -/
theorem suffix_blank_append_iff {b s l : Text} (hb : ∀ c ∈ b, isBlank c = true)
    (hl : ∀ c, l.head? = some c → isBlank c = false) : l <:+ b ++ s ↔ l <:+ s := by
  -- on the blanks in front: no end of the text that is longer than the rest begins with one of them
  induction b with
  | nil => rfl
  | cons c b ih =>
    have hne : l ≠ c :: (b ++ s) := by
      rintro rfl
      have hblank : isBlank c = true := hb c List.mem_cons_self
      rw [hl c rfl] at hblank
      cases hblank
    rw [List.cons_append, List.suffix_cons_iff, or_iff_right hne]
    exact ih fun d hd => hb d (List.mem_cons_of_mem _ hd)

/-- Only blanks stand before a trimmed text, if the text does not end with one. -/
theorem exists_append_trim {s l : Text} (hl : Neat l) (h : l <:+ s) :
    ∃ b, (∀ c ∈ b, isBlank c = true) ∧ s = b ++ trim s := by
  obtain ⟨p, rfl⟩ := h
  obtain ⟨t, c, rfl⟩ := (List.eq_nil_or_concat' l).resolve_left hl.ne_nil
  have hc : isBlank c = false := by
    apply not_isBlank_of_getLast?_trim (t := t ++ [c])
    rw [hl.trim_eq, List.getLast?_concat]
  -- the text ends with that character, so trimming takes blanks off the front alone
  refine ⟨(p ++ t).takeWhile isBlank, fun d hd => List.mem_takeWhile_imp hd, ?_⟩
  rw [← List.append_assoc, trim_append_singleton hc, ← List.append_assoc]
  exact congrArg (· ++ [c]) List.takeWhile_append_dropWhile.symm

/-- Neat lines are ends of a text exactly if they are ends of it without the blanks around it, if
any neat line is. -/
theorem suffix_trim_iff {s l line : Text} (hl : Neat l) (hline : Neat line) (h : line <:+ s) :
    l <:+ trim s ↔ l <:+ s := by
  obtain ⟨b, hblank, hs⟩ := exists_append_trim hline h
  -- what is searched for begins with no blank, so the blanks in front do not decide
  have hhead : ∀ c, l.head? = some c → isBlank c = false := by
    intro c hc
    rw [← hl.trim_eq] at hc
    exact not_isBlank_of_head?_trim hc
  calc l <:+ trim s ↔ l <:+ b ++ trim s := (suffix_blank_append_iff hblank hhead).symm
    _ ↔ l <:+ s := by rw [← hs]

end Text

/-! ### Answers that reject a line -/

/-- An answer whose first error message comes right after the echo of a line behind a prompt. -/
def Dialect.RejectsAfter (d : Dialect) (output prompt line : Text) : Prop :=
  ∃ above message below, Text.lines output = above ++ (prompt ++ line) :: message :: below ∧
    (∀ l ∈ above ++ [prompt ++ line], d.isError (trim l) = false) ∧ d.isError (trim message) = true

namespace Device

variable {d : Device} {lines : List Text} {output prompt line : Text}

/-- The message that is found, and the echoes that are looked through for it. -/
theorem exists_message_of_rejectsAfter
    (h : d.platform.dialect.RejectsAfter output prompt line) :
    ∃ message above, d.detectError? output = some message ∧
      ((Text.lines output).map trim).takeWhile (fun l => l ≠ message)
        = above ++ [trim (prompt ++ line)] := by
  obtain ⟨above, message, below, hlines, hquiet, hmessage⟩ := h
  -- the answer, trimmed: the echoes, the message, and what follows it
  have hcut : (Text.lines output).map trim
      = (above ++ [prompt ++ line]).map trim ++ trim message :: below.map trim := by
    rw [hlines]
    simp
  refine ⟨trim message, above.map trim, ?_, ?_⟩
  · -- nothing before the message reports an error, so it is the first that does
    unfold detectError? Dialect.detectError?
    rw [hcut]
    refine List.find?_eq_some_iff_append.mpr ⟨hmessage, _, _, rfl, fun l hl => ?_⟩
    obtain ⟨k, hk, rfl⟩ := List.mem_map.mp hl
    rw [hquiet k hk]
    rfl
  · -- no line before the message reports an error, so none of them is the message
    have hother : ∀ l ∈ (above ++ [prompt ++ line]).map trim, decide (l ≠ trim message) = true := by
      intro l hl
      obtain ⟨k, hk, rfl⟩ := List.mem_map.mp hl
      rw [decide_eq_true_eq]
      intro heq
      rw [← heq, hquiet k hk] at hmessage
      cases hmessage
    rw [hcut, List.takeWhile_append_of_pos hother, List.takeWhile_cons_of_neg (by simp),
      List.append_nil, List.map_append, List.map_singleton]

theorem endsWith_append (prompt line : Text) : endsWith line (prompt ++ line) = true :=
  List.isSuffixOf_iff_suffix.mpr (List.suffix_append prompt line)

/-- Some line of the block is an end of the echo, if only the rejected one. -/
theorem exists_offender (hline : line ∈ lines) (prompt : Text) :
    ∃ command, lines.find? (fun l => endsWith l (prompt ++ line)) = some command :=
  Option.isSome_iff_exists.mp (List.find?_isSome.mpr ⟨line, hline, endsWith_append prompt line⟩)

/-- The line that is blamed is the first one that the echo of the rejected line ends with. -/
theorem offendingLine?_eq (hlines : ∀ l ∈ lines, Neat l) (hline : line ∈ lines) {above : List Text}
    {message : Text} (hechoes : ((Text.lines output).map trim).takeWhile (fun l => l ≠ message)
      = above ++ [trim (prompt ++ line)]) :
    offendingLine? lines output message = lines.find? fun l => endsWith l (prompt ++ line) := by
  have hend : line <:+ prompt ++ line := List.suffix_append prompt line
  have hsame : lines.find? (fun l => endsWith l (trim (prompt ++ line)))
      = lines.find? fun l => endsWith l (prompt ++ line) := by
    rw [← List.head?_filter, ← List.head?_filter]
    refine congrArg List.head? (List.filter_congr fun l hl => ?_)
    unfold endsWith
    rw [Bool.eq_iff_iff, List.isSuffixOf_iff_suffix, List.isSuffixOf_iff_suffix]
    exact suffix_trim_iff (hlines l hl) (hlines line hline) hend
  -- the last echo has a line at its end, so no echo before it is looked at
  obtain ⟨command, hcommand⟩ := exists_offender hline prompt
  unfold offendingLine?
  dsimp only
  rw [hechoes, List.reverse_append, List.reverse_singleton, List.singleton_append,
    List.findSome?_cons, hsame, hcommand]

/-- What is found first among lines is a certain one of them if none before it qualifies. -/
theorem find?_eq_some_iff_takeWhile {p : Text → Bool} (hline : line ∈ lines) (hp : p line = true) :
    lines.find? p = some line ↔ ∀ l ∈ lines.takeWhile (fun l => l ≠ line), p l = false := by
  -- on the lines: the search stops at the first copy of the line if not before
  induction lines with
  | nil => cases hline
  | cons l ls ih =>
    by_cases hl : l = line
    · subst hl
      rw [List.find?_cons_of_pos hp, List.takeWhile_cons_of_neg (by simp)]
      simp
    · have hrest : line ∈ ls := (List.mem_cons.mp hline).resolve_left (Ne.symm hl)
      rw [List.takeWhile_cons_of_pos (by simp [hl]), List.forall_mem_cons]
      cases hpl : p l with
      | true => simp [hpl, hl]
      | false => simp [hpl, ih hrest]

/-- Neat lines are sent as they are. -/
theorem effectiveLines_of_neat (h : ∀ l ∈ lines, Neat l) : effectiveLines lines = lines := by
  have htrim : lines.map trim = lines :=
    (List.map_congr_left fun l hl => (h l hl).trim_eq).trans (List.map_id' lines)
  unfold effectiveLines
  rw [htrim, List.filter_eq_self]
  exact fun l hl => decide_eq_true (h l hl).ne_nil

/-- An answer that reports an error makes a failure with the line that is blamed. -/
theorem applied_of_detectError? {path message : Text}
    (hanswer : d.answer (d.blockOf lines) = .ok output)
    (hmessage : d.detectError? output = some message) : d.applied path lines
      = .error (.writeFailed path ((offendingLine? lines output message).getD (d.blockOf lines))
          (trim output)) := by
  unfold applied
  simp only [hanswer, hmessage]

/-- **Naming the rejected line.** If a device rejects a line right after its echo, the failure names
the first line of the block that the echo ends with. That is the rejected line exactly if no line
before it in the block is an end of the echo. -/
theorem rejected_line_named_iff (d : Device) (path : ConfigPath) {lines : List Text}
    {c : WriteContext} {output prompt line : Text} (hlines : ∀ l ∈ lines, Neat l)
    (hline : line ∈ lines) (hc : c.checkMode = false)
    (hanswer : d.answer (d.blockOf lines) = .ok output)
    (hrejects : d.platform.dialect.RejectsAfter output prompt line) :
    ∃ command,
      (d.apply path lines c).1 = .error (.writeFailed path.toText command (trim output)) ∧
      lines.find? (fun l => endsWith l (prompt ++ line)) = some command ∧
      (command = line ↔ ∀ l ∈ lines.takeWhile (fun l => l ≠ line), ¬ l <:+ prompt ++ line) := by
  obtain ⟨message, above, hmessage, hechoes⟩ := exists_message_of_rejectsAfter hrejects
  obtain ⟨command, hcommand⟩ := exists_offender hline prompt
  refine ⟨command, ?_, hcommand, ?_⟩
  · -- the line itself is sent, so the block is not empty and is answered
    have hsent : effectiveLines lines ≠ [] := by
      rw [effectiveLines_of_neat hlines]
      exact List.ne_nil_of_mem hline
    rw [d.apply_of_send path hsent hc, effectiveLines_of_neat hlines]
    change d.applied path.toText lines = _
    rw [applied_of_detectError? hanswer hmessage, offendingLine?_eq hlines hline hechoes, hcommand,
      Option.getD_some]
  · -- the line that is found is the rejected one if the search does not stop before it
    have hfirst := find?_eq_some_iff_takeWhile (p := fun l => endsWith l (prompt ++ line)) hline
      (endsWith_append prompt line)
    rw [hcommand, Option.some.injEq] at hfirst
    rw [hfirst]
    refine forall₂_congr fun l _ => ?_
    rw [← Bool.not_eq_true]
    exact not_congr List.isSuffixOf_iff_suffix

/-- A line that ends with a later one of the block is named, also behind an indented prompt. -/
theorem rejected_line_named_ip_mtu :
    let lines : List Text := ["interface Gi0/1", "ip mtu 99999", "mtu 99999"]
    let output : Text := " r1(config-if)#ip mtu 99999\n% Invalid input detected at '^' marker."
    let d : Device := ⟨.replay ((Replay.named "r1").withResponse
      (unlines (Dialect.ios.wrap lines)) output), .ciscoIos, "r1"⟩
    (d.apply (Interfaces.pathOf "Gi0/1") lines .sending).1
      = .error (.writeFailed (Interfaces.pathOf "Gi0/1").toText "ip mtu 99999" (trim output)) := by
  intro lines output d
  have hlines : ∀ l ∈ lines, Neat l := by
    intro l hl
    have hcases : l = "interface Gi0/1" ∨ l = "ip mtu 99999" ∨ l = "mtu 99999" := by
      simpa [lines] using hl
    rcases hcases with rfl | rfl | rfl
    all_goals exact ⟨by decide, by decide, by decide⟩
  have hanswer : d.answer (d.blockOf lines) = .ok output := by decide +kernel
  have hrejects : d.platform.dialect.RejectsAfter output " r1(config-if)#" "ip mtu 99999" :=
    ⟨[], "% Invalid input detected at '^' marker.", [], by decide +kernel, by decide +kernel,
      by decide +kernel⟩
  obtain ⟨command, hresult, -, hnamed⟩ :=
    rejected_line_named_iff d (Interfaces.pathOf "Gi0/1") (c := .sending) hlines (by decide) rfl
      hanswer hrejects
  rw [hresult, hnamed.mpr (by decide +kernel)]

/-- A device that echoes the whole block rejects the line that enables an interface. The failure
names the line before it, which disables it and is its end. -/
theorem shutdown_named_for_negation :
    let lines : List Text := ["interface Gi0/1", "shutdown", "no shutdown"]
    let prompts : List Text :=
      ["r1#", "r1(config)#", "r1(config-if)#", "r1(config-if)#", "r1(config-if)#"]
    let echoes := List.zipWith (· ++ ·) prompts (Dialect.ios.wrap lines)
    let output := unlines (echoes.insertIdx 4 "% Invalid input detected at '^' marker.")
    let d : Device := ⟨.replay ((Replay.named "r1").withResponse
      (unlines (Dialect.ios.wrap lines)) output), .ciscoIos, "r1"⟩
    Dialect.ios.RejectsAfter output "r1(config-if)#" "no shutdown" ∧
      (d.apply (Interfaces.pathOf "Gi0/1") lines .sending).1
        = .error (.writeFailed (Interfaces.pathOf "Gi0/1").toText "shutdown" (trim output)) := by
  intro lines prompts echoes output d
  constructor
  · exact ⟨["r1#configure terminal", "r1(config)#interface Gi0/1", "r1(config-if)#shutdown"],
      "% Invalid input detected at '^' marker.", ["r1(config-if)#end"], by decide +kernel,
      by decide +kernel, by decide +kernel⟩
  · decide +kernel

end Device

end VendorCli
