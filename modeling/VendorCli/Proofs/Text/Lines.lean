import VendorCli.Template.Engine
import Mathlib.Data.List.DropRight
/-!
# Lines of a text

What cutting a text into lines and joining lines have to do with each other. Everything follows
from one equation: a text without a line feed, followed by one, is a line (`lines_append_feed`), so
a proof about lines goes from one line feed to the next.

* lines that are neat, so that nothing would be trimmed off them, are cut apart again when they are
  joined, also behind some indentation (`lines_unlines_indent`);
* `endedLines` are the lines of a text that a line feed ends, the form in which a text stands inside
  a block of lines (`lines_unlines_concat`);
* a text is on one line if no line feed is left once it is trimmed: then it is its only line, as a
  command (`commandLines_of_oneLine`) and inside a block (`endedLines_of_oneLine`);
* otherwise it falls into several lines (`two_le_length_endedLines`), the first of which has what it
  begins with (`exists_endedLines_cons`, `exists_commandLines_cons`).
-/

namespace VendorCli.Text

/-! ### Trimming -/

/-- A blank at the end is taken off, and any other character keeps all that is before it. -/
theorem trimEnd_concat (t : Text) (c : Char) :
    trimEnd (t ++ [c]) = if isBlank c then trimEnd t else t ++ [c] :=
  List.rdropWhile_concat isBlank t c

/-- A character that is no blank keeps all that follows it. -/
theorem trimStart_cons {c : Char} (h : isBlank c = false) (t : Text) :
    trimStart (c :: t) = c :: t := by
  simp [trimStart, h]

/-- Blanks are taken off the end up to the last character that is none. -/
theorem trimEnd_append_cons {c : Char} (h : isBlank c = false) (s t : Text) :
    trimEnd (s ++ c :: t) = s ++ c :: trimEnd t := by
  -- the induction is on the rest, from its end, where blanks are taken off
  induction t using List.reverseRecOn with
  | nil => rw [trimEnd_concat, if_neg (by simp [h])]; rfl
  | append_singleton t d ih =>
    rw [show s ++ c :: (t ++ [d]) = (s ++ c :: t) ++ [d] by simp, trimEnd_concat, trimEnd_concat]
    by_cases hd : isBlank d = true
    · rw [if_pos hd, if_pos hd, ih]
    · rw [if_neg hd, if_neg hd]
      simp

/-- Trimming goes no further than a character that is no blank. -/
theorem trim_append_cons {c : Char} (h : isBlank c = false) (s t : Text) :
    trim (s ++ c :: t) = trimStart s ++ c :: trimEnd t := by
  -- the blanks before the character are taken off in `s` alone
  have hstart : trimStart (s ++ c :: t) = trimStart s ++ c :: t := by
    rw [trimStart, List.dropWhile_append]
    split
    · next hs =>
      rw [trimStart, List.isEmpty_iff.mp hs, List.nil_append]
      exact trimStart_cons h t
    · rfl
  rw [trim, hstart, trimEnd_append_cons h]

/-- A text that begins with no blank is trimmed at its end only. -/
theorem trim_cons {c : Char} (h : isBlank c = false) (t : Text) :
    trim (c :: t) = c :: trimEnd t :=
  trim_append_cons h [] t

/-- A text that ends with no blank is trimmed at its start only. -/
theorem trim_append_singleton {c : Char} (h : isBlank c = false) (t : Text) :
    trim (t ++ [c]) = trimStart t ++ [c] :=
  trim_append_cons h t []

/-- Nothing is left by trimming if there are blanks only. -/
theorem trim_eq_nil_iff {t : Text} : trim t = [] ↔ ∀ c ∈ t, isBlank c = true := by
  rw [trim, show trimEnd (trimStart t) = (trimStart t).rdropWhile isBlank from rfl,
    List.rdropWhile_eq_nil_iff]
  constructor
  -- trimming the start takes blanks only, so another character would be left
  · intro h c hc
    by_contra hb
    have hmem : c ∈ trimStart t := by
      rw [← List.takeWhile_append_dropWhile (p := isBlank) (l := t)] at hc
      rcases List.mem_append.mp hc with hc | hc
      · exact absurd (List.mem_takeWhile_imp hc) hb
      · exact hc
    exact hb (h c hmem)
  · intro h c hc
    exact h c ((List.dropWhile_sublist _).subset hc)

/-- Trimming the start leaves the end of the text. -/
theorem trimStart_isSuffix (t : Text) : trimStart t <:+ t :=
  List.dropWhile_suffix isBlank

/-- What a text ends with, it ends with also when both are trimmed. -/
theorem trim_isSuffix_trim_append (s t : Text) : trim t <:+ trim (s ++ t) := by
  by_cases hblank : ∀ c ∈ t, isBlank c = true
  · rw [trim_eq_nil_iff.mpr hblank]
    exact List.nil_suffix
  · push Not at hblank
    obtain ⟨c, hc, hnot⟩ := hblank
    -- from the first character that is no blank on, both texts are trimmed alike
    obtain ⟨u, v, rfl⟩ := List.append_of_mem hc
    have hcb : isBlank c = false := by simpa using hnot
    have hstart : trimStart u <:+ trimStart (s ++ u) := by
      rw [trimStart, trimStart, List.dropWhile_append]
      split
      · exact List.suffix_rfl
      · exact (trimStart_isSuffix u).trans (List.suffix_append _ u)
    rw [← List.append_assoc, trim_append_cons hcb, trim_append_cons hcb]
    obtain ⟨w, hw⟩ := hstart
    exact ⟨w, by rw [← List.append_assoc, hw]⟩

/-- Trimming the end leaves the start of the text. -/
theorem trimEnd_isPrefix (t : Text) : trimEnd t <+: t :=
  List.rdropWhile_prefix isBlank t

/-- Blanks at the end make no difference to what is left. -/
theorem trimEnd_append_of_blank {b : Text} (h : ∀ c ∈ b, isBlank c = true) (t : Text) :
    trimEnd (t ++ b) = trimEnd t := by
  induction b using List.reverseRecOn with
  | nil => rw [List.append_nil]
  | append_singleton b c ih =>
    rw [← List.append_assoc, trimEnd_concat, if_pos (h c (by simp)),
      ih fun d hd => h d (by simp [hd])]

/-- A text that begins with no blank begins as it is trimmed. -/
theorem trim_cons_isPrefix {c : Char} (h : isBlank c = false) (t : Text) :
    trim (c :: t) <+: c :: t := by
  rw [trim_cons h]
  exact (List.cons_prefix_cons).mpr ⟨rfl, trimEnd_isPrefix t⟩

/-- The last character of a trimmed text is no blank. -/
theorem not_isBlank_of_getLast?_trimEnd {t : Text} {c : Char}
    (h : (trimEnd t).getLast? = some c) : isBlank c = false := by
  have hne : trimEnd t ≠ [] := by
    rintro hnil
    rw [hnil] at h
    simp at h
  rw [List.getLast?_eq_some_getLast hne, Option.some.injEq] at h
  subst h
  exact Bool.eq_false_iff.mpr (List.rdropWhile_last_not isBlank t hne)

/-- The same if the start is trimmed as well. -/
theorem not_isBlank_of_getLast?_trim {t : Text} {c : Char}
    (h : (trim t).getLast? = some c) : isBlank c = false :=
  not_isBlank_of_getLast?_trimEnd h

/-- A text that begins and ends with characters that are no blanks is trimmed. -/
theorem trim_eq_self {t : Text} (hhead : ∀ c, t.head? = some c → isBlank c = false)
    (hlast : ∀ c, t.getLast? = some c → isBlank c = false) : trim t = t := by
  induction t using List.reverseRecOn with
  | nil => rfl
  | append_singleton t c _ =>
    rw [trim_append_singleton (hlast c (by simp))]
    -- the first character is the last one as well, or another one that is no blank either
    cases t with
    | nil => rfl
    | cons d t => rw [trimStart_cons (hhead d (by simp))]

/-- A text without blanks is trimmed. -/
theorem trim_of_not_isBlank {t : Text} (h : ∀ c ∈ t, isBlank c = false) : trim t = t :=
  trim_eq_self (fun c hc => h c (List.mem_of_mem_head? hc))
    (fun c hc => h c (List.mem_of_mem_getLast? hc))

/-- The first character of a trimmed text is no blank. -/
theorem not_isBlank_of_head?_trim {t : Text} {c : Char} (h : (trim t).head? = some c) :
    isBlank c = false := by
  have hpre : trim t <+: trimStart t := trimEnd_isPrefix _
  have hc : (trimStart t).head? = some c := by
    obtain ⟨rest, hrest⟩ := hpre
    rw [← hrest, List.head?_append, h]
    rfl
  have hnot := List.head?_dropWhile_not isBlank t
  rw [show t.dropWhile isBlank = trimStart t from rfl, hc] at hnot
  exact hnot

@[simp] theorem trim_trim (t : Text) : trim (trim t) = trim t :=
  trim_eq_self (fun _ => not_isBlank_of_head?_trim) (fun _ => not_isBlank_of_getLast?_trim)

/-! ### Leads -/

/-- A text has a lead if it is the lead and a rest. -/
theorem dropLead?_eq_some_iff {lead t rest : Text} :
    dropLead? lead t = some rest ↔ t = lead ++ rest := by
  rw [dropLead?, List.isPrefixOf?_eq_some_iff_append_eq, eq_comm]

/-- What follows a lead is left when it is dropped. -/
theorem dropLead?_append (lead t : Text) : dropLead? lead (lead ++ t) = some t :=
  dropLead?_eq_some_iff.mpr rfl

/-! ### Lines -/

/-- A line without the carriage return before its line feed. -/
def dropReturn (t : Text) : Text :=
  if t.getLast? = some '\r' then t.dropLast else t

/-- Only the last character can be the carriage return. -/
theorem dropReturn_cons_cons (c d : Char) (t : Text) :
    dropReturn (c :: d :: t) = c :: dropReturn (d :: t) := by
  unfold dropReturn
  rw [List.getLast?_cons_cons]
  split <;> rfl

/-- A carriage return is looked for at the end of the last text. -/
theorem dropReturn_append {t : Text} (h : t ≠ []) (s : Text) :
    dropReturn (s ++ t) = s ++ dropReturn t := by
  unfold dropReturn
  rw [List.getLast?_append_of_ne_nil _ h]
  split
  · rw [List.dropLast_append_of_ne_nil h]
  · rfl

/-- A first character that is no blank is kept. -/
theorem exists_dropReturn_cons {c : Char} (h : isBlank c = false) (t : Text) :
    ∃ s, dropReturn (c :: t) = c :: s := by
  cases t with
  -- the only character of the text is no carriage return, since that is a blank
  | nil =>
    refine ⟨[], if_neg fun hr => ?_⟩
    cases hr
    cases h
  | cons d t => exact ⟨_, dropReturn_cons_cons c d t⟩

/-- A trimmed text does not end with a carriage return. -/
theorem dropReturn_trim (t : Text) : dropReturn (trim t) = trim t := by
  refine if_neg fun h => ?_
  have := not_isBlank_of_getLast?_trim h
  simp at this

/-- **One line at a time.** Text up to a line feed is a line, and the rest is cut on its own. -/
theorem lines_append_feed {p : Text} (h : '\n' ∉ p) (t : Text) :
    lines (p ++ '\n' :: t) = dropReturn p :: lines t := by
  -- the induction is on the line, whose last character may be a carriage return
  induction p with
  | nil => simp [lines, dropReturn]
  | cons c p ih =>
    rw [List.mem_cons, not_or] at h
    have hc : ¬ c = '\n' := fun hc => h.1 hc.symm
    have hrest := ih h.2
    cases p with
    | nil =>
      by_cases hr : c = '\r'
      · subst hr
        simp [lines, dropReturn]
      · have hlines : lines (c :: '\n' :: t) = [c] :: lines t := by
          rw [lines.eq_3 _ _ (by rintro rest rfl; simp_all), if_neg hc]
          simp [lines]
        rw [List.cons_append, List.nil_append, hlines, dropReturn, if_neg (by simpa using hr)]
    | cons d p =>
      have hd : ¬ d = '\n' := fun hd => h.2 (by simp [hd])
      rw [dropReturn_cons_cons, List.cons_append, List.cons_append]
      rw [List.cons_append] at hrest
      rw [lines.eq_3 _ _ (by rintro rest - hcons; simp_all), if_neg hc, hrest]

/-- Text without a line feed is one line. -/
theorem lines_of_not_mem {p : Text} (h : '\n' ∉ p) (hne : p ≠ []) : lines p = [p] := by
  induction p with
  | nil => exact absurd rfl hne
  | cons c p ih =>
    rw [List.mem_cons, not_or] at h
    have hc : ¬ c = '\n' := fun hc => h.1 hc.symm
    rw [lines.eq_3 _ _ (by rintro rest - rfl; simp at h), if_neg hc]
    cases p with
    | nil => simp
    | cons d p => rw [ih h.2 (by simp)]

/-- Every text is without a line feed, or falls into a line and a rest. -/
theorem exists_line {t : Text} (h : '\n' ∈ t) : ∃ p q, t = p ++ '\n' :: q ∧ '\n' ∉ p := by
  obtain ⟨p, q, ht, hp⟩ := List.eq_append_cons_of_mem h
  exact ⟨p, q, ht, hp⟩

/-- **Induction on lines.** What holds of texts without a line feed, and passes from the text after
a line to the text with that line in front, holds of all texts. -/
theorem line_induction {motive : Text → Prop} (last : ∀ p, '\n' ∉ p → motive p)
    (line : ∀ p t, '\n' ∉ p → motive t → motive (p ++ '\n' :: t)) (t : Text) : motive t := by
  -- on the length, since the text after a line is no tail that structural recursion would reach
  induction hn : t.length using Nat.strongRecOn generalizing t with
  | _ n ih =>
    by_cases h : '\n' ∈ t
    · obtain ⟨p, q, rfl, hp⟩ := exists_line h
      refine line p q hp (ih q.length ?_ q rfl)
      rw [← hn, List.length_append, List.length_cons]
      omega
    · exact last t h

/-- A line without its carriage return has no new characters. -/
theorem dropReturn_sublist (t : Text) : (dropReturn t).Sublist t := by
  unfold dropReturn
  split
  · exact List.dropLast_sublist t
  · exact List.Sublist.refl t

/-- No line has a line feed in it. -/
theorem not_mem_of_mem_lines {l t : Text} (h : l ∈ lines t) : '\n' ∉ l := by
  induction t using line_induction with
  | last p hp =>
    by_cases hne : p = []
    · subst hne
      simp at h
    · rw [lines_of_not_mem hp hne, List.mem_singleton] at h
      exact h ▸ hp
  | line p t hp ih =>
    rw [lines_append_feed hp, List.mem_cons] at h
    rcases h with rfl | h
    · exact fun hmem => hp ((dropReturn_sublist p).subset hmem)
    · exact ih h

/-- What is ended by a line feed is cut apart from what follows. -/
theorem lines_append_cons (s t : Text) :
    lines (s ++ '\n' :: t) = lines (s ++ ['\n']) ++ lines t := by
  induction s using line_induction with
  | last p hp => rw [lines_append_feed hp, lines_append_feed hp, lines_nil]; rfl
  | line p s hp ih =>
    rw [List.append_assoc, List.append_assoc, List.cons_append, List.cons_append,
      lines_append_feed hp, lines_append_feed hp, ih]
    rfl

/-- The lines of a text that a line feed ends. -/
def endedLines (t : Text) : List Text :=
  lines (t ++ ['\n'])

/-- Without a line feed in it a text is one line. -/
theorem endedLines_of_not_mem {t : Text} (h : '\n' ∉ t) : endedLines t = [dropReturn t] := by
  rw [endedLines, lines_append_feed h, lines_nil]

/-- A line feed in a text ends its first line. -/
theorem endedLines_append_feed {p : Text} (h : '\n' ∉ p) (t : Text) :
    endedLines (p ++ '\n' :: t) = dropReturn p :: endedLines t := by
  rw [endedLines, List.append_assoc, List.cons_append, lines_append_feed h, endedLines]

/-- A text that is ended has a line, if only an empty one. -/
theorem endedLines_ne_nil (t : Text) : endedLines t ≠ [] := by
  induction t using line_induction with
  | last p hp =>
    rw [endedLines_of_not_mem hp]
    exact List.cons_ne_nil _ _
  | line p t hp _ =>
    rw [endedLines_append_feed hp]
    exact List.cons_ne_nil _ _

/-- The first line has all that stands before a character that ends no line. -/
theorem exists_endedLines_cons {s : Text} {c : Char} (hs : '\n' ∉ s) (hc : isBlank c = false)
    (t : Text) : ∃ u rest, endedLines (s ++ c :: t) = (s ++ c :: u) :: rest := by
  have hfeed : ∀ p : Text, '\n' ∉ p → '\n' ∉ s ++ c :: p := by
    intro p hp hmem
    rcases List.mem_append.mp hmem with h | h
    · exact hs h
    · rcases List.mem_cons.mp h with rfl | h
      · cases hc
      · exact hp h
  have hline : ∀ p : Text, ∃ u, dropReturn (s ++ c :: p) = s ++ c :: u := by
    intro p
    obtain ⟨u, hu⟩ := exists_dropReturn_cons hc p
    exact ⟨u, by rw [dropReturn_append (List.cons_ne_nil c p), hu]⟩
  -- the line ends at a line feed of `t`, or with it
  by_cases h : '\n' ∈ t
  · obtain ⟨p, q, rfl, hp⟩ := exists_line h
    obtain ⟨u, hu⟩ := hline p
    refine ⟨u, endedLines q, ?_⟩
    rw [show s ++ c :: (p ++ '\n' :: q) = (s ++ c :: p) ++ '\n' :: q by simp,
      endedLines_append_feed (hfeed p hp), hu]
  · obtain ⟨u, hu⟩ := hline t
    exact ⟨u, [], by rw [endedLines_of_not_mem (hfeed t h), hu]⟩

/-- A line feed makes two lines or more. -/
theorem two_le_length_endedLines {t : Text} (h : '\n' ∈ t) : 2 ≤ (endedLines t).length := by
  obtain ⟨p, q, rfl, hp⟩ := exists_line h
  rw [endedLines_append_feed hp, List.length_cons]
  have := List.length_pos_of_ne_nil (endedLines_ne_nil q)
  omega

/-- No line of an ended text has a line feed in it. -/
theorem not_mem_of_mem_endedLines {l t : Text} (h : l ∈ endedLines t) : '\n' ∉ l :=
  not_mem_of_mem_lines h

/-- Texts that are joined are joined in two parts, with the glue between. -/
theorem join_append {glue : Text} {ts us : List Text} (hts : ts ≠ []) (hus : us ≠ []) :
    join glue (ts ++ us) = join glue ts ++ glue ++ join glue us := by
  obtain ⟨u, us, rfl⟩ := List.exists_cons_of_ne_nil hus
  induction ts with
  | nil => exact absurd rfl hts
  | cons t ts ih =>
    cases ts with
    | nil => exact join_cons_cons glue t u us
    | cons s ts =>
      have hrest := ih (List.cons_ne_nil s ts)
      rw [List.cons_append] at hrest
      rw [List.cons_append, List.cons_append, join_cons_cons, join_cons_cons, hrest]
      simp

/-- Behind a line that is joined to others there is a line feed. -/
theorem unlines_cons_cons (t u : Text) (ts : List Text) :
    unlines (t :: u :: ts) = t ++ '\n' :: unlines (u :: ts) := by
  simp [unlines, join_cons_cons]

/-- Lines that are joined are joined in two parts, with a line feed between. -/
theorem unlines_append {ls ms : List Text} (hls : ls ≠ []) (hms : ms ≠ []) :
    unlines (ls ++ ms) = unlines ls ++ '\n' :: unlines ms := by
  rw [unlines, join_append hls hms, List.append_assoc]
  rfl

/-- Texts that each are cut into one line. -/
theorem flatMap_eq_map {cut : Text → List Text} {line : Text → Text} {ts : List Text}
    (h : ∀ t ∈ ts, cut t = [line t]) : ts.flatMap cut = ts.map line := by
  induction ts with
  | nil => rfl
  | cons t ts ih =>
    rw [List.flatMap_cons, h t List.mem_cons_self, ih fun u hu => h u (List.mem_cons_of_mem t hu)]
    rfl

/-- Lines that are joined and cut again fall into the lines of each of them. -/
theorem lines_unlines_concat (ts : List Text) {last : Text} (h : '\n' ∉ last) (hne : last ≠ []) :
    lines (unlines (ts ++ [last])) = ts.flatMap endedLines ++ [last] := by
  induction ts with
  | nil => exact lines_of_not_mem h hne
  | cons t ts ih =>
    obtain ⟨u, us, hus⟩ : ∃ u us, ts ++ [last] = u :: us :=
      List.exists_cons_of_ne_nil (by simp)
    rw [List.cons_append, hus, unlines_cons_cons, lines_append_cons, ← hus, ih,
      List.flatMap_cons, List.append_assoc]
    rfl

/-- **Round trip.** Lines that are joined and cut again are the same lines, unless one of them has a
line feed, is empty or ends with a carriage return. -/
theorem lines_unlines {ts : List Text} (h : ∀ t ∈ ts, '\n' ∉ t ∧ t ≠ [] ∧ dropReturn t = t) :
    lines (unlines ts) = ts := by
  -- the last line has no line feed behind it, so it is treated apart
  rcases List.eq_nil_or_concat' ts with rfl | ⟨init, last, rfl⟩
  · exact lines_nil
  · obtain ⟨hfeed, hne, -⟩ := h last (by simp)
    have hinit : init.flatMap endedLines = init.map id := by
      refine flatMap_eq_map fun t ht => ?_
      obtain ⟨hfeed, -, hreturn⟩ := h t (by simp [ht])
      rw [endedLines_of_not_mem hfeed, hreturn, id]
    rw [lines_unlines_concat init hfeed hne, hinit, List.map_id]

/-! ### Trimmed lines -/

/-- A line as a reader looks at it: without blanks around it, and not empty. -/
structure Neat (l : Text) : Prop where
  trim_eq : trim l = l
  ne_nil : l ≠ []
  feedless : '\n' ∉ l

/-- A line that is indented is neat without the indentation. -/
theorem trim_indent {indent l : Text} (hblank : ∀ c ∈ indent, isBlank c = true) (h : Neat l) :
    trim (indent ++ l) = l := by
  have hstart : trimStart (indent ++ l) = trimStart l := List.dropWhile_append_of_pos hblank
  rw [trim, hstart]
  exact h.trim_eq

/-- A neat line stays a line behind an indentation. -/
theorem Neat.indented {indent l : Text} (h : Neat l) (hfeed : '\n' ∉ indent) :
    '\n' ∉ indent ++ l ∧ indent ++ l ≠ [] ∧ dropReturn (indent ++ l) = indent ++ l := by
  obtain ⟨htrim, hne, hfeedless⟩ := h
  refine ⟨?_, List.append_ne_nil_of_right_ne_nil _ hne, ?_⟩
  · rw [List.mem_append, not_or]
    exact ⟨hfeed, hfeedless⟩
  · rw [dropReturn_append hne, ← htrim, dropReturn_trim]

/-- Neat lines are cut apart again when they are joined, indented or not. -/
theorem lines_unlines_indent {indent : Text} {ls : List Text} (hfeed : '\n' ∉ indent)
    (h : ∀ l ∈ ls, Neat l) : lines (unlines (ls.map (indent ++ ·))) = ls.map (indent ++ ·) := by
  refine lines_unlines fun t ht => ?_
  obtain ⟨l, hl, rfl⟩ := List.mem_map.mp ht
  exact (h l hl).indented hfeed

/-! ### Texts on one line -/

/-- A text whose line feeds all stand among the blanks around it. -/
def OneLine (t : Text) : Prop :=
  '\n' ∉ trim t

instance (t : Text) : Decidable (OneLine t) :=
  inferInstanceAs (Decidable ('\n' ∉ trim t))

/-- Trimming brings in no character. -/
theorem trim_subset (t : Text) : trim t ⊆ t := fun _ h =>
  (List.dropWhile_sublist _).subset ((trimEnd_isPrefix _).sublist.subset h)

/-- A text without a line feed is on one line. -/
theorem OneLine.of_not_mem {t : Text} (h : '\n' ∉ t) : OneLine t :=
  fun hmem => h (trim_subset t hmem)

/-- A text on one line is, trimmed, the only line that it is sent as. -/
theorem endedLines_of_oneLine {t : Text} (h : OneLine t) : endedLines (trim t) = [trim t] := by
  rw [endedLines_of_not_mem h, dropReturn_trim]

end VendorCli.Text

/-! ### Command lines -/

namespace VendorCli.Template

open Text

/-- Without a line feed a text is one command, or none if it is blank. -/
theorem commandLines_of_not_mem {p : Text} (h : '\n' ∉ p) :
    commandLines p = if trim p = [] then [] else [trim p] := by
  by_cases hne : p = []
  · subst hne
    simp [commandLines, show trim [] = [] from rfl]
  · by_cases ht : trim p = [] <;> simp [commandLines, lines_of_not_mem h hne, ht]

/-- A carriage return at the end is trimmed off anyway. -/
theorem trim_dropReturn (t : Text) : trim (dropReturn t) = trim t := by
  unfold dropReturn
  split
  · next h =>
    obtain ⟨s, rfl⟩ := List.getLast?_eq_some_iff.mp h
    rw [List.dropLast_concat]
    by_cases hs : trim s = []
    · rw [hs, eq_comm, trim_eq_nil_iff]
      intro c hc
      rcases List.mem_append.mp hc with hc | hc
      · exact trim_eq_nil_iff.mp hs c hc
      · rw [List.mem_singleton] at hc
        exact hc ▸ isBlank_return
    · -- something is left of `s`, so trimming its start does not reach the carriage return
      have hstart : trimStart (s ++ ['\r']) = trimStart s ++ ['\r'] := by
        unfold trimStart
        rw [List.dropWhile_append, if_neg]
        intro hnil
        rw [List.isEmpty_iff] at hnil
        exact hs (by rw [trim, show trimStart s = [] from hnil]; rfl)
      rw [trim, trim, hstart, trimEnd_concat, if_pos isBlank_return]
  · rfl

/-- The commands of a text are those up to a line feed and those after it. -/
theorem commandLines_append_cons (s t : Text) :
    commandLines (s ++ '\n' :: t) = commandLines s ++ commandLines t := by
  -- what is said holds of a line in front, and by induction of any text in front
  have hline : ∀ p u : Text, '\n' ∉ p →
      commandLines (p ++ '\n' :: u) = commandLines p ++ commandLines u := by
    intro p u hp
    rw [commandLines, lines_append_feed hp, List.map_cons, trim_dropReturn,
      commandLines_of_not_mem hp]
    by_cases ht : trim p = [] <;> simp [ht, commandLines]
  induction s using line_induction with
  | last p hp => exact hline p t hp
  | line p s hp ih =>
    rw [List.append_assoc, List.cons_append, hline p _ hp, hline p _ hp, ih, List.append_assoc]

/-- A blank text has no command. -/
theorem commandLines_of_blank {t : Text} (h : ∀ c ∈ t, isBlank c = true) : commandLines t = [] := by
  induction t using line_induction with
  | last p hp => rw [commandLines_of_not_mem hp, if_pos (trim_eq_nil_iff.mpr h)]
  | line p t hp ih =>
    rw [commandLines_append_cons, ih fun c hc => h c (by simp [hc]), List.append_nil,
      commandLines_of_not_mem hp, if_pos (trim_eq_nil_iff.mpr fun c hc => h c (by simp [hc]))]

@[simp] theorem commandLines_nil : commandLines [] = [] := by
  simp [commandLines]

/-- The commands of texts that are joined are those of each of them. -/
theorem commandLines_unlines (ts : List Text) :
    commandLines (unlines ts) = ts.flatMap commandLines := by
  induction ts with
  | nil => exact commandLines_nil
  | cons t ts ih =>
    cases ts with
    | nil => exact (List.append_nil _).symm
    | cons u us =>
      calc commandLines (unlines (t :: u :: us))
          = commandLines t ++ commandLines (unlines (u :: us)) := by
            rw [unlines_cons_cons, commandLines_append_cons]
        _ = commandLines t ++ (u :: us).flatMap commandLines := by rw [ih]
        _ = (t :: u :: us).flatMap commandLines := List.flatMap_cons.symm

/-- A neat line is the only command of its text. -/
theorem commandLines_of_neat {l : Text} (h : Neat l) : commandLines l = [l] := by
  rw [commandLines_of_not_mem h.feedless, h.trim_eq, if_neg h.ne_nil]

/-- A command is trimmed, not blank, and on one line. -/
theorem of_mem_commandLines {l t : Text} (h : l ∈ commandLines t) : Neat l := by
  rw [commandLines, List.mem_filter, List.mem_map] at h
  obtain ⟨⟨k, hk, rfl⟩, hne⟩ := h
  exact ⟨trim_trim k, by simpa using hne, fun hmem => not_mem_of_mem_lines hk (trim_subset k hmem)⟩

/-- The first command begins as the text does, if that is with no blank. -/
theorem exists_commandLines_cons {c : Char} (hc : isBlank c = false) (s : Text) :
    ∃ u rest, commandLines (c :: s) = (c :: u) :: rest := by
  have hline : ∀ p : Text, '\n' ∉ p → commandLines (c :: p) = [c :: trimEnd p] := by
    intro p hp
    have hfeed : '\n' ∉ c :: p := by
      rw [List.mem_cons, not_or]
      refine ⟨?_, hp⟩
      rintro rfl
      cases hc
    rw [commandLines_of_not_mem hfeed, trim_cons hc, if_neg (List.cons_ne_nil _ _)]
  -- the command ends at the first line feed, or with the text
  by_cases h : '\n' ∈ s
  · obtain ⟨p, q, rfl, hp⟩ := exists_line h
    refine ⟨trimEnd p, commandLines q, ?_⟩
    rw [← List.cons_append, commandLines_append_cons, hline p hp]
    rfl
  · exact ⟨trimEnd s, [], hline s h⟩

/-- In a text on one line that does not begin with a blank, nothing but blanks follows a line
feed. -/
theorem isBlank_of_oneLine {c : Char} {p q : Text} (hc : isBlank c = false)
    (h : OneLine (c :: (p ++ '\n' :: q))) : ∀ d ∈ q, isBlank d = true := by
  intro d hd
  by_contra hb
  obtain ⟨q₁, q₂, rfl⟩ := List.append_of_mem hd
  -- the character would keep the line feed before it inside the trimmed text
  refine h ?_
  rw [show c :: (p ++ '\n' :: (q₁ ++ d :: q₂)) = c :: ((p ++ '\n' :: q₁) ++ d :: q₂) by simp,
    trim_cons hc, trimEnd_append_cons (by simpa using hb)]
  simp

/-- A text on one line that does not begin with a blank is one command. -/
theorem commandLines_of_oneLine {c : Char} {s : Text} (hc : isBlank c = false)
    (h : OneLine (c :: s)) : commandLines (c :: s) = [trim (c :: s)] := by
  have htrim : ∀ t : Text, trim (c :: t) ≠ [] := fun t => by simp [trim_cons hc]
  have hcne : c ≠ '\n' := by
    rintro rfl
    cases hc
  -- what stands behind the line feed is blank, and no command of its own
  by_cases hmem : '\n' ∈ s
  · obtain ⟨p, q, rfl, hp⟩ := exists_line hmem
    have hq := isBlank_of_oneLine hc h
    have hrest : ∀ d ∈ '\n' :: q, isBlank d = true := by
      intro d hd
      rcases List.mem_cons.mp hd with rfl | hd
      · exact isBlank_newline
      · exact hq d hd
    have hfirst : '\n' ∉ c :: p := by
      rw [List.mem_cons, not_or]
      exact ⟨hcne.symm, hp⟩
    have hend : trim (c :: (p ++ '\n' :: q)) = trim (c :: p) := by
      rw [trim_cons hc, trim_cons hc, trimEnd_append_of_blank hrest]
    rw [hend, ← List.cons_append, commandLines_append_cons, commandLines_of_blank hq,
      List.append_nil, commandLines_of_not_mem hfirst, if_neg (htrim p)]
  · have hfeed : '\n' ∉ c :: s := by
      rw [List.mem_cons, not_or]
      exact ⟨hcne.symm, hmem⟩
    rw [commandLines_of_not_mem hfeed, if_neg (htrim s)]

/-- A text on one line that does not begin with a blank has all but blanks in its first line. -/
theorem exists_endedLines_of_oneLine {c : Char} {s : Text} (hc : isBlank c = false)
    (h : OneLine (c :: s)) : ∃ u rest, endedLines (c :: s) = (c :: u) :: rest ∧
      trim (c :: u) = trim (c :: s) ∧ ∀ l ∈ rest, trim l = [] := by
  obtain ⟨u, rest, hlines⟩ := exists_endedLines_cons (s := []) List.not_mem_nil hc s
  rw [List.nil_append, List.nil_append] at hlines
  -- the commands of the text are its lines, trimmed and without the blank ones, and there is one
  have hcommands : commandLines (c :: s ++ ['\n']) = [trim (c :: s)] := by
    rw [commandLines_append_cons, commandLines_nil, List.append_nil, commandLines_of_oneLine hc h]
  have hfirst : trim (c :: u) ≠ [] := by
    rw [trim_cons hc]
    exact List.cons_ne_nil _ _
  rw [commandLines, ← endedLines, hlines, List.map_cons,
    List.filter_cons_of_pos (by simpa using hfirst),
    List.cons.injEq, List.filter_eq_nil_iff] at hcommands
  refine ⟨u, rest, hlines, hcommands.1, fun l hl => ?_⟩
  simpa using hcommands.2 _ (List.mem_map_of_mem hl)

end VendorCli.Template
