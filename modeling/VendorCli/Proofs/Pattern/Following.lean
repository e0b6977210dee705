import VendorCli.Proofs.Pattern.Closing
import VendorCli.Proofs.Pattern.Moves
/-!
# One step before the closing text

How a step through a pattern goes with the closing text behind the pattern (`step?_closing`). It is
the step through the pattern alone, unless the pattern ends in it. Then a comment may run over the
closing text, or an escape or a change of mode that the pattern breaks off may take its parenthesis;
what is left is not enough to close the group (`Stuck`).
-/

namespace VendorCli.PatternText

variable {m : Mode} {r : Reading} {t : Text}

/-! ### Repetitions -/

/-- A bound ends before the closing text, which has neither blanks nor digits in front. -/
theorem bound?_closing (t : Text) : bound? (t ++ closing) = (bound? t).map withClosing := by
  unfold bound?
  dsimp only
  rw [Text.dropWhile_closing (by decide), Text.takeWhile_closing (by decide),
    Text.dropWhile_closing (by decide), Text.dropWhile_closing (by decide)]
  cases Decimal.nat? Decimal.max32 ((t.dropWhile Text.isBlank).takeWhile Char.isDigit) <;> rfl

/-- The closing text is no mark of a lazy repetition. -/
theorem greed_closing (t : Text) : greed (t ++ closing) = withClosing (greed t) := by
  unfold greed
  split
  · next h =>
    obtain ⟨rest, rfl, rfl⟩ := eq_cons_of_append_closing h (by decide)
    rfl
  · next h =>
    split
    · exact (h _ rfl).elim
    · rfl

/-- The mark of a repetition is read alike with the closing text behind. -/
theorem repetition?_closing (r : Reading) (min : Nat) (max : Option Nat) (t : Text) :
    repetition? r min max (t ++ closing) = (repetition? r min max t).map withClosing := by
  rw [repetition?, repetition?, greed_closing]
  simp only [withClosing, Option.map_map]
  rfl

/-- Nor is the closing text an upper bound, or the brace behind one. -/
theorem upperBound?_closing (m : Mode) (min : Nat) (t : Text) :
    upperBound? m min (t ++ closing) = (upperBound? m min t).map withClosing := by
  unfold upperBound?
  rw [bound?_closing]
  refine bind_withClosing fun max t => ?_
  dsimp only
  -- either a comment swallows the closing text, and there is no brace in both texts, or it is left
  -- alone by skipping
  rcases (m.skip_closing t).symm with ⟨hskip, hskip'⟩ | hskip
  · rw [hskip, hskip']
    rfl
  · rw [hskip]
    generalize m.skip t = s
    split
    -- a brace is in the text itself, since the closing text begins with none
    · next h =>
      obtain ⟨rest, rfl, rfl⟩ := eq_cons_of_append_closing h (by decide)
      simp only []
      split <;> rfl
    · next h =>
      split
      · exact (h _ rfl).elim
      · rfl

/-- What follows the lower bound is read alike with the closing text behind. -/
theorem afterLower?_closing (m : Mode) (min : Nat) (t : Text) :
    afterLower? m min (t ++ closing) = (afterLower? m min t).map withClosing := by
  unfold afterLower?
  -- a brace, a comma, or neither
  split
  · next h =>
    obtain ⟨rest, rfl, rfl⟩ := eq_cons_of_append_closing h (by decide)
    rfl
  · next h =>
    obtain ⟨rest, rfl, rfl⟩ := eq_cons_of_append_closing h (by decide)
    simp only []
    rcases (m.skip_closing rest).symm with ⟨hskip, hskip'⟩ | hskip
    · rw [hskip, hskip']
      rfl
    · rw [hskip]
      generalize m.skip rest = s
      split
      · next h =>
        obtain ⟨rest, rfl, rfl⟩ := eq_cons_of_append_closing h (by decide)
        rfl
      · next h =>
        split
        · exact (h _ rfl).elim
        · exact upperBound?_closing m min _
  · next hbrace hcomma =>
    -- a mark of the text would be a mark of the longer one, which has none here
    split
    · exact (hbrace _ rfl).elim
    · exact (hcomma _ rfl).elim
    · rfl

/-- Bounds are read alike with the closing text behind. -/
theorem bounds?_closing (m : Mode) (t : Text) :
    bounds? m (t ++ closing) = (bounds? m t).map withClosing := by
  rw [bounds?_eq, bounds?_eq]
  rcases (m.skip_closing t).symm with ⟨hskip, hskip'⟩ | hskip
  · rw [hskip, hskip']
    rfl
  rw [hskip, bound?_closing]
  refine bind_withClosing fun min t => ?_
  -- the blanks after the lower bound are skipped, and once more a comment may swallow all
  rcases (m.skip_closing t).symm with ⟨hskip, hskip'⟩ | hskip
  · rw [hskip, hskip']
    rfl
  · rw [hskip, afterLower?_closing]

/-! ### Texts that do not come to an end -/

/-- Inside a group a reading in the mode does not get to the end of the text. -/
def Stuck (m : Mode) (t : Text) : Prop :=
  ∀ n r, r.mode = m → r.outer ≠ [] → run? n r t = none

/-- At the end of the text a group that is open is never closed. -/
theorem stuck_nil (m : Mode) : Stuck m [] := by
  rintro (_ | n) r - hr
  · rfl
  · rw [run?, r.mode.skip_nil]
    exact if_neg (by simpa using hr)

/-- A dollar sign closes no group. -/
theorem stuck_dollar (m : Mode) : Stuck m ['$'] := by
  rintro (_ | n) r rfl hr
  · rfl
  · rw [run?, Mode.skip_cons (by decide) (by decide)]
    exact stuck_nil _ n _ rfl hr

/-- Nothing that is left of the dollar sign closes a group. -/
theorem stuck_of_isSuffix {u : Text} (h : u <:+ ['$']) : Stuck m u := by
  rcases List.suffix_cons_iff.mp h with rfl | h
  · exact stuck_dollar m
  · exact List.suffix_nil.mp h ▸ stuck_nil m

/-- A brace that the closing text follows begins bounds without a number. -/
theorem stuck_brace {ws : Text} (h : m.skip ws = []) : Stuck m ('\x7b' :: (ws ++ closing)) := by
  rintro (_ | n) r rfl hr
  · rfl
  · have hbounds : bounds? r.mode (ws ++ closing) = none := by
      rw [bounds?_closing, bounds?_eq, h]
      rfl
    rw [run?, Mode.skip_cons (by decide) (by decide)]
    simp [step?, hbounds]

/-- **Following.** How a step with the closing text behind what is read follows the step without. -/
inductive Follows (own ext : Option (Reading × Text)) : Prop
  /-- It is the same step, and leaves the closing text. -/
  | same (h : ext = own.map withClosing)
  /-- It is the same step, but the text ends in a comment that runs over the closing text. -/
  | swallowed (r : Reading) (hown : own = some (r, [])) (hext : ext = some (r, []))
  /-- There is no step without the closing text, and after one with it the reading gets stuck. -/
  | lost (hown : own = none) (hext : ∀ r u, ext = some (r, u) → Stuck r.mode u)

/-! ### Groups -/

/-- The name of a group ends before the closing text. -/
theorem namedGroup?_closing (r : Reading) (t : Text) :
    namedGroup? r (t ++ closing) = (namedGroup? r t).map withClosing := by
  unfold namedGroup?
  rw [Text.splitOnce?_closing (by decide)]
  refine bind_withClosing fun name rest => ?_
  dsimp only
  split
  · exact bind_some_withClosing
  · rfl

/-- Flags are read alike with the closing text behind, unless the text breaks them off. -/
theorem flagged?_closing (r : Reading) (t : Text) :
    Follows (flagged? r t) (flagged? r (t ++ closing)) := by
  unfold flagged?
  rw [Text.takeWhile_closing (by decide), Text.dropWhile_closing (by decide)]
  dsimp only
  generalize (t.takeWhile fun c => c ≠ ':' ∧ c ≠ ')') = flags
  generalize (t.dropWhile fun c => c ≠ ':' ∧ c ≠ ')') = s
  split
  · -- flags before a colon
    refine .same ?_
    simp only [List.cons_append]
    cases setFlags? true [] flags r.mode with
    | none => rfl
    | some m => exact bind_some_withClosing
  · -- flags before a parenthesis of the text
    next hcolon =>
    refine .same ?_
    split
    · next h =>
      cases h
      exact (hcolon rfl).elim
    · next h =>
      cases h
      cases setFlags? true [] flags r.mode with
      | none => simp
      | some m => split <;> simp [withClosing]
    · next h => cases h
  · -- flags that the text breaks off are closed by the parenthesis
    refine .lost rfl ?_
    intro r' u h
    simp only [closing, List.nil_append] at h
    split at h
    · next hcolon => cases hcolon
    · next hcolon =>
      cases hcolon
      split at h
      · cases h
      · obtain ⟨m, -, h⟩ := Option.bind_eq_some_iff.mp h
        cases h
        exact stuck_dollar m
    · cases h

/-- A group is read alike with the closing text behind, unless its flags are broken off. -/
theorem groupBefore?_closing (r : Reading) (t : Text) :
    Follows (groupBefore? r t) (groupBefore? r (t ++ closing)) := by
  -- the closing text can be no part of the marks behind the parenthesis, so each test has the same
  -- result for both texts
  by_cases hmark : t.head? = some '?'
  · obtain ⟨t, rfl⟩ := List.head?_eq_some_iff.mp hmark
    by_cases hahead : t.head? = some '='
    · obtain ⟨t, rfl⟩ := List.head?_eq_some_iff.mp hahead
      exact .same rfl
    by_cases hnot : t.head? = some '!'
    · obtain ⟨t, rfl⟩ := List.head?_eq_some_iff.mp hnot
      exact .same rfl
    by_cases hname : t.head? = some '<'
    · obtain ⟨t, rfl⟩ := List.head?_eq_some_iff.mp hname
      by_cases hahead : t.head? = some '='
      · obtain ⟨t, rfl⟩ := List.head?_eq_some_iff.mp hahead
        exact .same rfl
      by_cases hnot : t.head? = some '!'
      · obtain ⟨t, rfl⟩ := List.head?_eq_some_iff.mp hnot
        exact .same rfl
      · rw [List.cons_append, List.cons_append, groupBefore?_name hahead hnot,
          groupBefore?_name (head?_closing (by decide) hahead) (head?_closing (by decide) hnot)]
        exact .same (namedGroup?_closing r t)
    by_cases hname' : ∃ u, t = 'P' :: '<' :: u
    · obtain ⟨u, rfl⟩ := hname'
      exact .same (namedGroup?_closing r u)
    -- the name would begin in the text, since the closing text has neither of its characters
    · have hname'' : ∀ u, t ++ closing ≠ 'P' :: '<' :: u := by
        intro u h
        obtain ⟨s, rfl, h'⟩ := eq_cons_of_append_closing h (by decide)
        obtain ⟨s', rfl, -⟩ := eq_cons_of_append_closing h'.symm (by decide)
        exact hname' ⟨s', rfl⟩
      rw [List.cons_append, groupBefore?_flags hahead hnot hname fun u h => hname' ⟨u, h⟩,
        groupBefore?_flags (head?_closing (by decide) hahead) (head?_closing (by decide) hnot)
          (head?_closing (by decide) hname) hname'']
      exact flagged?_closing r t
  · rw [groupBefore?_plain hmark, groupBefore?_plain (head?_closing (by decide) hmark)]
    exact .same bind_some_withClosing

/-- A group is read alike, unless its parenthesis is the last thing in the text or its flags are
broken off. -/
theorem group?_closing (r : Reading) (t : Text) :
    Follows (group? r t) (group? r (t ++ closing)) := by
  rw [group?_eq, group?_eq]
  rcases (r.mode.skip_closing t).symm with ⟨hskip, hskip'⟩ | hskip
  · rw [hskip, hskip']
    -- the parenthesis opens a group, and behind it is a comment only
    cases hopen : r.openGroup? (some (r.groups + 1)) r.mode with
    | none => exact .same (by simp [groupBefore?, hopen])
    | some opened =>
      exact .swallowed _ (by simp [groupBefore?, hopen]; rfl) (by simp [groupBefore?, hopen])
  · rw [hskip]
    exact groupBefore?_closing r _

/-! ### One step -/

/-- **One step.** It follows the step through the pattern alone. -/
theorem step?_closing (r : Reading) (c : Char) (t : Text) :
    Follows (step? r c t) (step? r c (t ++ closing)) := by
  unfold step?
  dsimp only
  split
  · exact group?_closing r t
  · refine .same ?_
    rw [Option.map_map]
    rfl
  · exact .same rfl
  · refine .same ?_
    rw [readClass?_closing, Option.map_map, Option.map_map]
    rfl
  · exact .same (repetition?_closing r _ _ t)
  · exact .same (repetition?_closing r _ _ t)
  · exact .same (repetition?_closing r _ _ t)
  · rw [bounds?_closing]
    cases bounds? r.mode t with
    | none => exact .same rfl
    | some b =>
      simp only [Option.map_some, Option.bind_eq_bind, Option.bind_some, withClosing]
      -- a comment may stand between the bounds and the mark of a lazy repetition
      rcases (r.mode.skip_closing b.2).symm with ⟨hskip, hskip'⟩ | hskip
      · rw [hskip, hskip']
        cases hrep : repetition? r b.1.1 b.1.2 [] with
        | none => exact .same rfl
        | some p =>
          obtain ⟨r', u⟩ := p
          have hu := (advances_of_repetition? hrep).isSuffix
          rw [List.suffix_nil] at hu
          subst hu
          exact .swallowed r' rfl rfl
      · rw [hskip]
        exact .same (repetition?_closing r _ _ _)
  · refine .same ?_
    rw [Option.map_map]
    rfl
  · exact .same rfl
  · exact .same rfl
  · rcases t with _ | ⟨d, t⟩
    · -- a backslash at the end takes the parenthesis, and a dollar sign is left
      refine .lost rfl ?_
      intro r' u hu
      obtain ⟨⟨e, rest⟩, he, hu⟩ := Option.bind_eq_some_iff.mp hu
      cases he
      dsimp only at hu
      split at hu <;> cases hu
      exact stuck_dollar r.mode
    rcases escape?_closing r.mode d t with h | ⟨ws, a, rfl, hws, hnone, h⟩
    · refine .same ?_
      rw [List.cons_append, h]
      refine bind_withClosing fun e rest => ?_
      cases e with
      | literal c =>
        dsimp only
        split <;> rfl
      | set s => rfl
      | anchor a => rfl
    · -- a word boundary whose name is broken off is one without a name, before a brace
      refine .lost ?_ ?_
      · rw [hnone]
        rfl
      · intro r' u hu
        rw [List.cons_append, h] at hu
        cases hu
        exact stuck_brace hws
  · exact .same rfl

end VendorCli.PatternText
