import VendorCli.Proofs.Pattern.Stages
/-!
# What a reader leaves

The readers of patterns take their piece from the front of a text: what they leave is the end of
what they were given. `readClass?_isSuffix` says so of classes, `escape?_isSuffix` of escapes, and
`bounds?_isSuffix` of the bounds of a repetition.
-/

namespace VendorCli

/-! ### Skipping -/

namespace Mode

/-- Blanks and comments are skipped from the front, as many of them as there are. -/
theorem skip_go_isSuffix (steps : Nat) (t : Text) : skip.go steps t <:+ t := by
  induction steps generalizing t with
  | zero => exact List.suffix_rfl
  | succ steps ih =>
    have hblanks : t.dropWhile Text.isBlank <:+ t := List.dropWhile_suffix _
    rw [skip.go]
    split
    -- a comment: the line is skipped, and skipping begins again behind it
    · next rest hrest =>
      rw [hrest] at hblanks
      exact ((ih _).trans (List.dropWhile_suffix _)).trans ((List.suffix_cons _ _).trans hblanks)
    · exact hblanks

/-- What is skipped, in a mode that skips something, is at the front of the text. -/
theorem skip_isSuffix (m : Mode) (t : Text) : m.skip t <:+ t := by
  unfold skip
  split
  · exact skip_go_isSuffix _ t
  · exact List.suffix_rfl

/-- A character that is reached by skipping makes what follows it shorter than the text. -/
theorem length_lt_of_skip {m : Mode} {t u : Text} {c : Char} (h : m.skip t = c :: u) :
    u.length < t.length := by
  have := (m.skip_isSuffix t).length_le
  rw [h, List.length_cons] at this
  omega

end Mode

namespace PatternText

variable {m : Mode} {t u : Text}

/-- What follows a separator is the end of the text. -/
theorem splitOnce?_isSuffix {c : Char} {before : Text}
    (h : Text.splitOnce? c t = some (before, u)) : u <:+ t := by
  obtain ⟨rfl, -⟩ := Text.splitOnce?_eq_some h
  exact (List.suffix_cons _ _).trans (List.suffix_append _ _)

/-! ### Escapes -/

/-- A code point, between braces or with as many digits as its escape has. -/
theorem hex?_isSuffix {width : Nat} {c : Char} (h : hex? m width t = some (c, u)) : u <:+ t := by
  refine List.IsSuffix.trans ?_ (m.skip_isSuffix t)
  unfold hex? at h
  split at h
  -- between braces
  · next body hbody =>
    simp only [Option.bind_eq_bind, Option.bind_eq_some_iff] at h
    obtain ⟨⟨digits, after⟩, hsplit, n, -, d, -, hu⟩ := h
    cases hu
    rw [hbody]
    exact (splitOnce?_isSuffix hsplit).trans (List.suffix_cons _ _)
  -- with a fixed number of digits
  · dsimp only at h
    split at h
    · simp only [Option.bind_eq_bind, Option.bind_eq_some_iff] at h
      obtain ⟨n, -, d, -, hu⟩ := h
      cases hu
      exact List.drop_suffix _ _
    · cases h

/-- A word boundary, with or without a name between braces. -/
theorem edge?_isSuffix {a : Anchor} (h : edge? m t = some (a, u)) : u <:+ t := by
  unfold edge? at h
  generalize (if m.unicode then Anchor.wordEdge else .asciiWordEdge) = plain at h
  dsimp only at h
  split at h
  -- a letter or a hyphen behind a brace begins a name, and any other brace is left as it is
  · split at h
    · split at h
      · simp only [Option.bind_eq_bind, Option.bind_eq_some_iff] at h
        obtain ⟨⟨body, after⟩, hsplit, kind, -, hu⟩ := h
        cases hu
        exact (splitOnce?_isSuffix hsplit).trans (List.suffix_cons _ _)
      · cases h
        exact List.suffix_rfl
    · cases h
  · cases h
    exact List.suffix_rfl

/-- A property, by a name between braces or by one letter. -/
theorem property?_isSuffix {negated : Bool} {s : CharClass}
    (h : property? m negated t = some (s, u)) : u <:+ t := by
  refine List.IsSuffix.trans ?_ (m.skip_isSuffix t)
  unfold property? at h
  split at h
  · split at h
    · cases h
    · cases h
    · next rest hrest =>
      simp only [Option.bind_eq_bind, Option.bind_eq_some_iff] at h
      obtain ⟨⟨body, after⟩, hsplit, p, -, hu⟩ := h
      cases hu
      rw [hrest]
      exact (splitOnce?_isSuffix hsplit).trans (List.suffix_cons _ _)
    · next c rest _ _ hrest =>
      obtain ⟨p, -, hu⟩ := Option.map_eq_some_iff.mp h
      cases hu
      rw [hrest]
      exact List.suffix_cons _ _
  · cases h

/-- **Escapes** take their first character and what belongs to it. -/
theorem escape?_isSuffix {c : Char} {e : Escape} (h : escape? m (c :: t) = some (e, u)) :
    u <:+ t := by
  rcases escape?_cases m c with ⟨o, ho⟩ | ⟨negated, ho⟩ | ⟨width, -, ho⟩ | ho
  all_goals
    rw [ho, Option.map_eq_some_iff] at h
    obtain ⟨r, hr, hu⟩ := h
    cases hu
  · exact List.suffix_rfl
  · exact property?_isSuffix hr
  · exact hex?_isSuffix hr
  · exact edge?_isSuffix hr

/-- An escape takes at least one character. -/
theorem escape?_isSuffix_tail {e : Escape} (h : escape? m t = some (e, u)) : u <:+ t.tail := by
  cases t with
  | nil => cases h
  | cons c t => exact escape?_isSuffix h

/-! ### Classes -/

/-- The name of a class, with the colon and the bracket that end it. -/
theorem nameAfterSign?_isSuffix {negated : Bool} {s : CharClass}
    (h : nameAfterSign? negated t = some (s, u)) : u <:+ t := by
  unfold nameAfterSign? at h
  obtain ⟨⟨name, after⟩, hsplit, h⟩ := Option.bind_eq_some_iff.mp h
  dsimp only at h
  split at h
  · obtain ⟨s', -, hu⟩ := Option.bind_eq_some_iff.mp h
    cases hu
    exact (List.suffix_cons _ _).trans (splitOnce?_isSuffix hsplit)
  · cases h

/-- A class by name, with the mark that denies it if there is one. -/
theorem named?_isSuffix {s : CharClass} (h : named? t = some (s, u)) : u <:+ t := by
  by_cases ht : t.head? = some '^'
  · obtain ⟨rest, rfl⟩ := List.head?_eq_some_iff.mp ht
    exact (nameAfterSign?_isSuffix h).trans (List.suffix_cons _ _)
  · rw [named?_of_head? ht] at h
    exact nameAfterSign?_isSuffix h

/-- A member of a class takes at least one character. -/
theorem member?_isSuffix {r : Char ⊕ CharClass} (h : member? m t = some (r, u)) : u <:+ t.tail := by
  unfold member? at h
  split at h
  · cases h
  -- an escape is a member unless it is a condition on the position
  · obtain ⟨⟨e, after⟩, he, h⟩ := Option.bind_eq_some_iff.mp h
    have hafter := (escape?_isSuffix_tail he).trans (List.tail_suffix _)
    cases e with
    | literal c =>
      cases h
      exact hafter
    | set s =>
      cases h
      exact hafter
    | anchor a => cases h
  · split at h <;> cases h
    exact List.suffix_rfl

/-- The end of a range. -/
theorem lastOfRange?_isSuffix {first : Char ⊕ CharClass} {s : CharClass}
    (h : lastOfRange? m first t = some (s, u)) : u <:+ t := by
  unfold lastOfRange? at h
  obtain ⟨⟨last, rest⟩, hlast, h⟩ := Option.bind_eq_some_iff.mp h
  dsimp only at h
  split at h
  · split at h <;> cases h
    exact (member?_isSuffix hlast).trans (List.tail_suffix _)
  · cases h

/-- What follows the first member: the rest of a range, or nothing that belongs to it. -/
theorem afterMember?_isSuffix {first : Char ⊕ CharClass} {s : CharClass}
    (h : afterMember? m first t = some (s, u)) : u <:+ t := by
  unfold afterMember? at h
  split at h
  · cases h
  · next more =>
    split at h
    -- a hyphen at the end of the text or of the class, or before another hyphen
    · cases h
    · cases h
      exact List.suffix_rfl
    · cases h
      exact List.suffix_rfl
    · exact ((lastOfRange?_isSuffix h).trans (m.skip_isSuffix more)).trans (List.suffix_cons _ _)
  · cases h
    exact List.suffix_rfl

/-- A member or a range takes at least one character. -/
theorem memberOrRange?_isSuffix {s : CharClass} (h : memberOrRange? m t = some (s, u)) :
    u <:+ t.tail := by
  rw [memberOrRange?_eq] at h
  obtain ⟨⟨first, after⟩, hfirst, h⟩ := Option.bind_eq_some_iff.mp h
  exact ((afterMember?_isSuffix h).trans (m.skip_isSuffix after)).trans (member?_isSuffix hfirst)

/-- There is no member at the end of the text. -/
theorem ne_nil_of_memberOrRange? {s : CharClass} (h : memberOrRange? m t = some (s, u)) :
    t ≠ [] := by
  rintro rfl
  cases h

/-- The mark of a negated class, with blanks around it. -/
theorem sign_isSuffix (m : Mode) (t : Text) : (sign m t).2 <:+ t := by
  refine List.IsSuffix.trans ?_ (m.skip_isSuffix t)
  unfold sign
  split
  · next rest hrest =>
    rw [hrest]
    exact (m.skip_isSuffix rest).trans (List.suffix_cons _ _)
  · exact List.suffix_rfl

/-- Hyphens at the start of a class are members, and so is a closing bracket right there. -/
theorem afterSign_isSuffix (m : Mode) (negated : Bool) (t : Text) :
    (afterSign m negated t).2 <:+ t := by
  refine List.IsSuffix.trans ?_ ((m.skip_isSuffix _).trans (List.dropWhile_suffix (· = '-')))
  unfold afterSign
  dsimp only
  split
  · next rest _ hrest =>
    rw [hrest]
    exact List.suffix_cons _ _
  · exact List.suffix_rfl

/-- The opening of a class: its mark and the members that only stand at the start. -/
theorem opening_isSuffix (m : Mode) (t : Text) : (opening m t).2 <:+ t :=
  (afterSign_isSuffix m _ _).trans (sign_isSuffix m t)

/-- A class by name, with its opening colon. -/
theorem byName?_isSuffix {s : CharClass} (h : byName? t = some (s, u)) : u <:+ t := by
  unfold byName? at h
  split at h
  · exact (named?_isSuffix h).trans (List.suffix_cons _ _)
  · cases h

/-- A class with all that is nested in it, whatever classes are open around it. -/
theorem class?_isSuffix {steps : Nat} {o : OpenClass} {outer : List OpenClass} {s : CharClass}
    (h : class? m steps o outer t = some (s, u)) : u <:+ t := by
  -- the induction is on the steps; each case takes a piece and leaves the rest to the hypothesis
  induction steps generalizing o outer t with
  | zero => cases h
  | succ steps ih =>
    refine List.IsSuffix.trans ?_ (m.skip_isSuffix t)
    rcases class?_cases (m.skip t) with ⟨rest, hs⟩ | ⟨rest, hs⟩ | ⟨c, hc, rest, hs⟩ | hs
    · rw [class?_bracket hs] at h
      rw [hs]
      -- a class by name, or a class inside
      split at h
      · next hname =>
        exact ((ih h).trans (byName?_isSuffix hname)).trans (List.suffix_cons _ _)
      · exact ((ih h).trans (opening_isSuffix m rest)).trans (List.suffix_cons _ _)
    · rw [class?_close hs] at h
      rw [hs]
      obtain ⟨s', -, h⟩ := Option.bind_eq_some_iff.mp h
      -- the outermost class is at its end here, any other goes on with the one around it
      split at h
      · cases h
        exact List.suffix_cons _ _
      · exact (ih h).trans (List.suffix_cons _ _)
    · obtain ⟨o', ho'⟩ := class?_op m o outer hc
      rw [ho' hs] at h
      rw [hs]
      exact (ih h).trans ⟨[c, c], rfl⟩
    · rw [class?_member hs] at h
      obtain ⟨⟨s', after⟩, hmember, h⟩ := Option.bind_eq_some_iff.mp h
      exact (ih h).trans ((memberOrRange?_isSuffix hmember).trans (List.tail_suffix _))

/-- **Classes** take their text up to the bracket that closes them. -/
theorem readClass?_isSuffix {s : CharClass} (h : readClass? m t = some (s, u)) : u <:+ t :=
  (class?_isSuffix h).trans (opening_isSuffix m t)

/-! ### Repetitions -/

/-- One bound, with blanks around its digits. -/
theorem bound?_isSuffix {n : Nat} (h : bound? t = some (n, u)) : u <:+ t := by
  unfold bound? at h
  obtain ⟨k, -, hu⟩ := Option.bind_eq_some_iff.mp h
  cases hu
  exact ((List.dropWhile_suffix _).trans (List.dropWhile_suffix _)).trans (List.dropWhile_suffix _)

/-- The upper bound, with the brace behind it. -/
theorem upperBound?_isSuffix {min : Nat} {b : Nat × Option Nat}
    (h : upperBound? m min t = some (b, u)) : u <:+ t := by
  unfold upperBound? at h
  obtain ⟨⟨max, after⟩, hmax, h⟩ := Option.bind_eq_some_iff.mp h
  have hafter := (m.skip_isSuffix after).trans (bound?_isSuffix hmax)
  dsimp only at h
  split at h
  · next rest hrest =>
    rw [hrest] at hafter
    split at h <;> cases h
    exact (List.suffix_cons _ _).trans hafter
  · cases h

/-- What follows the lower bound: the brace, or a comma and the upper bound. -/
theorem afterLower?_isSuffix {min : Nat} {b : Nat × Option Nat}
    (h : afterLower? m min t = some (b, u)) : u <:+ t := by
  unfold afterLower? at h
  split at h
  · cases h
    exact List.suffix_cons _ _
  · next rest =>
    have hrest := (m.skip_isSuffix rest).trans (List.suffix_cons ',' rest)
    split at h
    · next after hafter =>
      rw [hafter] at hrest
      cases h
      exact (List.suffix_cons _ _).trans hrest
    · exact (upperBound?_isSuffix h).trans hrest
  · cases h

/-- **Bounds** of a repetition take their text up to the closing brace. -/
theorem bounds?_isSuffix {b : Nat × Option Nat} (h : bounds? m t = some (b, u)) : u <:+ t := by
  rw [bounds?_eq] at h
  obtain ⟨⟨min, after⟩, hmin, h⟩ := Option.bind_eq_some_iff.mp h
  have hafter := (m.skip_isSuffix after).trans (bound?_isSuffix hmin)
  exact ((afterLower?_isSuffix h).trans hafter).trans (m.skip_isSuffix t)

/-- The mark of a lazy repetition, if there is one. -/
theorem greed_isSuffix (t : Text) : (greed t).2 <:+ t := by
  unfold greed
  split
  · exact List.suffix_cons _ _
  · exact List.suffix_rfl

end PatternText

end VendorCli
