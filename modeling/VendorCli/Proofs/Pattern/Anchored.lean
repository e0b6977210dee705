import VendorCli.Proofs.Pattern.Enclosing
import VendorCli.Output.Rule
/-!
# Anchored patterns

A rule has its pattern read in a longer text, `^(?:` before it and `)$` behind it. The two readings
are compared step by step, and from that over a whole pattern:

* a pattern that is readable alone is readable in the group of the anchors, or a comment at its end
  takes the anchor with it (`ending_of_run?`);
* a pattern that is readable in the group is readable alone, if it does not close the group
  (`fits_of_within`).

So a regular expression becomes the same one between the anchors, unless a comment or a limit is in
the way (`ofText?_anchored_of_enclosable`, `enclosable_of_anchored`). What else the anchors make a
regular expression of closes more than it opens (`overcloses_of_anchored`), and is none by itself
(`ofText?_of_overcloses`).
-/

namespace VendorCli

/-- A pattern that has to match from the start of a text to its end. -/
def Pattern.onWholeLine (p : Pattern) : Pattern :=
  .seq (.seq (.anchor .startText) p) (.anchor .endText)

namespace PatternText

/-! ### Places of a reading -/

/-- The reading of a pattern before its first step. -/
def start : Reading := ⟨Mode.initial, 0, [], ⟨none, Mode.initial, [], []⟩, []⟩

/-- A reading gets from one place in a text to another. -/
inductive Reads : Reading → Text → Reading → Text → Prop
  | refl (r : Reading) (t : Text) : Reads r t r t
  | step {r r' e : Reading} {t u v rest : Text} {c : Char} (hskip : r.mode.skip t = c :: rest)
    (hstep : step? r c rest = some (r', u)) (h : Reads r' u e v) : Reads r t e v

/-- A pattern has a closing parenthesis that closes none of its groups, and the reading comes to
it. -/
def Overcloses (pattern : Text) : Prop :=
  ∃ r t rest, Reads start pattern r t ∧ r.outer = [] ∧ r.mode.skip t = ')' :: rest

section Reads

variable {r r' e : Reading} {t u v rest : Text} {c : Char}

/-- From the end of the text a reading gets nowhere else. -/
theorem reads_nil_iff (h : r.mode.skip t = []) : Reads r t e v ↔ e = r ∧ v = t := by
  constructor
  · intro hreads
    cases hreads with
    | refl => exact ⟨rfl, rfl⟩
    | step hskip => rw [h] at hskip; cases hskip
  · rintro ⟨rfl, rfl⟩
    exact .refl _ _

/-- A reading stays where it is, or goes on from where its step leads. -/
theorem reads_cons_iff (hskip : r.mode.skip t = c :: rest) (hstep : step? r c rest = some (r', u)) :
    Reads r t e v ↔ (e = r ∧ v = t) ∨ Reads r' u e v := by
  constructor
  · intro hreads
    cases hreads with
    | refl => exact .inl ⟨rfl, rfl⟩
    | step hskip' hstep' h =>
      -- the step is determined by the place
      rw [hskip] at hskip'
      cases hskip'
      rw [hstep] at hstep'
      cases hstep'
      exact .inr h
  · rintro (⟨rfl, rfl⟩ | h)
    · exact .refl _ _
    · exact .step hskip hstep h

/-- At the end of the text, outside all groups, the reading is done. -/
theorem run?_of_nil {n : Nat} (hskip : r.mode.skip t = []) (houter : r.outer = []) :
    run? (n + 1) r t = some r := by
  rw [run?, hskip]
  simp [houter]

/-- Otherwise it goes on with a step. -/
theorem run?_of_cons {n : Nat} (hskip : r.mode.skip t = c :: rest)
    (hstep : step? r c rest = some (r', u)) : run? (n + 1) r t = run? n r' u := by
  rw [run?, hskip]
  simp [hstep]

/-- A reading is at its end outside all groups, or takes a step. -/
theorem run?_eq_some_iff {n : Nat} :
    run? (n + 1) r t = some e ↔
      (r.mode.skip t = [] ∧ r.outer = [] ∧ e = r) ∨
      ∃ c rest r' u, r.mode.skip t = c :: rest ∧ step? r c rest = some (r', u) ∧
        run? n r' u = some e := by
  constructor
  · intro h
    rw [run?] at h
    split at h
    · next hskip =>
      split at h <;> cases h
      next houter => exact .inl ⟨hskip, List.isEmpty_iff.mp houter, rfl⟩
    · next c rest hskip =>
      obtain ⟨⟨r', u⟩, hstep, h⟩ := Option.bind_eq_some_iff.mp h
      exact .inr ⟨c, rest, r', u, hskip, hstep, h⟩
  · rintro (⟨hskip, houter, rfl⟩ | ⟨c, rest, r', u, hskip, hstep, h⟩)
    · exact run?_of_nil hskip houter
    · rw [run?_of_cons hskip hstep, h]

/-- A parenthesis that closes nothing is read nowhere. -/
theorem run?_eq_none (h : Reads r t e v) (houter : e.outer = [])
    (hskip : e.mode.skip v = ')' :: rest) (n : Nat) : run? n r t = none := by
  -- the induction is on the way to the parenthesis; the number of steps may end the run earlier
  induction h generalizing n with
  | refl r t =>
    cases n with
    | zero => rfl
    | succ n =>
      rw [run?, hskip]
      simp [step?, Reading.closeGroup?, houter]
  | step hskip' hstep _ ih =>
    cases n with
    | zero => rfl
    | succ n =>
      rw [run?_of_cons hskip' hstep]
      exact ih houter hskip n

end Reads

/-- What a closing parenthesis closes is open. -/
theorem outer_ne_nil_of_step? {r r' : Reading} {t u : Text} (h : step? r ')' t = some (r', u)) :
    r.outer ≠ [] := by
  intro houter
  simp [step?, Reading.closeGroup?, houter] at h

/-! ### The closing text -/

/-- The reading after the group around a pattern has been closed, and the end anchored. -/
def enclose (g : OpenGroup) (r : Reading) : Reading :=
  { r with
    mode := Mode.initial
    inner := { g with items := .part (anchorPart .endText) :: .part r.inner.content :: g.items }
    outer := [] }

section Run

variable {g : OpenGroup} {r e : Reading} {t : Text}

/-- Nothing closes a group that is not open. -/
theorem run?_closing_eq_none (h : r.outer = []) (n : Nat) : run? n r closing = none :=
  run?_eq_none (.refl r closing) h (Mode.skip_cons (by decide) (by decide) _ _) n

/-- A run looks at no more than what is left by skipping. -/
theorem run?_of_skip_eq {n : Nat} {t u : Text} (h : r.mode.skip t = r.mode.skip u) :
    run? n r t = run? n r u := by
  cases n with
  | zero => rfl
  | succ n => rw [run?, run?, h]

/-- With no group of the pattern open, the closing text closes the one around it and is read to its
end. -/
theorem run?_within_closing {n : Nat} (h : r.outer = []) (hroot : r.Rooted) :
    run? (n + 3) (r.within g) closing = some (enclose g r) := by
  -- the group at hand is the outermost one, of which the invariant speaks
  have hinner : r.root = r.inner := by rw [Reading.root, h, List.getLastD_nil]
  have hindex : r.inner.index = none := hinner ▸ hroot.index
  have hmode : r.inner.outerMode = Mode.initial := hinner ▸ hroot.outerMode
  -- the parenthesis is one step, and the dollar sign another
  have hclose : step? (r.within g) ')' ['$'] = some ({ r with
      mode := Mode.initial
      inner := { g with items := .part r.inner.content :: g.items }
      outer := [] }, ['$']) := by
    simp [step?, Reading.closeGroup?, h, hindex, hmode]
  rw [closing, run?_of_cons (Mode.skip_cons (by decide) (by decide) _ _) hclose,
    run?_of_cons (Mode.skip_cons (by decide) (by decide) _ _) rfl]
  rfl

/-- The closing text closes one group only. -/
theorem run?_within_closing_eq_none {n : Nat} (h : r.outer ≠ []) (hroom : r.HasRoom) :
    run? n (r.within g) closing = none := by
  have hwithin : step? (r.within g) ')' ['$'] = inside g (step? r ')' ['$']) :=
    step?_within hroom fun _ => h
  cases n with
  | zero => rfl
  | succ n =>
    cases hstep : step? (r.within g) ')' ['$'] with
    | none =>
      rw [run?, closing, Mode.skip_cons (by decide) (by decide)]
      simp [hstep]
    | some p =>
      obtain ⟨x, v⟩ := p
      rw [hstep] at hwithin
      obtain ⟨r', hr', -, rfl⟩ := inside_eq_some_iff.mp hwithin.symm
      rw [closing, run?_of_cons (Mode.skip_cons (by decide) (by decide) _ _) hstep]
      exact stuck_of_isSuffix (advances_of_step? hr').isSuffix n _ rfl Reading.within_outer_ne_nil

/-- **Endings.** How a pattern that is read to its end goes on with the closing text behind it,
outside the group around it and inside. -/
inductive Ending (g : OpenGroup) (k : Nat) (r : Reading) (t : Text) (e : Reading) : Prop
  /-- The closing text closes the group, and closes too much outside it. -/
  | closed (hown : run? k r (t ++ closing) = none)
    (hin : run? k (r.within g) (t ++ closing) = some (enclose g e))
  /-- A comment at the end of the pattern runs over the closing text, so the group stays open. -/
  | comment (hown : run? k r (t ++ closing) = some e)
    (hin : run? k (r.within g) (t ++ closing) = none)

/-- At the end of the pattern the closing text follows, or a comment has taken it. -/
theorem Ending.of_nil {k : Nat} (hskip : r.mode.skip t = []) (houter : r.outer = [])
    (hroot : r.Rooted) : Ending g (k + 3) r t r := by
  rcases Mode.skip_closing_of_nil hskip with hs | hs
  · refine .closed ?_ ?_
    · rw [run?_of_skip_eq hs]
      exact run?_closing_eq_none houter _
    · rw [run?_of_skip_eq (r := r.within g) hs]
      exact run?_within_closing houter hroot
  · refine .comment (run?_of_nil hs houter) ?_
    rw [run?, Reading.within_mode, hs]
    simp

/-- A step that is the same outside the group and inside keeps the way the pattern ends. -/
theorem Ending.of_step {k : Nat} {r' : Reading} {u v : Text} {c : Char}
    (h : Ending g k r' u e) (hskip : r.mode.skip (t ++ closing) = c :: v)
    (hown : step? r c v = some (r', u ++ closing))
    (hin : step? (r.within g) c v = some (r'.within g, u ++ closing)) :
    Ending g (k + 1) r t e := by
  have hskip' : (r.within g).mode.skip (t ++ closing) = c :: v := hskip
  cases h with
  | closed howns hins =>
    exact .closed (by rw [run?_of_cons hskip hown, howns]) (by rw [run?_of_cons hskip' hin, hins])
  | comment howns hins =>
    exact .comment (by rw [run?_of_cons hskip hown, howns]) (by rw [run?_of_cons hskip' hin, hins])

/-- **Readable patterns.** A pattern that is read to its end, with room for a group around it all
along, ends in one of the two ways. -/
theorem ending_of_run? {n k : Nat} (hrun : run? n r t = some e) (hk : (t ++ closing).length < k)
    (hroot : r.Rooted) (hroom : ∀ r' u, Reads r t r' u → r'.HasRoom) : Ending g k r t e := by
  -- the steps of the pattern are made in both texts alike, until it ends
  induction n generalizing r t k with
  | zero => cases hrun
  | succ n ih =>
    rw [List.length_append] at hk
    have hlength : closing.length = 2 := rfl
    obtain ⟨k, rfl⟩ : ∃ l, k = l + 3 := ⟨k - 3, by omega⟩
    rcases run?_eq_some_iff.mp hrun with
      ⟨hskip, houter, rfl⟩ | ⟨c, rest, r', u, hskip, hstep, hrun⟩
    · exact .of_nil hskip houter hroot
    · -- the pattern is read without the group around it, so the step does not close that
      have hs := Mode.skip_closing_of_cons hskip
      have hadvances := advances_of_step? hstep
      have hroom' : ∀ r'' v, Reads r' u r'' v → r''.HasRoom :=
        fun r'' v h => hroom r'' v (.step hskip hstep h)
      have hwithin : step? (r.within g) c (rest ++ closing)
          = inside g (step? r c (rest ++ closing)) :=
        step?_within (hroom r t (.refl r t)) fun hc => outer_ne_nil_of_step? (hc ▸ hstep)
      cases step?_closing r c rest with
      | same h =>
        rw [hstep] at h
        rw [h, Option.map_some, withClosing,
          inside_of_hasRoom (hroom' r' u (.refl r' u))] at hwithin
        -- there are as many steps left as characters, with two to spare for the closing text
        have hk' : (u ++ closing).length < k + 2 := by
          have hrest := r.mode.length_lt_of_skip hskip
          have hu : u.length ≤ rest.length := hadvances.isSuffix.length_le
          rw [List.length_append]
          omega
        exact (ih hrun hk' (hroot.of_moves hadvances.moves) hroom').of_step hs h hwithin
      | swallowed r₁ hown hext =>
        rw [hstep] at hown
        cases hown
        rw [hext, inside_of_hasRoom (hroom' r' [] (.refl r' []))] at hwithin
        -- a comment at the end: without the group the text is read, and inside the group stays open
        refine .comment ?_ ?_
        · rw [run?_of_cons hs hext, ← hrun]
          cases n with
          | zero => cases hrun
          | succ n => exact run?_steps (Nat.succ_pos _) (Nat.succ_pos _)
        · rw [run?_of_cons (r := r.within g) hs hwithin]
          exact stuck_nil _ _ _ rfl Reading.within_outer_ne_nil
      | lost hown hext =>
        -- a step of the pattern alone is there, so it cannot be lost
        rw [hstep] at hown
        cases hown

/-- **Fitting.** A text is read to its end, and there is room for a group around it all along. -/
structure Fits (n : Nat) (r : Reading) (t : Text) : Prop where
  exists_run? : ∃ e, run? n r t = some e
  hasRoom : ∀ r' u, Reads r t r' u → r'.HasRoom

/-- A text that is at its end fits if there is room now. -/
theorem Fits.of_nil {n : Nat} (hskip : r.mode.skip t = []) (houter : r.outer = [])
    (hroom : r.HasRoom) : Fits (n + 1) r t where
  exists_run? := ⟨r, run?_of_nil hskip houter⟩
  hasRoom r' u h := by
    obtain ⟨rfl, -⟩ := (reads_nil_iff hskip).mp h
    exact hroom

/-- A text fits if there is room now, and what a step leaves fits. -/
theorem Fits.of_step {n : Nat} {r' : Reading} {u rest : Text} {c : Char} (h : Fits n r' u)
    (hskip : r.mode.skip t = c :: rest) (hstep : step? r c rest = some (r', u))
    (hroom : r.HasRoom) : Fits (n + 1) r t where
  exists_run? := by
    rw [run?_of_cons hskip hstep]
    exact h.exists_run?
  hasRoom r'' v hreads := by
    rcases (reads_cons_iff hskip hstep).mp hreads with ⟨rfl, -⟩ | hreads
    · exact hroom
    · exact h.hasRoom r'' v hreads

/-- **Patterns that are readable in a group.** A pattern that comes to no parenthesis too many fits
without the group around it and the closing text. -/
theorem fits_of_within {n k : Nat} (hrun : run? k (r.within g) (t ++ closing) = some e)
    (hn : t.length < n) (hroom : r.HasRoom)
    (hclose : ∀ r' u rest, Reads r t r' u → r'.outer = [] → r'.mode.skip u ≠ ')' :: rest) :
    Fits n r t := by
  -- the induction is on the run inside; what it does is traced back to the pattern alone
  induction k generalizing r t n with
  | zero => cases hrun
  | succ k ih =>
    obtain ⟨n, rfl⟩ : ∃ l, n = l + 1 := ⟨n - 1, by omega⟩
    rcases run?_eq_some_iff.mp hrun with ⟨-, houter, -⟩ | ⟨c, v, x, w, hs, hwithin, hrun'⟩
    · exact (Reading.within_outer_ne_nil houter).elim
    rw [Reading.within_mode] at hs
    cases hskip : r.mode.skip t with
    | nil =>
      rcases Mode.skip_closing_of_nil hskip with hs' | hs'
      · rw [run?_of_skip_eq (r := r.within g) hs'] at hrun
        -- with a group of the pattern still open, the closing text is not enough
        by_cases houter : r.outer = []
        · exact .of_nil hskip houter hroom
        · rw [run?_within_closing_eq_none houter hroom] at hrun
          cases hrun
      · rw [hs] at hs'
        cases hs'
    | cons d rest =>
      rw [Mode.skip_closing_of_cons hskip] at hs
      cases hs
      -- what the step leaves open has room, or it would be no step inside the group
      rw [step?_within hroom fun hc houter =>
        hclose r t rest (.refl r t) houter (hc ▸ hskip)] at hwithin
      obtain ⟨r', hstep, hroom', rfl⟩ := inside_eq_some_iff.mp hwithin
      cases step?_closing r c rest with
      | same h =>
        rw [hstep] at h
        obtain ⟨⟨r₁, u⟩, hown, hmore⟩ := Option.map_eq_some_iff.mp h.symm
        obtain ⟨rfl, rfl⟩ : r₁ = r' ∧ u ++ closing = w := Prod.mk.inj hmore
        have hrest := r.mode.length_lt_of_skip hskip
        have hu : u.length ≤ rest.length := (advances_of_step? hown).isSuffix.length_le
        have hclose' : ∀ r' w rest', Reads r₁ u r' w → r'.outer = [] →
            r'.mode.skip w ≠ ')' :: rest' :=
          fun r' w rest' h => hclose r' w rest' (.step hskip hown h)
        exact (ih hrun' (by omega) hroom' hclose').of_step hskip hown hroom
      | swallowed r₁ hown hext =>
        rw [hstep] at hext
        -- a comment runs over the closing text, and inside nothing closes the group
        cases hext
        rw [stuck_nil _ k _ rfl Reading.within_outer_ne_nil] at hrun'
        cases hrun'
      | lost hown hext =>
        -- the step only exists with the closing text, and leads nowhere
        rw [hext r' w hstep k (r'.within g) rfl Reading.within_outer_ne_nil] at hrun'
        cases hrun'

end Run

/-! ### The text between the anchors -/

/-- The group that the anchored text of a pattern is in. -/
def anchorGroup : OpenGroup := ⟨none, Mode.initial, [], [.part (anchorPart .startText)]⟩

/-- The regular expression of a reading at the end of its text. -/
def Reading.regex? (r : Reading) : Option Regex :=
  if r.inner.content.size ≤ sizeLimit then
    some ⟨r.inner.content.pattern,
      r.names.filter fun n => n.1 ∈ r.inner.content.pattern.groupIndices⟩
  else none

/-- A regular expression is what a text is read to, within the limit of its size. -/
theorem ofText?_eq (t : Text) :
    Regex.ofText? t = (run? (t.length + 1) start t).bind Reading.regex? := rfl

/-- What the anchors and the group between them add to the size of a pattern. -/
def anchorSize : Nat := 112

/-- The anchors around a reading add them to the pattern and their share to its size. -/
theorem regex?_enclose (r : Reading) :
    (enclose anchorGroup r).regex? =
      if r.inner.content.size + anchorSize ≤ sizeLimit then
        some ⟨r.inner.content.pattern.onWholeLine,
          r.names.filter fun n => n.1 ∈ r.inner.content.pattern.groupIndices⟩
      else none := by
  have hpattern : (enclose anchorGroup r).inner.content.pattern
      = r.inner.content.pattern.onWholeLine := rfl
  have hsize : (enclose anchorGroup r).inner.content.size
      = r.inner.content.size + anchorSize := by
    change 32 + (r.inner.content.size + (32 + 0)) + 0 + 48 = r.inner.content.size + 112
    omega
  have hindices : r.inner.content.pattern.onWholeLine.groupIndices
      = r.inner.content.pattern.groupIndices := by
    simp [Pattern.onWholeLine, Pattern.groupIndices]
  rw [Reading.regex?, hpattern, hsize, hindices]
  rfl

/-- The anchored text is read from inside the group, once the text before the pattern is passed. -/
theorem ofText?_anchored (pattern : Text) :
    Regex.ofText? (CompiledRule.anchored pattern) =
      (run? (pattern.length + 5) (start.within anchorGroup) (pattern ++ closing)).bind
        Reading.regex? := by
  -- the anchors have six characters, and the first two steps take those before the pattern
  have hlength : (CompiledRule.anchored pattern).length + 1 = pattern.length + 7 := by
    simp [CompiledRule.anchored]
  rw [ofText?_eq, hlength]
  rfl

/-- **Room for the anchors.** With a group around the pattern and the anchors, neither limit is
passed. -/
structure Roomy (pattern : Text) : Prop where
  nesting : ∀ r t, Reads start pattern r t → r.HasRoom
  size : ∀ r, run? (pattern.length + 1) start pattern = some r →
    r.inner.content.size + anchorSize ≤ sizeLimit

/-- **Patterns that can be anchored.** What is written behind the pattern is not taken by a comment
in it, as it is if the pattern and an unmatched parenthesis are a pattern, and there is room. -/
structure Enclosable (pattern : Text) : Prop where
  no_comment : Regex.ofText? (pattern ++ closing) = none
  roomy : Roomy pattern

section Anchored

variable {pattern : Text} {own r : Regex}

/-- Before the first step the outermost group is the pattern itself. -/
theorem rooted_start : start.Rooted := ⟨rfl, rfl⟩

/-- Before the first step there is room. -/
theorem hasRoom_start : start.HasRoom := by decide

/-- An unmatched parenthesis makes a pattern unreadable. -/
theorem ofText?_of_overcloses (h : Overcloses pattern) : Regex.ofText? pattern = none := by
  obtain ⟨r, t, rest, hreads, houter, hskip⟩ := h
  rw [ofText?_eq, run?_eq_none hreads houter hskip]
  rfl

/-- Both numbers of steps are enough for the pattern with the closing text. -/
theorem run?_pattern_closing :
    run? ((pattern ++ closing).length + 1) start (pattern ++ closing)
      = run? (pattern.length + 5) start (pattern ++ closing) := by
  have hlength : closing.length = 2 := rfl
  exact run?_steps (by omega) (by rw [List.length_append]; omega)

/-- The steps after the opening anchor are more than the characters left. -/
theorem length_closing_lt : (pattern ++ closing).length < pattern.length + 5 := by
  have hlength : closing.length = 2 := rfl
  rw [List.length_append]
  omega

/-- **Anchoring.** A pattern that can be anchored is the same between the anchors. -/
theorem ofText?_anchored_of_enclosable (h : Regex.ofText? pattern = some own)
    (henclosable : Enclosable pattern) :
    Regex.ofText? (CompiledRule.anchored pattern) = some ⟨own.pattern.onWholeLine, own.names⟩ := by
  rw [ofText?_eq] at h
  obtain ⟨e, hrun, hown⟩ := Option.bind_eq_some_iff.mp h
  have hending : Ending anchorGroup (pattern.length + 5) start pattern e :=
    ending_of_run? hrun length_closing_lt rooted_start henclosable.roomy.nesting
  cases hending with
  | closed _ hwithin =>
    rw [ofText?_anchored, hwithin, Option.bind_some, regex?_enclose,
      if_pos (henclosable.roomy.size e hrun)]
    unfold Reading.regex? at hown
    split at hown <;> cases hown
    rfl
  -- the comment would make a regular expression of the pattern with the closing text
  | comment hcomment _ =>
    have hnone := henclosable.no_comment
    rw [ofText?_eq, run?_pattern_closing, hcomment, Option.bind_some, hown] at hnone
    cases hnone

/-- Between the anchors nothing becomes readable but patterns that close more than they open. -/
theorem exists_run?_of_anchored (hclose : ¬ Overcloses pattern)
    (hanchored : Regex.ofText? (CompiledRule.anchored pattern) = some r) :
    ∃ e, run? (pattern.length + 1) start pattern = some e ∧ Enclosable pattern := by
  rw [ofText?_anchored] at hanchored
  obtain ⟨x, hwithin, hx⟩ := Option.bind_eq_some_iff.mp hanchored
  have hfits : Fits (pattern.length + 1) start pattern :=
    fits_of_within hwithin (Nat.lt_succ_self _) hasRoom_start fun r t rest hreads houter hskip =>
      hclose ⟨r, t, rest, hreads, houter, hskip⟩
  obtain ⟨e, hrun⟩ := hfits.exists_run?
  have hending : Ending anchorGroup (pattern.length + 5) start pattern e :=
    ending_of_run? hrun length_closing_lt rooted_start hfits.hasRoom
  cases hending with
  -- the two runs inside the group are one, so its size is within the limit
  | closed hcomment hwithin' =>
    rw [hwithin] at hwithin'
    cases hwithin'
    rw [regex?_enclose] at hx
    split at hx
    · next hsize =>
      refine ⟨e, hrun, ⟨?_, ⟨hfits.hasRoom, fun r hr => ?_⟩⟩⟩
      · rw [ofText?_eq, run?_pattern_closing, hcomment]
        rfl
      · rw [hrun] at hr
        cases hr
        exact hsize
    · cases hx
  -- a comment would leave the group open, and the anchored text is no regular expression then
  | comment _ hwithin' =>
    rw [hwithin] at hwithin'
    cases hwithin'

/-- What is a regular expression by itself and between the anchors can be anchored. -/
theorem enclosable_of_anchored (h : Regex.ofText? pattern = some own)
    (hanchored : Regex.ofText? (CompiledRule.anchored pattern) = some r) : Enclosable pattern := by
  have hclose : ¬ Overcloses pattern := by
    intro hclose
    rw [ofText?_of_overcloses hclose] at h
    cases h
  obtain ⟨e, -, henclosable⟩ := exists_run?_of_anchored hclose hanchored
  exact henclosable

/-- What is one only between the anchors closes a group too many. -/
theorem overcloses_of_anchored (h : Regex.ofText? pattern = none)
    (hanchored : Regex.ofText? (CompiledRule.anchored pattern) = some r) : Overcloses pattern := by
  by_contra hclose
  -- otherwise the pattern is read to its end by itself, and within the limit
  obtain ⟨e, hrun, henclosable⟩ := exists_run?_of_anchored hclose hanchored
  have hsize : e.inner.content.size ≤ sizeLimit :=
    (Nat.le_add_right _ _).trans (henclosable.roomy.size e hrun)
  rw [ofText?_eq, hrun, Option.bind_some, Reading.regex?, if_pos hsize] at h
  cases h

end Anchored

end PatternText

end VendorCli
