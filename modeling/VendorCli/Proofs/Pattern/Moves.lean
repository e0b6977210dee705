import VendorCli.Proofs.Pattern.Remainders
/-!
# Steps through a pattern

What one step through a pattern does (`advances_of_step?`): it takes something from the front of the
text, and stays in the group at hand, opens a group or closes one. So a text gets shorter with every
step, and the number of steps that is counted down is never the reason to stop (`run?_steps`); and
the outermost group remains the pattern itself (`Reading.Rooted.of_moves`).
-/

namespace VendorCli.PatternText

/-- **The open groups.** A step stays in the group at hand, opens a group or closes one. -/
inductive Moves (r r' : Reading) : Prop
  | stay (houter : r'.outer = r.outer) (hindex : r'.inner.index = r.inner.index)
    (hmode : r'.inner.outerMode = r.inner.outerMode)
  | opened (houter : r'.outer = r.inner :: r.outer)
  | closed (g : OpenGroup) (houter : r.outer = g :: r'.outer) (hindex : r'.inner.index = g.index)
    (hmode : r'.inner.outerMode = g.outerMode)

/-- What a step does to the open groups and to the text. -/
structure Advances (r : Reading) (t : Text) (r' : Reading) (u : Text) : Prop where
  moves : Moves r r'
  isSuffix : u <:+ t

section Steps

variable {r r' : Reading} {t u : Text}

/-- A part that is added stays in the group at hand. -/
theorem advances_push (p : Part) (h : u <:+ t) : Advances r t (r.push p) u :=
  ⟨.stay rfl rfl rfl, h⟩

/-- A repetition replaces the latest part of the group at hand. -/
theorem moves_of_repeat? {greedy : Bool} {min : Nat} {max : Option Nat}
    (h : r.repeat? greedy min max = some r') : Moves r r' := by
  unfold Reading.repeat? at h
  -- there is a latest part, and its repetition is not too large
  split at h
  · dsimp only at h
    split at h <;> cases h
    exact .stay rfl rfl rfl
  · cases h

/-- A repetition takes the mark of a lazy one along, if there is one. -/
theorem advances_of_repetition? {min : Nat} {max : Option Nat}
    (h : repetition? r min max t = some (r', u)) : Advances r t r' u := by
  obtain ⟨r₁, hr₁, h⟩ := Option.map_eq_some_iff.mp h
  cases h
  exact ⟨moves_of_repeat? hr₁, greed_isSuffix t⟩

/-- A group that is opened puts the one at hand among the outer ones. -/
theorem outer_of_openGroup? {index : Option Nat} {m : Mode} (h : r.openGroup? index m = some r') :
    r'.outer = r.inner :: r.outer := by
  unfold Reading.openGroup? at h
  split at h <;> cases h
  rfl

/-- A group that is closed goes back to the one around it. -/
theorem moves_of_closeGroup? (h : r.closeGroup? = some r') : Moves r r' := by
  unfold Reading.closeGroup? at h
  split at h
  · cases h
  · next g more houter =>
    cases h
    exact .closed g houter rfl rfl

/-- A group with a name is opened behind the bracket that ends the name. -/
theorem advances_of_namedGroup? (h : namedGroup? r t = some (r', u)) : Advances r t r' u := by
  unfold namedGroup? at h
  obtain ⟨⟨name, rest⟩, hsplit, h⟩ := Option.bind_eq_some_iff.mp h
  dsimp only at h
  split at h
  -- the name is a new one, and the rest of the text begins behind its bracket
  · obtain ⟨opened, hopened, h⟩ := Option.bind_eq_some_iff.mp h
    have houter := outer_of_openGroup? hopened
    cases h
    exact ⟨.opened houter, splitOnce?_isSuffix hsplit⟩
  · cases h

/-- Flags before a colon open a group, and flags before a parenthesis change the mode of the group
at hand. -/
theorem advances_of_flagged? (h : flagged? r t = some (r', u)) : Advances r t r' u := by
  have hflags : t.dropWhile (fun c => c ≠ ':' ∧ c ≠ ')') <:+ t := List.dropWhile_suffix _
  unfold flagged? at h
  dsimp only at h
  split at h
  · next after hafter =>
    rw [hafter] at hflags
    obtain ⟨m, -, h⟩ := Option.bind_eq_some_iff.mp h
    obtain ⟨opened, hopened, h⟩ := Option.bind_eq_some_iff.mp h
    cases h
    exact ⟨.opened (outer_of_openGroup? hopened), (List.suffix_cons _ _).trans hflags⟩
  · next after _ hafter =>
    rw [hafter] at hflags
    split at h
    · cases h
    · obtain ⟨m, -, h⟩ := Option.bind_eq_some_iff.mp h
      cases h
      exact ⟨.stay rfl rfl rfl, (List.suffix_cons _ _).trans hflags⟩
  · cases h

/-- A parenthesis opens a group or changes the mode. -/
theorem advances_of_group? (h : group? r t = some (r', u)) : Advances r t r' u := by
  have hskip := r.mode.skip_isSuffix t
  rw [group?_eq] at h
  generalize r.mode.skip t = s at h hskip
  -- blanks and comments before the group are taken along with it
  suffices hs : Advances r s r' u from ⟨hs.moves, hs.isSuffix.trans hskip⟩
  unfold groupBefore? at h
  -- groups that look around are refused
  split at h
  · cases h
  · cases h
  · cases h
  · cases h
  · have := advances_of_namedGroup? h
    exact ⟨this.moves, this.isSuffix.trans ⟨['?', 'P', '<'], rfl⟩⟩
  · have := advances_of_namedGroup? h
    exact ⟨this.moves, this.isSuffix.trans ⟨['?', '<'], rfl⟩⟩
  · have := advances_of_flagged? h
    exact ⟨this.moves, this.isSuffix.trans (List.suffix_cons _ _)⟩
  -- a group with a number
  · obtain ⟨opened, hopened, h⟩ := Option.bind_eq_some_iff.mp h
    have houter := outer_of_openGroup? hopened
    cases h
    exact ⟨.opened houter, List.suffix_rfl⟩

/-- **One step.** -/
theorem advances_of_step? {c : Char} (h : step? r c t = some (r', u)) : Advances r t r' u := by
  unfold step? at h
  dsimp only at h
  -- one case for each character that means something, in the order of `step?`
  split at h
  · exact advances_of_group? h
  · obtain ⟨r₁, hr₁, h⟩ := Option.map_eq_some_iff.mp h
    cases h
    exact ⟨moves_of_closeGroup? hr₁, List.suffix_rfl⟩
  · -- another branch
    cases h
    exact ⟨.stay rfl rfl rfl, List.suffix_rfl⟩
  · -- a class
    obtain ⟨⟨s, after⟩, hclass, h⟩ := Option.map_eq_some_iff.mp h
    cases h
    exact advances_push _ (readClass?_isSuffix hclass)
  · -- the marks `?`, `*` and `+`
    exact advances_of_repetition? h
  · exact advances_of_repetition? h
  · exact advances_of_repetition? h
  · -- a repetition with bounds
    obtain ⟨⟨⟨min, max⟩, after⟩, hbounds, h⟩ := Option.bind_eq_some_iff.mp h
    have hafter := advances_of_repetition? h
    exact ⟨hafter.moves, (hafter.isSuffix.trans (r.mode.skip_isSuffix after)).trans
      (bounds?_isSuffix hbounds)⟩
  · -- the dot
    obtain ⟨s, -, h⟩ := Option.map_eq_some_iff.mp h
    cases h
    exact advances_push _ List.suffix_rfl
  · -- the anchors
    cases h
    exact advances_push _ List.suffix_rfl
  · cases h
    exact advances_push _ List.suffix_rfl
  · -- an escape
    obtain ⟨⟨e, after⟩, he, h⟩ := Option.bind_eq_some_iff.mp h
    have hafter := (escape?_isSuffix_tail he).trans (List.tail_suffix _)
    cases e with
    | literal c =>
      dsimp only at h
      split at h <;> cases h
      exact advances_push _ hafter
    | set s =>
      cases h
      exact advances_push _ hafter
    | anchor a =>
      cases h
      exact advances_push _ hafter
  · -- any other character stands for itself
    cases h
    exact advances_push _ List.suffix_rfl

/-- The steps that are counted down are enough once there are more than characters. -/
theorem run?_steps {n k : Nat} (hn : t.length < n) (hk : t.length < k) :
    run? n r t = run? k r t := by
  -- `k` is a successor like `n`, so both runs make the step
  induction n generalizing k r t with
  | zero => cases hn
  | succ n ih =>
    obtain ⟨k, rfl⟩ : ∃ l, k = l + 1 := ⟨k - 1, by omega⟩
    rw [run?, run?]
    cases ht : r.mode.skip t with
    | nil => rfl
    | cons c rest =>
      have hrest := r.mode.length_lt_of_skip ht
      cases hstep : step? r c rest with
      | none => simp [hstep]
      | some s =>
        -- the step leaves fewer characters, and both numbers are still above their count
        have := (advances_of_step? hstep).isSuffix.length_le
        simp only [hstep]
        exact ih (by omega) (by omega)

end Steps

/-! ### The outermost group -/

/-- The outermost group. -/
def Reading.root (r : Reading) : OpenGroup :=
  r.outer.getLastD r.inner

/-- The outermost group is the pattern itself: it captures nothing, and is in the initial mode. -/
structure Reading.Rooted (r : Reading) : Prop where
  index : r.root.index = none
  outerMode : r.root.outerMode = Mode.initial

/-- **The invariant.** No step changes the outermost group: a group that is opened or closed lies
inside it. -/
theorem Reading.Rooted.of_moves {r r' : Reading} (h : r.Rooted) (hmoves : Moves r r') :
    r'.Rooted := by
  have hroot : r'.root.index = r.root.index ∧ r'.root.outerMode = r.root.outerMode := by
    unfold Reading.root
    -- the outermost group is the last of the outer ones, or the one at hand if there are none
    cases hmoves with
    | stay houter hindex hmode =>
      rw [houter]
      cases r.outer with
      | nil => exact ⟨hindex, hmode⟩
      | cons g more => exact ⟨rfl, rfl⟩
    | opened houter =>
      rw [houter, List.getLastD_cons]
      exact ⟨rfl, rfl⟩
    | closed g houter hindex hmode =>
      rw [houter, List.getLastD_cons]
      cases r'.outer with
      | nil => exact ⟨hindex, hmode⟩
      | cons g more => exact ⟨rfl, rfl⟩
  exact ⟨hroot.1.trans h.index, hroot.2.trans h.outerMode⟩

end VendorCli.PatternText
