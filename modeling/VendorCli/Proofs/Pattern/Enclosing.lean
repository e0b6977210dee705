import VendorCli.Proofs.Pattern.Following
/-!
# Reading a pattern inside a group

The anchors put a group around a pattern, so the steps through it are made with one more group open,
outside of all others (`Reading.within`). That makes no difference to a step, with two exceptions
(`step?_within`): the limit of nested groups is reached one group earlier (`Reading.HasRoom`), and a
parenthesis that closes no group of the pattern closes the one around it. The first is what `inside`
does to a step, the second is left out.
-/

namespace VendorCli.PatternText

/-! ### Readings inside a group -/

namespace Reading

/-- A reading inside one more group, outside all others. -/
def within (g : OpenGroup) (r : Reading) : Reading :=
  { r with outer := r.outer ++ [g] }

/-- One more group fits around the open ones. -/
def HasRoom (r : Reading) : Prop :=
  r.outer.length + 1 < nestLimit

instance (r : Reading) : Decidable r.HasRoom :=
  inferInstanceAs (Decidable (r.outer.length + 1 < nestLimit))

variable {g : OpenGroup} {r r' : Reading}

@[simp] theorem within_mode : (r.within g).mode = r.mode := rfl

@[simp] theorem within_groups : (r.within g).groups = r.groups := rfl

@[simp] theorem within_names : (r.within g).names = r.names := rfl

@[simp] theorem within_inner : (r.within g).inner = r.inner := rfl

@[simp] theorem within_outer : (r.within g).outer = r.outer ++ [g] := rfl

/-- Inside a group some group is open. -/
theorem within_outer_ne_nil : (r.within g).outer ≠ [] := by
  simp

/-- Readings with as many open groups have as much room. -/
theorem HasRoom.of_outer (h : r.HasRoom) (houter : r'.outer = r.outer) : r'.HasRoom := by
  rw [HasRoom, houter]
  exact h

/-- Closing a group leaves more room. -/
theorem HasRoom.of_closeGroup? (h : r.HasRoom) (hclose : r.closeGroup? = some r') :
    r'.HasRoom := by
  unfold closeGroup? at hclose
  split at hclose
  · cases hclose
  · next enclosing more houter =>
    cases hclose
    rw [HasRoom, houter, List.length_cons] at h
    exact (Nat.lt_succ_self _).trans h

end Reading

/-- What becomes of a step inside a group: it is the same step, unless there is no room for it. -/
def inside (g : OpenGroup) (o : Option (Reading × Text)) : Option (Reading × Text) :=
  (o.filter fun s => s.1.HasRoom).map fun s => (s.1.within g, s.2)

section Inside

variable {g : OpenGroup} {r r' : Reading} {t u : Text}

/-- A reading with room passes the limit. -/
theorem filter_of_hasRoom (h : r.HasRoom) : (some r).filter (fun r => r.HasRoom) = some r := by
  simp [Option.filter, h]

/-- A reading without room does not. -/
theorem filter_of_not_hasRoom (h : ¬ r.HasRoom) : (some r).filter (fun r => r.HasRoom) = none := by
  simp [Option.filter, h]

/-- A step that leaves room is the same inside a group. -/
theorem inside_of_hasRoom (h : r.HasRoom) : inside g (some (r, t)) = some (r.within g, t) := by
  simp [inside, Option.filter, h]

/-- A step that leaves no room cannot be made inside a group. -/
theorem inside_of_not_hasRoom (h : ¬ r.HasRoom) : inside g (some (r, t)) = none := by
  simp [inside, Option.filter, h]

/-- A step that opens and closes no group leaves room. -/
theorem within_inside (h : r.HasRoom) (r' : Reading) (houter : r'.outer = r.outer) :
    some (r'.within g, t) = inside g (some (r', t)) :=
  (inside_of_hasRoom (h.of_outer houter)).symm

/-- So does one that adds a part. -/
theorem push_inside (h : r.HasRoom) (p : Part) :
    some ((r.within g).push p, t) = inside g (some (r.push p, t)) :=
  within_inside h (r.push p) rfl

/-- The steps inside a group are those outside that leave room. -/
theorem inside_eq_some_iff {o : Option (Reading × Text)} {x : Reading} :
    inside g o = some (x, u) ↔ ∃ r, o = some (r, u) ∧ r.HasRoom ∧ x = r.within g := by
  rw [inside, Option.map_eq_some_iff]
  constructor
  · rintro ⟨⟨r, u'⟩, hr, hx⟩
    cases hx
    obtain ⟨ho, hroom⟩ := Option.filter_eq_some_iff.mp hr
    exact ⟨r, ho, by simpa using hroom, rfl⟩
  · rintro ⟨r, rfl, hroom, rfl⟩
    exact ⟨(r, u), Option.filter_eq_some_iff.mpr ⟨rfl, by simpa using hroom⟩, rfl⟩

/-- A step that leaves as many groups open has room. -/
theorem inside_map {α : Type} {o : Option α} {f : α → Reading × Text} (h : r.HasRoom)
    (hf : ∀ a ∈ o, (f a).1.outer = r.outer) :
    inside g (o.map f) = o.map fun a => ((f a).1.within g, (f a).2) := by
  cases o with
  | none => rfl
  | some a => exact inside_of_hasRoom (h.of_outer (hf a rfl))

/-- A repetition opens and closes no group. -/
theorem outer_of_repeat? {greedy : Bool} {min : Nat} {max : Option Nat}
    (h : r.repeat? greedy min max = some r') : r'.outer = r.outer := by
  unfold Reading.repeat? at h
  split at h
  · dsimp only at h
    split at h <;> cases h
    rfl
  · cases h

/-- A repetition does not see the groups around the one at hand. -/
theorem repeat?_within (greedy : Bool) (min : Nat) (max : Option Nat) :
    (r.within g).repeat? greedy min max = (r.repeat? greedy min max).map (Reading.within g) := by
  unfold Reading.repeat?
  rw [Reading.within_inner, Reading.within_mode]
  split
  · dsimp only
    split <;> rfl
  · rfl

/-- Inside a group one group less can be opened. -/
theorem openGroup?_within (h : r.HasRoom) (index : Option Nat) (m : Mode) :
    (r.within g).openGroup? index m
      = ((r.openGroup? index m).filter fun r => r.HasRoom).map (Reading.within g) := by
  let opened : Reading :=
    { r with mode := m, inner := ⟨index, r.mode, [], []⟩, outer := r.inner :: r.outer }
  have hown : r.openGroup? index m = some opened := if_pos h
  -- both limits are on the same number, as the group around counts like the one that is opened
  have hlength : (r.within g).outer.length = opened.outer.length := by simp [opened]
  rw [hown, Reading.openGroup?, hlength]
  by_cases hroom : opened.HasRoom
  · rw [filter_of_hasRoom hroom]
    exact if_pos hroom
  · rw [filter_of_not_hasRoom hroom]
    exact if_neg hroom

/-- A repetition with its mark is the same inside a group. -/
theorem repetition?_within (h : r.HasRoom) (min : Nat) (max : Option Nat) :
    repetition? (r.within g) min max t = inside g (repetition? r min max t) := by
  rw [repetition?, repetition?]
  dsimp only
  rw [inside_map h fun r' hr' => outer_of_repeat? hr', repeat?_within, Option.map_map]
  rfl

/-- A group that is opened, with what else changes in the reading. -/
theorem inside_openGroup? (h : r.HasRoom) (index : Option Nat) (m : Mode) (f : Reading → Reading)
    (houter : ∀ r, (f r).outer = r.outer) (hwithin : ∀ r, f (r.within g) = (f r).within g) :
    (((r.within g).openGroup? index m).bind fun opened => some (f opened, t))
      = inside g ((r.openGroup? index m).bind fun opened => some (f opened, t)) := by
  rw [openGroup?_within h]
  cases r.openGroup? index m with
  | none => rfl
  | some opened =>
    -- what else changes keeps the number of groups, so the limit is the same before and after it
    by_cases hroom : opened.HasRoom
    · have hroom' : (f opened).HasRoom := hroom.of_outer (houter opened)
      rw [Option.bind_some, inside_of_hasRoom hroom', filter_of_hasRoom hroom]
      simp [hwithin]
    · have hroom' : ¬ (f opened).HasRoom := fun h => hroom (h.of_outer (houter opened).symm)
      rw [filter_of_not_hasRoom hroom]
      exact (inside_of_not_hasRoom hroom').symm

/-- A group with a name is the same inside a group, as far as there is room. -/
theorem namedGroup?_within (h : r.HasRoom) :
    namedGroup? (r.within g) t = inside g (namedGroup? r t) := by
  unfold namedGroup?
  cases Text.splitOnce? '>' t with
  | none => rfl
  | some p =>
    -- the name is checked against those of the reading, which are the same inside
    change (if isName p.1 ∧ r.names.all (·.2 ≠ p.1) then _ else none)
      = inside g (if isName p.1 ∧ r.names.all (·.2 ≠ p.1) then _ else none)
    split
    · exact inside_openGroup? h _ _
        (fun opened => { opened with
          groups := r.groups + 1
          names := r.names ++ [(r.groups + 1, p.1)] })
        (fun _ => rfl) fun _ => rfl
    · rfl

/-- So is a group with flags, and a change of mode. -/
theorem flagged?_within (h : r.HasRoom) : flagged? (r.within g) t = inside g (flagged? r t) := by
  unfold flagged?
  rw [Reading.within_mode]
  dsimp only
  split
  · cases setFlags? true [] _ r.mode with
    | none => rfl
    | some m => exact inside_openGroup? h none m id (fun _ => rfl) fun _ => rfl
  · split
    · rfl
    · cases setFlags? true [] _ r.mode with
      | none => rfl
      | some m =>
        exact within_inside h
          { r with
            mode := m
            inner := { r.inner with items := .directive :: r.inner.items } }
          rfl
  · rfl

/-- So is any group. -/
theorem group?_within (h : r.HasRoom) : group? (r.within g) t = inside g (group? r t) := by
  rw [group?_eq, group?_eq, Reading.within_mode]
  unfold groupBefore?
  split
  · rfl
  · rfl
  · rfl
  · rfl
  · exact namedGroup?_within h
  · exact namedGroup?_within h
  · exact flagged?_within h
  · exact inside_openGroup? h _ _ _ (fun _ => rfl) fun _ => rfl

/-- A parenthesis closes the same group if one of the pattern is open. -/
theorem closeGroup?_within (h : r.outer ≠ []) :
    (r.within g).closeGroup? = r.closeGroup?.map (Reading.within g) := by
  obtain ⟨enclosing, more, houter⟩ := List.exists_cons_of_ne_nil h
  unfold Reading.closeGroup?
  rw [Reading.within_outer, houter]
  rfl

/-- **One step inside a group.** It is the step outside, as far as there is room, but for a
parenthesis that closes the group itself. -/
theorem step?_within {c : Char} (h : r.HasRoom) (hclose : c = ')' → r.outer ≠ []) :
    step? (r.within g) c t = inside g (step? r c t) := by
  unfold step?
  rw [Reading.within_mode]
  dsimp only
  -- one case for each character that means something, in the order of `step?`
  split
  · exact group?_within h
  · rw [closeGroup?_within (hclose rfl)]
    cases hclosed : r.closeGroup? with
    | none => rfl
    | some r' => exact (inside_of_hasRoom (h.of_closeGroup? hclosed)).symm
  · exact within_inside h r.nextBranch rfl
  · rw [inside_map h fun _ _ => rfl]
    rfl
  · exact repetition?_within h _ _
  · exact repetition?_within h _ _
  · exact repetition?_within h _ _
  · cases bounds? r.mode t with
    | none => rfl
    | some b => exact repetition?_within h _ _
  · rw [inside_map h fun _ _ => rfl]
    rfl
  · exact push_inside h _
  · exact push_inside h _
  · cases escape? r.mode t with
    | none => rfl
    | some p =>
      obtain ⟨e, rest⟩ := p
      cases e with
      | literal c =>
        simp only [Option.bind_eq_bind, Option.bind_some]
        split
        · exact push_inside h _
        · rfl
      | set s => exact push_inside h _
      | anchor a => exact push_inside h _
  · exact push_inside h _

end Inside

end VendorCli.PatternText
