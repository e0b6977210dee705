import VendorCli.Proofs.Pattern.Leads
/-!
# Every match is found

`outcomes` keeps one way to each place, and a repetition does not go on from a place that an earlier
way has reached. Neither loses a place: wherever a pattern leads, some outcome gets
(`reached_outcomes`). With `leads_of_mem_outcomes` this makes `Leads` the exact account of where
matches end, and `exists_outcome_iff` states both at once. Only the groups of a place can differ,
since they tell by which way it was reached.

The repetition is a search in depth whose list of places visited is the list of outcomes. Its
invariant is `Settled`: with each place beyond the current one, the list has all that further
iterations lead to from there. Places are only ever left forwards, so a place in the list is either
settled or lies on the way to the current one.
-/

namespace VendorCli.Pattern

/-! ### Places up to groups -/

/-- Groups have no influence on where a match ends. -/
theorem Leads.with_groups {p : Pattern} {a e : Place} (h : Leads p a e) (g : List (Nat × Text)) :
    ∃ g', Leads p { a with groups := g } { e with groups := g' } := by
  -- the induction is on the way; a rule that joins two ways passes the groups of the first to the
  -- second
  induction h generalizing g with
  | empty a => exact ⟨g, .empty _⟩
  | @set s a e h =>
    refine ⟨g, .set ?_⟩
    unfold Place.take? at h ⊢
    cases hrest : a.rest with
    | nil =>
      rw [hrest] at h
      cases h
    | cons c rest =>
      rw [hrest] at h
      dsimp only at h ⊢
      split at h
      · next hc =>
        cases h
        rw [if_pos hc]
      · cases h
  | @anchor c a h =>
    refine ⟨g, .anchor ?_⟩
    rw [← h]
    cases c <;> rfl
  | seq _ _ ihp ihq =>
    obtain ⟨g₁, h₁⟩ := ihp g
    obtain ⟨g₂, h₂⟩ := ihq g₁
    exact ⟨g₂, .seq h₁ h₂⟩
  | left _ ih =>
    obtain ⟨g', h'⟩ := ih g
    exact ⟨g', .left h'⟩
  | right _ ih =>
    obtain ⟨g', h'⟩ := ih g
    exact ⟨g', .right h'⟩
  | @group index p a e _ ih =>
    obtain ⟨g', h'⟩ := ih g
    exact ⟨(index, a.rest.take (e.offset - a.offset)) :: g', .group h'⟩
  | skip a => exact ⟨g, .skip _⟩
  | once _ ih =>
    obtain ⟨g', h'⟩ := ih g
    exact ⟨g', .once h'⟩
  | last _ ih =>
    obtain ⟨g', h'⟩ := ih g
    exact ⟨g', .last h'⟩
  | more _ _ ihp ihs =>
    obtain ⟨g₁, h₁⟩ := ihp g
    obtain ⟨g₂, h₂⟩ := ihs g₁
    exact ⟨g₂, .more h₁ h₂⟩

/-- On one line, a place is told by how far along it is, up to its groups. -/
theorem Consumes.eq_of_offset_eq {o a b : Place} {s t : Text} (ha : Consumes o s a)
    (hb : Consumes o t b) (h : a.offset = b.offset) : b = { a with groups := b.groups } := by
  -- both pieces have the same length and are read off one line, so they are the same
  have hlength : s.length = t.length := by
    have hs := ha.offset
    have ht := hb.offset
    omega
  obtain ⟨rfl, hrest⟩ := List.append_inj (ha.rest.symm.trans hb.rest) hlength
  have hbefore : a.before = b.before := ha.before.trans hb.before.symm
  cases a
  cases b
  simp_all

/-- A match from a place can be had from any other that is as far along the line. -/
theorem Leads.of_offset_eq {p : Pattern} {o a b e : Place} {s t : Text} (h : Leads p a e)
    (ha : Consumes o s a) (hb : Consumes o t b) (hoffset : a.offset = b.offset) :
    ∃ f, Leads p b f ∧ f.offset = e.offset := by
  obtain ⟨g, hg⟩ := h.with_groups b.groups
  rw [← ha.eq_of_offset_eq hb hoffset] at hg
  exact ⟨_, hg, rfl⟩

/-! ### Places that are reached -/

section Reached

variable {n : Nat} {acc places : List Place}

/-- A place is reached if some place in the list is as far along. -/
theorem reached_iff : Place.reached n places = true ↔ ∃ q ∈ places, q.offset = n := by
  simp [Place.reached]

theorem reached_of_mem {q : Place} (h : q ∈ places) : Place.reached q.offset places = true :=
  reached_iff.mpr ⟨q, h, rfl⟩

/-- What is reached stays so if the list grows. -/
theorem reached_mono (h : acc ⊆ places) (hn : Place.reached n acc = true) :
    Place.reached n places = true := by
  obtain ⟨q, hq, hqn⟩ := reached_iff.mp hn
  exact reached_iff.mpr ⟨q, h hq, hqn⟩

/-- Keeping the first way to each place takes nothing away from what is there. -/
theorem subset_firstArrivals : acc ⊆ Place.firstArrivals acc places := by
  induction places generalizing acc with
  | nil => exact List.Subset.refl acc
  | cons p places ih =>
    rw [Place.firstArrivals]
    split
    · exact ih
    · exact fun q hq => ih (List.mem_append_left _ hq)

/-- Leaving out later ways to a place leaves out no place. -/
theorem reached_firstArrivals (h : Place.reached n places = true) :
    Place.reached n (Place.firstArrivals acc places) = true := by
  induction places generalizing acc with
  | nil => cases h
  | cons p places ih =>
    obtain ⟨q, hq, rfl⟩ := reached_iff.mp h
    rw [Place.firstArrivals]
    -- the place is the one at hand, which is kept or was reached before, or comes later
    rcases List.mem_cons.mp hq with rfl | hq
    · split
      · next hp => exact reached_mono subset_firstArrivals hp
      · exact reached_mono subset_firstArrivals (reached_of_mem (by simp))
    · split
      · exact ih (reached_of_mem hq)
      · exact ih (reached_of_mem hq)

end Reached

/-! ### Repetitions -/

section Repetition

variable {greedy : Bool} {p : Pattern} {o a m e : Place} {s t : Text} {acc r : List Place}

/-- A repetition that gets further begins with an iteration that does, up to empty ones. -/
theorem Leads.exists_first (h : Leads (.plus greedy p) a e) (ha : Consumes o s a)
    (hlt : a.offset < e.offset) :
    ∃ m, Leads p a m ∧ a.offset < m.offset ∧
      (m.offset = e.offset ∨
        m.offset < e.offset ∧ ∃ f, Leads (.plus greedy p) m f ∧ f.offset = e.offset) := by
  generalize hq : Pattern.plus greedy p = q at h
  -- the induction is on the iterations, from any place of the line
  induction h generalizing s with
  | @last _ _ a e h =>
    cases hq
    exact ⟨e, h, hlt, .inl rfl⟩
  | @more _ _ a m e h hs _ ih =>
    cases hq
    obtain ⟨t, ht⟩ := h.consumes
    obtain ⟨u, hu⟩ := hs.consumes
    have hm := ha.append ht
    rcases Nat.eq_or_lt_of_le ht.offset_le with heq | hlt'
    · -- an empty iteration: the first one that is not comes from the same place
      obtain ⟨k, hk, hmk, hrest⟩ := ih hm (by omega) rfl
      obtain ⟨k', hk', hoffset⟩ := hk.of_offset_eq hm ha heq.symm
      obtain ⟨v, hv⟩ := hk.consumes
      obtain ⟨v', hv'⟩ := hk'.consumes
      refine ⟨k', hk', by omega, hrest.imp (fun h => by omega) ?_⟩
      rintro ⟨hke, f, hf, hfe⟩
      obtain ⟨f', hf', hoffset'⟩ := hf.of_offset_eq (hm.append hv) (ha.append hv') hoffset.symm
      exact ⟨by omega, f', hf', by omega⟩
    · refine ⟨m, h, hlt', ?_⟩
      rcases Nat.eq_or_lt_of_le hu.offset_le with heq | hlt''
      · exact .inl heq
      · exact .inr ⟨hlt'', e, hs, rfl⟩
  | _ => cases hq

/-- A repetition has an iteration that gets no further than it. -/
theorem Leads.exists_iteration (h : Leads (.plus greedy p) a e) :
    ∃ m, Leads p a m ∧ m.offset ≤ e.offset := by
  cases h with
  | last h => exact ⟨e, h, Nat.le_refl _⟩
  | @more _ _ _ m _ h hs =>
    obtain ⟨u, hu⟩ := hs.consumes
    exact ⟨m, h, hu.offset_le⟩

/-- **The invariant of a repetition.** All places are on the line, and with each one beyond `a` the
list has what further iterations lead to from there. -/
structure Settled (greedy : Bool) (p : Pattern) (o a : Place) (acc : List Place) : Prop where
  line : ∀ q ∈ acc, ∃ s, Consumes o s q
  closed : ∀ q ∈ acc, a.offset < q.offset → ∀ e, Leads (.plus greedy p) q e →
    q.offset < e.offset → Place.reached e.offset acc = true

theorem Settled.nil : Settled greedy p o a [] :=
  ⟨fun _ h => absurd h List.not_mem_nil, fun _ h => absurd h List.not_mem_nil⟩

/-- A list that is settled beyond a place is so beyond any later one. -/
theorem Settled.forward (h : Settled greedy p o a acc) (hle : a.offset ≤ m.offset) :
    Settled greedy p o m acc :=
  ⟨h.line, fun q hq hmq => h.closed q hq (by omega)⟩

/-- The place beyond which a list is settled may be added to it. -/
theorem Settled.add (h : Settled greedy p o m acc) (hm : Consumes o t m) (hsub : acc ⊆ r)
    (hr : ∀ q ∈ r, q ∈ acc ∨ q = m) : Settled greedy p o m r where
  line := by
    intro q hq
    rcases hr q hq with hq | rfl
    · exact h.line q hq
    · exact ⟨t, hm⟩
  closed := by
    intro q hq hmq e he hqe
    rcases hr q hq with hq | rfl
    · exact reached_mono hsub (h.closed q hq hmq e he hqe)
    · exact absurd hmq (Nat.lt_irrefl _)

/-- **One place settled.** If a list is settled beyond a place `m`, has all that further iterations
lead to from `m`, and has no new places before `m`, then it is settled as far back as the list that
it grew from. -/
theorem Settled.backward (h : Settled greedy p o a acc) (hm : Consumes o t m)
    (hr : Settled greedy p o m r) (hsub : acc ⊆ r)
    (hnew : ∀ q ∈ r, q ∈ acc ∨ m.offset ≤ q.offset)
    (hall : ∀ e, Leads (.plus greedy p) m e → m.offset < e.offset →
      Place.reached e.offset r = true) :
    Settled greedy p o a r where
  line := hr.line
  closed := by
    intro q hq haq e he hqe
    -- the three cases tell `q` beyond `m`, at `m`, and before `m`
    rcases Nat.lt_trichotomy m.offset q.offset with hlt | heq | hgt
    · exact hr.closed q hq hlt e he hqe
    · -- `q` is at the same place as `m`
      obtain ⟨u, hu⟩ := hr.line q hq
      obtain ⟨f, hf, hfe⟩ := he.of_offset_eq hu hm heq.symm
      have := hall f hf (by omega)
      rwa [hfe] at this
    · rcases hnew q hq with hq | hle
      · exact reached_mono hsub (h.closed q hq haq e he hqe)
      · omega

/-- A list has grown to another one that is settled beyond `a`. -/
structure Grows (greedy : Bool) (p : Pattern) (o a : Place) (acc r : List Place) : Prop where
  keeps : acc ⊆ r
  settled : Settled greedy p o a r

/-- What a repetition from any place of the line has to achieve with so many steps: the list that it
is given grows by all that the repetition leads to. An empty iteration counts only as the first. -/
def Achieves (greedy : Bool) (p : Pattern) (o : Place) (steps : Nat) : Prop :=
  ∀ first a acc s, Consumes o s a → a.rest.length < steps → Settled greedy p o a acc →
    Grows greedy p o a acc (iterate greedy (outcomes p) steps first a acc) ∧
    ∀ e, Leads (.plus greedy p) a e → first = true ∨ a.offset < e.offset →
      Place.reached e.offset (iterate greedy (outcomes p) steps first a acc) = true

/-- Going on from the end of an iteration settles that end. The end itself may be put into the list
before or after what it leads to. -/
theorem Achieves.grows {steps : Nat} (h : Achieves greedy p o steps) (ha : Consumes o s a)
    (hsteps : a.rest.length < steps + 1) (hm : Leads p a m) (hlt : a.offset < m.offset)
    (hacc : Settled greedy p o a acc) {before after : List Place} (hbefore : acc ⊆ before)
    (hbefore' : ∀ q ∈ before, q ∈ acc ∨ q = m)
    (hafter : iterate greedy (outcomes p) steps false m before ⊆ after)
    (hafter' : ∀ q ∈ after, q ∈ iterate greedy (outcomes p) steps false m before ∨ q = m) :
    before ⊆ after ∧ Grows greedy p o a acc after := by
  obtain ⟨t, ht⟩ := hm.consumes
  have hline := ha.append ht
  -- the iteration is not empty, so less of the line is left and the steps are enough for it
  have hshorter : m.rest.length < steps := by
    have hrest := congrArg List.length ht.rest
    have hoffset := ht.offset
    rw [List.length_append] at hrest
    omega
  obtain ⟨⟨hkeeps, hsettled⟩, hall⟩ :=
    h false m before _ hline hshorter ((hacc.forward (Nat.le_of_lt hlt)).add hline hbefore hbefore')
  have hsub : acc ⊆ after := fun q hq => hafter (hkeeps (hbefore hq))
  -- whatever is new comes from `m`, so it is no further back
  have hnew : ∀ q ∈ after, q ∈ acc ∨ m.offset ≤ q.offset := by
    intro q hq
    rcases hafter' q hq with hq | rfl
    · have hway : q ∈ before ∨ Leads (.plus greedy p) m q :=
        mem_iterate (fun _ _ => leads_of_mem_outcomes) hq
      rcases hway with hq | hq
      · rcases hbefore' q hq with hq | rfl
        · exact .inl hq
        · exact .inr (Nat.le_refl _)
      · obtain ⟨u, hu⟩ := hq.consumes
        exact .inr hu.offset_le
    · exact .inr (Nat.le_refl _)
  exact ⟨fun q hq => hafter (hkeeps hq), hsub,
    hacc.backward hline (hsettled.add hline hafter hafter') hsub hnew
      fun e he hme => reached_mono hafter (hall e he (.inr hme))⟩

/-- What the end of one iteration adds to the places so far. -/
def iterateFrom (greedy : Bool) (body : Place → List Place) (steps : Nat) (first : Bool) (a : Place)
    (acc : List Place) (m : Place) : List Place :=
  if Place.reached m.offset acc then acc
  else if m.offset = a.offset then (if first then acc ++ [m] else acc)
  else if greedy then iterate greedy body steps false m acc ++ [m]
  else iterate greedy body steps false m (acc ++ [m])

/-- One step of a repetition goes over the ends of its first iteration. -/
theorem iterate_succ (body : Place → List Place) (steps : Nat) (first : Bool) :
    iterate greedy body (steps + 1) first a acc
      = (body a).foldl (iterateFrom greedy body steps first a) acc := rfl

/-- **One iteration.** Its end is reached, unless it is an empty iteration that does not count. -/
theorem Achieves.iterateFrom {steps : Nat} (h : Achieves greedy p o steps) (ha : Consumes o s a)
    (hsteps : a.rest.length < steps + 1) (hm : Leads p a m) (first : Bool)
    (hacc : Settled greedy p o a acc) :
    Grows greedy p o a acc (iterateFrom greedy (outcomes p) steps first a acc m) ∧
    (first = true ∨ a.offset < m.offset →
      Place.reached m.offset (iterateFrom greedy (outcomes p) steps first a acc m) = true) := by
  obtain ⟨t, ht⟩ := hm.consumes
  have hle := ht.offset_le
  -- the three cases of one iteration: its end is known, it is empty, or it gets further
  unfold Pattern.iterateFrom
  split
  · next hreached => exact ⟨⟨List.Subset.refl acc, hacc⟩, fun _ => hreached⟩
  · split
    · next heq =>
      split
      · -- the first iteration may be empty, and adds the place where it starts
        have hm' : ∀ q ∈ acc ++ [m], q ∈ acc ∨ q = m := by simp
        have hsame : Settled greedy p o m acc := hacc.forward hle
        have hadd := hsame.add (ha.append ht) (List.subset_append_left acc [m]) hm'
        refine ⟨⟨List.subset_append_left acc [m], hadd.line, ?_⟩, fun _ => reached_of_mem (by simp)⟩
        exact fun q hq haq => hadd.closed q hq (by omega)
      · -- a later iteration that is empty adds nothing, and does not count
        next hfirst =>
        refine ⟨⟨List.Subset.refl acc, hacc⟩, fun hcounts => ?_⟩
        rcases hcounts with hcounts | hcounts
        · exact absurd hcounts hfirst
        · omega
    · next hne =>
      have hlt : a.offset < m.offset := by omega
      split
      · -- greedy: the end comes behind what it leads to
        obtain ⟨-, hgrows⟩ := h.grows ha hsteps hm hlt hacc (List.Subset.refl acc) (fun q => .inl)
          (List.subset_append_left _ [m]) (by simp)
        exact ⟨hgrows, fun _ => reached_of_mem (by simp)⟩
      · -- lazy: the end comes first
        obtain ⟨hkeeps, hgrows⟩ := h.grows ha hsteps hm hlt hacc (List.subset_append_left acc [m])
          (by simp) (List.Subset.refl _) (fun q => .inl)
        exact ⟨hgrows, fun _ => reached_of_mem (hkeeps (by simp))⟩

/-- **All iterations from one place.** Their ends are reached one after the other. -/
theorem Achieves.foldl {steps : Nat} (h : Achieves greedy p o steps) (ha : Consumes o s a)
    (hsteps : a.rest.length < steps + 1) (first : Bool) {places : List Place}
    (hplaces : ∀ m ∈ places, Leads p a m) (hacc : Settled greedy p o a acc) :
    Grows greedy p o a acc
      (places.foldl (Pattern.iterateFrom greedy (outcomes p) steps first a) acc) ∧
    ∀ m ∈ places, first = true ∨ a.offset < m.offset → Place.reached m.offset
      (places.foldl (Pattern.iterateFrom greedy (outcomes p) steps first a) acc) = true := by
  -- the list stays settled from one end to the next, and keeps what was reached
  induction places generalizing acc with
  | nil => exact ⟨⟨List.Subset.refl acc, hacc⟩, fun _ hm => absurd hm List.not_mem_nil⟩
  | cons m places ih =>
    rw [List.forall_mem_cons] at hplaces
    obtain ⟨hstep, hreached⟩ := h.iterateFrom ha hsteps hplaces.1 first hacc
    obtain ⟨hrest, hothers⟩ := ih hplaces.2 hstep.settled
    rw [List.foldl_cons]
    refine ⟨⟨fun q hq => hrest.keeps (hstep.keeps hq), hrest.settled⟩, ?_⟩
    rintro k (_ | ⟨_, hk⟩) hcounts
    · exact reached_mono hrest.keeps (hreached hcounts)
    · exact hothers k hk hcounts

/-- **Repetitions are complete** if their bodies are. -/
theorem achieves (hbody : ∀ a e, Leads p a e → Place.reached e.offset (outcomes p a) = true)
    (steps : Nat) : Achieves greedy p o steps := by
  -- the induction is on the steps, for every place that they are enough for
  induction steps with
  | zero =>
    intro first a acc s _ hsteps
    exact absurd hsteps (Nat.not_lt_zero _)
  | succ steps ih =>
    intro first a acc s ha hsteps hacc
    obtain ⟨hgrows, hends⟩ := ih.foldl ha hsteps first
      (fun m hm => leads_of_mem_outcomes (p := p) (a := a) hm) hacc
    rw [← iterate_succ] at hgrows hends
    refine ⟨hgrows, fun e he hcounts => ?_⟩
    obtain ⟨v, hv⟩ := he.consumes
    -- a place that an iteration leads to is the end of some outcome of it
    have hend : ∀ m, Leads p a m → first = true ∨ a.offset < m.offset → Place.reached m.offset
        (iterate greedy (outcomes p) (steps + 1) first a acc) = true := by
      intro m hm hcounts
      obtain ⟨q, hq, hqm⟩ := reached_iff.mp (hbody a m hm)
      have := hends q hq (hcounts.imp_right fun h => hqm.symm ▸ h)
      rwa [hqm] at this
    -- `e` is as far as `a`, and is the end of an empty iteration, or it lies further
    rcases Nat.eq_or_lt_of_le hv.offset_le with heq | hlt
    · obtain ⟨m, hm, hme⟩ := he.exists_iteration
      obtain ⟨u, hu⟩ := hm.consumes
      have hma : m.offset = e.offset := by
        have := hu.offset_le
        omega
      rw [← hma]
      exact hend m hm (hcounts.imp_right fun h => by omega)
    · obtain ⟨m, hm, hlt', hrest⟩ := he.exists_first ha hlt
      have hreached := hend m hm (.inr hlt')
      rcases hrest with hme | ⟨hme, f, hf, hfe⟩
      · rwa [hme] at hreached
      · -- the list is settled at the place that the first iteration gets to
        obtain ⟨q, hq, hqm⟩ := reached_iff.mp hreached
        obtain ⟨u, hu⟩ := hm.consumes
        obtain ⟨w, hw⟩ := hgrows.settled.line q hq
        obtain ⟨f', hf', hfoffset⟩ := hf.of_offset_eq (ha.append hu) hw hqm.symm
        have := hgrows.settled.closed q hq (by omega) f' hf' (by omega)
        rwa [hfoffset, hfe] at this

end Repetition

/-! ### All patterns -/

/-- **Completeness.** Wherever a pattern leads, some outcome gets. -/
theorem reached_outcomes {p : Pattern} {a e : Place} (h : Leads p a e) :
    Place.reached e.offset (outcomes p a) = true := by
  induction p generalizing a e with
  | empty =>
    cases h
    exact reached_of_mem (by simp)
  | set s =>
    cases h with
    | set h => exact reached_of_mem (by simp [h])
  | anchor c =>
    obtain ⟨rfl, hfits⟩ := h.of_anchor
    exact reached_of_mem (by simp [hfits])
  | seq p q ihp ihq =>
    obtain ⟨m, hp, hq⟩ := h.of_seq
    -- the outcome that gets to `m` may have other groups, and leads as far from there
    obtain ⟨k, hk, hkm⟩ := reached_iff.mp (ihp hp)
    obtain ⟨s, hs⟩ := hp.consumes
    obtain ⟨t, ht⟩ := (leads_of_mem_outcomes hk).consumes
    obtain ⟨f, hf, hfe⟩ := hq.of_offset_eq hs ht hkm.symm
    obtain ⟨l, hl, hle⟩ := reached_iff.mp (ihq hf)
    rw [outcomes]
    refine reached_firstArrivals (reached_iff.mpr ⟨l, ?_, hle.trans hfe⟩)
    exact List.mem_flatMap.mpr ⟨k, hk, hl⟩
  | alt p q ihp ihq =>
    -- either branch is among the outcomes of both
    rw [outcomes]
    refine reached_firstArrivals ?_
    cases h with
    | left h => exact reached_mono (List.subset_append_left _ _) (ihp h)
    | right h => exact reached_mono (List.subset_append_right _ _) (ihq h)
  | group index p ih =>
    cases h with
    | group h =>
      obtain ⟨k, hk, hke⟩ := reached_iff.mp (ih h)
      exact reached_iff.mpr ⟨_, List.mem_map_of_mem hk, hke⟩
  | opt greedy p ih =>
    -- what the option leads to is a place of its pattern, or the place it started from
    have hplace : Place.reached e.offset (outcomes p a) = true ∨ e = a := by
      cases h with
      | skip => exact .inr rfl
      | once h => exact .inl (ih h)
    rw [outcomes]
    split
    · refine reached_firstArrivals ?_
      rcases hplace with hplace | rfl
      · exact reached_mono (List.subset_append_left _ _) hplace
      · exact reached_of_mem (by simp)
    · refine reached_firstArrivals ?_
      rcases hplace with hplace | rfl
      · exact reached_mono (List.subset_cons_self _ _) hplace
      · exact reached_of_mem (by simp)
  | plus greedy p ih =>
    -- the steps are one more than the characters left, and the empty list is settled
    have hachieves : Achieves greedy p a (a.rest.length + 1) := achieves (fun _ _ => ih) _
    obtain ⟨-, hall⟩ := hachieves true a [] [] (.nil a) (Nat.lt_succ_self _) .nil
    exact hall e h (.inl rfl)

/-- **Outcomes and the relation.** A match can end so far along a line if and only if some outcome
does. -/
theorem exists_outcome_iff {p : Pattern} {a : Place} {n : Nat} :
    (∃ e ∈ outcomes p a, e.offset = n) ↔ ∃ e, Leads p a e ∧ e.offset = n := by
  constructor
  · rintro ⟨e, he, hn⟩
    exact ⟨e, leads_of_mem_outcomes he, hn⟩
  · rintro ⟨e, he, rfl⟩
    exact reached_iff.mp (reached_outcomes he)

end VendorCli.Pattern
