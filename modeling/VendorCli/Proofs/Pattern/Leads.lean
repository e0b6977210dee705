import VendorCli.Pattern.Match
/-!
# What a match consumes

`outcomes` computes where a match can end. `Leads` says the same as a relation, one rule a pattern,
without the order in which outcomes are tried: every outcome is a place that the pattern leads to
(`leads_of_mem_outcomes`). What a match has consumed is then told by taking the relation apart, one
part of the pattern after the other; a search finds such a match at the start of the text or behind
a character of it (`exists_of_searchFrom`).
-/

namespace VendorCli.Pattern

/-- **Matching as a relation.** A match of a pattern from one place can end at another. -/
inductive Leads : Pattern → Place → Place → Prop
  | empty (a : Place) : Leads .empty a a
  | set {s : CharClass} {a e : Place} (h : a.take? s = some e) : Leads (.set s) a e
  | anchor {c : Anchor} {a : Place} (h : a.fits c = true) : Leads (.anchor c) a a
  | seq {p q : Pattern} {a m e : Place} (hp : Leads p a m) (hq : Leads q m e) : Leads (.seq p q) a e
  | left {p q : Pattern} {a e : Place} (h : Leads p a e) : Leads (.alt p q) a e
  | right {p q : Pattern} {a e : Place} (h : Leads q a e) : Leads (.alt p q) a e
  | group {index : Nat} {p : Pattern} {a e : Place} (h : Leads p a e) :
    Leads (.group index p) a
      { e with groups := (index, a.rest.take (e.offset - a.offset)) :: e.groups }
  | skip {greedy : Bool} {p : Pattern} (a : Place) : Leads (.opt greedy p) a a
  | once {greedy : Bool} {p : Pattern} {a e : Place} (h : Leads p a e) : Leads (.opt greedy p) a e
  | last {greedy : Bool} {p : Pattern} {a e : Place} (h : Leads p a e) : Leads (.plus greedy p) a e
  | more {greedy : Bool} {p : Pattern} {a m e : Place} (h : Leads p a m)
    (hs : Leads (.plus greedy p) m e) : Leads (.plus greedy p) a e

/-! ### Outcomes -/

/-- Keeping the first way to each place adds no place. -/
theorem mem_of_mem_firstArrivals {e : Place} {acc places : List Place}
    (h : e ∈ Place.firstArrivals acc places) : e ∈ acc ∨ e ∈ places := by
  induction places generalizing acc with
  | nil => exact .inl h
  | cons p places ih =>
    rw [Place.firstArrivals] at h
    -- a place that is there already is left out, any other is put at the end
    split at h
    · exact (ih h).imp_right (List.mem_cons_of_mem p)
    · rcases ih h with h | h
      · rcases List.mem_append.mp h with h | h
        · exact .inl h
        · exact .inr (List.mem_cons.mpr (.inl (List.mem_singleton.mp h)))
      · exact .inr (List.mem_cons_of_mem p h)

/-- What a fold adds to the places so far is what its steps add. -/
theorem mem_foldl {f : List Place → Place → List Place} {Q : Place → Prop} {places : List Place}
    (hstep : ∀ m ∈ places, ∀ acc, ∀ e ∈ f acc m, e ∈ acc ∨ Q e) :
    ∀ acc, ∀ e ∈ places.foldl f acc, e ∈ acc ∨ Q e := by
  induction places with
  | nil => exact fun _ _ h => .inl h
  | cons m places ih =>
    intro acc e h
    rw [List.foldl_cons] at h
    rcases ih (fun k hk => hstep k (List.mem_cons_of_mem m hk)) _ e h with h | h
    · exact hstep m List.mem_cons_self acc e h
    · exact .inr h

/-- What a repetition adds to the places so far comes from iterations of its body. -/
theorem mem_iterate {greedy : Bool} {p : Pattern} {body : Place → List Place}
    (hbody : ∀ a e, e ∈ body a → Leads p a e) {steps : Nat} {first : Bool} {a e : Place}
    {acc : List Place} (h : e ∈ iterate greedy body steps first a acc) :
    e ∈ acc ∨ Leads (.plus greedy p) a e := by
  induction steps generalizing first a acc e with
  -- the induction is on the steps; without one left nothing is added
  | zero => exact .inl h
  | succ steps ih =>
    rw [iterate] at h
    -- one step of the fold ends the repetition at `m`, or goes on from there, in either order
    refine mem_foldl (Q := Leads (.plus greedy p) a) ?_ acc e h
    intro m hm acc e he
    have hlast : ∀ acc, e ∈ acc ++ [m] → e ∈ acc ∨ Leads (.plus greedy p) a e := by
      intro acc he
      rcases List.mem_append.mp he with he | he
      · exact .inl he
      · exact .inr (List.mem_singleton.mp he ▸ .last (hbody a m hm))
    have hmore : ∀ acc, e ∈ iterate greedy body steps false m acc →
        e ∈ acc ∨ Leads (.plus greedy p) a e :=
      fun acc he => (ih he).imp_right (.more (hbody a m hm))
    -- the cases of `iterate`: the place is known, the iteration was empty, or it got further
    split at he
    · exact .inl he
    · split at he
      · split at he
        · exact hlast acc he
        · exact .inl he
      -- a greedy repetition puts `m` behind what it leads to, a lazy one before
      · split at he
        · exact (hlast _ he).elim (hmore acc) .inr
        · exact (hmore _ he).elim (hlast acc) .inr

/-- Every outcome is a place that the pattern leads to. -/
theorem leads_of_mem_outcomes {p : Pattern} {a e : Place} (h : e ∈ outcomes p a) : Leads p a e := by
  -- removing later copies of a place adds no place, so it is enough to know where each came from
  induction p generalizing a e with
  | empty =>
    rw [outcomes_empty, List.mem_singleton] at h
    exact h ▸ .empty a
  | set s =>
    rw [outcomes_set, Option.mem_toList] at h
    exact .set h
  | anchor c =>
    rw [outcomes_anchor] at h
    split at h
    · next hfits =>
      rw [List.mem_singleton.mp h]
      exact .anchor hfits
    · cases h
  | seq p q ihp ihq =>
    rw [outcomes] at h
    rcases mem_of_mem_firstArrivals h with h | h
    · cases h
    · obtain ⟨m, hm, he⟩ := List.mem_flatMap.mp h
      exact .seq (ihp hm) (ihq he)
  | alt p q ihp ihq =>
    rw [outcomes] at h
    rcases mem_of_mem_firstArrivals h with h | h
    · cases h
    · rcases List.mem_append.mp h with h | h
      · exact .left (ihp h)
      · exact .right (ihq h)
  | group index p ih =>
    rw [outcomes] at h
    obtain ⟨m, hm, rfl⟩ := List.mem_map.mp h
    exact .group (ih hm)
  | opt greedy p ih =>
    -- the order of the two outcomes is another if the option is greedy
    have hmem : e ∈ outcomes p a ∨ e = a := by
      rw [outcomes] at h
      split at h
      · rcases mem_of_mem_firstArrivals h with h | h
        · cases h
        · exact (List.mem_append.mp h).imp_right List.mem_singleton.mp
      · rcases mem_of_mem_firstArrivals h with h | h
        · cases h
        · exact (List.mem_cons.mp h).symm
    rcases hmem with h | rfl
    · exact .once (ih h)
    · exact .skip e
  | plus greedy p ih =>
    rw [outcomes] at h
    rcases mem_iterate (fun _ _ => ih) h with h | h
    · cases h
    · exact h

/-! ### Consumed text -/

/-- A piece of text leads from one place of a line to another. -/
structure Consumes (a : Place) (s : Text) (e : Place) : Prop where
  rest : a.rest = s ++ e.rest
  offset : e.offset = a.offset + s.length
  before : e.before = s.getLast?.or a.before

namespace Consumes

variable {a m e : Place} {s t : Text}

/-- Nothing leads from a place to itself. -/
theorem nil (a : Place) : Consumes a [] a := ⟨rfl, rfl, rfl⟩

/-- Two pieces of text lead on, one after the other. -/
theorem append (h : Consumes a s m) (h' : Consumes m t e) : Consumes a (s ++ t) e where
  rest := by rw [h.rest, h'.rest, List.append_assoc]
  offset := by rw [h'.offset, h.offset, List.length_append, Nat.add_assoc]
  before := by rw [h'.before, h.before, List.getLast?_append, Option.or_assoc]

/-- A place that text leads to is no further back. -/
theorem offset_le (h : Consumes a s e) : a.offset ≤ e.offset := by
  have := h.offset
  omega

end Consumes

/-- A match consumes a piece of the text. -/
theorem Leads.consumes {p : Pattern} {a e : Place} (h : Leads p a e) : ∃ s, Consumes a s e := by
  -- the induction is on the way; only a set consumes a character
  induction h with
  | empty a => exact ⟨[], .nil a⟩
  | @set s a e h =>
    unfold Place.take? at h
    split at h
    · cases h
    · next c rest hrest =>
      split at h
      · cases h
        exact ⟨[c], hrest, rfl, rfl⟩
      · cases h
  | @anchor _ a => exact ⟨[], .nil a⟩
  | seq _ _ ihp ihq =>
    obtain ⟨s, hs⟩ := ihp
    obtain ⟨t, ht⟩ := ihq
    exact ⟨s ++ t, hs.append ht⟩
  | left _ ih => exact ih
  | right _ ih => exact ih
  | group _ ih =>
    obtain ⟨s, hs⟩ := ih
    exact ⟨s, hs.rest, hs.offset, hs.before⟩
  | skip a => exact ⟨[], .nil a⟩
  | once _ ih => exact ih
  | last _ ih => exact ih
  | more _ _ ihp ihq =>
    obtain ⟨s, hs⟩ := ihp
    obtain ⟨t, ht⟩ := ihq
    exact ⟨s ++ t, hs.append ht⟩

/-! ### Taking matches apart -/

section Inversion

variable {p q : Pattern} {a e : Place}

/-- A sequence leads over the end of its first pattern. -/
theorem Leads.of_seq (h : Leads (.seq p q) a e) : ∃ m, Leads p a m ∧ Leads q m e := by
  cases h with
  | seq hp hq => exact ⟨_, hp, hq⟩

/-- A condition on the position leads nowhere else. -/
theorem Leads.of_anchor {c : Anchor} (h : Leads (.anchor c) a e) : e = a ∧ a.fits c = true := by
  cases h with
  | anchor hfits => exact ⟨rfl, hfits⟩

/-- A group captures what its pattern consumes. -/
theorem Leads.of_group {index : Nat} (h : Leads (.group index p) a e) :
    ∃ m t, Leads p a m ∧ a.rest = t ++ e.rest ∧ m.rest = e.rest ∧
      e.groups = (index, t) :: m.groups := by
  cases h with
  | group h =>
    -- the captured text is cut out of the line by the two places, which is what was consumed
    obtain ⟨t, ht⟩ := h.consumes
    refine ⟨_, t, h, ht.rest, rfl, ?_⟩
    rw [ht.offset, Nat.add_sub_cancel_left, ht.rest, List.take_left]

end Inversion

/-- A character of a set is consumed. -/
theorem Leads.rest_of_set {s : CharClass} {a e : Place} (h : Leads (.set s) a e) :
    ∃ c, s.contains c = true ∧ a.rest = c :: e.rest := by
  cases h with
  | set h =>
    unfold Place.take? at h
    split at h
    · cases h
    · next c rest hrest =>
      split at h
      · next hc =>
        cases h
        exact ⟨c, hc, hrest⟩
      · cases h

/-- A repeated set consumes some of its characters, and touches no group. -/
theorem Leads.rest_of_plus {greedy : Bool} {s : CharClass} {a e : Place}
    (h : Leads (.plus greedy (.set s)) a e) :
    ∃ t, t ≠ [] ∧ (∀ c ∈ t, s.contains c = true) ∧ a.rest = t ++ e.rest := by
  -- the relation is indexed by patterns, so the pattern is kept as an equation for the induction
  generalize hp : Pattern.plus greedy (.set s) = p at h
  induction h with
  -- the last iteration, and one that others follow
  | last h =>
    cases hp
    obtain ⟨c, hc, hrest⟩ := h.rest_of_set
    exact ⟨[c], List.cons_ne_nil _ _, by simpa using hc, hrest⟩
  | more h _ _ ih =>
    cases hp
    obtain ⟨c, hc, hrest⟩ := h.rest_of_set
    obtain ⟨t, -, ht, hrest'⟩ := ih rfl
    refine ⟨c :: t, List.cons_ne_nil _ _, ?_, by rw [hrest, hrest', List.cons_append]⟩
    rintro d (_ | ⟨_, hd⟩)
    · exact hc
    · exact ht d hd
  | _ => cases hp

/-! ### Lines with one captured value -/

/-- The pattern of a literal text, after another pattern. -/
def thenText (p : Pattern) (t : Text) : Pattern :=
  (t.map fun c => set (.char c)).foldl seq p

/-- A literal text is what stands before the place that it leads to. -/
theorem Leads.rest_of_thenText {p : Pattern} {t : Text} {a e : Place}
    (h : Leads (thenText p t) a e) : ∃ m, Leads p a m ∧ m.rest = t ++ e.rest := by
  -- `thenText` folds from the left, so the first character ends up innermost, next to `p`
  induction t generalizing p with
  | nil => exact ⟨e, h, rfl⟩
  | cons c t ih =>
    obtain ⟨m, hm, hrest⟩ := ih h
    cases hm with
    | @seq _ _ _ k _ hp hc =>
      obtain ⟨d, hd, hk⟩ := hc.rest_of_set
      have hdc : d = c := by simpa [CharClass.contains] using hd
      exact ⟨k, hp, by rw [hk, hrest, hdc]; rfl⟩

/-- The pattern of a whole line: a text, its first character given apart, and a value. -/
def ofLine (c : Char) (t : Text) (value : Pattern) : Pattern :=
  .seq (.seq (.anchor .startText) (.seq (thenText (set (.char c)) t) (.group 1 value)))
    (.anchor .endText)

/-- A match starts at the start of the text, or has a character before it. -/
theorem exists_of_searchFrom {p : Pattern} {before : Option Char} {offset : Nat} {t : Text}
    {caps : Captures} (h : p.searchFrom before offset t = some caps) :
    ∃ a e s, Leads p a e ∧ caps = (0, s) :: e.groups ∧
      (a.before = before ∧ a.rest = t ∨ a.before.isSome) := by
  -- the induction is on the text; the search moves on by one character at a time
  induction t generalizing before offset with
  | nil =>
    rw [searchFrom, Option.map_eq_some_iff] at h
    obtain ⟨e, he, rfl⟩ := h
    exact ⟨_, e, [], leads_of_mem_outcomes (List.mem_of_mem_head? he), rfl, .inl ⟨rfl, rfl⟩⟩
  | cons c t ih =>
    rw [searchFrom] at h
    split at h
    -- a match from here
    · next e he =>
      cases h
      exact ⟨_, e, _, leads_of_mem_outcomes (List.mem_of_mem_head? he), rfl, .inl ⟨rfl, rfl⟩⟩
    -- a match further on, which has this character or a later one before it
    · obtain ⟨a, e, s, hleads, hcaps, hplace⟩ := ih h
      refine ⟨a, e, s, hleads, hcaps, .inr ?_⟩
      rcases hplace with ⟨hbefore, -⟩ | hbefore
      · rw [hbefore]
        rfl
      · exact hbefore

end VendorCli.Pattern
