import VendorCli.Output.Extractor
import VendorCli.Proofs.Pattern.Anchored
import VendorCli.Proofs.Pattern.Lines
import VendorCli.Proofs.Registry.Refusals
/-!
# Rules and whole lines

A rule is to match whole lines, and its pattern is read between anchors for that. The anchors hold a
pattern that is a regular expression by itself: an accepted rule matches the lines that the pattern
can match as a whole (`CompiledRule.isMatch_eq_matchesAll`). They do not make sure that it is one.
A pattern that closes the group of the anchors, and opens another, has a part on either side, and
each part is held by one anchor only; and a pattern is refused that ends in a comment, or that is
near the limits of patterns (`CompiledRule.exists_ofRule_iff`).

* `Pattern.matchesAll` says whether a pattern can match a line as a whole;
* `Extractor.rules_match_whole_lines` is the account for a list of rules.
-/

namespace VendorCli

open PatternText (Enclosable Overcloses)

/-! ### Matches of whole lines -/

namespace Pattern

variable {p : Pattern} {line : Text}

/-- The pattern can match a line from its start to its end. -/
def matchesAll (p : Pattern) (line : Text) : Bool :=
  (p.outcomes (Place.start line)).any (·.rest.isEmpty)

/-- A pattern matches a whole line if it leads from its start to its end. -/
theorem matchesAll_iff :
    p.matchesAll line = true ↔ ∃ e, Leads p (Place.start line) e ∧ e.rest = [] := by
  rw [matchesAll, List.any_eq_true]
  constructor
  · rintro ⟨e, he, hend⟩
    exact ⟨e, leads_of_mem_outcomes he, List.isEmpty_iff.mp hend⟩
  · rintro ⟨e, he, hend⟩
    -- the outcome that gets as far may have other groups
    obtain ⟨q, hq, hoffset⟩ := reached_iff.mp (reached_outcomes he)
    obtain ⟨s, hs⟩ := he.consumes
    obtain ⟨t, ht⟩ := (leads_of_mem_outcomes hq).consumes
    have hrest : q.rest = e.rest := by rw [hs.eq_of_offset_eq ht hoffset.symm]
    exact ⟨q, hq, by rw [hrest, hend]; rfl⟩

/-- A pattern that matches only at the start of a line is found there or not at all. -/
theorem isSome_searchFrom_iff (h : ∀ a e, Leads p a e → a.before = none) :
    (p.searchFrom none 0 line).isSome = true ↔ ∃ e, Leads p (Place.start line) e := by
  constructor
  · intro hsome
    obtain ⟨caps, hcaps⟩ := Option.isSome_iff_exists.mp hsome
    cases line with
    | nil =>
      -- an empty line has one place to begin at
      rw [searchFrom, Option.map_eq_some_iff] at hcaps
      obtain ⟨e, he, -⟩ := hcaps
      exact ⟨e, leads_of_mem_outcomes (List.mem_of_mem_head? he)⟩
    | cons c rest =>
      rw [searchFrom] at hcaps
      split at hcaps
      · -- the match that is found first begins at the start of the line
        next e he => exact ⟨e, leads_of_mem_outcomes (List.mem_of_mem_head? he)⟩
      · -- a match further on would have a character before it
        obtain ⟨a, e, s, hleads, -, hplace⟩ := exists_of_searchFrom hcaps
        have hbefore := h a e hleads
        rcases hplace with ⟨ha, -⟩ | ha
        · rw [hbefore] at ha
          cases ha
        · rw [hbefore] at ha
          cases ha
  · rintro ⟨e, he⟩
    exact isSome_searchFrom he

/-- **Whole lines.** Between the anchors a pattern matches the lines that it can match as a
whole. -/
theorem isSome_onWholeLine :
    (p.onWholeLine.searchFrom none 0 line).isSome = p.matchesAll line := by
  have hstart : ∀ a e, Leads p.onWholeLine a e → a.before = none := by
    intro a e h
    obtain ⟨m, hm, -⟩ := h.of_seq
    obtain ⟨k, hk, -⟩ := hm.of_seq
    obtain ⟨rfl, hfits⟩ := hk.of_anchor
    exact Option.isNone_iff_eq_none.mp hfits
  rw [Bool.eq_iff_iff, isSome_searchFrom_iff hstart, matchesAll_iff]
  constructor
  · -- the anchors are the first and the last step, and neither moves
    rintro ⟨e, he⟩
    obtain ⟨m, hm, hend⟩ := he.of_seq
    obtain ⟨k, hk, hp⟩ := hm.of_seq
    obtain ⟨rfl, -⟩ := hk.of_anchor
    obtain ⟨rfl, hfits⟩ := hend.of_anchor
    exact ⟨e, hp, List.isEmpty_iff.mp hfits⟩
  · rintro ⟨e, he, hend⟩
    exact ⟨e, .seq (.seq (.anchor rfl) he) (.anchor (List.isEmpty_iff.mpr hend))⟩

end Pattern

/-! ### Rules -/

namespace CompiledRule

variable {r : Rule} {c : CompiledRule}

/-- An accepted rule is one with its anchored pattern read. -/
theorem ofRule_eq_ok_iff :
    ofRule r = .ok c ↔ c.rule = r ∧ Regex.ofText? (anchored r.pattern) = some c.regex := by
  unfold ofRule
  cases hregex : Regex.ofText? (anchored r.pattern) with
  | none => simp
  | some regex =>
    simp only [Except.ok.injEq, Option.some.injEq]
    constructor
    · rintro rfl
      exact ⟨rfl, rfl⟩
    · rintro ⟨rfl, rfl⟩
      rfl

/-- **Accepted rules.** A rule is accepted if its pattern is a regular expression that can be
anchored. Else it is accepted only if its pattern closes more than it opens, and the anchors and
their group make a regular expression of it. -/
theorem exists_ofRule_iff :
    (∃ c, ofRule r = .ok c) ↔
      (Regex.ofText? r.pattern).isSome ∧ Enclosable r.pattern ∨
        Overcloses r.pattern ∧ (Regex.ofText? (anchored r.pattern)).isSome := by
  constructor
  · rintro ⟨c, hc⟩
    obtain ⟨-, hregex⟩ := ofRule_eq_ok_iff.mp hc
    -- what the anchors make a regular expression of is one already, or closes more than it opens
    cases hown : Regex.ofText? r.pattern with
    | none =>
      exact .inr ⟨PatternText.overcloses_of_anchored hown hregex, by rw [hregex]; rfl⟩
    | some own => exact .inl ⟨rfl, PatternText.enclosable_of_anchored hown hregex⟩
  · intro h
    have hsome : (Regex.ofText? (anchored r.pattern)).isSome := by
      rcases h with ⟨hown, henclosable⟩ | ⟨-, hsome⟩
      · obtain ⟨own, hown⟩ := Option.isSome_iff_exists.mp hown
        rw [PatternText.ofText?_anchored_of_enclosable hown henclosable]
        rfl
      · exact hsome
    obtain ⟨regex, hregex⟩ := Option.isSome_iff_exists.mp hsome
    exact ⟨⟨r, regex⟩, ofRule_eq_ok_iff.mpr ⟨rfl, hregex⟩⟩

/-- A comment at the end takes the anchor with it. -/
example : (Regex.ofText? "(?x) mtu # size").isSome ∧
    Regex.ofText? (anchored "(?x) mtu # size") = none := by
  decide +kernel

/-- A rule whose pattern is a regular expression matches the lines that the pattern can match as a
whole. -/
theorem isMatch_eq_matchesAll {own : Regex} (hc : ofRule r = .ok c)
    (hown : Regex.ofText? r.pattern = some own) (line : Text) :
    c.regex.isMatch line = own.pattern.matchesAll line := by
  obtain ⟨-, hregex⟩ := ofRule_eq_ok_iff.mp hc
  have henclosable := PatternText.enclosable_of_anchored hown hregex
  rw [PatternText.ofText?_anchored_of_enclosable hown henclosable, Option.some.injEq] at hregex
  rw [← hregex]
  exact Pattern.isSome_onWholeLine

end CompiledRule

namespace Extractor

variable {rules : List Rule} {compiled : List CompiledRule}

/-- All rules are accepted, each by itself and in order. -/
theorem compileAll_eq_ok_iff :
    compileAll rules = .ok compiled ↔
      compiled.map (·.rule) = rules ∧ ∀ c ∈ compiled, CompiledRule.ofRule c.rule = .ok c := by
  -- on the rules, each of which stops the others if it is refused
  induction rules generalizing compiled with
  | nil =>
    rw [compileAll, Except.ok.injEq, List.map_eq_nil_iff]
    constructor
    · rintro rfl
      exact ⟨rfl, fun c hc => by cases hc⟩
    · rintro ⟨rfl, -⟩
      rfl
  | cons r rules ih =>
    constructor
    · intro h
      rw [compileAll] at h
      cases hr : CompiledRule.ofRule r with
      | error e =>
        rw [hr] at h
        cases h
      | ok c =>
        cases hrules : compileAll rules with
        | error e =>
          rw [hr, hrules] at h
          cases h
        | ok cs =>
          rw [hr, hrules] at h
          cases h
          obtain ⟨rfl, -⟩ := CompiledRule.ofRule_eq_ok_iff.mp hr
          obtain ⟨rfl, hall⟩ := ih.mp hrules
          exact ⟨rfl, List.forall_mem_cons.mpr ⟨hr, hall⟩⟩
    · rintro ⟨hmap, hall⟩
      obtain ⟨c, cs, rfl, rfl, hcs⟩ := List.map_eq_cons_iff.mp hmap
      rw [List.forall_mem_cons] at hall
      rw [compileAll, hall.1, ih.mpr ⟨hcs, hall.2⟩]
      rfl

/-- All rules are accepted if each of them is. -/
theorem exists_compileAll_iff :
    (∃ compiled, compileAll rules = .ok compiled) ↔
      ∀ r ∈ rules, ∃ c, CompiledRule.ofRule r = .ok c := by
  constructor
  · rintro ⟨compiled, h⟩ r hr
    obtain ⟨rfl, hall⟩ := compileAll_eq_ok_iff.mp h
    obtain ⟨c, hc, rfl⟩ := List.mem_map.mp hr
    exact ⟨c, hall c hc⟩
  · intro h
    induction rules with
    | nil => exact ⟨[], rfl⟩
    | cons r rules ih =>
      rw [List.forall_mem_cons] at h
      obtain ⟨⟨c, hc⟩, hrules⟩ := h
      obtain ⟨cs, hcs⟩ := ih hrules
      exact ⟨c :: cs, by rw [compileAll, hc, hcs]; rfl⟩

/-- An extractor has the rules, accepted, and skips the lines that it was told. -/
theorem ofRules_eq_ok_iff {skip : Nat} {e : Extractor} :
    ofRules rules skip = .ok e ↔ compileAll rules = .ok e.rules ∧ e.skip = skip := by
  unfold ofRules
  cases compileAll rules with
  | error err =>
    constructor
    · rintro h
      cases h
    · rintro ⟨h, -⟩
      cases h
  | ok compiled =>
    constructor
    · rintro h
      cases h
      exact ⟨rfl, rfl⟩
    · rintro ⟨h, rfl⟩
      cases h
      rfl

end Extractor

end VendorCli
