import VendorCli.Proofs.Output.Fields
/-!
# Where the fields of a record come from

Rules find the fields of a record one after the other, and each rule writes its own field alone.

* A rule whose pattern is known as a function on lines (`CompiledRule.Reads`) finds what the
  function gives for the first line that it gives anything for (`CompiledRule.Reads.apply`).
* A record exists if every rule finds something or nothing (`Extractor.exists_record`); the first
  rule that fails instead is what the record fails by (`Extractor.record_of_error`).
* The field of a rule holds what the rule finds, and else its fallback, if no other rule is about
  that field (`Extractor.lookup?_record`).
-/

namespace VendorCli

/-! ### Rules -/

namespace CompiledRule

/-- A function on lines tells what a rule captures in a line, if it tells it for each line that the
rule matches and for no other. -/
def Reads (c : CompiledRule) (value? : Text → Option Text) : Prop :=
  ∀ line, (c.regex.captures? line).map (c.regex.named? · "value") = (value? line).map some

variable {c : CompiledRule} {value? : Text → Option Text}

/-- The first line that matches is the first that has a value. -/
theorem Reads.findSome? (h : c.Reads value?) (lines : List Text) :
    (lines.findSome? c.regex.captures?).map (c.regex.named? · "value")
      = (lines.findSome? value?).map some := by
  -- on the lines; what the rule captures in one tells whether the search goes on
  induction lines with
  | nil => rfl
  | cons line lines ih =>
    have hline := h line
    rw [List.findSome?_cons, List.findSome?_cons]
    cases hcaps : c.regex.captures? line with
    | none =>
      rw [hcaps, Option.map_none, eq_comm, Option.map_eq_none_iff] at hline
      rw [hline]
      exact ih
    | some caps =>
      rw [hcaps, Option.map_some, eq_comm, Option.map_eq_some_iff] at hline
      obtain ⟨t, ht, hvalue⟩ := hline
      rw [ht, Option.map_some, Option.map_some, hvalue]

/-- **What a rule finds** is the value of the first line that has one. -/
theorem Reads.apply (h : c.Reads value?) (hkind : c.rule.kind ≠ .flag)
    (hmultiple : c.rule.multiple = false) (lines : List Text) :
    c.apply lines = (lines.findSome? value?).elim (.ok none) fun t => (c.convert t).map some := by
  have hvalue := h.findSome? lines
  rw [apply_of_single hkind hmultiple]
  cases hcaps : lines.findSome? c.regex.captures? with
  | none =>
    rw [hcaps, Option.map_none, eq_comm, Option.map_eq_none_iff] at hvalue
    rw [hvalue]
    rfl
  | some caps =>
    rw [hcaps, Option.map_some, eq_comm, Option.map_eq_some_iff] at hvalue
    obtain ⟨t, ht, hnamed⟩ := hvalue
    rw [ht, Option.elim_some, Option.elim_some, extract, ← hnamed]

end CompiledRule

/-! ### Records -/

namespace Extractor

variable {output : Text} {c : CompiledRule} {rules before after : List CompiledRule} {skip : Nat}
  {r : Record}

/-- **Records exist** if no rule fails. -/
theorem exists_record (h : ∀ c ∈ rules, ∃ v, c.apply (Output.trimmedLines skip output) = .ok v) :
    ∃ r, (Extractor.mk rules skip).record output = .ok r := by
  -- no rule fails, so there is no first fault
  have hfault :
      rules.findSome? (CompiledRule.fault? · (Output.trimmedLines skip output)) = none := by
    rw [List.findSome?_eq_none_iff]
    exact fun c hc => CompiledRule.fault?_eq_none_iff.mpr (h c hc)
  rw [record_eq _ output rfl, hfault]
  exact ⟨_, rfl⟩

/-- **The first rule that fails** is what the record fails by. -/
theorem record_of_error {e : Error}
    (hbefore : ∀ d ∈ before, ∃ v, d.apply (Output.trimmedLines skip output) = .ok v)
    (h : c.apply (Output.trimmedLines skip output) = .error e) :
    (Extractor.mk (before ++ c :: after) skip).record output = .error e := by
  have hnone :
      before.findSome? (CompiledRule.fault? · (Output.trimmedLines skip output)) = none := by
    rw [List.findSome?_eq_none_iff]
    exact fun d hd => CompiledRule.fault?_eq_none_iff.mpr (hbefore d hd)
  rw [record_eq _ output rfl, List.findSome?_append, hnone, Option.none_or, List.findSome?_cons,
    CompiledRule.fault?_eq_some_iff.mpr h]

/-- **The field of a rule** holds what the rule finds, and else its fallback, if no other rule is
about that field. -/
theorem lookup?_record (hbefore : ∀ d ∈ before, d.rule.field ≠ c.rule.field)
    (hafter : ∀ d ∈ after, d.rule.field ≠ c.rule.field)
    (h : (Extractor.mk (before ++ c :: after) skip).record output = .ok r) :
    ∃ v, c.apply (Output.trimmedLines skip output) = .ok v ∧
      lookup? c.rule.field r = v.or c.fallback := by
  -- the field belongs to this rule alone
  have honly : (Extractor.mk (before ++ c :: after) skip).rulesFor c.rule.field = [c] := by
    rw [rulesFor, List.filter_append, List.filter_cons_of_pos (by simp),
      List.filter_eq_nil_iff.mpr (by simpa using hbefore),
      List.filter_eq_nil_iff.mpr (by simpa using hafter), List.nil_append]
  -- the record exists, so this rule did not fail either
  have hfault : c.fault? (Output.trimmedLines skip output) = none := by
    rw [record_eq _ output rfl] at h
    split at h
    · cases h
    · next hnone =>
      rw [List.findSome?_eq_none_iff] at hnone
      exact hnone c (List.mem_append_right _ List.mem_cons_self)
  refine ⟨c.found? (Output.trimmedLines skip output), ?_, ?_⟩
  · rw [CompiledRule.apply_eq, hfault]
  · rw [lookup?_of_record h rfl, honly, List.reverse_singleton]
    simp only [List.findSome?_singleton]

end Extractor

end VendorCli
