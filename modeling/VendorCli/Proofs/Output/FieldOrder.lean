import VendorCli.Proofs.Output.Fields
import VendorCli.Proofs.Registry.Refusals
import Mathlib.Data.List.Sort
/-!
# The order of the fields of a record

The fields of a record stand in the order in which they enter it, and they enter it in two rounds
(`Extractor.entering`): first the fields of the rules that find something, then those of the rules
that have a fallback. A field that is filled in stands behind all fields that are found, wherever
its rules are.

So a record need not follow the order of the rules. It does so exactly if of any two of its fields
the one that enters first also has the first rule (`Extractor.names_in_rule_order_iff`).
-/

namespace VendorCli

/-! ### First occurrences -/

section Order

variable {α : Type} [BEq α] [LawfulBEq α] {a b : α} {l l₁ l₂ : List α}

/-- In front of a list, an element comes before all others and after none. -/
theorem idxOf_cons_lt_iff (c : α) : (c :: l).idxOf a < (c :: l).idxOf b
    ↔ c ≠ b ∧ (c = a ∨ l.idxOf a < l.idxOf b) := by
  by_cases hb : c = b
  · simp [hb]
  · rw [List.idxOf_cons_ne l hb]
    by_cases ha : c = a
    · rw [ha, List.idxOf_cons_self]
      simp [← ha, hb]
    · rw [List.idxOf_cons_ne l ha]
      simp [ha, hb]

/-- Elements that are kept keep their order. -/
theorem idxOf_filter_lt_iff {p : α → Bool} (ha : p a = true) (hb : p b = true) :
    (l.filter p).idxOf a < (l.filter p).idxOf b ↔ l.idxOf a < l.idxOf b := by
  -- on the list; an element that is left out is none of the two
  induction l with
  | nil => rfl
  | cons c l ih =>
    by_cases hc : p c = true
    · rw [List.filter_cons_of_pos hc, idxOf_cons_lt_iff, idxOf_cons_lt_iff, ih]
    · have hca : c ≠ a := fun h => hc (h ▸ ha)
      have hcb : c ≠ b := fun h => hc (h ▸ hb)
      rw [List.filter_cons_of_neg hc, idxOf_cons_lt_iff, ih]
      simp [hca, hcb]

/-- The order of first occurrences is that of the list. -/
theorem idxOf_distinct_lt_iff [DecidableEq α] :
    (distinct l).idxOf a < (distinct l).idxOf b ↔ l.idxOf a < l.idxOf b := by
  induction l with
  | nil => rfl
  | cons c l ih =>
    rw [distinct, idxOf_cons_lt_iff, idxOf_cons_lt_iff]
    -- if the two differ from the head, leaving out its copies keeps their order
    refine and_congr_right fun hb => or_congr_right' fun ha => ?_
    rw [idxOf_filter_lt_iff (by simpa using Ne.symm ha) (by simpa using Ne.symm hb), ih]

/-- Without repetitions, pairs in order are pairs of elements at first occurrences in order. -/
theorem pairwise_iff_of_nodup {R : α → α → Prop} (h : l.Nodup) :
    l.Pairwise R ↔ ∀ a ∈ l, ∀ b ∈ l, l.idxOf a < l.idxOf b → R a b := by
  rw [List.pairwise_iff_getElem]
  constructor
  · intro hpairs a ha b hb hab
    have hpair := hpairs _ _ (List.idxOf_lt_length_of_mem ha) (List.idxOf_lt_length_of_mem hb) hab
    rwa [List.getElem_idxOf, List.getElem_idxOf] at hpair
  · intro hindices i j hi hj hij
    refine hindices _ (List.getElem_mem hi) _ (List.getElem_mem hj) ?_
    rwa [h.idxOf_getElem i hi, h.idxOf_getElem j hj]

/-- A list without repetitions is a part of another one in order, if its elements are and come in
the same order. -/
theorem sublist_iff_of_nodup (h₁ : l₁.Nodup) (h₂ : l₂.Nodup) (hsubset : l₁ ⊆ l₂) :
    l₁.Sublist l₂ ↔ ∀ a ∈ l₁, ∀ b ∈ l₁, l₁.idxOf a < l₁.idxOf b → l₂.idxOf a < l₂.idxOf b := by
  have hordered : l₂.Pairwise fun a b => l₂.idxOf a < l₂.idxOf b :=
    (pairwise_iff_of_nodup h₂).mpr fun _ _ _ _ hab => hab
  rw [← pairwise_iff_of_nodup h₁ (R := fun a b => l₂.idxOf a < l₂.idxOf b)]
  constructor
  · intro hsublist
    exact hordered.sublist hsublist
  · intro hpairs
    -- both lists are sorted by the position in the longer one, which leaves no choice of an order
    have : Std.Antisymm fun a b => l₂.idxOf a < l₂.idxOf b :=
      ⟨fun a b hab hba => absurd hab (Nat.lt_asymm hba)⟩
    exact List.sublist_of_subperm_of_pairwise (List.subperm_of_subset h₁ hsubset) hpairs hordered

/-- The same of first occurrences in two lists with repetitions. -/
theorem distinct_sublist_iff [DecidableEq α] (hsubset : l₁ ⊆ l₂) :
    (distinct l₁).Sublist (distinct l₂)
      ↔ ∀ a ∈ l₁, ∀ b ∈ l₁, l₁.idxOf a < l₁.idxOf b → l₂.idxOf a < l₂.idxOf b := by
  have hdistinct : distinct l₁ ⊆ distinct l₂ := fun a ha =>
    mem_distinct.mpr (hsubset (mem_distinct.mp ha))
  rw [sublist_iff_of_nodup (nodup_distinct l₁) (nodup_distinct l₂) hdistinct]
  simp only [mem_distinct, idxOf_distinct_lt_iff]

end Order

namespace Extractor

/-! ### Records -/

/-- The fields that some rules are about, one for each rule. -/
def fieldsOf (rules : List CompiledRule) : List Text :=
  rules.map fun c => c.rule.field

theorem fieldsOf_append (rules others : List CompiledRule) :
    fieldsOf (rules ++ others) = fieldsOf rules ++ fieldsOf others :=
  List.map_append

variable {value? : CompiledRule → Option Json} {rules : List CompiledRule}

/-- What is tagged has the fields of the rules that give a value. -/
theorem names_tagged : (tagged value? rules).map (·.1)
    = fieldsOf (rules.filter fun c => (value? c).isSome) := by
  induction rules with
  | nil => rfl
  | cons c rules ih =>
    cases hvalue : value? c with
    | none => simpa [tagged, hvalue, fieldsOf] using ih
    | some v => simpa [tagged, hvalue, fieldsOf] using ih

/-- The rules in the order in which their fields enter the record of some lines: those that find
something, and then those that have a fallback. -/
def entering (e : Extractor) (lines : List Text) : List CompiledRule :=
  (e.rules.filter fun c => (c.found? lines).isSome)
    ++ e.rules.filter fun c => c.fallback.isSome

/-- Only rules of the extractor enter. -/
theorem entering_subset (e : Extractor) (lines : List Text) : e.entering lines ⊆ e.rules := by
  intro c hc
  rcases List.mem_append.mp hc with hc | hc
  · exact List.mem_of_mem_filter hc
  · exact List.mem_of_mem_filter hc

/-- The fields of a record are those that enter it, each where it first does. -/
theorem names_record {e : Extractor} {output : Text} {r : Record} (h : e.record output = .ok r) :
    r.map (·.1) = distinct (fieldsOf (e.entering (Output.trimmedLines e.skip output))) := by
  rw [record_eq e output rfl] at h
  split at h
  · cases h
  · cases h
    -- inserting keeps a field where it first was, be it found again or filled in
    have hfound : (insertAll (tagged (CompiledRule.found? · (Output.trimmedLines e.skip output))
        e.rules) []).map (·.1) = distinct ([] ++ _) := names_insertAll rfl
    rw [names_insertMissing hfound, names_tagged, names_tagged, List.nil_append, entering,
      fieldsOf_append]

/-- **Records in rule order.** The fields of a record are those of the rules that enter it, each
where it first does. They are in the order of the rules exactly if, of any two of them, the one that
enters first also has the first rule. -/
theorem names_in_rule_order_iff (e : Extractor) {output : Text} {r : Record}
    (h : e.record output = .ok r) :
    let entering := fieldsOf (e.entering (Output.trimmedLines e.skip output))
    let all := fieldsOf e.rules
    r.map (·.1) = distinct entering ∧ ((r.map (·.1)).Sublist e.fields ↔
      ∀ a ∈ entering, ∀ b ∈ entering,
        entering.idxOf a < entering.idxOf b → all.idxOf a < all.idxOf b) := by
  intro entering all
  have hsubset : entering ⊆ all := List.map_subset _ (e.entering_subset _)
  rw [names_record h]
  exact ⟨rfl, distinct_sublist_iff hsubset⟩

/-- A size that is found enters a record before a zone that is filled in. With its rule first, the
record is in rule order. -/
theorem size_then_zone_in_rule_order :
    let size : Rule := .ofInteger "mtu" "mtu (\\d+)"
    let zone : Rule := { Rule.ofText "vrf" "vrf (\\S+)" with default := some (.string "global") }
    ∃ e r, ofRules [size, zone] 0 = .ok e ∧ e.record "mtu 9000" = .ok r ∧
      (r.map (·.1)).Sublist e.fields := by
  intro size zone
  have hrun : (ofRules [size, zone] 0 >>= fun e => (e.record "mtu 9000") >>= fun r =>
      return (fieldsOf (e.entering (Output.trimmedLines e.skip "mtu 9000")), fieldsOf e.rules))
      = .ok ([("mtu" : Text), "vrf"], [("mtu" : Text), "vrf"]) := by decide +kernel
  obtain ⟨e, he, hrun⟩ := exists_of_bind_eq_ok hrun
  obtain ⟨r, hr, hrun⟩ := exists_of_bind_eq_ok hrun
  injection hrun with hrun
  obtain ⟨hentering, hall⟩ := Prod.mk.inj hrun
  refine ⟨e, r, he, hr, (names_in_rule_order_iff e hr).2.mpr ?_⟩
  rw [hentering, hall]
  exact fun _ _ _ _ h => h

/-- **A zone that is filled in comes last**, although its rule is the first. -/
theorem zone_then_size_out_of_order :
    let size : Rule := .ofInteger "mtu" "mtu (\\d+)"
    let zone : Rule := { Rule.ofText "vrf" "vrf (\\S+)" with default := some (.string "global") }
    ∃ e r, ofRules [zone, size] 0 = .ok e ∧ e.record "mtu 9000" = .ok r ∧
      e.fields = [("vrf" : Text), "mtu"] ∧ r.map (·.1) = [("mtu" : Text), "vrf"] ∧
      ¬ (r.map (·.1)).Sublist e.fields := by
  intro size zone
  have hrun : (ofRules [zone, size] 0 >>= fun e => (e.record "mtu 9000") >>= fun r =>
      return (e.fields, r.map fun kv => kv.1))
      = .ok ([("vrf" : Text), "mtu"], [("mtu" : Text), "vrf"]) := by decide +kernel
  obtain ⟨e, he, hrun⟩ := exists_of_bind_eq_ok hrun
  obtain ⟨r, hr, hrun⟩ := exists_of_bind_eq_ok hrun
  injection hrun with hrun
  obtain ⟨hfields, hnames⟩ := Prod.mk.inj hrun
  refine ⟨e, r, he, hr, hfields, hnames, ?_⟩
  rw [hfields, hnames]
  decide

end Extractor

end VendorCli
