import VendorCli.Output.Extractor
import VendorCli.Proofs.Text.Tables
/-!
# What the fields of a record hold

A record is made of what the rules find and of what they fall back to. Reading it off the rules
takes two steps.

* A rule looks into its first matching line, or into all of them, and reads the texts that a match
  holds (`CompiledRule.held`). A text that is no number where one is needed is its fault
  (`CompiledRule.fault?`); without a fault it finds a value if a line matches at all
  (`CompiledRule.found?`). This is all that applying a rule does (`CompiledRule.apply_eq`).
* The first rule with a fault is what a record fails by. Without one, the rules put what they find
  into the record one after the other, and then what they fall back to where the record has nothing
  (`Extractor.record_eq`).

So a field has the value of the last rule for it that finds one, and else the fallback of the first
rule for it that has one (`Extractor.record_by_rules`).
-/

namespace VendorCli

namespace CompiledRule

/-! ### The value of a match -/

/-- What a match holds for a rule: one text, or several by the names of their groups. -/
inductive Held where
  | one (t : Text)
  | named (texts : List (Text × Text))

/-- The texts of a match. -/
def Held.texts : Held → List Text
  | one t => [t]
  | named texts => texts.map (·.2)

/-- The value of a match, if texts are read in some way: several texts make an object. -/
def Held.value (read : Text → Json) : Held → Json
  | one t => read t
  | named texts => Json.ofFields (texts.map fun nt => (nt.1, read nt.2))

/-- The names and texts of the named groups that took part in a match. -/
def namedTexts (caps : Captures) (names : List (Nat × Text)) : List (Text × Text) :=
  names.filterMap fun n => (caps.get? n.1).map fun t => (n.2, t)

variable (c : CompiledRule)

/-- What a match holds: the group called `value`; else the only named group, or without named groups
the first group or the whole match, empty if it took no part; else all named groups that took
part. -/
def held (caps : Captures) : Held :=
  match c.regex.named? caps "value", c.regex.names with
  | some t, _ => .one t
  | none, [] => .one (((caps.get? 1).or (caps.get? 0)).getD [])
  | none, [(index, _)] => .one ((caps.get? index).getD [])
  | none, names => .named (namedTexts caps names)

/-- The rule is for whole numbers, and the text is none of sixty-four bits. -/
def Refuses (t : Text) : Prop :=
  c.rule.kind = .integer ∧ Decimal.int64? (Text.trim t) = none

instance (t : Text) : Decidable (c.Refuses t) :=
  inferInstanceAs (Decidable (_ ∧ _))

/-- The value that a text is read as, unless it is refused. -/
def read (t : Text) : Json :=
  match c.rule.kind with
  | .integer => .number (.integer ((Decimal.int64? (Text.trim t)).getD 0))
  | _ => .string t

/-- The value of a match in which no text is refused. -/
def valueOf (caps : Captures) : Json :=
  (c.held caps).value c.read

/-- The matches that a rule looks into: all of them, or the first. -/
def relevant (lines : List Text) : List Captures :=
  if c.rule.multiple then c.matchesIn lines else (c.matchesIn lines).take 1

variable (lines : List Text)

/-- The fault of a rule in some lines: the first text that is refused in a match that it looks
into. -/
def fault? : Option Error :=
  (((c.relevant lines).flatMap fun caps => (c.held caps).texts).find? fun t => c.Refuses t).map
    fun t => .parse (.notInteger c.rule.field t)

/-- What a rule without a fault finds in some lines, if any of them matches: whether the flag is
set, the values of all matches, or the value of the first. -/
def found? : Option Json :=
  match c.matchesIn lines with
  | [] => none
  | first :: others => some
    (if c.rule.kind = .flag then .bool (!c.rule.negate)
    else if c.rule.multiple then .array ((first :: others).map c.valueOf)
    else c.valueOf first)

/-- A value that depends on texts, none of which may be refused. -/
def checked {α : Type} (texts : List Text) (a : α) : Except Error α :=
  match texts.find? fun t => c.Refuses t with
  | some t => .error (.parse (.notInteger c.rule.field t))
  | none => .ok a

variable {c}

/-- A function of the value changes no refusal. -/
theorem map_checked {α β : Type} (texts : List Text) (a : α) (f : α → β) :
    (c.checked texts a).map f = c.checked texts (f a) := by
  unfold checked
  split <;> rfl

/-- Texts of two values are looked at one after the other. -/
theorem bind_checked {α β γ : Type} (texts more : List Text) (a : α) (b : β) (f : α → β → γ) :
    (do
      let x ← c.checked texts a
      let y ← c.checked more b
      return f x y) = c.checked (texts ++ more) (f a b) := by
  unfold checked
  rw [List.find?_append]
  cases texts.find? fun t => c.Refuses t with
  | some t => rfl
  | none => cases more.find? fun t => c.Refuses t <;> rfl

/-- A single text is converted unless it is refused. -/
theorem convert_eq (t : Text) : c.convert t = c.checked [t] (c.read t) := by
  rw [convert, checked, read]
  cases hkind : c.rule.kind with
  | integer => cases hint : Decimal.int64? (Text.trim t) <;> simp [Refuses, hkind, hint]
  | text => simp [Refuses, hkind]
  | flag => simp [Refuses, hkind]

/-- The values of named groups are those of their texts, read one after the other. -/
theorem namedValues_eq (caps : Captures) (names : List (Nat × Text)) :
    c.namedValues caps names = c.checked ((namedTexts caps names).map (·.2))
      ((namedTexts caps names).map fun nt => (nt.1, c.read nt.2)) := by
  induction names with
  | nil => rfl
  | cons n names ih =>
    obtain ⟨index, name⟩ := n
    rw [namedValues, ih]
    cases hget : caps.get? index with
    -- a group that took no part gives no text
    | none =>
      have htexts : namedTexts caps ((index, name) :: names) = namedTexts caps names := by
        simp [namedTexts, hget]
      rw [htexts]
    -- the text of the group is looked at before those of the others
    | some t =>
      have htexts : namedTexts caps ((index, name) :: names)
          = (name, t) :: namedTexts caps names := by simp [namedTexts, hget]
      rw [htexts, List.map_cons, List.map_cons]
      dsimp only
      rw [convert_eq]
      exact bind_checked _ _ _ _ fun value others => (name, value) :: others

/-- **The value of a match** is read off the texts that it holds, unless one of them is refused. -/
theorem extract_eq (caps : Captures) :
    c.extract caps = c.checked (c.held caps).texts (c.valueOf caps) := by
  unfold extract valueOf held
  cases c.regex.named? caps "value" with
  | some t => exact convert_eq t
  -- by the names of the groups, as they decide what the match holds
  | none =>
    generalize c.regex.names = names
    match names with
    | [] => exact convert_eq _
    | [(index, name)] => exact convert_eq _
    | n :: m :: names =>
      dsimp only
      rw [namedValues_eq, map_checked]
      rfl

/-- The values of several matches, read one after the other. -/
theorem extractAll_eq (all : List Captures) :
    c.extractAll all
      = c.checked (all.flatMap fun caps => (c.held caps).texts) (all.map c.valueOf) := by
  induction all with
  | nil => rfl
  | cons caps all ih =>
    rw [extractAll, extract_eq, ih, List.flatMap_cons, List.map_cons]
    exact bind_checked _ _ _ _ List.cons

/-- Only rules for whole numbers have faults. -/
theorem fault?_of_ne (hkind : c.rule.kind ≠ .integer) (lines : List Text) :
    c.fault? lines = none := by
  rw [fault?, Option.map_eq_none_iff, List.find?_eq_none]
  intro t _
  simp [Refuses, hkind]

/-- The first matching line has the first match. -/
theorem findSome?_captures? (lines : List Text) :
    lines.findSome? c.regex.captures? = (c.matchesIn lines).head? := by
  rw [matchesIn, List.head?_filterMap]

/-- A line matches exactly if there is a match. -/
theorem any_isMatch (lines : List Text) :
    lines.any c.regex.isMatch = !(c.matchesIn lines).isEmpty := by
  induction lines with
  | nil => rfl
  | cons line lines ih =>
    rw [List.any_cons, ih, Regex.isMatch, matchesIn, matchesIn, List.filterMap_cons]
    cases c.regex.captures? line <;> rfl

/-- What a rule for all matches does. -/
theorem apply_of_multiple (hflag : c.rule.kind ≠ .flag) (hmultiple : c.rule.multiple = true)
    (lines : List Text) : c.apply lines = (c.extractAll (c.matchesIn lines)).map fun values =>
      if values.isEmpty then none else some (.array values) := by
  rw [apply, hmultiple]
  cases hkind : c.rule.kind with
  | flag => exact absurd hkind hflag
  | text => rfl
  | integer => rfl

/-- What a rule for one match does. -/
theorem apply_of_single (hflag : c.rule.kind ≠ .flag) (hmultiple : c.rule.multiple = false)
    (lines : List Text) : c.apply lines = (lines.findSome? c.regex.captures?).elim (.ok none)
      fun caps => (c.extract caps).map some := by
  rw [apply, hmultiple]
  cases hkind : c.rule.kind with
  | flag => exact absurd hkind hflag
  | text => cases lines.findSome? c.regex.captures? <;> rfl
  | integer => cases lines.findSome? c.regex.captures? <;> rfl

/-- A rule for all matches reads each of them, a rule for the first match that one alone. -/
theorem apply_of_ne (hflag : c.rule.kind ≠ .flag) (lines : List Text) : c.apply lines
    = c.checked ((c.relevant lines).flatMap fun caps => (c.held caps).texts) (c.found? lines) := by
  rw [relevant, found?]
  cases hmultiple : c.rule.multiple with
  | true =>
    -- no match means no texts, and then an empty list of values counts as nothing
    rw [apply_of_multiple hflag hmultiple, extractAll_eq, map_checked, if_pos rfl]
    cases c.matchesIn lines with
    | nil => rfl
    | cons first others => simp [hflag]
  | false =>
    rw [apply_of_single hflag hmultiple, findSome?_captures?]
    cases c.matchesIn lines with
    | nil => rfl
    | cons first others =>
      rw [List.head?_cons, Option.elim_some, extract_eq, map_checked]
      simp [hflag]

/-- **What a rule gives** in some lines: its fault, and without one what it finds. -/
theorem apply_eq (lines : List Text) :
    c.apply lines = match c.fault? lines with
      | some e => .error e
      | none => .ok (c.found? lines) := by
  by_cases hflag : c.rule.kind = .flag
  · -- a flag reads no text, so it has no fault
    rw [fault?_of_ne (by rw [hflag]; decide), apply, hflag, any_isMatch, found?]
    cases c.matchesIn lines with
    | nil => rfl
    | cons first others => simp [hflag]
  · rw [apply_of_ne hflag, checked, fault?]
    cases List.find? _ _ <;> rfl

/-- A rule without a fault gives something or nothing. -/
theorem fault?_eq_none_iff {lines : List Text} :
    c.fault? lines = none ↔ ∃ v, c.apply lines = .ok v := by
  rw [apply_eq]
  cases c.fault? lines <;> simp

/-- A fault of a rule is what applying it fails by. -/
theorem fault?_eq_some_iff {lines : List Text} {e : Error} :
    c.fault? lines = some e ↔ c.apply lines = .error e := by
  rw [apply_eq]
  cases c.fault? lines <;> simp

end CompiledRule

/-! ### Records -/

namespace Extractor

variable {name : Text} {lines : List Text} {value? : CompiledRule → Option Json}
  {rules : List CompiledRule} {found : Record}

/-- What some rules give, each value under the field of its rule. -/
def tagged (value? : CompiledRule → Option Json) (rules : List CompiledRule) : Record :=
  rules.filterMap fun c => (value? c).map fun v => (c.rule.field, v)

/-- A name has the value of the first rule for it that gives one. -/
theorem lookup?_tagged : lookup? name (tagged value? rules)
    = (rules.filter fun c => c.rule.field = name).findSome? value? := by
  -- on the rules; a rule that gives nothing is not there, and is passed over by the search
  induction rules with
  | nil => rfl
  | cons c rules ih =>
    cases hvalue : value? c with
    | none =>
      have htagged : tagged value? (c :: rules) = tagged value? rules := by simp [tagged, hvalue]
      rw [htagged, ih]
      by_cases h : c.rule.field = name <;> simp [h, hvalue]
    | some v =>
      have htagged : tagged value? (c :: rules) = (c.rule.field, v) :: tagged value? rules := by
        simp [tagged, hvalue]
      rw [htagged, lookup?_cons, ih]
      by_cases h : c.rule.field = name <;> simp [h, hvalue]

theorem reverse_tagged : (tagged value? rules).reverse = tagged value? rules.reverse :=
  List.filterMap_reverse.symm

/-- **Finding** stops at the first fault, and else puts in all that is found. -/
theorem findAll_eq : findAll lines rules found
    = match rules.findSome? (CompiledRule.fault? · lines) with
      | some fault => .error fault
      | none => .ok (insertAll (tagged (CompiledRule.found? · lines) rules) found) := by
  -- on the rules, for every record that has been found so far
  induction rules generalizing found with
  | nil => rfl
  | cons c rules ih =>
    rw [findAll, CompiledRule.apply_eq, List.findSome?_cons]
    cases c.fault? lines with
    | some fault => rfl
    | none =>
      cases hfound : c.found? lines with
      | none =>
        have htagged : tagged (CompiledRule.found? · lines) (c :: rules)
            = tagged (CompiledRule.found? · lines) rules := by simp [tagged, hfound]
        rw [htagged]
        exact ih
      | some v =>
        have htagged : tagged (CompiledRule.found? · lines) (c :: rules)
            = (c.rule.field, v) :: tagged (CompiledRule.found? · lines) rules := by
          simp [tagged, hfound]
        rw [htagged]
        exact ih

/-- **Filling in** puts in the fallbacks of fields that are missing. -/
theorem fillIn_eq :
    fillIn rules found = insertMissing (tagged CompiledRule.fallback rules) found := by
  -- on the rules, for every record that has been filled in so far
  induction rules generalizing found with
  | nil => rfl
  | cons c rules ih =>
    rw [fillIn]
    cases hfallback : c.fallback with
    | none =>
      have htagged : tagged CompiledRule.fallback (c :: rules)
          = tagged CompiledRule.fallback rules := by simp [tagged, hfallback]
      rw [htagged]
      cases lookup? c.rule.field found <;> exact ih
    | some v =>
      have htagged : tagged CompiledRule.fallback (c :: rules)
          = (c.rule.field, v) :: tagged CompiledRule.fallback rules := by
        simp [tagged, hfallback]
      rw [htagged, insertMissing, List.foldl_cons]
      cases lookup? c.rule.field found <;> exact ih

/-- **Records** hold what the rules find, and what they fall back to where they find nothing. -/
theorem record_eq (e : Extractor) (output : Text)
    (hlines : Output.trimmedLines e.skip output = lines) :
    e.record output = match e.rules.findSome? (CompiledRule.fault? · lines) with
      | some fault => .error fault
      | none => .ok (insertMissing (tagged CompiledRule.fallback e.rules)
          (insertAll (tagged (CompiledRule.found? · lines) e.rules) [])) := by
  rw [record, hlines, findAll_eq]
  -- fallbacks come into play only if no rule has a fault
  cases e.rules.findSome? (CompiledRule.fault? · lines) with
  | some fault => rfl
  | none => exact congrArg Except.ok fillIn_eq

/-- The rules for a field, in order. -/
def rulesFor (e : Extractor) (name : Text) : List CompiledRule :=
  e.rules.filter fun c => c.rule.field = name

/-- Where a field of a record comes from. -/
theorem lookup?_of_record {e : Extractor} {output : Text} {r : Record} (h : e.record output = .ok r)
    (hlines : Output.trimmedLines e.skip output = lines) (name : Text) : lookup? name r
      = ((e.rulesFor name).reverse.findSome? (CompiledRule.found? · lines)).or
          ((e.rulesFor name).findSome? CompiledRule.fallback) := by
  rw [record_eq e output hlines] at h
  split at h
  · cases h
  · cases h
    have hreverse : (e.rules.reverse.filter fun c => c.rule.field = name)
        = (e.rulesFor name).reverse := List.filter_reverse
    -- what is inserted last counts, so the rules are looked through backwards for what they find
    rw [lookup?_insertMissing, lookup?_insertAll, lookup?_nil, Option.or_none, reverse_tagged,
      lookup?_tagged, lookup?_tagged, hreverse]
    rfl

/-- **A field holds what its last rule found.** A record fails by the fault of the first rule that
has one. Without a fault there is a record, in which each field holds what the last of its rules
that finds something finds; if none does, the fallback of the first of its rules that has one; and a
field without either is absent. -/
theorem record_by_rules (e : Extractor) (output : Text) :
    let lines := Output.trimmedLines e.skip output
    match e.rules.findSome? (CompiledRule.fault? · lines) with
    | some fault => e.record output = .error fault
    | none => ∃ r, e.record output = .ok r ∧ ∀ name, lookup? name r
        = ((e.rulesFor name).reverse.findSome? (CompiledRule.found? · lines)).or
            ((e.rulesFor name).findSome? CompiledRule.fallback) := by
  intro lines
  have hrecord := record_eq e output (rfl : _ = lines)
  cases hfault : e.rules.findSome? (CompiledRule.fault? · lines) with
  | some fault =>
    rw [hfault] at hrecord
    exact hrecord
  | none =>
    rw [hfault] at hrecord
    exact ⟨_, hrecord, lookup?_of_record hrecord rfl⟩

end Extractor

end VendorCli
