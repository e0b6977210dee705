import VendorCli.Pattern.Reader
/-!
# The readers in stages

The longer readers of patterns, cut where one part of their piece ends and the next begins: the
stages are functions of their own, and an equation says how each reader is put together from them.
What holds of the stages then carries over to the readers.

* `escape?_cases` says what an escape can be;
* `class?_cases` says what a class can go on with, and `class?_bracket`, `class?_close`, `class?_op`
  and `class?_member` what becomes of it.
-/

namespace VendorCli.PatternText

variable {m : Mode} {t : Text}

/-! ### Escapes -/

/-- **What an escape can be.** It is told by its first character, or by a property, a code point or
a word boundary after it. -/
theorem escape?_cases (m : Mode) (c : Char) :
    (∃ e : Option Escape, ∀ t, escape? m (c :: t) = e.map (·, t)) ∨
    (∃ negated, ∀ t, escape? m (c :: t) = (property? m negated t).map fun r => (.set r.1, r.2)) ∨
    (∃ width, width ≠ 0 ∧
      ∀ t, escape? m (c :: t) = (hex? m width t).map fun r => (.literal r.1, r.2)) ∨
    ∀ t, escape? m (c :: t) = (edge? m t).map fun r => (.anchor r.1, r.2) := by
  by_cases hp : c = 'p'
  · exact .inr (.inl ⟨false, fun t => by rw [hp]; rfl⟩)
  by_cases hP : c = 'P'
  · exact .inr (.inl ⟨true, fun t => by rw [hP]; rfl⟩)
  by_cases hx : c = 'x'
  · exact .inr (.inr (.inl ⟨2, by decide, fun t => by rw [hx]; rfl⟩))
  by_cases hu : c = 'u'
  · exact .inr (.inr (.inl ⟨4, by decide, fun t => by rw [hu]; rfl⟩))
  by_cases hU : c = 'U'
  · exact .inr (.inr (.inl ⟨8, by decide, fun t => by rw [hU]; rfl⟩))
  by_cases hb : c = 'b'
  · exact .inr (.inr (.inr fun t => by rw [hb]; rfl))
  -- every other escape is the same whatever follows it
  refine .inl ⟨(escape? m [c]).map (·.1), fun t => ?_⟩
  unfold escape?
  dsimp only
  split
  all_goals first
    | contradiction
    | rfl
    | (simp only [Option.map_map]; rfl)
    | (split <;> rfl)

/-! ### Members of classes -/

/-- A class by name, after the mark that denies it. -/
def nameAfterSign? (negated : Bool) (t : Text) : Option (CharClass × Text) := do
  let (name, after) ← Text.splitOnce? ':' t
  match after with
  | ']' :: rest => do
    let s ← CharClass.named? name
    return (if negated then .compl s else s, rest)
  | _ => none

/-- Without a mark in front a class is not negated. -/
theorem named?_of_head? (h : t.head? ≠ some '^') : named? t = nameAfterSign? false t := by
  unfold named?
  split
  next negated t' hsign =>
  split at hsign
  · exact absurd rfl h
  · cases hsign
    rfl

/-- A character that is no escape is a member if it can be one in the mode. -/
theorem member?_of_ne {c : Char} (hc : c ≠ '\\') :
    member? m (c :: t) = if m.unicode ∨ c.toNat < 128 then some (.inl c, t) else none := by
  unfold member?
  split
  · next h => cases h
  · next h => exact absurd (List.cons.inj h).1 hc
  · next h =>
    cases h
    rfl

/-- The rest of a range, after its hyphen. -/
def lastOfRange? (m : Mode) (first : Char ⊕ CharClass) (t : Text) : Option (CharClass × Text) := do
  let (last, rest) ← member? m t
  match first, last with
  | .inl a, .inl b => if a ≤ b then some (.range a b, rest) else none
  | _, _ => none

/-- A member that begins no range. -/
def single : Char ⊕ CharClass → CharClass
  | .inl c => .char c
  | .inr s => s

/-- A member, or a range that begins with it, by what follows. -/
def afterMember? (m : Mode) (first : Char ⊕ CharClass) (t : Text) : Option (CharClass × Text) :=
  match t with
  | [] => none
  | '-' :: more =>
    match m.skip more with
    | [] => none
    | ']' :: _ => some (single first, t)
    | '-' :: _ => some (single first, t)
    | more => lastOfRange? m first more
  | t => some (single first, t)

/-- A member, and then what its next character makes of it. -/
theorem memberOrRange?_eq (m : Mode) (t : Text) :
    memberOrRange? m t = (member? m t).bind fun p => afterMember? m p.1 (m.skip p.2) := rfl

/-! ### Classes -/

/-- The mark of a negated class, and what follows it. -/
def sign (m : Mode) (t : Text) : Bool × Text :=
  match m.skip t with
  | '^' :: rest => (true, m.skip rest)
  | t => (false, t)

/-- The start of a class, after the mark that negates it. -/
def afterSign (m : Mode) (negated : Bool) (t : Text) : OpenClass × Text :=
  let members := (t.takeWhile (· = '-')).map fun _ => CharClass.char '-'
  let t := m.skip (t.dropWhile (· = '-'))
  match members, t with
  | [], ']' :: rest => (⟨negated, none, [.char ']']⟩, rest)
  | _, _ => (⟨negated, none, members⟩, t)

/-- The opening of a class: the mark first, then what may stand behind it. -/
theorem opening_eq (m : Mode) (t : Text) :
    opening m t = afterSign m (sign m t).1 (sign m t).2 := rfl

/-- A class by name, after the bracket that opens it. -/
def byName? : Text → Option (CharClass × Text)
  | ':' :: more => named? more
  | _ => none

/-- The characters that stand twice for an operation between sets. -/
def opMarks : List Char := ['&', '-', '~']

/-- A text in a class that neither opens nor closes one, and is about no operation. -/
structure MemberAhead (t : Text) : Prop where
  not_open : t.head? ≠ some '['
  not_close : t.head? ≠ some ']'
  not_op : ∀ c ∈ opMarks, ∀ rest, t ≠ c :: c :: rest

/-- **What a class can go on with.** -/
theorem class?_cases (t : Text) :
    (∃ rest, t = '[' :: rest) ∨ (∃ rest, t = ']' :: rest) ∨
      (∃ c ∈ opMarks, ∃ rest, t = c :: c :: rest) ∨ MemberAhead t := by
  by_cases hopen : t.head? = some '['
  · exact .inl (List.head?_eq_some_iff.mp hopen)
  by_cases hclose : t.head? = some ']'
  · exact .inr (.inl (List.head?_eq_some_iff.mp hclose))
  by_cases hop : ∃ c ∈ opMarks, ∃ rest, t = c :: c :: rest
  · exact .inr (.inr (.inl hop))
  · exact .inr (.inr (.inr ⟨hopen, hclose, fun c hc rest h => hop ⟨c, hc, rest, h⟩⟩))

section Class

variable {steps : Nat} {o : OpenClass} {outer : List OpenClass} {rest : Text}

/-- An opening bracket begins a class by name, or a class inside. -/
theorem class?_bracket (h : m.skip t = '[' :: rest) :
    class? m (steps + 1) o outer t = match byName? rest with
      | some (s, after) => class? m steps { o with members := s :: o.members } outer after
      | none => class? m steps (opening m rest).1 (o :: outer) (opening m rest).2 := by
  rw [class?, h]
  rfl

/-- A closing bracket ends the class at hand. -/
theorem class?_close (h : m.skip t = ']' :: rest) :
    class? m (steps + 1) o outer t = (o.close? m).bind fun s =>
      match outer with
      | [] => some (s, rest)
      | enclosing :: more =>
        class? m steps { enclosing with members := s :: enclosing.members } more rest := by
  rw [class?, h]
  rfl

/-- A doubled mark is an operation: the members so far become its left side. -/
theorem class?_op (m : Mode) (o : OpenClass) (outer : List OpenClass) {c : Char}
    (hc : c ∈ opMarks) :
    ∃ o', ∀ {steps : Nat} {t rest : Text}, m.skip t = c :: c :: rest →
      class? m (steps + 1) o outer t = class? m steps o' outer rest := by
  simp only [opMarks, List.mem_cons, List.not_mem_nil, or_false] at hc
  rcases hc with rfl | rfl | rfl
  · exact ⟨⟨o.negated, some (o.value m, .inter), []⟩, fun h => by rw [class?, h]; rfl⟩
  · exact ⟨⟨o.negated, some (o.value m, .diff), []⟩, fun h => by rw [class?, h]; rfl⟩
  · exact ⟨⟨o.negated, some (o.value m, .symmDiff), []⟩, fun h => by rw [class?, h]; rfl⟩

/-- Anything else is a member, or a range. -/
theorem class?_member (h : MemberAhead (m.skip t)) :
    class? m (steps + 1) o outer t = (memberOrRange? m (m.skip t)).bind fun p =>
      class? m steps { o with members := p.1 :: o.members } outer p.2 := by
  rw [class?]
  -- the cases with a mark in front contradict `h`
  split
  · next hs =>
    rw [hs]
    rfl
  · next hs => exact absurd (by rw [hs]; rfl) h.not_open
  · next hs => exact absurd (by rw [hs]; rfl) h.not_close
  · next hs => exact absurd hs (h.not_op _ (by decide) _)
  · next hs => exact absurd hs (h.not_op _ (by decide) _)
  · next hs => exact absurd hs (h.not_op _ (by decide) _)
  · rfl

end Class

/-! ### Repetitions -/

/-- The upper bound of a repetition, and the brace that ends it. -/
def upperBound? (m : Mode) (min : Nat) (t : Text) : Option ((Nat × Option Nat) × Text) := do
  let (max, t) ← bound? t
  match m.skip t with
  | '\x7d' :: rest => if min ≤ max then some ((min, some max), rest) else none
  | _ => none

/-- What follows the lower bound of a repetition. -/
def afterLower? (m : Mode) (min : Nat) (t : Text) : Option ((Nat × Option Nat) × Text) :=
  match t with
  | '\x7d' :: rest => some ((min, some min), rest)
  | ',' :: rest =>
    match m.skip rest with
    | '\x7d' :: rest => some ((min, none), rest)
    | t => upperBound? m min t
  | _ => none

/-- The bounds: the lower one first, then what follows it. -/
theorem bounds?_eq (m : Mode) (t : Text) :
    bounds? m t = (bound? (m.skip t)).bind fun b => afterLower? m b.1 (m.skip b.2) := rfl

/-! ### Groups -/

/-- A group in another mode, or a change of mode, after its question mark. -/
def flagged? (r : Reading) (t : Text) : Option (Reading × Text) :=
  let flags := t.takeWhile fun c => c ≠ ':' ∧ c ≠ ')'
  match t.dropWhile fun c => c ≠ ':' ∧ c ≠ ')' with
  | ':' :: after => do
    let m ← setFlags? true [] flags r.mode
    return (← r.openGroup? none m, after)
  | _ :: after => do
    if flags = [] then none
    else
      let m ← setFlags? true [] flags r.mode
      return ({ r with mode := m, inner := { r.inner with items := .directive :: r.inner.items } },
        after)
  | [] => none

/-- A group or a change of mode, by what follows its parenthesis. -/
def groupBefore? (r : Reading) : Text → Option (Reading × Text)
  | '?' :: '=' :: _ => none
  | '?' :: '!' :: _ => none
  | '?' :: '<' :: '=' :: _ => none
  | '?' :: '<' :: '!' :: _ => none
  | '?' :: 'P' :: '<' :: rest => namedGroup? r rest
  | '?' :: '<' :: rest => namedGroup? r rest
  | '?' :: rest => flagged? r rest
  | rest => do
    let index := r.groups + 1
    let opened ← r.openGroup? (some index) r.mode
    return ({ opened with groups := index }, rest)

section Group

variable {r : Reading}

/-- A group: blanks are skipped first, then the marks behind the parenthesis tell what it is. -/
theorem group?_eq (r : Reading) (t : Text) : group? r t = groupBefore? r (r.mode.skip t) := rfl

/-- A name in angle brackets. -/
theorem groupBefore?_name (hahead : t.head? ≠ some '=') (hnot : t.head? ≠ some '!') :
    groupBefore? r ('?' :: '<' :: t) = namedGroup? r t := by
  unfold groupBefore?
  split <;> grind

/-- A question mark without a name behind it is for flags. -/
theorem groupBefore?_flags (hahead : t.head? ≠ some '=') (hnot : t.head? ≠ some '!')
    (hname : t.head? ≠ some '<') (hname' : ∀ u, t ≠ 'P' :: '<' :: u) :
    groupBefore? r ('?' :: t) = flagged? r t := by
  unfold groupBefore?
  split <;> simp_all

/-- Without a question mark the group has a number. -/
theorem groupBefore?_plain (h : t.head? ≠ some '?') :
    groupBefore? r t = (r.openGroup? (some (r.groups + 1)) r.mode).bind fun opened =>
      some ({ opened with groups := r.groups + 1 }, t) := by
  unfold groupBefore?
  split <;> simp_all

end Group

end VendorCli.PatternText
