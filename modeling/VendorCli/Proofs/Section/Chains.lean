import VendorCli.Proofs.Section.Flattening
/-!
# Chains of sections

A section is named by the lines of the chain that leads to it from the top (`Chain`). `chainsAll`
lists the chains of sections in the order of their ends from the top down, so `chainEnd?` is the end
of the first chain with given lines.

The search for a section goes down one chain only, by the first section with the right line at each
step. What it finds is the end of the first chain (`chainEnd?_of_find?`): all others branch off
later at some step. It finds nothing if it comes to a section with nothing under it that has the
next line, which the first chain to that place shows (`find?_eq_none_iff`). Another section with the
same line may lead on from there, so a chain is missed exactly if the first way to some part of it
is a dead end (`chain_found_iff`).
-/

namespace VendorCli.Section

open Text

/-! ### Chains -/

/-- **Chains.** Sections that lead from one of several sections down to a section, each directly
under the one before, with their lines. -/
inductive Chain : List Section → List Text → Section → Prop
  | top {sections : List Section} {s : Section} (h : s ∈ sections) : Chain sections [s.line] s
  | under {sections : List Section} {s e : Section} {ls : List Text} (h : s ∈ sections)
    (hs : Chain s.children ls e) : Chain sections (s.line :: ls) e

mutual

/-- A section and all sections below it from the top down, each with the lines of the chain that
leads to it. -/
def chains : Section → List (List Text × Section)
  | ⟨line, indent, children⟩ =>
    ([line], ⟨line, indent, children⟩) :: (chainsAll children).map fun c => (line :: c.1, c.2)

/-- Several sections and all sections below them from the top down, each with the lines of the chain
that leads to it. -/
def chainsAll : List Section → List (List Text × Section)
  | [] => []
  | s :: rest => chains s ++ chainsAll rest

end

/-- The end of the first chain with these lines, blanks around them aside. -/
def chainEnd? (sections : List Section) (parents : List Text) : Option Section :=
  ((chainsAll sections).find? fun c => c.1 = parents.map trim).map (·.2)

theorem chainsAll_nil : chainsAll [] = [] := by
  rw [chainsAll]

/-- A section, the chains that go on below it, and the chains of the other sections. -/
theorem chainsAll_cons (s : Section) (rest : List Section) :
    chainsAll (s :: rest)
      = ([s.line], s) :: ((chainsAll s.children).map (fun c => (s.line :: c.1, c.2))
        ++ chainsAll rest) := by
  obtain ⟨line, indent, children⟩ := s
  rw [chainsAll, chains, List.cons_append]

section Chains

variable {sections : List Section} {s e : Section} {ls : List Text}

/-- A chain begins with the first section, and ends there or goes on, or with another one. -/
theorem Chain.of_cons (h : Chain (s :: sections) ls e) :
    ls = [s.line] ∧ e = s ∨ (∃ ms, ls = s.line :: ms ∧ Chain s.children ms e) ∨
      Chain sections ls e := by
  cases h with
  | top h =>
    rcases List.mem_cons.mp h with rfl | h
    · exact .inl ⟨rfl, rfl⟩
    · exact .inr (.inr (.top h))
  | under h hs =>
    rcases List.mem_cons.mp h with rfl | h
    · exact .inr (.inl ⟨_, rfl, hs⟩)
    · exact .inr (.inr (.under h hs))

/-- A chain begins with one of the sections. -/
theorem Chain.exists_first (h : Chain sections ls e) :
    ∃ s ∈ sections, ∃ more, ls = s.line :: more := by
  cases h with
  | top h => exact ⟨e, h, [], rfl⟩
  | under h _ => exact ⟨_, h, _, rfl⟩

/-- More sections have more chains. -/
theorem Chain.cons (h : Chain sections ls e) (s : Section) : Chain (s :: sections) ls e := by
  cases h with
  | top h => exact .top (List.mem_cons_of_mem s h)
  | under h hs => exact .under (List.mem_cons_of_mem s h) hs

/-- All chains are listed, and nothing else is. -/
theorem mem_chainsAll_iff : (ls, e) ∈ chainsAll sections ↔ Chain sections ls e := by
  -- on the sections: a chain goes on below its first section, or begins with a later one
  induction sections using forest_induction generalizing ls with
  | nil =>
    rw [chainsAll_nil]
    exact ⟨fun h => absurd h List.not_mem_nil, fun h => by cases h <;> contradiction⟩
  | cons s rest ihchildren ihrest =>
    rw [chainsAll_cons, List.mem_cons, List.mem_append, List.mem_map, ihrest]
    constructor
    · rintro (h | ⟨⟨ms, f⟩, hf, h⟩ | h)
      · cases h
        exact .top List.mem_cons_self
      · cases h
        exact .under List.mem_cons_self (ihchildren.mp hf)
      · exact h.cons s
    · intro h
      rcases h.of_cons with ⟨rfl, rfl⟩ | ⟨ms, rfl, hms⟩ | h
      · exact .inl rfl
      · exact .inr (.inl ⟨(ms, e), ihchildren.mpr hms, rfl⟩)
      · exact .inr (.inr h)

end Chains

/-! ### The first chain -/

section FirstChain

variable {sections : List Section} {s e : Section} {p q : Text} {ps more : List Text}

/-- There is no first chain if there is none. -/
theorem chainEnd?_eq_none_iff :
    chainEnd? sections ps = none ↔ ∀ e, ¬ Chain sections (ps.map trim) e := by
  rw [chainEnd?, Option.map_eq_none_iff, List.find?_eq_none]
  constructor
  · intro h e he
    exact h _ (mem_chainsAll_iff.mpr he) (decide_eq_true rfl)
  · rintro h ⟨ls, e⟩ he hls
    have hls : ls = ps.map trim := of_decide_eq_true hls
    exact h e (mem_chainsAll_iff.mp (hls ▸ he))

theorem chainEnd?_nil (sections : List Section) : chainEnd? sections [] = none := by
  rw [chainEnd?_eq_none_iff]
  intro e he
  obtain ⟨s, -, more, h⟩ := he.exists_first
  cases h

/-- The chains with given lines are those that begin with the first section, and then the others. -/
theorem chainEnd?_cons (s : Section) (rest : List Section) (ps : List Text) :
    chainEnd? (s :: rest) ps
      = (((([s.line], s) :: (chainsAll s.children).map fun c => (s.line :: c.1, c.2)).find?
          fun c => c.1 = ps.map trim).map (·.2)).or (chainEnd? rest ps) := by
  rw [chainEnd?, chainsAll_cons, ← List.cons_append, List.find?_append, Option.map_or]
  rfl

/-- No chain begins with a section that has another line. -/
theorem chainEnd?_cons_of_ne (h : s.line ≠ trim p) (rest : List Section) (more : List Text) :
    chainEnd? (s :: rest) (p :: more) = chainEnd? rest (p :: more) := by
  rw [chainEnd?_cons, List.find?_eq_none.mpr, Option.map_none, Option.none_or]
  intro c hc
  rcases List.mem_cons.mp hc with rfl | hc
  · simp [h]
  · obtain ⟨d, -, rfl⟩ := List.mem_map.mp hc
    simp [h]

/-- A chain of one line is at its end with the first section that has it. -/
theorem chainEnd?_cons_singleton (h : s.line = trim p) (rest : List Section) :
    chainEnd? (s :: rest) [p] = some s := by
  rw [chainEnd?_cons, List.find?_cons_of_pos (by simp [h])]
  rfl

/-- A section with the first of several lines begins the chains that go on below it. -/
theorem chainEnd?_cons_cons (h : s.line = trim p) (rest : List Section) (q : Text)
    (more : List Text) : chainEnd? (s :: rest) (p :: q :: more)
      = (chainEnd? s.children (q :: more)).or (chainEnd? rest (p :: q :: more)) := by
  have hlines : ((fun c : List Text × Section => decide (c.1 = (p :: q :: more).map trim)) ∘
      fun c : List Text × Section => (s.line :: c.1, c.2))
        = fun c => decide (c.1 = (q :: more).map trim) := by
    funext c
    simp [h]
  rw [chainEnd?_cons, List.find?_cons_of_neg (by simp), List.find?_map, hlines, Option.map_map]
  rfl

/-- The only chains with one line are the sections themselves. -/
theorem chainEnd?_singleton (sections : List Section) (p : Text) :
    chainEnd? sections [p] = findLine? p sections := by
  -- on the sections: one with another line is passed over by both
  induction sections with
  | nil => rfl
  | cons s rest ih =>
    by_cases h : s.line = trim p
    · rw [chainEnd?_cons_singleton h, findLine?, List.find?_cons_of_pos (by simpa using h)]
    · rw [chainEnd?_cons_of_ne h, ih, findLine?, findLine?,
        List.find?_cons_of_neg (by simpa using h)]

/-- If a chain begins with the first section that has its first line, then so does the first one. -/
theorem chainEnd?_of_findLine? (hs : findLine? p sections = some s)
    (he : chainEnd? s.children (q :: more) = some e) :
    chainEnd? sections (p :: q :: more) = some e := by
  -- on the sections up to the first that has the line, from where the chain goes on
  induction sections with
  | nil => cases hs
  | cons t rest ih =>
    by_cases h : t.line = trim p
    · rw [findLine?, List.find?_cons_of_pos (by simpa using h)] at hs
      cases hs
      rw [chainEnd?_cons_cons h, he, Option.some_or]
    · rw [findLine?, List.find?_cons_of_neg (by simpa using h)] at hs
      rw [chainEnd?_cons_of_ne h]
      exact ih hs

end FirstChain

/-! ### The search -/

section Search

variable {sections : List Section} {s e : Section} {p : Text} {ps more : List Text}

/-- The search takes the first section with the line and goes on below it. -/
theorem find?_cons_cons (sections : List Section) (p q : Text) (more : List Text) :
    find? sections (p :: q :: more)
      = (findLine? p sections).bind fun s => find? s.children (q :: more) := rfl

/-- **Soundness.** What the search finds is the end of the first chain. -/
theorem chainEnd?_of_find? (h : find? sections ps = some e) : chainEnd? sections ps = some e := by
  induction ps generalizing sections with
  | nil => cases h
  | cons p more ih =>
    -- the search treats the last line apart, so the induction does too
    cases more with
    | nil =>
      rw [chainEnd?_singleton]
      exact h
    | cons q more =>
      rw [find?_cons_cons, Option.bind_eq_some_iff] at h
      obtain ⟨s, hs, he⟩ := h
      exact chainEnd?_of_findLine? hs (ih he)

/-- The search goes on from where a part of the lines leads it. -/
theorem find?_append (hne : ps ≠ []) (hmore : more ≠ []) (sections : List Section) :
    find? sections (ps ++ more) = (find? sections ps).bind fun s => find? s.children more := by
  obtain ⟨q, more, rfl⟩ := List.exists_cons_of_ne_nil hmore
  induction ps generalizing sections with
  | nil => exact absurd rfl hne
  | cons p ps ih =>
    cases ps with
    | nil => rfl
    | cons r ps =>
      rw [List.cons_append, List.cons_append, find?_cons_cons, find?_cons_cons, Option.bind_assoc]
      exact congrArg _ (funext fun s => ih (List.cons_ne_nil r ps) s.children)

/-- No section is found if none has the line. -/
theorem findLine?_eq_none_iff :
    findLine? p sections = none ↔ ∀ s ∈ sections, s.line ≠ trim p := by
  simp [findLine?, List.find?_eq_none]

/-- A search that cannot begin finds nothing. -/
theorem find?_of_findLine? (h : findLine? p sections = none) (more : List Text) :
    find? sections (p :: more) = none := by
  cases more with
  | nil => exact h
  | cons q more => rw [find?_cons_cons, h, Option.bind_none]

/-- Where no section has the first line, no chain begins with it. -/
theorem not_chain_of_findLine? (h : findLine? p sections = none) (more : List Text) (e : Section) :
    ¬ Chain sections ((p :: more).map trim) e := by
  intro he
  obtain ⟨s, hs, ls, hline⟩ := he.exists_first
  exact findLine?_eq_none_iff.mp h s hs (List.cons.inj hline).1.symm

/-- **Dead ends.** At some place among the lines that are to lead to a section, the first chain so
far ends in a section that has nothing under it with the next line. -/
def DeadEnd (sections : List Section) (parents : List Text) : Prop :=
  ∃ ps p more s, parents = ps ++ p :: more ∧ chainEnd? sections ps = some s ∧
    ∀ c ∈ s.children, c.line ≠ trim p

/-- The search does not get past a dead end. -/
theorem DeadEnd.find?_eq_none (h : DeadEnd sections ps) : find? sections ps = none := by
  obtain ⟨qs, p, more, s, rfl, hs, hdead⟩ := h
  have hne : qs ≠ [] := by
    rintro rfl
    rw [chainEnd?_nil] at hs
    cases hs
  rw [Option.eq_none_iff_forall_ne_some]
  intro e he
  rw [find?_append hne (List.cons_ne_nil p more), Option.bind_eq_some_iff] at he
  obtain ⟨t, ht, hfound⟩ := he
  -- if the search comes so far, then to the end of the first chain
  rw [chainEnd?_of_find? ht, Option.some.injEq] at hs
  subst hs
  rw [find?_of_findLine? (findLine?_eq_none_iff.mpr hdead)] at hfound
  cases hfound

/-- A dead end below the first section with a line is one for the chains that begin with it. -/
theorem DeadEnd.cons (hs : findLine? p sections = some s) (h : DeadEnd s.children ps) :
    DeadEnd sections (p :: ps) := by
  obtain ⟨qs, q, more, t, rfl, ht, hdead⟩ := h
  cases qs with
  | nil =>
    rw [chainEnd?_nil] at ht
    cases ht
  | cons r qs => exact ⟨p :: r :: qs, q, more, t, rfl, chainEnd?_of_findLine? hs ht, hdead⟩

/-- A search that finds nothing has no section to begin with, or comes to a dead end. -/
theorem deadEnd_of_find? (h : find? sections (p :: more) = none) :
    findLine? p sections = none ∨ DeadEnd sections (p :: more) := by
  -- on the lines that are left, the search having come as far as the first of them
  induction more generalizing sections p with
  | nil => exact .inl h
  | cons q more ih =>
    cases hs : findLine? p sections with
    | none => exact .inl rfl
    | some s =>
      rw [find?_cons_cons, hs, Option.bind_some] at h
      rcases ih h with hq | hdead
      · exact .inr ⟨[p], q, more, s, rfl, (chainEnd?_singleton sections p).trans hs,
          findLine?_eq_none_iff.mp hq⟩
      · exact .inr (hdead.cons hs)

/-- The search finds nothing where there is no chain, or where it comes to a dead end. -/
theorem find?_eq_none_iff :
    find? sections ps = none ↔
      (∀ e, ¬ Chain sections (ps.map trim) e) ∨ DeadEnd sections ps := by
  constructor
  · intro h
    cases ps with
    | nil => exact .inl (chainEnd?_eq_none_iff.mp (chainEnd?_nil sections))
    | cons p more => exact (deadEnd_of_find? h).imp_left fun hp => not_chain_of_findLine? hp more
  · rintro (h | h)
    · rw [Option.eq_none_iff_forall_ne_some]
      intro e he
      have hend := chainEnd?_of_find? he
      rw [chainEnd?_eq_none_iff.mpr h] at hend
      cases hend
    · exact h.find?_eq_none

end Search

/-- **The search for a section.** What is found is the end of the first chain with the lines, from
the top down. Nothing is found if there is no such chain, but also if the first chain with some of
the lines is a dead end. So the search finds the first chain whenever there is one, if and only if
the first way to each part of it leads on. -/
theorem chain_found_iff (sections : List Section) (parents : List Text) :
    (∀ e, find? sections parents = some e → chainEnd? sections parents = some e) ∧
    (find? sections parents = none ↔
      (∀ e, ¬ Chain sections (parents.map trim) e) ∨ DeadEnd sections parents) ∧
    (find? sections parents = chainEnd? sections parents ↔
      ((∃ e, Chain sections (parents.map trim) e) → ¬ DeadEnd sections parents)) := by
  refine ⟨fun e => chainEnd?_of_find?, find?_eq_none_iff, ?_⟩
  constructor
  · rintro h ⟨e, he⟩ hdead
    rw [hdead.find?_eq_none, eq_comm, chainEnd?_eq_none_iff] at h
    exact h e he
  · intro h
    cases hfound : find? sections parents with
    | some e => exact (chainEnd?_of_find? hfound).symm
    | none =>
      symm
      rw [chainEnd?_eq_none_iff]
      -- the search finds nothing, and there is nothing to be found
      rcases find?_eq_none_iff.mp hfound with hnone | hdead
      · exact hnone
      · -- a dead end stands in the way of a chain that there is
        exact fun e he => h ⟨e, he⟩ hdead

/-- An interface that is listed twice, of which only the second entry has the service instance. -/
theorem second_entry_missed :
    let sections := ofConfig
      "interface Gi0/1
 mtu 9000
interface Gi0/1
 service instance 1
  encapsulation dot1q 10
"
    let parents : List Text := ["interface Gi0/1", "service instance 1"]
    (chainEnd? sections parents).map line = some "service instance 1".toList ∧
      find? sections parents = none := by
  decide +kernel

end VendorCli.Section
