import VendorCli.Proofs.Pattern.Completeness
import VendorCli.Proofs.Text.Lines
/-!
# Patterns of lines

The patterns that readers of device output are made of, and what a line has to be for them to match
it. Each is told by a function on the text of the line, without patterns:

* `ofLine` is a word and a value that takes the rest of the line (`captured_ofLine`), and so is
  `ofWhole`, where the pattern says itself that it starts with the line (`captured_ofWhole`);
* `ofText` is a line of fixed text (`isSome_ofText_iff`);
* `ofLead` is a fixed text at the start of a line and a run of characters after it, as long as it
  can be (`captured_ofLead`).

That a line matches follows from completeness, and what is captured is read off the line. Only the
run needs the order of outcomes: of all its ends, the farthest comes first.
-/

namespace VendorCli.Pattern

/-! ### Building matches -/

/-- A search finds something if there is a match from where it starts. -/
theorem isSome_searchFrom {p : Pattern} {before : Option Char} {offset : Nat} {t : Text} {e : Place}
    (h : Leads p ⟨before, t, offset, []⟩ e) : (p.searchFrom before offset t).isSome = true := by
  -- completeness gives an outcome, so the list of outcomes has a first one
  obtain ⟨q, hq, -⟩ := reached_iff.mp (reached_outcomes h)
  obtain ⟨head, hhead⟩ : ∃ head, (outcomes p ⟨before, t, offset, []⟩).head? = some head := by
    rw [← Option.isSome_iff_exists, List.isSome_head?]
    exact List.ne_nil_of_mem hq
  cases t with
  | nil => simp [searchFrom, hhead]
  | cons c t => simp [searchFrom, hhead]

/-- A set leads over one of its characters. -/
theorem leads_set {s : CharClass} {a : Place} {c : Char} {rest : Text} (hc : s.contains c = true)
    (ha : a.rest = c :: rest) : Leads (.set s) a ⟨some c, rest, a.offset + 1, a.groups⟩ := by
  refine .set ?_
  rw [Place.take?, ha]
  exact if_pos hc

/-- A repeated set leads over any text of its characters. -/
theorem leads_plus_set {greedy : Bool} {s : CharClass} {a : Place} {t u : Text} (hne : t ≠ [])
    (ht : ∀ c ∈ t, s.contains c = true) (ha : a.rest = t ++ u) :
    ∃ e, Leads (.plus greedy (.set s)) a e ∧ e.rest = u := by
  induction t generalizing a with
  | nil => exact absurd rfl hne
  | cons c t ih =>
    rw [List.forall_mem_cons] at ht
    have hfirst := leads_set ht.1 ha
    -- the last character ends the repetition, any other is one iteration of it
    by_cases hnil : t = []
    · subst hnil
      exact ⟨_, .last hfirst, rfl⟩
    · obtain ⟨e, he, hrest⟩ := ih (a := ⟨some c, t ++ u, a.offset + 1, a.groups⟩) hnil ht.2 rfl
      exact ⟨e, .more hfirst he, hrest⟩

/-- A literal text leads over itself. -/
theorem leads_thenText {p : Pattern} {a m : Place} {t u : Text} (h : Leads p a m)
    (hm : m.rest = t ++ u) : ∃ e, Leads (thenText p t) a e ∧ e.rest = u := by
  induction t generalizing p m with
  | nil => exact ⟨m, h, hm⟩
  | cons c t ih => exact ih (.seq h (leads_set (by simp) hm)) rfl

/-! ### A word and a value -/

/-- What follows a text at the start of a line, if that is a value of some characters and not
empty. -/
def valueAfter? (lead : Text) (allowed : Char → Bool) (line : Text) : Option Text :=
  (Text.dropLead? lead line).filter fun v => !v.isEmpty && v.all allowed

/-- A line has a value if it is the text and the value, one behind the other. -/
theorem valueAfter?_eq_some_iff {lead line v : Text} {allowed : Char → Bool} :
    valueAfter? lead allowed line = some v ↔
      line = lead ++ v ∧ v ≠ [] ∧ ∀ c ∈ v, allowed c = true := by
  rw [valueAfter?, Option.filter_eq_some_iff, Text.dropLead?_eq_some_iff]
  simp

section Value

variable {c : Char} {lead : Text} {greedy : Bool} {s : CharClass} {line : Text} {a e : Place}

/-- A group over the rest of a line captures it, if it is a value. -/
theorem Leads.value_of_group (h : Leads (.group 1 (.plus greedy (.set s))) a e)
    (hend : e.rest = []) :
    a.rest ≠ [] ∧ (∀ d ∈ a.rest, s.contains d = true) ∧ ∃ g, e.groups = (1, a.rest) :: g := by
  obtain ⟨m, v, hvalue, hv, hm, hgroups⟩ := h.of_group
  obtain ⟨w, hne, hall, hw⟩ := hvalue.rest_of_plus
  -- the group captures what is consumed, and that is the rest, since nothing follows
  rw [hend, List.append_nil] at hv
  rw [hm, hend, List.append_nil] at hw
  rw [← hv] at hgroups
  exact ⟨hw ▸ hne, hw ▸ hall, _, hgroups⟩

/-- A value is a way to the end of the line. -/
theorem leads_group_value {v : Text} (ha : a.rest = v) (hne : v ≠ [])
    (hv : ∀ d ∈ v, s.contains d = true) :
    ∃ e, Leads (.group 1 (.plus greedy (.set s))) a e ∧ e.fits .endText = true := by
  obtain ⟨e, he, hend⟩ : ∃ e, Leads (.plus greedy (.set s)) a e ∧ e.rest = [] :=
    leads_plus_set hne hv (by rw [ha, List.append_nil])
  exact ⟨_, .group he, by simp [Place.fits, hend]⟩

/-- **Values of lines.** If a pattern leads only from the start of a line over a text and a value to
the end, and over every such line, then it captures the values of lines. -/
theorem captured_of_leads {p : Pattern} {allowed : Char → Bool}
    (hsound : ∀ a e, Leads p a e → a.before = none ∧
      ∃ v g, valueAfter? lead allowed a.rest = some v ∧ e.groups = (1, v) :: g)
    (hcomplete : ∀ v, valueAfter? lead allowed line = some v → ∃ e, Leads p ⟨none, line, 0, []⟩ e) :
    (p.searchFrom none 0 line).map (Captures.get? · 1)
      = (valueAfter? lead allowed line).map some := by
  cases hcaps : p.searchFrom none 0 line with
  | none =>
    -- a value in the line would be a way to its end, and then there is an outcome
    symm
    rw [Option.map_none, Option.map_eq_none_iff, Option.eq_none_iff_forall_ne_some]
    intro v hv
    obtain ⟨e, he⟩ := hcomplete v hv
    have hsome := isSome_searchFrom he
    rw [hcaps] at hsome
    cases hsome
  | some caps =>
    obtain ⟨a, e, t, hleads, rfl, hplace⟩ := exists_of_searchFrom hcaps
    obtain ⟨hbefore, v, g, hv, hgroups⟩ := hsound a e hleads
    -- a search that has moved on has a character before it, and the line does not start there
    have ha : a.rest = line := by
      rcases hplace with ⟨-, ha⟩ | hsome
      · exact ha
      · rw [hbefore] at hsome
        cases hsome
    rw [ha] at hv
    rw [hv, Option.map_some, Option.map_some, hgroups]
    rfl

/-- **A word and a value.** A line that matches has a value, which is what follows the word, to the
end of the line. -/
theorem captured_ofLine :
    ((ofLine c lead (.plus greedy (.set s))).searchFrom none 0 line).map (Captures.get? · 1)
      = (valueAfter? (c :: lead) s.contains line).map some := by
  refine captured_of_leads ?_ ?_
  · -- a match of the pattern is taken apart: the text, the value, and the two ends of the line
    intro a e h
    obtain ⟨m, hline, hend⟩ := h.of_seq
    obtain ⟨k, hstart, htext⟩ := hline.of_seq
    obtain ⟨l, hlead, hgroup⟩ := htext.of_seq
    obtain ⟨rfl, hfits⟩ := hend.of_anchor
    obtain ⟨rfl, hbefore⟩ := hstart.of_anchor
    obtain ⟨i, hi, hrest⟩ := hlead.rest_of_thenText
    obtain ⟨d, hd, hfirst⟩ := hi.rest_of_set
    obtain ⟨hne, hall, g, hgroups⟩ := hgroup.value_of_group (by simpa [Place.fits] using hfits)
    have hdc : d = c := by simpa using hd
    refine ⟨by simpa [Place.fits] using hbefore, l.rest, g, ?_, hgroups⟩
    exact valueAfter?_eq_some_iff.mpr ⟨by rw [hfirst, hrest, hdc]; rfl, hne, hall⟩
  · -- and put together again for a line that has a value
    intro v hv
    obtain ⟨hline, hne, hall⟩ := valueAfter?_eq_some_iff.mp hv
    have hfirst : Leads (.set (.char c)) ⟨none, line, 0, []⟩ ⟨some c, lead ++ v, 1, []⟩ :=
      leads_set (by simp) (by rw [hline]; rfl)
    obtain ⟨m, hm, hrest⟩ := leads_thenText hfirst rfl
    obtain ⟨e, he, hend⟩ := leads_group_value hrest hne hall
    exact ⟨e, .seq (.seq (.anchor rfl) (.seq hm he)) (.anchor hend)⟩

/-- The pattern of a text at the start of a line and a value that takes the rest of it. -/
def ofWhole (lead : Text) (value : Pattern) : Pattern :=
  .seq (.seq (thenText (.anchor .startText) lead) (.group 1 value)) (.anchor .endText)

/-- **A text and a value.** The same as for `ofLine`, the text being matched together with the start
of the line. -/
theorem captured_ofWhole :
    ((ofWhole lead (.plus greedy (.set s))).searchFrom none 0 line).map (Captures.get? · 1)
      = (valueAfter? lead s.contains line).map some := by
  refine captured_of_leads ?_ ?_
  · -- as for `ofLine`, but the first character is part of the text
    intro a e h
    obtain ⟨m, hline, hend⟩ := h.of_seq
    obtain ⟨l, hlead, hgroup⟩ := hline.of_seq
    obtain ⟨rfl, hfits⟩ := hend.of_anchor
    obtain ⟨i, hi, hrest⟩ := hlead.rest_of_thenText
    obtain ⟨rfl, hbefore⟩ := hi.of_anchor
    obtain ⟨hne, hall, g, hgroups⟩ := hgroup.value_of_group (by simpa [Place.fits] using hfits)
    refine ⟨by simpa [Place.fits] using hbefore, l.rest, g, ?_, hgroups⟩
    exact valueAfter?_eq_some_iff.mpr ⟨hrest, hne, hall⟩
  · intro v hv
    obtain ⟨hline, hne, hall⟩ := valueAfter?_eq_some_iff.mp hv
    have hstart : Leads (.anchor .startText) ⟨none, line, 0, []⟩ ⟨none, line, 0, []⟩ := .anchor rfl
    obtain ⟨m, hm, hrest⟩ := leads_thenText hstart hline
    obtain ⟨e, he, hend⟩ := leads_group_value hrest hne hall
    exact ⟨e, .seq (.seq hm he) (.anchor hend)⟩

end Value

/-! ### Fixed text -/

/-- The pattern of a line of fixed text, its first character given apart. -/
def ofText (c : Char) (t : Text) : Pattern :=
  .seq (.seq (.anchor .startText) (thenText (set (.char c)) t)) (.anchor .endText)

/-- **Fixed text.** A line matches exactly if it is the text. -/
theorem isSome_ofText_iff {c : Char} {t line : Text} :
    ((ofText c t).searchFrom none 0 line).isSome = true ↔ line = c :: t := by
  constructor
  · intro h
    obtain ⟨caps, hcaps⟩ := Option.isSome_iff_exists.mp h
    obtain ⟨a, e, s, hleads, -, hplace⟩ := exists_of_searchFrom hcaps
    obtain ⟨m, hline, hend⟩ := hleads.of_seq
    obtain ⟨k, hstart, htext⟩ := hline.of_seq
    obtain ⟨rfl, hfits⟩ := hend.of_anchor
    obtain ⟨rfl, hbefore⟩ := hstart.of_anchor
    obtain ⟨i, hi, hrest⟩ := htext.rest_of_thenText
    obtain ⟨d, hd, hfirst⟩ := hi.rest_of_set
    have hdc : d = c := by simpa using hd
    have hstop : e.rest = [] := by simpa [Place.fits] using hfits
    rw [hrest, hstop, List.append_nil, hdc] at hfirst
    -- a search that has moved on has a character before it, and the text does not start there
    rcases hplace with ⟨-, ht⟩ | hsome
    · rw [← ht, hfirst]
    · rw [Place.fits, Option.isNone_iff_eq_none] at hbefore
      rw [hbefore] at hsome
      cases hsome
  · rintro rfl
    have hfirst : Leads (.set (.char c)) ⟨none, c :: t, 0, []⟩ ⟨some c, t, 1, []⟩ :=
      leads_set (by simp) rfl
    obtain ⟨m, hm, hrest⟩ := leads_thenText (t := t) (u := []) hfirst (by simp)
    have hstop : m.fits .endText = true := by simp [Place.fits, hrest]
    exact isSome_searchFrom (.seq (.seq (.anchor rfl) hm) (.anchor hstop))

/-! ### A text at the start of a line and a run after it -/

/-- The pattern of a text at the start of a line, with a value after it. -/
def ofLead (lead : Text) (value : Pattern) : Pattern :=
  .seq (thenText (.anchor .startText) lead) (.group 1 value)

section Run

variable {s : CharClass} {a : Place} {acc places : List Place}

/-- What is there at first stays in front. -/
theorem isPrefix_firstArrivals : acc <+: Place.firstArrivals acc places := by
  induction places generalizing acc with
  | nil => exact List.prefix_refl acc
  | cons p places ih =>
    rw [Place.firstArrivals]
    split
    · exact ih
    · exact (List.prefix_append acc [p]).trans ih

/-- The preferred way to any place is kept. -/
theorem head?_firstArrivals : (Place.firstArrivals [] places).head? = places.head? := by
  cases places with
  | nil => rfl
  | cons p places =>
    obtain ⟨rest, hrest⟩ : [p] <+: Place.firstArrivals [p] places := isPrefix_firstArrivals
    have hfirst : Place.firstArrivals [] (p :: places) = Place.firstArrivals [p] places := rfl
    rw [hfirst, ← hrest]
    rfl

/-- A character of the set is taken. -/
theorem take?_of_contains {c : Char} {rest : Text} (hc : s.contains c = true)
    (ha : a.rest = c :: rest) : a.take? s = some ⟨some c, rest, a.offset + 1, a.groups⟩ := by
  rw [Place.take?, ha]
  exact if_pos hc

/-- Before any other character, or at the end of the text, the set takes nothing. -/
theorem take?_of_head? (h : ∀ c, a.rest.head? = some c → s.contains c = false) :
    a.take? s = none := by
  rw [Place.take?]
  cases hrest : a.rest with
  | nil => rfl
  | cons c rest =>
    rw [hrest] at h
    exact if_neg (by simp [h c rfl])

/-- Where a set takes nothing, its repetition leads nowhere. -/
theorem iterate_set_of_take? {steps : Nat} {first : Bool} (h : a.take? s = none) :
    iterate true (outcomes (.set s)) steps first a [] = [] := by
  cases steps with
  | zero => rfl
  | succ steps =>
    rw [iterate_succ, outcomes_set, h]
    rfl

/-- A greedy repetition of a set goes on as long as it can before it stops anywhere. -/
theorem head?_iterate_set {t u : Text} {steps : Nat} {first : Bool} (hne : t ≠ [])
    (ht : ∀ c ∈ t, s.contains c = true) (hu : ∀ c, u.head? = some c → s.contains c = false)
    (ha : a.rest = t ++ u) (hsteps : t.length ≤ steps) :
    ∃ e, (iterate true (outcomes (.set s)) steps first a []).head? = some e ∧
      e.offset = a.offset + t.length ∧ e.groups = a.groups := by
  -- the induction is on the run, from any place and with enough steps for what is left
  induction t generalizing a steps first with
  | nil => exact absurd rfl hne
  | cons c t ih =>
    rw [List.forall_mem_cons] at ht
    obtain ⟨steps, rfl⟩ : ∃ n, steps = n + 1 := ⟨steps - 1, by
      rw [List.length_cons] at hsteps
      omega⟩
    have htake : a.take? s = some ⟨some c, t ++ u, a.offset + 1, a.groups⟩ :=
      take?_of_contains ht.1 ha
    have hiterate : iterate true (outcomes (.set s)) (steps + 1) first a []
        = iterate true (outcomes (.set s)) steps false ⟨some c, t ++ u, a.offset + 1, a.groups⟩ []
          ++ [⟨some c, t ++ u, a.offset + 1, a.groups⟩] := by
      rw [iterate_succ, outcomes_set, htake, Option.toList_some, List.foldl_cons, List.foldl_nil,
        iterateFrom, if_neg (by simp [Place.reached]), if_neg (by simp), if_pos rfl]
    -- this place comes last, so it is preferred only if there is none to go on to
    rw [hiterate]
    -- the run ends here, or goes on with what is left of it
    by_cases hnil : t = []
    · subst hnil
      rw [iterate_set_of_take? (take?_of_head? hu)]
      exact ⟨_, rfl, rfl, rfl⟩
    · have hsteps' : t.length ≤ steps := by
        rw [List.length_cons] at hsteps
        omega
      obtain ⟨e, he, hoffset, hgroups⟩ : ∃ e, (iterate true (outcomes (.set s)) steps false
          ⟨some c, t ++ u, a.offset + 1, a.groups⟩ []).head? = some e ∧
            e.offset = a.offset + 1 + t.length ∧ e.groups = a.groups :=
        ih hnil ht.2 rfl hsteps'
      refine ⟨e, by rw [List.head?_append, he]; rfl, ?_, hgroups⟩
      rw [hoffset, List.length_cons]
      omega

/-- A literal text is consumed in one way. -/
theorem outcomes_thenText {p : Pattern} {m : Place} {t u : Text} (h : outcomes p a = [m])
    (hm : m.rest = t ++ u) :
    ∃ k, outcomes (thenText p t) a = [k] ∧ k.rest = u ∧ k.groups = m.groups := by
  induction t generalizing p m with
  | nil => exact ⟨m, h, hm, rfl⟩
  | cons c t ih =>
    -- the one way there is goes on over the next character
    refine ih (m := ⟨some c, t ++ u, m.offset + 1, m.groups⟩) ?_ rfl
    rw [outcomes, h, List.flatMap_singleton, outcomes_set, take?_of_contains (by simp) hm]
    rfl

end Run

section Lead

variable {lead line : Text} {s : CharClass}

/-- What follows a text at the start of a line, as far as some characters go, if they go
anywhere. -/
def runAfter? (lead : Text) (allowed : Char → Bool) (line : Text) : Option Text :=
  ((Text.dropLead? lead line).map (List.takeWhile allowed)).filter (!·.isEmpty)

/-- A line has a run if it is the text, the run and a rest that no longer belongs to it. -/
theorem runAfter?_eq_some_iff {allowed : Char → Bool} {v : Text} :
    runAfter? lead allowed line = some v ↔
      (v ≠ [] ∧ ∀ c ∈ v, allowed c = true) ∧
        ∃ rest, line = lead ++ (v ++ rest) ∧ ∀ c, rest.head? = some c → allowed c = false := by
  rw [runAfter?, Option.filter_eq_some_iff, Option.map_eq_some_iff]
  constructor
  · -- the run is cut off where the rest begins, and the first character of the rest is not allowed
    rintro ⟨⟨t, ht, rfl⟩, hne⟩
    refine ⟨⟨by simpa using hne, fun c hc => List.mem_takeWhile_imp hc⟩,
      t.dropWhile allowed, ?_, ?_⟩
    · rw [List.takeWhile_append_dropWhile]
      exact Text.dropLead?_eq_some_iff.mp ht
    · intro c hc
      have hstop := List.head?_dropWhile_not allowed t
      rwa [hc] at hstop
  · -- the whole run is taken, and nothing of the rest
    rintro ⟨⟨hne, hall⟩, rest, rfl, hstop⟩
    have hrest : rest.takeWhile allowed = [] := by
      cases rest with
      | nil => rfl
      | cons c rest => exact List.takeWhile_cons_of_neg (by simp [hstop c rfl])
    refine ⟨⟨v ++ rest, Text.dropLead?_append _ _, ?_⟩, by simpa using hne⟩
    rw [List.takeWhile_append_of_pos hall, hrest, List.append_nil]

/-- A line that matches has a run after the text. -/
theorem runAfter?_ne_none {caps : Captures}
    (h : (ofLead lead (.plus true (.set s))).searchFrom none 0 line = some caps) :
    runAfter? lead s.contains line ≠ none := by
  -- the match is taken apart as for `captured_ofLine`
  obtain ⟨a, e, w, hleads, -, hplace⟩ := exists_of_searchFrom h
  obtain ⟨m, hlead, hgroup⟩ := hleads.of_seq
  obtain ⟨n, v, hvalue, hv, hn, -⟩ := hgroup.of_group
  obtain ⟨i, hi, hrest⟩ := hlead.rest_of_thenText
  obtain ⟨rfl, hbefore⟩ := hi.of_anchor
  obtain ⟨t, hne, hall, ht⟩ := hvalue.rest_of_plus
  have hline : line = lead ++ m.rest := by
    -- a search that has moved on would not be at the start of the line
    rcases hplace with ⟨-, hline⟩ | hsome
    · rw [← hline, hrest]
    · rw [Place.fits, Option.isNone_iff_eq_none] at hbefore
      rw [hbefore] at hsome
      cases hsome
  obtain ⟨c, t, rfl⟩ := List.exists_cons_of_ne_nil hne
  rw [hline, ht, runAfter?, Text.dropLead?_append, Option.map_some, List.cons_append,
    List.takeWhile_cons_of_pos (hall c List.mem_cons_self)]
  simp

/-- **A text and a run after it.** The run is as long as it can be. -/
theorem captured_ofLead :
    ((ofLead lead (.plus true (.set s))).searchFrom none 0 line).bind (Captures.get? · 1)
      = runAfter? lead s.contains line := by
  cases hrun : runAfter? lead s.contains line with
  | none =>
    cases hcaps : (ofLead lead (.plus true (.set s))).searchFrom none 0 line with
    | none => rfl
    | some caps => exact absurd hrun (runAfter?_ne_none hcaps)
  | some v =>
    rw [runAfter?, Option.filter_eq_some_iff, Option.map_eq_some_iff] at hrun
    obtain ⟨⟨rest, hdrop, rfl⟩, hne⟩ := hrun
    rw [Text.dropLead?_eq_some_iff] at hdrop
    -- there is one place after the text, so the first outcome is the longest run from it
    obtain ⟨k, hk, hkrest, hkgroups⟩ := outcomes_thenText (p := .anchor .startText)
      (a := ⟨none, line, 0, []⟩) (t := lead) (u := rest) rfl hdrop
    have hsplit : k.rest = rest.takeWhile s.contains ++ rest.dropWhile s.contains := by
      rw [List.takeWhile_append_dropWhile, hkrest]
    have hstop : ∀ c, (rest.dropWhile s.contains).head? = some c → s.contains c = false := by
      intro c hc
      have := List.head?_dropWhile_not s.contains rest
      rwa [hc] at this
    have hlength : (rest.takeWhile s.contains).length ≤ k.rest.length + 1 := by
      rw [hkrest]
      exact (List.takeWhile_sublist _).length_le.trans (Nat.le_succ _)
    have hrun : rest.takeWhile s.contains ≠ [] := by simpa using hne
    obtain ⟨e, he, hoffset, hgroups⟩ : ∃ e, (iterate true (outcomes (.set s)) (k.rest.length + 1)
        true k []).head? = some e ∧ e.offset = k.offset + (rest.takeWhile s.contains).length ∧
          e.groups = k.groups :=
      head?_iterate_set hrun (fun c hc => List.mem_takeWhile_imp hc) hstop hsplit hlength
    -- what the group captures lies between the two places
    have hgroup : k.rest.take (e.offset - k.offset) = rest.takeWhile s.contains := by
      rw [hoffset, Nat.add_sub_cancel_left, hsplit, List.take_left]
    have hhead : (outcomes (ofLead lead (.plus true (.set s))) ⟨none, line, 0, []⟩).head?
        = some { e with groups := [(1, rest.takeWhile s.contains)] } := by
      rw [ofLead, outcomes, hk, List.flatMap_singleton, head?_firstArrivals, outcomes, outcomes,
        List.head?_map, he, Option.map_some, hgroup, hgroups, hkgroups]
    cases line with
    | nil => simp [searchFrom, hhead, Captures.get?]
    | cons c line => simp [searchFrom, hhead, Captures.get?]

end Lead

end VendorCli.Pattern
