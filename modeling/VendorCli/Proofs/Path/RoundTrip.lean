import VendorCli.Proofs.Path.Grammar
import VendorCli.Proofs.Path.Keys
/-!
# Paths that are read back

A path is *legible* if its written form stands for it: no name or key runs into what follows it, and
no blank is taken for one around a key or around the whole text. Reading gives legible paths
(`legible_of_ofText`), and they stay legible when an element or a key is put in that is legible
itself (`Legible.child`, `Legible.withKey`), so every path that is derived from a text in such steps
is (`Derived.legible`).

A legible path is read back from its written form (`ofText_toText`); hence reading undoes writing
for all derived paths (`parse_toText`).
-/

namespace VendorCli

/-! ### Legible parts -/

/-- A name that only a slash or an opening bracket ends. -/
structure LegibleName (name : Text) : Prop where
  ne_nil : name ≠ []
  slash_not_mem : '/' ∉ name
  bracket_not_mem : '[' ∉ name

/-- A key that stands between brackets as it is. -/
structure LegibleKey (kv : Text × Text) : Prop where
  trim_name : Text.trim kv.1 = kv.1
  trim_value : Text.trim kv.2 = kv.2
  equals_not_mem_name : '=' ∉ kv.1
  bracket_not_mem_name : ']' ∉ kv.1
  bracket_not_mem_value : ']' ∉ kv.2

/-- An element with a legible name and legible keys. -/
structure LegibleElement (e : PathElement) : Prop where
  name : LegibleName e.name
  keys : ∀ kv ∈ e.keys, LegibleKey kv

/-- A key that is read has lost the blanks around its parts, and no part has got a new character. -/
theorem WrittenKey.legible_key (k : WrittenKey) : LegibleKey k.key where
  trim_name := Text.trim_trim _
  trim_value := Text.trim_trim _
  equals_not_mem_name := fun h => k.equals_not_mem_name (Text.trim_subset _ h)
  bracket_not_mem_name := fun h => k.bracket_not_mem_name (Text.trim_subset _ h)
  bracket_not_mem_value := fun h => k.bracket_not_mem_value (Text.trim_subset _ h)

/-- So an element that is read is legible. -/
theorem WrittenElement.legible_element (e : WrittenElement) : LegibleElement e.element where
  name := ⟨e.name_ne_nil, e.slash_not_mem_name, e.bracket_not_mem_name⟩
  keys := by
    intro kv hkv
    obtain ⟨k, -, rfl⟩ := List.mem_map.mp hkv
    exact k.legible_key

/-- Legible keys are what is meant by their written forms. -/
theorem exists_written_keys {keys : List (Text × Text)} (h : ∀ kv ∈ keys, LegibleKey kv) :
    ∃ ks : List WrittenKey, ks.map WrittenKey.key = keys ∧ ks.flatMap WrittenKey.text
      = keys.flatMap fun kv => '[' :: kv.1 ++ '=' :: kv.2 ++ [']'] := by
  induction keys with
  | nil => exact ⟨[], rfl, rfl⟩
  | cons kv keys ih =>
    obtain ⟨hkv, hkeys⟩ := List.forall_mem_cons.mp h
    obtain ⟨ks, rfl, htext⟩ := ih hkeys
    -- the key is its own written form
    let k : WrittenKey := ⟨kv.1, kv.2, hkv.equals_not_mem_name, hkv.bracket_not_mem_name,
      hkv.bracket_not_mem_value⟩
    have hkey : k.key = kv := Prod.ext hkv.trim_name hkv.trim_value
    refine ⟨k :: ks, by rw [List.map_cons, hkey], ?_⟩
    rw [List.flatMap_cons, List.flatMap_cons, htext]
    rfl

/-- A legible element is what is meant by its written form. -/
theorem LegibleElement.exists_written {e : PathElement} (h : LegibleElement e) :
    ∃ w : WrittenElement, w.element = e ∧ w.text = e.toText := by
  obtain ⟨name, keys⟩ := e
  obtain ⟨ks, rfl, htext⟩ := exists_written_keys h.keys
  refine ⟨⟨name, ks, h.name.ne_nil, h.name.slash_not_mem, h.name.bracket_not_mem⟩, rfl, ?_⟩
  rw [WrittenElement.text, htext, PathElement.toText]

theorem LegibleElement.toText_ne_nil {e : PathElement} (h : LegibleElement e) : e.toText ≠ [] := by
  rw [PathElement.toText]
  exact List.append_ne_nil_of_left_ne_nil h.name.ne_nil _

/-- What an element ends with: a closing bracket if it has keys, else the end of its name. -/
theorem PathElement.getLast?_toText (e : PathElement) :
    e.toText.getLast? = if e.keys = [] then e.name.getLast? else some ']' := by
  rw [PathElement.toText]
  -- the last key ends with its bracket, and without keys the name comes last
  rcases List.eq_nil_or_concat' e.keys with hkeys | ⟨front, kv, hkeys⟩
  · rw [hkeys, if_pos rfl, List.flatMap_nil, List.append_nil]
  · rw [hkeys, if_neg (by simp), List.flatMap_append, List.flatMap_singleton, ← List.append_assoc,
      ← List.append_assoc, List.getLast?_concat]

namespace ConfigPath

/-- A path whose elements are legible, without a blank at its end. -/
structure Legible (p : ConfigPath) : Prop where
  elements : ∀ e ∈ p.elements, LegibleElement e
  last : ∀ e, p.elements.getLast? = some e → e.keys = [] →
    ∀ c, e.name.getLast? = some c → Text.isBlank c = false

variable {t : Text} {p q : ConfigPath}

/-! ### Reading back -/

/-- Legible elements are what is meant by their written forms. -/
theorem exists_written_elements {es : List PathElement} (h : ∀ e ∈ es, LegibleElement e) :
    ∃ ws : List WrittenElement, ws.map WrittenElement.element = es ∧
      ws.map WrittenElement.text = es.map PathElement.toText := by
  induction es with
  | nil => exact ⟨[], rfl, rfl⟩
  | cons e es ih =>
    obtain ⟨he, hes⟩ := List.forall_mem_cons.mp h
    obtain ⟨w, rfl, hw⟩ := he.exists_written
    obtain ⟨ws, rfl, hws⟩ := ih hes
    exact ⟨w :: ws, rfl, by rw [List.map_cons, hw, hws, List.map_cons]⟩

/-- The written form of a path puts a slash before each of its elements. -/
theorem toText_eq (p : ConfigPath) :
    p.toText = Text.slashed (p.elements.map PathElement.toText) := by
  obtain ⟨elements⟩ := p
  cases elements with
  | nil => rfl
  | cons e es =>
    rw [toText, Text.slashed.eq_2 _ (by simp), List.flatMap_map]

/-- A legible path has no blanks around it. -/
theorem Legible.trim_toText (h : p.Legible) : Text.trim p.toText = p.toText := by
  obtain ⟨elements⟩ := p
  rcases List.eq_nil_or_concat' elements with rfl | ⟨front, e, rfl⟩
  · rfl
  · rw [toText_eq, List.map_append, List.map_singleton]
    refine Text.trim_eq_self ?_ ?_
    -- the text begins with a slash, whatever the first element is
    · intro c hc
      obtain ⟨t, ts, hsplit⟩ :=
        List.exists_cons_of_ne_nil (l := front.map PathElement.toText ++ [e.toText]) (by simp)
      rw [hsplit, Text.slashed_cons, List.head?_cons, Option.some.injEq] at hc
      exact hc ▸ rfl
    -- and ends as its last element does, with a bracket or a name without a blank
    · intro c hc
      rw [Text.getLast?_slashed_concat (h.elements e (by simp)).toText_ne_nil,
        PathElement.getLast?_toText] at hc
      split at hc
      · next hkeys => exact h.last e (by simp) hkeys c hc
      · cases hc
        rfl

/-- A legible path is read back from its written form. -/
theorem ofText_toText (h : p.Legible) : ofText p.toText = .ok p := by
  obtain ⟨elements⟩ := p
  obtain ⟨ws, rfl, htext⟩ := exists_written_elements h.elements
  have hwritten : WrittenPath.text ⟨ws⟩ = toText ⟨ws.map WrittenElement.element⟩ := by
    rw [toText_eq, ← htext, WrittenPath.text]
  exact ofText_of_written ⟨ws⟩ (hwritten.trans h.trim_toText.symm)

/-! ### Steps that keep a path legible -/

/-- What is read is legible. -/
theorem legible_of_ofText (h : ofText t = .ok p) : p.Legible := by
  obtain ⟨⟨ws⟩, htext, rfl⟩ := exists_written_of_ofText h
  refine ⟨?_, ?_⟩
  -- the elements are legible as they were read, and so is the end of the text
  · intro e he
    obtain ⟨w, -, rfl⟩ := List.mem_map.mp he
    exact w.legible_element
  · intro e hlast hkeys c hc
    obtain ⟨front, w, rfl⟩ : ∃ front w, ws = front ++ [w] := by
      rcases List.eq_nil_or_concat' ws with rfl | hconcat
      · cases hlast
      · exact hconcat
    rw [WrittenPath.path, List.map_append, List.map_singleton, List.getLast?_concat,
      Option.some.injEq] at hlast
    subst hlast
    -- the text that was read had no blanks around it, and it ends with the name of the element
    have hend : w.text = w.name := by
      rw [WrittenElement.text, List.map_eq_nil_iff.mp hkeys, List.flatMap_nil, List.append_nil]
    rw [WrittenPath.text, List.map_append, List.map_singleton] at htext
    refine Text.not_isBlank_of_getLast?_trim (t := t) ?_
    rw [← htext, Text.getLast?_slashed_concat w.text_ne_nil, hend]
    exact hc

/-- **A step down.** An element with a legible name and no blank at its end may come last. -/
theorem Legible.child (h : p.Legible) {name : Text} (hname : LegibleName name)
    (hend : ∀ c, name.getLast? = some c → Text.isBlank c = false) : (p.child name).Legible where
  elements := by
    intro e he
    rcases List.mem_append.mp he with he | he
    · exact h.elements e he
    · rw [List.mem_singleton.mp he]
      exact ⟨hname, by simp⟩
  last := by
    intro e he _
    rw [ConfigPath.child, List.getLast?_concat, Option.some.injEq] at he
    exact he ▸ hend

/-- **A step aside.** A legible key may be set on the last element. -/
theorem Legible.withKey (h : p.Legible) {name value : Text} (hkey : LegibleKey (name, value)) :
    (p.withKey name value).Legible := by
  by_cases hroot : p = root
  · subst hroot
    exact h
  · obtain ⟨front, e, rfl⟩ := exists_last hroot
    -- only the last element changes, and of its keys only one
    have he := h.elements e (by simp)
    rw [withKey_last]
    refine ⟨?_, ?_⟩
    · intro d hd
      rcases List.mem_append.mp hd with hd | hd
      · exact h.elements d (List.mem_append_left _ hd)
      · rw [List.mem_singleton.mp hd]
        refine ⟨he.name, fun kv hkv => ?_⟩
        rw [PathElement.setKey_eq] at hkv
        rcases eq_or_mem_of_mem_insertLast hkv with rfl | hkv
        · exact hkey
        · exact he.keys kv hkv
    · -- the last element has a key now, so its name is not at the end
      intro d hd hkeys
      rw [List.getLast?_concat, Option.some.injEq] at hd
      subst hd
      exact absurd hkeys (PathElement.setKey_ne_nil _ _ _)

/-! ### Derived paths -/

/-- The paths that are derived from a path in steps of one element or one key, each of them
legible. -/
inductive Derived (p : ConfigPath) : ConfigPath → Prop
  | self : Derived p p
  | child {q : ConfigPath} {name : Text} (h : Derived p q) (hname : LegibleName name)
      (hend : ∀ c, name.getLast? = some c → Text.isBlank c = false) : Derived p (q.child name)
  | withKey {q : ConfigPath} {name value : Text} (h : Derived p q)
      (hkey : LegibleKey (name, value)) : Derived p (q.withKey name value)

/-- **The invariant.** Every step keeps a path legible, so all derived paths are. -/
theorem Derived.legible (h : Derived p q) (hp : p.Legible) : q.Legible := by
  induction h with
  | self => exact hp
  | child _ hname hend ih => exact ih.child hname hend
  | withKey _ hkey ih => exact ih.withKey hkey

/-- **Reading undoes writing.** If a text stands for a path, then so does the written form of that
path, and the written form of every path that is derived from it stands for the derived path. -/
theorem parse_toText (h : parse t = .ok p) :
    parse p.toText = .ok p ∧ ∀ q, Derived p q → parse q.toText = .ok q := by
  have hp : p.Legible := legible_of_ofText (parse_eq_ok_iff.mp h)
  exact ⟨parse_eq_ok_iff.mpr (ofText_toText hp),
    fun q hq => parse_eq_ok_iff.mpr (ofText_toText (hq.legible hp))⟩

/-- A key with blanks around its value, which has a slash, and another one whose value has an
opening bracket and an equality sign. -/
theorem port_path_read_back :
    let t : Text := " /interfaces/interface[name= Ge0/1 ]\n"
    let p : ConfigPath := ⟨[⟨"interfaces", []⟩, ⟨"interface", [("name", "Ge0/1")]⟩]⟩
    let q : ConfigPath := (p.withKey "unit" "[0=1").child "config"
    parse t = .ok p ∧ Derived p q ∧ parse q.toText = .ok q := by
  intro t p q
  have hread : parse t = .ok p := by decide +kernel
  have hkey : LegibleKey ("unit", "[0=1") :=
    ⟨by decide +kernel, by decide +kernel, by decide, by decide, by decide⟩
  have hname : LegibleName "config" := ⟨by decide, by decide, by decide⟩
  have hend : ∀ c, ("config" : Text).getLast? = some c → Text.isBlank c = false := fun c hc => by
    obtain rfl : 'g' = c := Option.some.inj hc
    decide
  have hderived : Derived p q := .child (.withKey .self hkey) hname hend
  exact ⟨hread, hderived, (parse_toText hread).2 q hderived⟩

end ConfigPath

end VendorCli
