import VendorCli.Error
import VendorCli.Proofs.Text.Lines
/-!
# The grammar of paths

A path is written as a slash alone, or as elements with a slash before each. An element is a name
and any number of keys between brackets. `WrittenPath` is that grammar as a type: a value of it says
how a text is made up (`WrittenPath.text`), and which path is meant (`WrittenPath.path`), which is
the same without the blanks around the names and the values of the keys.

The reader accepts exactly the texts of the grammar, blanks around them aside, and gives the path
that is meant (`parse_iff_written`). It cuts a text at slashes before it looks at any piece, so the
proof has the same two steps:

* the pieces of a written path are its elements, since none of them is cut (`uncut_element`,
  `pieces_elements`); and the pieces of any text give the text when they are joined (`join_pieces`),
  each with a name that has no slash (`not_mem_name_of_mem_pieces`);
* a piece is read as an element exactly if it is made up as one (`readElement_text`,
  `exists_written_of_readElement`).

No text is made up in two ways (`WrittenPath.text_injective`).
-/

namespace VendorCli

namespace Text

/-- Texts with a slash before each, and a slash alone if there are none. -/
def slashed : List Text → Text
  | [] => ['/']
  | ts => ts.flatMap ('/' :: ·)

/-- Slashes before all texts are one slash before the texts joined by slashes. -/
theorem slashed_cons (t : Text) (ts : List Text) :
    slashed (t :: ts) = '/' :: join ['/'] (t :: ts) := by
  rw [slashed]
  · induction ts generalizing t with
    | nil => exact List.append_nil _
    | cons u ts ih =>
      rw [List.flatMap_cons, ih u, join_cons_cons, List.append_assoc]
      rfl
  · exact List.cons_ne_nil t ts

/-- The last text comes behind all others, with a slash between. -/
theorem slashed_concat (ts : List Text) (t : Text) :
    slashed (ts ++ [t]) = ts.flatMap ('/' :: ·) ++ '/' :: t := by
  rw [slashed]
  · rw [List.flatMap_append, List.flatMap_singleton]
  · simp

/-- They end as the last of them does. -/
theorem getLast?_slashed_concat {t : Text} (h : t ≠ []) (ts : List Text) :
    (slashed (ts ++ [t])).getLast? = t.getLast? := by
  rw [slashed_concat, List.getLast?_append_of_ne_nil _ (List.cons_ne_nil _ _),
    List.getLast?_cons_of_ne_nil h]

end Text

/-! ### Written forms -/

/-- A key as it stands between brackets. The first equality sign ends its name, and the first
closing bracket its value. -/
structure WrittenKey where
  name : Text
  value : Text
  equals_not_mem_name : '=' ∉ name
  bracket_not_mem_name : ']' ∉ name
  bracket_not_mem_value : ']' ∉ value

/-- An element as it stands after a slash. A slash or an opening bracket ends its name. -/
structure WrittenElement where
  name : Text
  keys : List WrittenKey
  name_ne_nil : name ≠ []
  slash_not_mem_name : '/' ∉ name
  bracket_not_mem_name : '[' ∉ name

/-- A path as it is written. The root has no elements. -/
structure WrittenPath where
  elements : List WrittenElement

namespace WrittenKey

/-- What stands between the brackets. -/
def body (k : WrittenKey) : Text :=
  k.name ++ '=' :: k.value

/-- The key in its brackets. -/
def text (k : WrittenKey) : Text :=
  '[' :: k.body ++ [']']

/-- The key that is meant. -/
def key (k : WrittenKey) : Text × Text :=
  (Text.trim k.name, Text.trim k.value)

/-- The first closing bracket behind a key is the one that ends it. -/
theorem bracket_not_mem_body (k : WrittenKey) : ']' ∉ k.body := by
  rw [body, List.mem_append, List.mem_cons, not_or, not_or]
  exact ⟨k.bracket_not_mem_name, by decide, k.bracket_not_mem_value⟩

/-- A key between its brackets, with the closing one set apart for cutting there. -/
theorem text_append (k : WrittenKey) (t : Text) : k.text ++ t = '[' :: (k.body ++ ']' :: t) := by
  rw [text, List.append_assoc]
  rfl

/-- Cut at the first equality sign, a key falls into its name and its value. -/
theorem splitOnce?_body (k : WrittenKey) : Text.splitOnce? '=' k.body = some (k.name, k.value) :=
  Text.splitOnce?_append k.equals_not_mem_name k.value

/-- The first closing bracket and the first equality sign before it tell what a key is. -/
theorem eq_of_text_append_eq {k l : WrittenKey} {s t : Text} (h : k.text ++ s = l.text ++ t) :
    k = l ∧ s = t := by
  rw [text_append, text_append, List.cons.injEq, and_iff_right rfl] at h
  -- cut both at the first closing bracket, and then the keys at the first equality sign
  have hsplit := congrArg (Text.splitOnce? ']') h
  rw [Text.splitOnce?_append k.bracket_not_mem_body, Text.splitOnce?_append l.bracket_not_mem_body,
    Option.some.injEq, Prod.mk.injEq] at hsplit
  obtain ⟨hbody, hrest⟩ := hsplit
  have hparts := congrArg (Text.splitOnce? '=') hbody
  rw [splitOnce?_body, splitOnce?_body, Option.some.injEq, Prod.mk.injEq] at hparts
  obtain ⟨kname, kvalue, _, _, _⟩ := k
  obtain ⟨lname, lvalue, _, _, _⟩ := l
  obtain ⟨rfl, rfl⟩ := hparts
  exact ⟨rfl, hrest⟩

/-- Keys that follow each other are told apart. -/
theorem flatMap_text_injective {ks ls : List WrittenKey}
    (h : ks.flatMap text = ls.flatMap text) : ks = ls := by
  -- no key begins like the end of the text, so both lists are empty or begin with the same key
  induction ks generalizing ls with
  | nil =>
    cases ls with
    | nil => rfl
    | cons l ls =>
      rw [List.flatMap_nil, List.flatMap_cons, text_append] at h
      cases h
  | cons k ks ih =>
    cases ls with
    | nil =>
      rw [List.flatMap_nil, List.flatMap_cons, text_append] at h
      cases h
    | cons l ls =>
      rw [List.flatMap_cons, List.flatMap_cons] at h
      obtain ⟨rfl, hrest⟩ := eq_of_text_append_eq h
      rw [ih hrest]

end WrittenKey

namespace WrittenElement

/-- The element as it is written: its name, then its keys. -/
def text (e : WrittenElement) : Text :=
  e.name ++ e.keys.flatMap WrittenKey.text

/-- The element that is meant. -/
def element (e : WrittenElement) : PathElement :=
  ⟨e.name, e.keys.map WrittenKey.key⟩

theorem text_ne_nil (e : WrittenElement) : e.text ≠ [] :=
  List.append_ne_nil_of_left_ne_nil e.name_ne_nil _

/-- No character of a name opens a bracket. -/
theorem not_bracket_of_mem_name (e : WrittenElement) :
    ∀ c ∈ e.name, decide (c ≠ '[') = true := by
  intro c hc
  rw [decide_eq_true_iff]
  rintro rfl
  exact e.bracket_not_mem_name hc

/-- Keys begin with a bracket, so the name is all that stands before one. -/
theorem takeWhile_text (e : WrittenElement) : e.text.takeWhile (· ≠ '[') = e.name := by
  rw [text, List.takeWhile_append_of_pos e.not_bracket_of_mem_name]
  cases e.keys with
  | nil => exact List.append_nil _
  | cons k ks =>
    rw [List.flatMap_cons, WrittenKey.text_append, List.takeWhile_cons_of_neg (by decide),
      List.append_nil]

/-- The keys are all that stands from the first bracket on. -/
theorem dropWhile_text (e : WrittenElement) :
    e.text.dropWhile (· ≠ '[') = e.keys.flatMap WrittenKey.text := by
  rw [text, List.dropWhile_append_of_pos e.not_bracket_of_mem_name]
  cases e.keys with
  | nil => rfl
  | cons k ks =>
    rw [List.flatMap_cons, WrittenKey.text_append, List.dropWhile_cons_of_neg (by decide)]

/-- The first bracket tells the name from the keys. -/
theorem text_injective {d e : WrittenElement} (h : d.text = e.text) : d = e := by
  have hname : d.name = e.name := by rw [← d.takeWhile_text, h, e.takeWhile_text]
  have hkeys : d.keys = e.keys := WrittenKey.flatMap_text_injective <| by
    rw [← d.dropWhile_text, h, e.dropWhile_text]
  obtain ⟨dname, dkeys, _, _, _⟩ := d
  obtain ⟨ename, ekeys, _, _, _⟩ := e
  obtain rfl := hname
  obtain rfl := hkeys
  rfl

end WrittenElement

namespace WrittenPath

/-- The path as it is written. -/
def text (w : WrittenPath) : Text :=
  Text.slashed (w.elements.map WrittenElement.text)

/-- The path that is meant. -/
def path (w : WrittenPath) : ConfigPath :=
  ⟨w.elements.map WrittenElement.element⟩

theorem text_cons (e : WrittenElement) (es : List WrittenElement) :
    text ⟨e :: es⟩ = '/' :: Text.join ['/'] ((e :: es).map WrittenElement.text) :=
  Text.slashed_cons _ _

/-- Elements that are joined are not empty. -/
theorem join_elements_ne_nil (e : WrittenElement) (es : List WrittenElement) :
    Text.join ['/'] ((e :: es).map WrittenElement.text) ≠ [] := by
  cases es with
  | nil => exact e.text_ne_nil
  | cons d es =>
    rw [List.map_cons, List.map_cons, Text.join_cons_cons]
    exact List.append_ne_nil_of_left_ne_nil (List.append_ne_nil_of_left_ne_nil e.text_ne_nil _) _

end WrittenPath

namespace ConfigPath

/-! ### Cutting -/

section Cutting

variable {s t p : Text} {b : Bool} {c : Char}

theorem pieces_nil (b : Bool) : pieces b [] = [[]] := by
  rw [pieces]

/-- A slash outside brackets ends a piece. -/
theorem pieces_slash (t : Text) : pieces false ('/' :: t) = [] :: pieces false t := by
  rw [pieces, if_pos ⟨rfl, rfl⟩]

/-- A text has a piece at least. -/
theorem pieces_ne_nil (b : Bool) (t : Text) : pieces b t ≠ [] := by
  cases t with
  | nil =>
    rw [pieces_nil]
    exact List.cons_ne_nil _ _
  | cons c t =>
    rw [pieces]
    split
    · exact List.cons_ne_nil _ _
    · dsimp only
      split <;> exact List.cons_ne_nil _ _

/-- Any other character belongs to the first piece. -/
theorem pieces_cons (h : ¬ (c = '/' ∧ b = false)) (t : Text) :
    pieces b (c :: t)
      = (pieces (decide (if b then c ≠ ']' else c = '[')) t).modifyHead (c :: ·) := by
  rw [pieces, if_neg h]
  dsimp only
  cases hrest : pieces (decide (if b then c ≠ ']' else c = '[')) t with
  | nil => exact absurd hrest (pieces_ne_nil _ _)
  | cons first others => rw [List.modifyHead_cons]

/-- Outside brackets, an opening bracket makes what follows it stand inside. -/
theorem pieces_outside (h : c ≠ '/') (t : Text) :
    pieces false (c :: t) = (pieces (decide (c = '[')) t).modifyHead (c :: ·) :=
  pieces_cons (fun hcut => h hcut.1) t

/-- Inside brackets, only the closing bracket leads out of them. -/
theorem pieces_within (c : Char) (t : Text) :
    pieces true (c :: t) = (pieces (decide (c ≠ ']')) t).modifyHead (c :: ·) :=
  pieces_cons (fun hcut => Bool.noConfusion hcut.2) t

/-- Outside brackets, the text is not cut: it comes before the first piece of what follows. -/
def Uncut (s : Text) : Prop :=
  ∀ t, pieces false (s ++ t) = (pieces false t).modifyHead (s ++ ·)

theorem Uncut.nil : Uncut [] := fun _ => (congrFun List.modifyHead_id _).symm

/-- Two texts that are not cut, one behind the other, are not cut. -/
theorem Uncut.append {u : Text} (hs : Uncut s) (hu : Uncut u) : Uncut (s ++ u) := by
  intro t
  -- what comes before the first piece is put there in two steps
  rw [List.append_assoc, hs, hu, List.modifyHead_modifyHead]
  refine congrFun (congrArg List.modifyHead (funext fun p => ?_)) _
  exact (List.append_assoc s u p).symm

/-- A name is not cut: it has no slash, and no bracket that would change what a slash means. -/
theorem uncut_name (hslash : '/' ∉ s) (hbracket : '[' ∉ s) : Uncut s := by
  induction s with
  | nil => exact .nil
  | cons c s ih =>
    rw [List.mem_cons, not_or] at hslash hbracket
    have hchar : Uncut [c] := by
      intro t
      rw [List.singleton_append, pieces_outside (Ne.symm hslash.1),
        decide_eq_false (Ne.symm hbracket.1)]
      rfl
    exact hchar.append (ih hslash.2 hbracket.2)

/-- Up to the closing bracket everything belongs to the key, slashes included. -/
theorem pieces_inside (h : ']' ∉ s) (t : Text) :
    pieces true (s ++ ']' :: t) = (pieces false t).modifyHead (s ++ [']'] ++ ·) := by
  induction s with
  | nil =>
    rw [List.nil_append, pieces_within]
    rfl
  | cons c s ih =>
    rw [List.mem_cons, not_or] at h
    rw [List.cons_append, pieces_within, decide_eq_true (Ne.symm h.1), ih h.2,
      List.modifyHead_modifyHead]
    rfl

/-- A key is not cut, whatever slashes it has. -/
theorem uncut_key (k : WrittenKey) : Uncut k.text := by
  intro t
  rw [k.text_append, pieces_outside (by decide), decide_eq_true rfl,
    pieces_inside k.bracket_not_mem_body, List.modifyHead_modifyHead]
  rfl

/-- **An element is not cut**, neither in its name nor in its keys. -/
theorem uncut_element (e : WrittenElement) : Uncut e.text := by
  have hkeys : Uncut (e.keys.flatMap WrittenKey.text) := by
    induction e.keys with
    | nil => exact .nil
    | cons k ks ih => exact (uncut_key k).append ih
  exact (uncut_name e.slash_not_mem_name e.bracket_not_mem_name).append hkeys

/-- **The pieces of a written path** are its elements. -/
theorem pieces_elements (e : WrittenElement) (es : List WrittenElement) :
    pieces false (Text.join ['/'] ((e :: es).map WrittenElement.text))
      = (e :: es).map WrittenElement.text := by
  -- the induction is on the elements behind the first, which is followed by a slash or by nothing
  induction es generalizing e with
  | nil =>
    have hlast := uncut_element e []
    rwa [List.append_nil, pieces_nil, List.modifyHead_cons, List.append_nil] at hlast
  | cons d es ih =>
    rw [List.map_cons, List.map_cons, Text.join_cons_cons, List.append_assoc, uncut_element e,
      List.singleton_append, pieces_slash, List.modifyHead_cons, List.append_nil, ← List.map_cons,
      ih d]

/-- A character before the first piece is the first of the joined text. -/
theorem join_modifyHead {ps : List Text} (h : ps ≠ []) (c : Char) :
    Text.join ['/'] (ps.modifyHead (c :: ·)) = c :: Text.join ['/'] ps := by
  obtain ⟨first, others, rfl⟩ := List.exists_cons_of_ne_nil h
  cases others with
  | nil => rfl
  | cons second others => rfl

/-- Cutting loses nothing but the slashes. -/
theorem join_pieces (b : Bool) (t : Text) : Text.join ['/'] (pieces b t) = t := by
  induction t generalizing b with
  | nil =>
    rw [pieces_nil]
    rfl
  | cons c t ih =>
    -- the character cuts, and is the slash between two pieces, or it belongs to the first piece
    by_cases h : c = '/' ∧ b = false
    · obtain ⟨rfl, rfl⟩ := h
      obtain ⟨first, others, hrest⟩ := List.exists_cons_of_ne_nil (pieces_ne_nil false t)
      have hjoin := ih false
      rw [hrest] at hjoin
      rw [pieces_slash, hrest, Text.join_cons_cons, hjoin]
      rfl
    · rw [pieces_cons h, join_modifyHead (pieces_ne_nil _ _), ih]

/-- What stands in a piece before the first bracket has no slash in it. If the text begins inside
brackets, this is only so from the second piece on. -/
theorem not_mem_name_of_pieces_eq {first : Text} {others : List Text}
    (h : pieces b t = first :: others) :
    (b = false → '/' ∉ first.takeWhile (· ≠ '[')) ∧
      ∀ p ∈ others, '/' ∉ p.takeWhile (· ≠ '[') := by
  -- brackets may be open at any place further on, so the induction is over both cases
  induction t generalizing b first others with
  | nil =>
    rw [pieces_nil, List.cons.injEq] at h
    obtain ⟨rfl, rfl⟩ := h
    simp
  | cons c t ih =>
    by_cases hcut : c = '/' ∧ b = false
    · obtain ⟨rfl, rfl⟩ := hcut
      rw [pieces_slash, List.cons.injEq] at h
      obtain ⟨rfl, rfl⟩ := h
      obtain ⟨second, more, hrest⟩ := List.exists_cons_of_ne_nil (pieces_ne_nil false t)
      obtain ⟨hsecond, hmore⟩ := ih hrest
      rw [hrest]
      exact ⟨by simp, List.forall_mem_cons.mpr ⟨hsecond rfl, hmore⟩⟩
    · rw [pieces_cons hcut] at h
      obtain ⟨begun, rest, hrest⟩ := List.exists_cons_of_ne_nil
        (pieces_ne_nil (decide (if b then c ≠ ']' else c = '[')) t)
      rw [hrest, List.modifyHead_cons, List.cons.injEq] at h
      obtain ⟨rfl, rfl⟩ := h
      obtain ⟨hbegun, hothers⟩ := ih hrest
      refine ⟨?_, hothers⟩
      rintro rfl
      -- the character is no slash, and unless it opens a bracket, the name goes on after it
      by_cases hopen : c = '['
      · rw [hopen, List.takeWhile_cons_of_neg (by decide)]
        exact List.not_mem_nil
      · rw [List.takeWhile_cons_of_pos (by simpa using hopen), List.mem_cons, not_or]
        exact ⟨fun hslash => hcut ⟨hslash.symm, rfl⟩, hbegun (by simpa using hopen)⟩

/-- **Names of pieces** have no slash, as the text begins outside brackets. -/
theorem not_mem_name_of_mem_pieces (h : p ∈ pieces false t) : '/' ∉ p.takeWhile (· ≠ '[') := by
  obtain ⟨first, others, hsplit⟩ := List.exists_cons_of_ne_nil (pieces_ne_nil false t)
  obtain ⟨hfirst, hothers⟩ := not_mem_name_of_pieces_eq hsplit
  rw [hsplit] at h
  rcases List.mem_cons.mp h with rfl | h
  · exact hfirst rfl
  · exact hothers p h

end Cutting

end ConfigPath

/-- No text is made up as a path in two ways: its pieces tell the elements. -/
theorem WrittenPath.text_injective {v w : WrittenPath} (h : v.text = w.text) : v = w := by
  -- the root is a slash alone, and elements leave more than that behind the first slash
  have hslash : ∀ (e : WrittenElement) (es : List WrittenElement), text ⟨e :: es⟩ ≠ text ⟨[]⟩ := by
    intro e es heq
    rw [text_cons] at heq
    exact join_elements_ne_nil e es (List.cons.inj heq).2
  obtain ⟨ds⟩ := v
  obtain ⟨es⟩ := w
  cases ds with
  | nil =>
    cases es with
    | nil => rfl
    | cons e es => exact absurd h.symm (hslash e es)
  | cons d ds =>
    cases es with
    | nil => exact absurd h (hslash d ds)
    | cons e es =>
      rw [text_cons, text_cons, List.cons.injEq, and_iff_right rfl] at h
      have hpieces := congrArg (ConfigPath.pieces false) h
      rw [ConfigPath.pieces_elements, ConfigPath.pieces_elements] at hpieces
      exact congrArg WrittenPath.mk (List.map_injective_iff.mpr
        (fun _ _ => WrittenElement.text_injective) hpieces)

namespace ConfigPath

/-! ### Reading an element -/

/-- What a function makes of a result is a result only if there was one. -/
theorem exists_of_map_eq_ok {ε α β : Type} {f : α → β} {x : Except ε α} {b : β}
    (h : x.map f = .ok b) : ∃ a, x = .ok a ∧ f a = b := by
  cases x with
  | error e => cases h
  | ok a =>
    cases h
    exact ⟨a, rfl, rfl⟩

section Elements

variable {name t : Text} {missing : PathFault}

theorem readKeys_nil (name : Text) : readKeys name [] = .ok [] := by
  rw [readKeys]

/-- A key is read from its brackets, whatever follows. -/
theorem readKeys_key (hname : name ≠ []) (k : WrittenKey) (t : Text) :
    readKeys name (k.text ++ t) = (readKeys name t).map (k.key :: ·) := by
  rw [k.text_append, readKeys.eq_2, if_pos rfl]
  split
  · next hsplit =>
    rw [Text.splitOnce?_append k.bracket_not_mem_body] at hsplit
    cases hsplit
  · next body after hsplit =>
    rw [Text.splitOnce?_append k.bracket_not_mem_body, Option.some.injEq, Prod.mk.injEq] at hsplit
    obtain ⟨rfl, rfl⟩ := hsplit
    rw [k.splitOnce?_body]
    exact if_neg hname

/-- Keys behind a name are read one after the other. -/
theorem readKeys_keys (hname : name ≠ []) (ks : List WrittenKey) :
    readKeys name (ks.flatMap WrittenKey.text) = .ok (ks.map WrittenKey.key) := by
  induction ks with
  | nil => exact readKeys_nil name
  | cons k ks ih =>
    rw [List.flatMap_cons, readKeys_key hname, ih]
    rfl

/-- Only keys are read as keys. -/
theorem exists_written_of_readKeys {keys : List (Text × Text)} (h : readKeys name t = .ok keys) :
    ∃ ks : List WrittenKey, ks.flatMap WrittenKey.text = t ∧ ks.map WrittenKey.key = keys := by
  -- the cases are those of the reader; of the texts behind a name it accepts the empty one and keys
  fun_induction readKeys name t generalizing keys with
  | case1 =>
    cases h
    exact ⟨[], rfl, rfl⟩
  | case2 rest hsplit => cases h
  | case3 rest body after hsplit hparts => cases h
  | case4 rest body after hsplit k v hparts hname => cases h
  | case5 rest body after hsplit k v hparts hname ih =>
    obtain ⟨more, hmore, rfl⟩ := exists_of_map_eq_ok h
    obtain ⟨ks, rfl, rfl⟩ := ih hmore
    obtain ⟨rfl, hbracket⟩ := Text.splitOnce?_eq_some hsplit
    obtain ⟨rfl, hequals⟩ := Text.splitOnce?_eq_some hparts
    rw [List.mem_append, List.mem_cons, not_or, not_or] at hbracket
    -- the parts that the reader has cut out are free of the characters that it cut at
    let first : WrittenKey := ⟨k, v, hequals, hbracket.1, hbracket.2.2⟩
    refine ⟨first :: ks, ?_, rfl⟩
    rw [List.flatMap_cons, first.text_append]
    rfl
  | case6 c rest hbracket => cases h

/-- What is made up as an element is read as that element. -/
theorem readElement_text (missing : PathFault) (e : WrittenElement) :
    readElement missing e.text = .ok e.element := by
  rw [readElement, e.takeWhile_text, e.dropWhile_text, readKeys_keys e.name_ne_nil]
  exact if_neg e.name_ne_nil

/-- Only what is made up as an element is read as one, if its name has no slash. -/
theorem exists_written_of_readElement {e : PathElement}
    (hslash : '/' ∉ t.takeWhile (· ≠ '[')) (h : readElement missing t = .ok e) :
    ∃ w : WrittenElement, w.text = t ∧ w.element = e := by
  rw [readElement] at h
  cases hkeys : readKeys (t.takeWhile (· ≠ '[')) (t.dropWhile (· ≠ '[')) with
  | error fault =>
    -- what is read as an element has a name, and keys behind it
    rw [hkeys] at h
    cases h
  | ok keys =>
    rw [hkeys] at h
    dsimp only at h
    split at h
    · cases h
    · next hname =>
      obtain ⟨ks, htext, rfl⟩ := exists_written_of_readKeys hkeys
      have hbracket : '[' ∉ t.takeWhile (· ≠ '[') := fun hmem => by
        simpa using List.mem_takeWhile_imp hmem
      cases h
      refine ⟨⟨_, ks, hname, hslash, hbracket⟩, ?_, rfl⟩
      rw [WrittenElement.text, htext, List.takeWhile_append_dropWhile]

/-! ### Reading the elements -/

/-- Pieces that are made up as elements are read as those. -/
theorem readElements_map_text (es : List WrittenElement) :
    readElements (es.map WrittenElement.text) = .ok (es.map WrittenElement.element) := by
  induction es with
  | nil => rw [List.map_nil, readElements, List.map_nil]
  | cons e es ih =>
    cases es with
    | nil =>
      rw [List.map_cons, List.map_nil, readElements, readElement_text]
      rfl
    | cons d es =>
      rw [List.map_cons, List.map_cons, readElements.eq_3 _ _ (by simp), readElement_text,
        ← List.map_cons, ih]
      -- no piece is left behind the last element
      rfl

/-- Only pieces that are made up as elements are read. -/
theorem exists_written_of_readElements {ps : List Text} {es : List PathElement}
    (hslash : ∀ p ∈ ps, '/' ∉ p.takeWhile (· ≠ '[')) (h : readElements ps = .ok es) :
    ∃ ws : List WrittenElement, ws.map WrittenElement.text = ps ∧
      ws.map WrittenElement.element = es := by
  fun_induction readElements ps generalizing es with
  | case1 =>
    cases h
    exact ⟨[], rfl, rfl⟩
  | case2 last =>
    obtain ⟨e, he, rfl⟩ := exists_of_map_eq_ok h
    obtain ⟨w, rfl, rfl⟩ := exists_written_of_readElement (hslash last List.mem_cons_self) he
    exact ⟨[w], rfl, rfl⟩
  | case3 piece rest hrest fault hfault => cases h
  | case4 piece rest hrest e he ih =>
    obtain ⟨more, hmore, rfl⟩ := exists_of_map_eq_ok h
    rw [List.forall_mem_cons] at hslash
    obtain ⟨w, rfl, rfl⟩ := exists_written_of_readElement hslash.1 he
    obtain ⟨ws, rfl, rfl⟩ := ih hslash.2 hmore
    exact ⟨w :: ws, rfl, rfl⟩

end Elements

/-! ### Reading a path -/

variable {t : Text} {p : ConfigPath}

theorem ofText_slash (h : Text.trim t = ['/']) : ofText t = .ok root := by
  rw [ofText, h]
  rfl

/-- A slash with something behind it is read in pieces. -/
theorem ofText_body {body : Text} (h : Text.trim t = '/' :: body) (hne : body ≠ []) :
    ofText t = (readElements (pieces false body)).map (⟨·⟩) := by
  obtain ⟨c, rest, rfl⟩ := List.exists_cons_of_ne_nil hne
  rw [ofText, h]
  rfl

/-- Without a slash in front there is no path. -/
theorem ofText_other (h : ∀ body, Text.trim t ≠ '/' :: body) :
    ofText t = .error .noLeadingSlash := by
  rw [ofText]
  split
  · next hslash => exact absurd hslash (h _)
  · next hslash => exact absurd hslash (h _)
  · rfl

/-- What is made up as a path is read as the path that is meant. -/
theorem ofText_of_written (w : WrittenPath) (h : w.text = Text.trim t) : ofText t = .ok w.path := by
  obtain ⟨elements⟩ := w
  cases elements with
  | nil => exact ofText_slash h.symm
  | cons e es =>
    rw [WrittenPath.text_cons] at h
    rw [ofText_body h.symm (WrittenPath.join_elements_ne_nil e es), pieces_elements,
      readElements_map_text]
    rfl

/-- Only what is made up as a path is read as one. -/
theorem exists_written_of_ofText (h : ofText t = .ok p) :
    ∃ w : WrittenPath, w.text = Text.trim t ∧ w.path = p := by
  -- a slash in front, with nothing or something behind it, or no slash
  by_cases hlead : ∃ body, Text.trim t = '/' :: body
  · obtain ⟨body, htrim⟩ := hlead
    by_cases hne : body = []
    · subst hne
      rw [ofText_slash htrim] at h
      cases h
      exact ⟨⟨[]⟩, htrim.symm, rfl⟩
    · rw [ofText_body htrim hne] at h
      obtain ⟨es, hes, rfl⟩ := exists_of_map_eq_ok h
      obtain ⟨ws, hpieces, rfl⟩ :=
        exists_written_of_readElements (fun _ => not_mem_name_of_mem_pieces) hes
      refine ⟨⟨ws⟩, ?_, rfl⟩
      obtain ⟨w, ws, rfl⟩ : ∃ w ws', ws = w :: ws' := by
        refine List.exists_cons_of_ne_nil ?_
        rintro rfl
        exact pieces_ne_nil false body hpieces.symm
      -- the pieces are the elements, and joined they are the text again
      rw [WrittenPath.text_cons, hpieces, join_pieces, htrim]
  · rw [ofText_other (not_exists.mp hlead)] at h
    cases h

/-- A path is parsed if it is read; a failure only gets a message. -/
theorem parse_eq_ok_iff : parse t = .ok p ↔ ofText t = .ok p := by
  rw [parse]
  cases ofText t with
  | ok q => rw [Except.ok.injEq, Except.ok.injEq]
  | error fault => exact iff_of_false nofun nofun

/-- **The grammar of paths.** A text stands for the path `p` exactly if it is made up, without the
blanks around it, as the grammar says, and `p` is what is meant by that. It is made up in one way at
most, and a text that is not is refused as an argument. -/
theorem parse_iff_written (t : Text) :
    (∀ p, parse t = .ok p ↔ ∃ w : WrittenPath, w.text = Text.trim t ∧ w.path = p) ∧
    (∀ v w : WrittenPath, v.text = Text.trim t → w.text = Text.trim t → v = w) ∧
    ((¬ ∃ w : WrittenPath, w.text = Text.trim t) →
      ∃ fault, parse t = .error (.invalidArgument (.malformedPath t fault))) := by
  refine ⟨fun p => ?_, fun v w hv hw => WrittenPath.text_injective (hv.trans hw.symm), ?_⟩
  · rw [parse_eq_ok_iff]
    constructor
    · exact exists_written_of_ofText
    · rintro ⟨w, htext, rfl⟩
      exact ofText_of_written w htext
  · intro hnone
    cases h : ofText t with
    | ok p =>
      obtain ⟨w, htext, -⟩ := exists_written_of_ofText h
      exact absurd ⟨w, htext⟩ hnone
    | error fault => exact ⟨fault, by rw [parse, h]⟩

/-- A key may have slashes and opening brackets, and its value equality signs as well. -/
example : parse " /a b[ k/[ =[v=/ ][k=]/c]\n"
    = .ok ⟨[⟨"a b", [("k/[", "[v=/"), ("k", "")]⟩, ⟨"c]", []⟩]⟩ := by
  decide +kernel

end ConfigPath

end VendorCli
