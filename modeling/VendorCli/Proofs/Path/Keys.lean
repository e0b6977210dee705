import VendorCli.Path.Basic
import VendorCli.Proofs.Text.Tables
/-!
# Keys of derived paths

The keys of an element are a table by name, and setting one is an insertion into it
(`PathElement.setKey_eq`), so what is known about tables carries over to paths. `withKey` sets a key
of the last element, where a look-up begins: the key then has the new value
(`key?_withKey_self`), and all others have theirs (`key?_withKey_of_ne`). `child` puts an element
without keys behind all others, which changes no key (`key?_child`).

Both leave the names of the elements that are there alone, so the schema of a derived path is that
of the path itself, or it goes on from there (`schema_withKey`, `schema_child`).

A look-up by the name of an element stops at the last element of that name
(`elementKey?_last`). After `child` that is the new element, whatever is above it, and its keys are
those that are set from then on (`elementKey?_withKeys_child`).
`derived_path_frame` puts together what a derivation changes and what it leaves alone.
-/

namespace VendorCli

namespace PathElement

variable (name value : Text) (keys : List (Text × Text))

/-- Setting a key is an insertion into the table of keys. -/
theorem setKey_eq : setKey name value keys = insertLast name value keys := by
  induction keys with
  | nil => rfl
  | cons kv rest ih => rw [setKey, insertLast, ih]

/-- An element with a key set has a key. -/
theorem setKey_ne_nil : setKey name value keys ≠ [] := by
  cases keys with
  | nil => exact List.cons_ne_nil _ _
  | cons kv rest =>
    rw [setKey]
    split <;> exact List.cons_ne_nil _ _

/-- The key that is set has its value. -/
theorem key?_setKey_self (element : Text) :
    key? ⟨element, setKey name value keys⟩ name = some value := by
  rw [setKey_eq]
  exact lookup?_insertLast_self name value keys

/-- Any other key has the value that it had. -/
theorem key?_setKey_of_ne {other : Text} (h : other ≠ name) (element : Text) :
    key? ⟨element, setKey name value keys⟩ other = key? ⟨element, keys⟩ other := by
  rw [setKey_eq]
  exact lookup?_insertLast_of_ne h value keys

end PathElement

namespace ConfigPath

variable {p : ConfigPath}

/-- A path other than the root has a last element. -/
theorem exists_last (h : p ≠ root) : ∃ front e, p = ⟨front ++ [e]⟩ := by
  obtain ⟨elements⟩ := p
  rcases List.eq_nil_or_concat elements with rfl | ⟨front, e, rfl⟩
  · exact absurd rfl h
  · exact ⟨front, e, by rw [List.concat_eq_append]⟩

/-- A path is the root, or it has a last element. -/
@[elab_as_elim]
theorem cases_last {motive : ConfigPath → Prop} (root : motive root)
    (last : ∀ front e, motive ⟨front ++ [e]⟩) (p : ConfigPath) : motive p := by
  by_cases h : p = .root
  · rw [h]
    exact root
  · obtain ⟨front, e, rfl⟩ := exists_last h
    exact last front e

/-- A key is set on the last element. -/
theorem withKey_last (front : List PathElement) (e : PathElement) (name value : Text) :
    withKey ⟨front ++ [e]⟩ name value
      = ⟨front ++ [⟨e.name, PathElement.setKey name value e.keys⟩]⟩ := by
  simp [withKey]

/-- A look-up begins at the last element. -/
theorem key?_last (front : List PathElement) (e : PathElement) (name : Text) :
    key? ⟨front ++ [e]⟩ name = (e.key? name).or (key? ⟨front⟩ name) := by
  rw [key?, List.reverse_append, List.reverse_singleton, List.singleton_append,
    List.findSome?_cons]
  cases e.key? name <;> rfl

/-- A look-up by the name of an element begins at the last element, too, but of the elements of that
name only the last one is asked. -/
theorem elementKey?_last (front : List PathElement) (e : PathElement) (element name : Text) :
    elementKey? ⟨front ++ [e]⟩ element name
      = if e.name = element then e.key? name else elementKey? ⟨front⟩ element name := by
  rw [elementKey?, List.reverse_append, List.reverse_singleton, List.singleton_append,
    List.find?_cons]
  by_cases h : e.name = element
  · rw [if_pos h, decide_eq_true h]
    rfl
  · rw [if_neg h, decide_eq_false h]
    rfl

/-! ### Setting a key -/

/-- A path with a key set is still no root. -/
theorem withKey_ne_root (h : p ≠ root) (name value : Text) : p.withKey name value ≠ root := by
  obtain ⟨front, e, rfl⟩ := exists_last h
  rw [withKey_last]
  simp [root]

/-- **A key that is set** is found with its value, since a look-up begins where it is set. -/
theorem key?_withKey_self (h : p ≠ root) (name value : Text) :
    (p.withKey name value).key? name = some value := by
  obtain ⟨front, e, rfl⟩ := exists_last h
  rw [withKey_last, key?_last, PathElement.key?_setKey_self, Option.some_or]

/-- **Any other key** is found as before. -/
theorem key?_withKey_of_ne {name other : Text} (hne : other ≠ name) (value : Text) :
    (p.withKey name value).key? other = p.key? other := by
  cases p using cases_last with
  | root => rfl
  -- the last element answers as before, and what is above it has not changed
  | last front e =>
    rw [withKey_last, key?_last, key?_last, PathElement.key?_setKey_of_ne _ _ _ hne]

/-- Any other key is found as before, also if it is looked up by the name of an element. -/
theorem elementKey?_withKey_of_ne {name other : Text} (hne : other ≠ name) (value element : Text) :
    (p.withKey name value).elementKey? element other = p.elementKey? element other := by
  cases p using cases_last with
  | root => rfl
  | last front e =>
    rw [withKey_last, elementKey?_last, elementKey?_last, PathElement.key?_setKey_of_ne _ _ _ hne]

/-- All elements but the last one are left alone. -/
theorem dropLast_withKey (name value : Text) :
    (p.withKey name value).elements.dropLast = p.elements.dropLast := by
  cases p using cases_last with
  | root => rfl
  | last front e =>
    rw [withKey_last, List.dropLast_concat, List.dropLast_concat]

/-- The last element keeps its name. -/
theorem map_name_withKey (name value : Text) :
    (p.withKey name value).elements.map (·.name) = p.elements.map (·.name) := by
  cases p using cases_last with
  | root => rfl
  | last front e =>
    rw [withKey_last, List.map_append, List.map_append]
    rfl

/-- A key that is set twice has the second value, as if the first had not been set. -/
theorem withKey_withKey (name value later : Text) :
    (p.withKey name value).withKey name later = p.withKey name later := by
  cases p using cases_last with
  | root => rfl
  | last front e =>
    rw [withKey_last, withKey_last, withKey_last]
    simp only [PathElement.setKey_eq, insertLast_insertLast]

/-- A key does not show in the schema. -/
theorem schema_withKey (name value : Text) : (p.withKey name value).schema = p.schema := by
  cases p using cases_last with
  | root => rfl
  | last front e =>
    rw [withKey_last]
    simp [schema]

/-- The path with some keys of its last element set, one after the other. -/
def withKeys (p : ConfigPath) (pairs : List (Text × Text)) : ConfigPath :=
  pairs.foldl (fun q kv => q.withKey kv.1 kv.2) p

/-- Keys that are set fill the table of the last element. -/
theorem withKeys_last (front : List PathElement) (e : PathElement) (pairs : List (Text × Text)) :
    withKeys ⟨front ++ [e]⟩ pairs = ⟨front ++ [⟨e.name, insertAll pairs e.keys⟩]⟩ := by
  -- for any last element, since the first pair makes another one of it
  induction pairs generalizing e with
  | nil => rfl
  | cons kv pairs ih =>
    have hstep := ih ⟨e.name, PathElement.setKey kv.1 kv.2 e.keys⟩
    rw [← withKey_last, PathElement.setKey_eq] at hstep
    exact hstep

/-! ### Going down -/

/-- A new element has no key, so a look-up goes on to the elements above it. -/
theorem key?_child (element name : Text) : (p.child element).key? name = p.key? name := by
  obtain ⟨elements⟩ := p
  exact key?_last elements ⟨element, []⟩ name

/-- The name of a new element comes behind the schema. -/
theorem schema_child (h : p ≠ root) (element : Text) :
    (p.child element).schema = p.schema ++ '/' :: element := by
  obtain ⟨front, e, rfl⟩ := exists_last h
  simp [schema, child]

/-- **The nearest element.** A new element is the one that is found by its name. It has the keys
that are set from then on, each with the last of its values, and none of an element of that name
further up. Elements of other names are found as before. -/
theorem elementKey?_withKeys_child (p : ConfigPath) (pairs : List (Text × Text))
    (new element name : Text) : ((p.child new).withKeys pairs).elementKey? element name
      = if new = element then lookup? name pairs.reverse else p.elementKey? element name := by
  -- the new element begins without keys, so all that it has has been set
  have hkeys : PathElement.key? ⟨new, insertAll pairs []⟩ name = lookup? name pairs.reverse :=
    lookup?_insertAll.trans Option.or_none
  rw [child, withKeys_last, elementKey?_last, hkeys]

/-- **Derived paths** change what they name and nothing else. Let a path have at least one element,
with keys that may be repeated.

* After a key is set, a look-up finds its new value, and every other key has the value that it had,
  also if it is looked up by the name of an element. The schema, the names of all elements and all
  elements but the last one stay. Setting the key again is as if it had not been set before.
* With a child, every key has the value that it had. The schema goes on with the name of the child,
  and it is the child that is found by that name: it has the keys that are set on it, and elements
  of other names are found as before. -/
theorem derived_path_frame (h : p ≠ root) (k v c : Text) :
    (p.withKey k v).key? k = some v ∧
    (∀ m, m ≠ k → (p.withKey k v).key? m = p.key? m ∧
      ∀ e, (p.withKey k v).elementKey? e m = p.elementKey? e m) ∧
    (p.withKey k v).schema = p.schema ∧
    (p.withKey k v).elements.map (·.name) = p.elements.map (·.name) ∧
    (p.withKey k v).elements.dropLast = p.elements.dropLast ∧
    (∀ w, (p.withKey k v).withKey k w = p.withKey k w) ∧
    (∀ m, (p.child c).key? m = p.key? m) ∧
    (p.child c).schema = p.schema ++ '/' :: c ∧
    ∀ pairs m, ((p.child c).withKeys pairs).elementKey? c m = lookup? m pairs.reverse ∧
      ∀ e, c ≠ e → ((p.child c).withKeys pairs).elementKey? e m = p.elementKey? e m := by
  refine ⟨key?_withKey_self h k v, fun m hm => ⟨key?_withKey_of_ne hm v, fun e => ?_⟩,
    schema_withKey k v, map_name_withKey k v, dropLast_withKey k v, withKey_withKey k v,
    key?_child c, schema_child h c, fun pairs m => ⟨?_, fun e he => ?_⟩⟩
  · exact elementKey?_withKey_of_ne hm v e
  · rw [elementKey?_withKeys_child, if_pos rfl]
  · rw [elementKey?_withKeys_child, if_neg he]

/-- A key that stands twice in the last element and once further up, below an element whose name
comes again. -/
theorem derived_path_frame_repeated :
    let p : ConfigPath :=
      ⟨[⟨"zone", [("id", "1")]⟩, ⟨"port", [("id", "2"), ("unit", "3"), ("id", "4")]⟩]⟩
    p ≠ root ∧ (p.withKey "id" "5").key? "id" = some "5" ∧
    ("unit" : Text) ≠ "id" ∧ (p.withKey "id" "5").key? "unit" = p.key? "unit" ∧
    (p.withKey "id" "5").withKey "id" "6" = p.withKey "id" "6" ∧
    (p.child "zone").key? "id" = some "2" ∧
    ((p.child "zone").withKeys [("vlan", "7")]).elementKey? "zone" "id" = none ∧
    ((p.child "zone").withKeys [("vlan", "7")]).elementKey? "port" "id" = some "2" := by
  intro p
  have hroot : p ≠ root := by decide
  have hunit : ("unit" : Text) ≠ "id" := by decide
  obtain ⟨hset, hothers, -, -, -, hagain, hkeys, -, hnearest⟩ :=
    derived_path_frame hroot "id" "5" "zone"
  obtain ⟨hnew, hport⟩ := hnearest [("vlan", "7")] "id"
  exact ⟨hroot, hset, hunit, (hothers _ hunit).1, hagain "6", hkeys "id", hnew,
    hport "port" (by decide)⟩

end ConfigPath

end VendorCli
