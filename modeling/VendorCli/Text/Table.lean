import VendorCli.Text.Basic
/-!
# Tables by name

Lists of pairs of a name and a value. `insertSorted` keeps such a list sorted by name and each name
once; `insertLast` keeps the order in which the names first came, and `insertAll` does so for a
whole list of pairs.
-/

namespace VendorCli

/-- The order of texts: by the first character in which they differ, a text before its
extensions. -/
def Text.compare : Text → Text → Ordering
  | [], [] => .eq
  | [], _ :: _ => .lt
  | _ :: _, [] => .gt
  | c :: s, d :: t =>
    if c.toNat < d.toNat then .lt else if d.toNat < c.toNat then .gt else compare s t

/-- Put a value under a name into a list of pairs sorted by name. -/
def insertSorted {α : Type} (name : Text) (value : α) : List (Text × α) → List (Text × α)
  | [] => [(name, value)]
  | (n, v) :: rest =>
    match Text.compare name n with
    | .lt => (name, value) :: (n, v) :: rest
    | .eq => (name, value) :: rest
    | .gt => (n, v) :: insertSorted name value rest

/-- Put a value under a name into a list of pairs: in the place of the pair of that name, else at
the end. -/
def insertLast {α : Type} (name : Text) (value : α) : List (Text × α) → List (Text × α)
  | [] => [(name, value)]
  | (n, v) :: rest =>
    if n = name then (n, value) :: rest else (n, v) :: insertLast name value rest

/-- The table with some pairs put in one after the other. -/
def insertAll {α : Type} (pairs table : List (Text × α)) : List (Text × α) :=
  pairs.foldl (fun t kv => insertLast kv.1 kv.2 t) table

/-- The value of the first pair of a name. -/
def lookup? {α : Type} (name : Text) (pairs : List (Text × α)) : Option α :=
  (pairs.find? fun kv => kv.1 = name).map (·.2)

@[simp] theorem lookup?_nil {α : Type} (name : Text) : lookup? name ([] : List (Text × α)) = none :=
  rfl

theorem lookup?_cons {α : Type} (name n : Text) (v : α) (rest : List (Text × α)) :
    lookup? name ((n, v) :: rest) = if n = name then some v else lookup? name rest := by
  by_cases h : n = name <;> simp [lookup?, h]

/-- The front of a table is looked through first. -/
theorem lookup?_append {α : Type} (name : Text) (front back : List (Text × α)) :
    lookup? name (front ++ back) = (lookup? name front).or (lookup? name back) := by
  rw [lookup?, List.find?_append, Option.map_or, lookup?, lookup?]

/-- After an insertion the name has the new value. -/
@[simp] theorem lookup?_insertLast_self {α : Type} (name : Text) (value : α)
    (pairs : List (Text × α)) : lookup? name (insertLast name value pairs) = some value := by
  induction pairs with
  | nil => simp [insertLast, lookup?_cons]
  | cons kv rest ih =>
    obtain ⟨n, v⟩ := kv
    by_cases h : n = name
    · simp [insertLast, h, lookup?_cons]
    · simp [insertLast, h, lookup?_cons, ih]

/-- An insertion leaves the values of all other names alone. -/
theorem lookup?_insertLast_of_ne {α : Type} {name other : Text} (h : other ≠ name) (value : α)
    (pairs : List (Text × α)) :
    lookup? other (insertLast name value pairs) = lookup? other pairs := by
  induction pairs with
  | nil => simp [insertLast, lookup?_cons, Ne.symm h]
  | cons kv rest ih =>
    obtain ⟨n, v⟩ := kv
    by_cases hn : n = name
    · subst hn
      simp [insertLast, lookup?_cons, Ne.symm h]
    · simp [insertLast, hn, lookup?_cons, ih]

/-- What is found under a name is in the table. -/
theorem mem_of_lookup? {α : Type} {name : Text} {pairs : List (Text × α)} {a : α}
    (h : lookup? name pairs = some a) : (name, a) ∈ pairs := by
  rw [lookup?, Option.map_eq_some_iff] at h
  obtain ⟨⟨n, v⟩, hfind, rfl⟩ := h
  have hn : n = name := by simpa using List.find?_some hfind
  exact hn ▸ List.mem_of_find?_eq_some hfind

/-- What is in a table after an insertion was there before or has been inserted. -/
theorem eq_or_mem_of_mem_insertLast {α : Type} {name : Text} {value : α} {kv : Text × α}
    {pairs : List (Text × α)} (h : kv ∈ insertLast name value pairs) :
    kv = (name, value) ∨ kv ∈ pairs := by
  induction pairs with
  | nil => exact .inl (List.mem_singleton.mp h)
  | cons first rest ih =>
    obtain ⟨n, v⟩ := first
    rw [insertLast] at h
    split at h
    · next hn =>
      rcases List.mem_cons.mp h with rfl | h
      · exact .inl (by rw [hn])
      · exact .inr (List.mem_cons_of_mem _ h)
    · rcases List.mem_cons.mp h with rfl | h
      · exact .inr List.mem_cons_self
      · exact (ih h).imp_right (List.mem_cons_of_mem _)

/-- Nothing is found under a name that the table does not have. -/
theorem lookup?_eq_none_iff {α : Type} {name : Text} {pairs : List (Text × α)} :
    lookup? name pairs = none ↔ name ∉ pairs.map (·.1) := by
  induction pairs with
  | nil => simp
  | cons kv pairs ih =>
    obtain ⟨n, v⟩ := kv
    rw [lookup?_cons, List.map_cons, List.mem_cons]
    by_cases h : n = name
    · simp [h]
    · rw [if_neg h, ih]
      simp [Ne.symm h]

/-- A new name comes last, and a known one stays where it is. -/
theorem map_fst_insertLast {α : Type} {name : Text} {pairs : List (Text × α)} (value : α) :
    (insertLast name value pairs).map (·.1)
      = if name ∈ pairs.map (·.1) then pairs.map (·.1) else pairs.map (·.1) ++ [name] := by
  induction pairs with
  | nil => rfl
  | cons kv pairs ih =>
    obtain ⟨n, v⟩ := kv
    by_cases h : n = name
    · simp [insertLast, h]
    · rw [insertLast, if_neg h, List.map_cons, ih, List.map_cons]
      by_cases hin : name ∈ pairs.map (·.1)
      · rw [if_pos hin, if_pos (List.mem_cons_of_mem _ hin)]
      · rw [if_neg hin, if_neg (by simpa [Ne.symm h] using hin), List.cons_append]

end VendorCli
