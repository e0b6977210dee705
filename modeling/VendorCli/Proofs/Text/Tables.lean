import VendorCli.Text.Table
/-!
# Filling tables

A table can be filled from a list of pairs in two ways. `insertAll` puts every pair in, so that of
several pairs of a name the last one counts (`lookup?_insertAll`). `insertMissing` puts in only what
the table does not have yet, so that the first one counts (`lookup?_insertMissing`).

The order of the names is the same in both: those of the table, and after them the new ones as they
first come (`names_insertAll`, `names_insertMissing`).
-/

namespace VendorCli

variable {α : Type} {name : Text} {pairs table : List (Text × α)}

/-- The table with those of some pairs put in whose name it lacks when their turn comes. -/
def insertMissing (pairs table : List (Text × α)) : List (Text × α) :=
  pairs.foldl (fun t kv => if (lookup? kv.1 t).isNone then insertLast kv.1 kv.2 t else t) table

/-! ### Values -/

/-- Of two insertions under a name only the second one shows. -/
theorem insertLast_insertLast (name : Text) (value later : α) (table : List (Text × α)) :
    insertLast name later (insertLast name value table) = insertLast name later table := by
  induction table with
  | nil => exact if_pos rfl
  | cons kv table ih =>
    obtain ⟨n, v⟩ := kv
    by_cases h : n = name
    · simp [insertLast, h]
    · simp [insertLast, h, ih]

theorem lookup?_singleton (kv : Text × α) :
    lookup? name [kv] = if kv.1 = name then some kv.2 else none :=
  lookup?_cons name kv.1 kv.2 []

/-- **The last pair of a name counts.** -/
theorem lookup?_insertAll :
    lookup? name (insertAll pairs table)
      = (lookup? name pairs.reverse).or (lookup? name table) := by
  induction pairs generalizing table with
  | nil => rfl
  | cons kv pairs ih =>
    rw [List.reverse_cons, lookup?_append, Option.or_assoc, lookup?_singleton]
    -- what the first pair puts in shows unless a later pair of the name replaces it
    have hstep : lookup? name (insertLast kv.1 kv.2 table)
        = (if kv.1 = name then some kv.2 else none).or (lookup? name table) := by
      split
      · next h => rw [← h, lookup?_insertLast_self, Option.some_or]
      · next h => rw [lookup?_insertLast_of_ne (Ne.symm h), Option.none_or]
    rw [← hstep]
    exact ih

/-- **The first pair of a name counts**, unless the table has the name. -/
theorem lookup?_insertMissing :
    lookup? name (insertMissing pairs table) = (lookup? name table).or (lookup? name pairs) := by
  induction pairs generalizing table with
  | nil => rw [lookup?_nil, Option.or_none]; rfl
  | cons kv pairs ih =>
    obtain ⟨n, v⟩ := kv
    -- what the first pair puts in shows only where the table has nothing
    have hstep : lookup? name (if (lookup? n table).isNone then insertLast n v table else table)
        = (lookup? name table).or (if n = name then some v else none) := by
      by_cases h : n = name
      · subst h
        rw [if_pos rfl]
        cases hn : lookup? n table with
        | none => rw [Option.isNone_none, if_pos rfl, lookup?_insertLast_self, Option.none_or]
        | some w => rw [Option.isNone_some, if_neg (by decide), hn, Option.some_or]
      · rw [if_neg h, Option.or_none]
        split
        · rw [lookup?_insertLast_of_ne (Ne.symm h)]
        · rfl
    have hrest : lookup? name ((n, v) :: pairs)
        = (if n = name then some v else none).or (lookup? name pairs) := by
      rw [lookup?_cons]
      split <;> rfl
    rw [hrest, ← Option.or_assoc, ← hstep]
    exact ih

/-! ### Names -/

/-- An entry at the end is a new one, or it is known and left out. -/
theorem distinct_concat {β : Type} [DecidableEq β] (l : List β) (b : β) :
    distinct (l ++ [b]) = if b ∈ l then distinct l else distinct l ++ [b] := by
  -- the first entry takes out later copies of itself, of which `b` may be one
  induction l with
  | nil => rfl
  | cons a l ih =>
    rw [List.cons_append, distinct, ih, distinct]
    by_cases hmem : b ∈ l
    · rw [if_pos hmem, if_pos (List.mem_cons_of_mem a hmem)]
    · rw [if_neg hmem, List.filter_append]
      by_cases hba : b = a
      · rw [if_pos (hba ▸ List.mem_cons_self)]
        simp [hba]
      · rw [if_neg (by simp [hba, hmem])]
        simp [hba]

variable {names : List Text}

/-- A name that is put in comes last, unless it is known. -/
theorem names_insertLast (h : table.map (·.1) = distinct names) (kv : Text × α) :
    (insertLast kv.1 kv.2 table).map (·.1) = distinct (names ++ [kv.1]) := by
  rw [map_fst_insertLast, h, distinct_concat]
  by_cases hknown : kv.1 ∈ names <;> simp [mem_distinct, hknown]

/-- **The names of a filled table** are those of the table and of the pairs, each where it first
comes. -/
theorem names_insertAll (h : table.map (·.1) = distinct names) :
    (insertAll pairs table).map (·.1) = distinct (names ++ pairs.map (·.1)) := by
  induction pairs generalizing table names with
  | nil => rw [List.map_nil, List.append_nil]; exact h
  | cons kv pairs ih =>
    have hstep := ih (names_insertLast h kv)
    rw [List.append_assoc] at hstep
    exact hstep

/-- It makes no difference to the names whether known ones are put in again. -/
theorem names_insertMissing (h : table.map (·.1) = distinct names) :
    (insertMissing pairs table).map (·.1) = distinct (names ++ pairs.map (·.1)) := by
  induction pairs generalizing table names with
  | nil => rw [List.map_nil, List.append_nil]; exact h
  | cons kv pairs ih =>
    have hnames : (if (lookup? kv.1 table).isNone then insertLast kv.1 kv.2 table else table).map
        (·.1) = distinct (names ++ [kv.1]) := by
      -- a pair whose name is known changes nothing, and its name would be left out anyway
      split
      · exact names_insertLast h kv
      · next hknown =>
        rw [Option.isNone_iff_eq_none, lookup?_eq_none_iff, Decidable.not_not, h,
          mem_distinct] at hknown
        rw [h, distinct_concat, if_pos hknown]
    have hstep := ih hnames
    rw [List.append_assoc] at hstep
    exact hstep

end VendorCli
