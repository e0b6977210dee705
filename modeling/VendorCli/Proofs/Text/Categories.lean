import VendorCli.Proofs.Number.Digits
import VendorCli.Text.Letter
/-!
# Digits are not blank

A regular expression takes the digits of all scripts for digits, and what it captured is trimmed
before it is read as a number. The two tables that this rests on, of categories and of blanks, have
no character in common: `not_isBlank_of_isDigit`. So trimming takes nothing from a row of digits.

The table of categories is written in rows of text. The characters of the rows are named first
(`exists_rows`); the categories of the few blanks outside ASCII are then a computation on them.
-/

namespace VendorCli.Text

/-- The blanks outside ASCII. -/
def outerBlanks : List Nat :=
  [0x85, 0xA0, 0x1680, 0x2000, 0x2001, 0x2002, 0x2003, 0x2004, 0x2005, 0x2006, 0x2007, 0x2008,
   0x2009, 0x200A, 0x2028, 0x2029, 0x202F, 0x205F, 0x3000]

/-- The list of the blanks outside ASCII is complete. -/
theorem mem_outerBlanks {c : Char} (hblank : isBlank c = true) (hc : 128 ≤ c.toNat) :
    c.toNat ∈ outerBlanks := by
  simp only [isBlank, Bool.or_eq_true, Bool.and_eq_true, decide_eq_true_eq, beq_iff_eq] at hblank
  simp only [outerBlanks, List.mem_cons, List.not_mem_nil, or_false]
  omega

/-! ### Rows of the table -/

/-- The runs that rows of characters list. -/
private def runsOf (rows : List Text) : List (Nat × Category) :=
  ((rows.flatMap (splitOn ' ')).foldl Category.runs.step (0, [])).2.reverse

private theorem runs_eq : Category.runs = runsOf (Category.table.map String.toList) := by
  unfold Category.runs runsOf
  rw [List.flatMap_map]

private theorem map_toList_nil : ([] : List String).map String.toList = [] := rfl

/-- The characters of one row, which is written as a literal, and of those behind it. -/
private theorem map_toList_cons {row : Text} {rest : List String} {rows : List Text}
    (h : rest.map String.toList = rows) :
    (String.ofList row :: rest).map String.toList = row :: rows := by
  rw [List.map_cons, String.toList_ofList, h]

set_option maxRecDepth 20000 in
/-- The characters of the rows, in which no blank outside ASCII is a digit. -/
private theorem exists_rows : ∃ rows : List Text, Category.table.map String.toList = rows ∧
    ∀ n ∈ outerBlanks, Category.lookUp n (runsOf rows) .unassigned ≠ .decimalNumber := by
  apply Exists.intro
  apply And.intro
  · -- row by row, so that no text has to be decoded in the computation
    unfold Category.table
    repeat apply map_toList_cons
    exact map_toList_nil
  · decide +kernel

/-- **Digits and blanks** have no character in common. -/
theorem not_isBlank_of_isDigit {c : Char} (h : isDigit c = true) : isBlank c = false := by
  by_cases hc : c.toNat < 128
  · exact Decimal.not_isBlank_of_isDigit (isDigit_of_ascii hc ▸ h)
  -- outside ASCII the character would be one of the listed blanks, none of which is a digit
  · obtain ⟨rows, hrows, hcategory⟩ := exists_rows
    have hdecimal : Category.ofChar c = .decimalNumber := by
      unfold isDigit at h
      rw [if_neg hc] at h
      exact of_decide_eq_true h
    rw [Bool.eq_false_iff]
    intro hblank
    have hmem : c.toNat ∈ outerBlanks := mem_outerBlanks hblank (by omega)
    apply hcategory _ hmem
    rw [← hrows, ← runs_eq]
    exact hdecimal

end VendorCli.Text
