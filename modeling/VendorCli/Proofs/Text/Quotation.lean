import VendorCli.Proofs.Interfaces.Reading
import VendorCli.Template.Filter
import Mathlib.Data.List.DropRight
/-!
# Values between double quotes

A value can stand between double quotes if every double quote in it is behind a backslash and no
backslash is left over for the closing one (`isEnclosed`). What is between double quotes in this way
is one token (`IsQuotation`).

Which characters are escaped can also be told from where they stand: those behind an odd number of
backslashes (`EscapesNext`). A token is a text in which of all double quotes behind the first one
exactly the last character is not escaped (`isQuotation_iff_last`).

Two functions put values between quotes. `Interfaces.quoted`, for statements, escapes double quotes
and backslashes, so it always gives one token (`isQuotation_quoted`), which is read as the value.
What it leaves without quotes begins with no double quote (`Interfaces.quoting_lossless`). The
template filter `Template.Filter.quote` escapes double quotes alone, and a backslash of the value
counts as one of the quotation. What becomes of the value when it is read is told by
`withoutBackslashes_marked`; it comes back if each backslash stands right before a double quote
(`recovered_eq_self_iff`), but then that double quote ends the token too early. So the filter
is right for the values without a backslash and for no others
(`Template.Filter.quotation_recovers_iff`).
-/

namespace VendorCli

open Text

/-! ### Quotations -/

namespace Text

/-- Whether a text can stand between double quotes. A backslash takes the next character along, and
there is no double quote that none takes. -/
def isEnclosed : Text → Bool
  | [] => true
  | ['\\'] => false
  | '\\' :: _ :: rest => isEnclosed rest
  | c :: rest => c ≠ '"' && isEnclosed rest

/-- One token between double quotes: the first double quote after the opening one that is not behind
a backslash is the last character. -/
def IsQuotation (t : Text) : Prop :=
  ∃ body, t = '"' :: body ++ ['"'] ∧ isEnclosed body = true

/-- The body of a token is all that stands between its first and its last character. -/
theorem isQuotation_iff {body : Text} :
    IsQuotation ('"' :: body ++ ['"']) ↔ isEnclosed body = true := by
  constructor
  · rintro ⟨other, h, henclosed⟩
    rw [List.cons_append, List.cons_append, List.cons.injEq, List.append_cancel_right_eq] at h
    exact h.2 ▸ henclosed
  · exact fun h => ⟨body, rfl, h⟩

/-- A character that is no backslash must not be a double quote. -/
theorem isEnclosed_cons {c : Char} (hslash : c ≠ '\\') (t : Text) :
    isEnclosed (c :: t) = (decide (c ≠ '"') && isEnclosed t) := by
  rw [isEnclosed]
  · exact fun h => absurd h hslash
  · exact fun d rest h => absurd h hslash

/-- A character behind a backslash is as good as any other. -/
theorem isEnclosed_escape (c : Char) (t : Text) : isEnclosed ('\\' :: c :: t) = isEnclosed t := by
  rw [isEnclosed]

/-- What matches no rule for a backslash is none. -/
theorem ne_slash_of_plain {c : Char} {rest : Text} (hlast : c = '\\' → rest = [] → False)
    (hslash : ∀ d t, c = '\\' → rest = d :: t → False) : c ≠ '\\' := by
  intro hc
  cases rest with
  | nil => exact hlast hc rfl
  | cons d t => exact hslash d t hc rfl

/-- Where a character does not occur, nothing is replaced. -/
theorem replaceChar_of_not_mem {c : Char} {t : Text} (h : c ∉ t) (by_ : Text) :
    replaceChar c by_ t = t := by
  induction t with
  | nil => rfl
  | cons d t ih =>
    rw [List.mem_cons, not_or] at h
    rw [replaceChar_cons, if_neg (Ne.symm h.1), ih h.2, List.singleton_append]

/-! ### Escaped characters -/

/-- Whether the character behind a text is escaped: taken in pairs, the backslashes at the end of
the text leave one over. -/
def EscapesNext (t : Text) : Prop :=
  (t.rtakeWhile (· = '\\')).length % 2 = 1

instance (t : Text) : Decidable (EscapesNext t) :=
  inferInstanceAs (Decidable (_ = _))

theorem not_escapesNext_nil : ¬ EscapesNext [] := by
  decide

/-- A backslash escapes what is behind it, unless it is escaped itself. -/
theorem escapesNext_concat (t : Text) (c : Char) :
    EscapesNext (t ++ [c]) ↔ c = '\\' ∧ ¬ EscapesNext t := by
  rw [EscapesNext, EscapesNext, List.rtakeWhile_concat]
  by_cases h : c = '\\'
  · -- one backslash more
    rw [if_pos (decide_eq_true h), List.length_append, List.length_singleton, and_iff_right h]
    omega
  · rw [if_neg (by simpa using h), List.length_nil]
    simp [h]

/-- Behind a text that escapes nothing, backslashes are counted anew. -/
theorem escapesNext_append {s : Text} (h : ¬ EscapesNext s) (t : Text) :
    EscapesNext (s ++ t) ↔ EscapesNext t := by
  -- from the back, where the backslashes are counted
  induction t using List.reverseRecOn with
  | nil => rw [List.append_nil]; exact iff_of_false h not_escapesNext_nil
  | append_singleton t c ih => rw [← List.append_assoc, escapesNext_concat, escapesNext_concat, ih]

/-- A character in front makes no difference, unless it is a backslash. -/
theorem escapesNext_cons {c : Char} (hslash : c ≠ '\\') (t : Text) :
    EscapesNext (c :: t) ↔ EscapesNext t :=
  escapesNext_append (s := [c]) (fun h => hslash ((escapesNext_concat [] c).mp h).1) t

/-- A backslash in front takes the next character along, and both make no difference. -/
theorem escapesNext_escape (c : Char) (t : Text) :
    EscapesNext ('\\' :: c :: t) ↔ EscapesNext t := by
  refine escapesNext_append (s := ['\\', c]) (fun h => ?_) t
  exact ((escapesNext_concat ['\\'] c).mp h).2 (by decide)

/-- What holds of all places of a character, told from the front. -/
theorem forall_places_cons {P : Text → Text → Prop} {c d : Char} {t : Text} :
    (∀ s u, c :: t = s ++ d :: u → P s u)
      ↔ (c = d → P [] t) ∧ ∀ s u, t = s ++ d :: u → P (c :: s) u := by
  constructor
  -- a place is at the front, or it is a place of the rest with `c` before it
  · intro h
    exact ⟨fun hc => h [] t (by rw [hc]; rfl), fun s u hu => h (c :: s) u (by rw [hu]; rfl)⟩
  · rintro ⟨hhead, hrest⟩ s u hu
    cases s with
    | nil =>
      obtain ⟨rfl, rfl⟩ := List.cons.inj hu
      exact hhead rfl
    | cons e s =>
      obtain ⟨rfl, ht⟩ := List.cons.inj hu
      exact hrest s u ht

/-- **What can stand between double quotes**: each double quote in it is escaped, and the character
behind it is not. -/
theorem isEnclosed_iff {body : Text} : isEnclosed body = true
    ↔ (∀ s u, body = s ++ '"' :: u → EscapesNext s) ∧ ¬ EscapesNext body := by
  fun_induction isEnclosed body with
  | case1 => simp [not_escapesNext_nil]
  | case2 =>
    have hopen : EscapesNext ['\\'] := by decide
    simp [hopen]
  | case3 c rest ih =>
    -- `c` may be a double quote, which is escaped; places further on are those of `rest`
    have hopen : EscapesNext ['\\'] := by decide
    simp [forall_places_cons, escapesNext_escape, hopen, ih]
  | case4 c rest hlast hslash ih =>
    -- nothing is in front of `c`, so it cannot be a double quote
    have hne : c ≠ '\\' := ne_slash_of_plain hlast hslash
    simp [forall_places_cons, escapesNext_cons hne, not_escapesNext_nil, ih, and_assoc]

/-- **One token.** Of all double quotes behind the opening one, the last character is the one that
is not escaped. -/
theorem isQuotation_iff_last {t : Text} : IsQuotation t ↔ ∃ body, t = '"' :: body ++ ['"'] ∧
    ∀ s u, body ++ ['"'] = s ++ '"' :: u → (u = [] ↔ ¬ EscapesNext s) := by
  refine exists_congr fun body => and_congr_right fun _ => ?_
  rw [isEnclosed_iff]
  constructor
  · rintro ⟨hinside, hclosing⟩ s u hsplit
    -- the double quote is the last character, or it stands in the body
    rcases List.eq_nil_or_concat u with rfl | ⟨v, x, rfl⟩
    · rw [List.append_cancel_right hsplit] at hclosing
      exact iff_of_true rfl hclosing
    · -- a double quote with something behind it stands in the body
      have hplace : body ++ ['"'] = (s ++ '"' :: v) ++ [x] := by
        rw [hsplit, List.concat_eq_append, List.append_assoc, List.cons_append]
      have hescaped := hinside s v (List.append_inj_left' hplace rfl)
      exact iff_of_false (by simp) (not_not_intro hescaped)
  · intro hlast
    refine ⟨fun s u hsplit => ?_, (hlast body [] rfl).mp rfl⟩
    have hplace : body ++ ['"'] = s ++ '"' :: (u ++ ['"']) := by
      rw [hsplit, List.append_assoc, List.cons_append]
    by_contra hopen
    exact absurd ((hlast s _ hplace).mpr hopen) (by simp)

end Text

/-! ### Statements -/

namespace Interfaces

/-- With its double quotes and backslashes escaped, any text can stand between double quotes. -/
theorem isEnclosed_flatMap_escaped (t : Text) : isEnclosed (t.flatMap escaped) = true := by
  induction t with
  | nil => rfl
  | cons c t ih =>
    rw [List.flatMap_cons]
    by_cases h : c = '"' ∨ c = '\\'
    · rw [escaped, if_pos h, List.cons_append, List.cons_append, List.nil_append, isEnclosed_escape,
        ih]
    · rw [not_or] at h
      rw [escaped, if_neg (by simp [h]), List.cons_append, List.nil_append, isEnclosed_cons h.2, ih,
        decide_eq_true h.1]
      rfl

/-- **Statements quote well.** What needs quotes stands in a statement as one token. -/
theorem isQuotation_quoted {t : Text} (h : needsQuotes t = true) : IsQuotation (quoted t) := by
  rw [quoted_of_needsQuotes h, isQuotation_iff]
  exact isEnclosed_flatMap_escaped t

/-- A value that stands in a statement as it is begins with no double quote. -/
theorem needsQuotes_of_head? {t : Text} (h : (quoted t).head? = some '"') :
    needsQuotes t = true := by
  -- a double quote at the start would be in the value, and that is reason for quotes
  by_contra hneeds
  rw [quoted, if_neg hneeds] at h
  have hquote : '"' ∈ t := List.mem_of_mem_head? h
  refine hneeds ?_
  rw [needsQuotes, Bool.or_eq_true, List.any_eq_true]
  exact .inr ⟨'"', hquote, by decide⟩

/-- **Quoting loses nothing and marks where the value ends.** Every value is read back from what
stands in a statement. If that begins with a double quote, then of all double quotes that follow the
last character is the one that is not escaped. -/
theorem quoting_lossless (t : Text) :
    unquoted (quoted t) = t ∧
    ((quoted t).head? = some '"' → ∃ body, quoted t = '"' :: body ++ ['"'] ∧
      ∀ s u, body ++ ['"'] = s ++ '"' :: u → (u = [] ↔ ¬ EscapesNext s)) := by
  refine ⟨unquoted_quoted t, fun hquote => ?_⟩
  exact isQuotation_iff_last.mp (isQuotation_quoted (needsQuotes_of_head? hquote))

/-- A value with a backslash before a double quote and two at its end. -/
theorem quoting_lossless_backslashes :
    let t : Text := "C:\\\"core\" \\\\"
    unquoted (quoted t) = t ∧ (quoted t).head? = some '"' ∧
    ∃ body, quoted t = '"' :: body ++ ['"'] ∧
      ∀ s u, body ++ ['"'] = s ++ '"' :: u → (u = [] ↔ ¬ EscapesNext s) := by
  intro t
  have hquote : (quoted t).head? = some '"' := by decide
  exact ⟨(quoting_lossless t).1, hquote, (quoting_lossless t).2 hquote⟩

end Interfaces

/-! ### Templates -/

namespace Template.Filter

open Interfaces

/-- A text with a backslash before each double quote, and before nothing else. -/
def marked (t : Text) : Text :=
  replaceChar '"' ['\\', '"'] t

/-- A double quote gets a backslash. -/
theorem marked_quote (t : Text) : marked ('"' :: t) = '\\' :: '"' :: marked t :=
  replaceChar_cons '"' '"' _ t

/-- Any other character is left as it is. -/
theorem marked_cons {c : Char} (h : c ≠ '"') (t : Text) : marked (c :: t) = c :: marked t := by
  rw [marked, replaceChar_cons, if_neg h]
  rfl

/-- A value with a blank is put between quotes. -/
theorem quote_of_blank {t : Text} (h : ∃ c ∈ t, isBlank c = true) :
    quote t = '"' :: marked t ++ ['"'] :=
  if_pos (List.any_eq_true.mpr h)

/-- A value with a blank needs quotes in a statement as well. -/
theorem needsQuotes_of_blank {t : Text} (h : ∃ c ∈ t, isBlank c = true) : needsQuotes t = true := by
  obtain ⟨c, hc, hblank⟩ := h
  rw [needsQuotes, Bool.or_eq_true, List.any_eq_true]
  exact .inr ⟨c, hc, by simp [hblank]⟩

/-- The filter and the statements agree on a value without a backslash. -/
theorem quote_eq_quoted {t : Text} (h : ∃ c ∈ t, isBlank c = true) (hslash : '\\' ∉ t) :
    quote t = quoted t := by
  rw [quote_of_blank h, quoted, if_pos (needsQuotes_of_blank h), replaceChar_of_not_mem hslash]
  rfl

/-- Whether each backslash of a text stands right before a double quote. -/
def SlashesMark (t : Text) : Prop :=
  ∀ s u, t = s ++ '\\' :: u → u.head? = some '"'

/-- The first character is looked at by itself, and then the rest. -/
theorem slashesMark_cons {c : Char} {t : Text} :
    SlashesMark (c :: t) ↔ (c = '\\' → t.head? = some '"') ∧ SlashesMark t :=
  forall_places_cons

/-- What is read of a value that the filter has put between quotes. A backslash takes the next
character along, and is read itself only if that is the one that was put before a double quote. -/
def recovered : Text → Text
  | [] => []
  | ['\\'] => []
  | '\\' :: '"' :: rest => '\\' :: '"' :: recovered rest
  | '\\' :: c :: rest => c :: recovered rest
  | c :: rest => c :: recovered rest

/-- What is read of a marked value is what `recovered` says. -/
theorem withoutBackslashes_marked (t : Text) : withoutBackslashes (marked t) = recovered t := by
  fun_induction recovered t with
  | case1 => rfl
  | case2 => rfl
  | case3 rest ih =>
    rw [marked_cons (by decide), marked_quote, withoutBackslashes, withoutBackslashes, ih]
    · simp
    · simp
  | case4 c rest hquote ih =>
    rw [marked_cons (by decide), marked_cons hquote, withoutBackslashes, ih]
  | case5 c rest hlast _ hslash ih =>
    have hne := ne_slash_of_plain hlast hslash
    -- a double quote is read back from its mark, any other character from itself
    by_cases hquote : c = '"'
    · rw [hquote, marked_quote, withoutBackslashes, ih]
    · rw [marked_cons hquote, withoutBackslashes, ih]
      · exact fun h => absurd h hne
      · exact fun d rest h => absurd h hne

/-- Reading back makes nothing longer. -/
theorem length_recovered_le (t : Text) : (recovered t).length ≤ t.length := by
  fun_induction recovered t with
  | case1 => exact Nat.le_refl _
  | case2 => exact Nat.zero_le _
  | case3 rest ih => simpa using ih
  | case4 c rest _ ih => exact Nat.le_succ_of_le (Nat.succ_le_succ ih)
  | case5 c rest _ _ _ ih => exact Nat.succ_le_succ ih

/-- **A value is read back** if each of its backslashes stands right before a double quote. Any
other backslash is lost. -/
theorem recovered_eq_self_iff {t : Text} : recovered t = t ↔ SlashesMark t := by
  fun_induction recovered t with
  | case1 => simp [SlashesMark]
  | case2 => simp [slashesMark_cons]
  | case3 rest ih => simp [slashesMark_cons, ih]
  | case4 c rest hquote ih =>
    refine iff_of_false (fun h => ?_) fun h => ?_
    · -- the backslash is lost, and the rest cannot make up for it
      have hlength := congrArg List.length h
      have hle := length_recovered_le rest
      simp only [List.length_cons] at hlength
      omega
    · exact hquote (Option.some.inj ((slashesMark_cons.mp h).1 rfl))
  | case5 c rest hlast _ hslash ih =>
    have hne := ne_slash_of_plain hlast hslash
    simp [slashesMark_cons, ih, hne]

/-- Up to the first backslash a value stands well between the quotes of the filter. -/
theorem isEnclosed_marked_append {s : Text} (h : '\\' ∉ s) (t : Text) :
    isEnclosed (marked (s ++ t)) = isEnclosed (marked t) := by
  induction s with
  | nil => rfl
  | cons c s ih =>
    rw [List.mem_cons, not_or] at h
    rw [List.cons_append]
    by_cases hquote : c = '"'
    · rw [hquote, marked_quote, isEnclosed_escape, ih h.2]
    · rw [marked_cons hquote, isEnclosed_cons (Ne.symm h.1), ih h.2, decide_eq_true hquote,
        Bool.true_and]

/-- If each backslash stands right before a double quote, the first one lets that double quote end
the token. -/
theorem not_isEnclosed_marked {t : Text} (hmark : SlashesMark t) (hslash : '\\' ∈ t) :
    isEnclosed (marked t) = false := by
  obtain ⟨s, u, rfl, hs⟩ := List.eq_append_cons_of_mem hslash
  obtain ⟨u, rfl⟩ := List.head?_eq_some_iff.mp (hmark s u rfl)
  rw [isEnclosed_marked_append hs, marked_cons (by decide), marked_quote, isEnclosed_escape,
    isEnclosed_cons (by decide)]
  rfl

/-- What the filter puts between quotes is read by dropping its backslashes. -/
theorem unquoted_quote {t : Text} (h : ∃ c ∈ t, isBlank c = true) :
    unquoted (quote t) = recovered t := by
  rw [quote_of_blank h, unquoted_quotation, withoutBackslashes_marked]

/-- **The filter is right for the values without a backslash**, and for no others: only they stand
between the quotes as one token that is read as the value, and only for them the filter agrees with
what a statement has. A value with a backslash is read back nevertheless if each backslash stands
right before a double quote, but not as one token. -/
theorem quotation_recovers_iff (t : Text) (h : ∃ c ∈ t, isBlank c = true) :
    apply "quote" (.ofText t) ⟨[], []⟩ = .ok (.ofText (quote t)) ∧
    (IsQuotation (quote t) ∧ unquoted (quote t) = t ↔ '\\' ∉ t) ∧
    (quote t = quoted t ↔ '\\' ∉ t) ∧
    (unquoted (quote t) = t ↔ SlashesMark t) := by
  have hneeds : needsQuotes t = true := needsQuotes_of_blank h
  -- the two characterizations that the statement is put together from
  have hread : unquoted (quote t) = t ↔ SlashesMark t := by
    rw [unquoted_quote h, recovered_eq_self_iff]
  have hplain : '\\' ∉ t → quote t = quoted t := quote_eq_quoted h
  have hexact : IsQuotation (quote t) ∧ unquoted (quote t) = t ↔ '\\' ∉ t := by
    constructor
    · rintro ⟨htoken, hback⟩ hslash
      rw [quote_of_blank h, isQuotation_iff,
        not_isEnclosed_marked (hread.mp hback) hslash] at htoken
      cases htoken
    · intro hslash
      rw [hplain hslash]
      exact ⟨isQuotation_quoted hneeds, unquoted_quoted t⟩
  refine ⟨rfl, hexact, ⟨fun hsame => hexact.mp ?_, hplain⟩, hread⟩
  -- a value on which both agree is written well, since statements are
  rw [hsame]
  exact ⟨isQuotation_quoted hneeds, unquoted_quoted t⟩

/-- A value with double quotes of its own, and one in which a backslash stands before a double
quote. -/
theorem quotation_recovers_quoted_word :
    (∃ c ∈ ("say \"hi\" to pe1" : Text), isBlank c = true) ∧
    IsQuotation (quote "say \"hi\" to pe1") ∧
    unquoted (quote "say \"hi\" to pe1") = "say \"hi\" to pe1".toList ∧
    (∃ c ∈ ("to \\\"core\\\"" : Text), isBlank c = true) ∧
    ¬ (IsQuotation (quote "to \\\"core\\\"") ∧
      unquoted (quote "to \\\"core\\\"") = "to \\\"core\\\"".toList) := by
  have hplain : ∃ c ∈ ("say \"hi\" to pe1" : Text), isBlank c = true := ⟨' ', by decide, rfl⟩
  have hslash : ∃ c ∈ ("to \\\"core\\\"" : Text), isBlank c = true := ⟨' ', by decide, rfl⟩
  obtain ⟨hquoted, hback⟩ := (quotation_recovers_iff _ hplain).2.1.mpr (by decide)
  exact ⟨hplain, hquoted, hback, hslash, fun hboth =>
    (quotation_recovers_iff _ hslash).2.1.mp hboth (by decide)⟩

/-- A backslash at the end of a value takes the closing quote along, so there is no token, and it is
lost when the value is read. -/
theorem closing_quote_escaped :
    let t : Text := "to core 1\\"
    (∃ c ∈ t, isBlank c = true) ∧ quote t = "\"to core 1\\\"".toList ∧
    ¬ IsQuotation (quote t) ∧ unquoted (quote t) = "to core 1".toList ∧
    ¬ ∀ v : Text, (∃ c ∈ v, isBlank c = true) → IsQuotation (quote v) ∧ unquoted (quote v) = v := by
  intro t
  have hblank : ∃ c ∈ t, isBlank c = true := ⟨' ', by decide, rfl⟩
  have hopen : ¬ IsQuotation (quote t) := by
    rw [quote_of_blank hblank, isQuotation_iff]
    decide
  exact ⟨hblank, by decide, hopen, by decide, fun hall => hopen (hall t hblank).1⟩

end Template.Filter

end VendorCli
