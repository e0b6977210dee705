import VendorCli.Proofs.Pattern.Remainders
import Mathlib.Data.List.TakeWhile
/-!
# A pattern with its closing text behind it

The anchored text of a pattern ends in a parenthesis and a dollar sign (`closing`). Here the readers
are run on a text with the closing text behind it. They do with the longer text what they do with
the text alone, and leave the closing text where it is (`withClosing`): what they look for does not
begin with a parenthesis, and what they miss at the end of the text the closing text does not
supply. There are two exceptions, a comment that runs over the closing text (`Mode.skip_closing`),
and an escape that the end of the text breaks off.

* `class?_closing` is about one step in a class, `readClass?_closing` about the whole class.
-/

namespace VendorCli

/-- The end of the anchored text of a pattern. -/
def PatternText.closing : Text := [')', '$']

/-- What a reader finds, with the closing text behind what it leaves. -/
def PatternText.withClosing {α : Type} (x : α × Text) : α × Text := (x.1, x.2 ++ closing)

open PatternText (closing withClosing)

/-! ### Characters that are looked for -/

/-- What is taken from the front does not reach into the closing text. -/
theorem Text.takeWhile_closing {p : Char → Bool} (h : p ')' = false) (t : Text) :
    (t ++ closing).takeWhile p = t.takeWhile p := by
  rw [List.takeWhile_append]
  split
  -- the whole text is taken, and the parenthesis stops there
  · next hall =>
    rw [closing, List.takeWhile_cons_of_neg (by simp [h]), List.append_nil]
    exact ((List.takeWhile_prefix p).eq_of_length hall).symm
  · rfl

/-- What is left after dropping has the closing text behind it. -/
theorem Text.dropWhile_closing {p : Char → Bool} (h : p ')' = false) (t : Text) :
    (t ++ closing).dropWhile p = t.dropWhile p ++ closing := by
  rw [List.dropWhile_append]
  split
  · next hnil =>
    rw [closing, List.dropWhile_cons_of_neg (by simp [h]), List.isEmpty_iff.mp hnil,
      List.nil_append]
  · rfl

/-- A separator is found where it is in the text itself. -/
theorem Text.splitOnce?_closing {c : Char} (h : c ∉ closing) (t : Text) :
    splitOnce? c (t ++ closing) = (splitOnce? c t).map withClosing := by
  induction t with
  | nil =>
    rw [closing, List.mem_cons, List.mem_singleton, not_or] at h
    simp [splitOnce?, closing, Ne.symm h.1, Ne.symm h.2]
  | cons d t ih =>
    rw [List.cons_append, splitOnce?, splitOnce?]
    split
    · rfl
    · rw [ih, Option.map_map, Option.map_map]
      rfl

namespace PatternText

variable {m : Mode} {s t u : Text}

/-- A character before the closing text, unless it is its parenthesis. -/
theorem eq_cons_of_append_closing {rest : Text} {c : Char} (h : s ++ closing = c :: rest)
    (hc : c ≠ ')') : ∃ s', s = c :: s' ∧ rest = s' ++ closing := by
  cases s with
  | nil =>
    cases h
    exact absurd rfl hc
  | cons d s' =>
    cases h
    exact ⟨s', rfl, rfl⟩

/-- No other character than a parenthesis comes to the front. -/
theorem head?_closing {c : Char} (hc : c ≠ ')') (h : s.head? ≠ some c) :
    (s ++ closing).head? ≠ some c := by
  cases s with
  | nil =>
    rintro h'
    cases h'
    exact hc rfl
  | cons d s => exact h

/-- Readers one after the other go the same way if each does. -/
theorem bind_withClosing {α β : Type} {o : Option (α × Text)} {f : α × Text → Option (β × Text)}
    (h : ∀ x u, f (x, u ++ closing) = (f (x, u)).map withClosing) :
    (o.map withClosing).bind f = (o.bind f).map withClosing := by
  cases o with
  | none => rfl
  | some p => exact h p.1 p.2

/-- A reader that looks at nothing of the text leaves the closing text behind. -/
theorem bind_some_withClosing {α β : Type} {o : Option α} {f : α → β} {u : Text} :
    (o.bind fun x => some (f x, u ++ closing))
      = (o.bind fun x => some (f x, u)).map withClosing := by
  cases o <;> rfl

end PatternText

/-! ### Skipping -/

namespace Mode

theorem skip_go_nil (n : Nat) : skip.go n [] = [] := by
  cases n <;> rfl

theorem skip_nil (m : Mode) : m.skip [] = [] :=
  List.suffix_nil.mp (m.skip_isSuffix [])

/-- A comment is skipped up to the end of its line. -/
theorem skip_go_comment {n : Nat} {t rest : Text} (h : t.dropWhile Text.isBlank = '#' :: rest) :
    skip.go (n + 1) t = skip.go n (rest.dropWhile (· ≠ '\n')) := by
  rw [skip.go, h]
  rfl

/-- Without a comment only blanks are skipped. -/
theorem skip_go_of_head? {n : Nat} {t : Text} (h : (t.dropWhile Text.isBlank).head? ≠ some '#') :
    skip.go (n + 1) t = t.dropWhile Text.isBlank := by
  rw [skip.go]
  split
  · next rest hrest =>
    rw [hrest] at h
    exact absurd rfl h
  · rfl

/-- A character that is no blank and begins no comment stops the skipping. -/
theorem skip_cons {c : Char} (hblank : Text.isBlank c = false) (hc : c ≠ '#') (m : Mode)
    (t : Text) : m.skip (c :: t) = c :: t := by
  have hdrop : (c :: t).dropWhile Text.isBlank = c :: t :=
    List.dropWhile_cons_of_neg (by simp [hblank])
  unfold skip
  split
  · rw [skip_go_of_head? (by rw [hdrop]; simpa using hc), hdrop]
  · rfl

/-- The closing text begins with no blank and no comment, so it stops the skipping, unless it is
part of a comment. -/
theorem skip_go_closing {n k : Nat} {t : Text} (hn : t.length < n) (hk : t.length < k) :
    skip.go k (t ++ closing) = skip.go n t ++ closing ∨
      skip.go n t = [] ∧ skip.go k (t ++ closing) = [] := by
  -- the induction is on the steps: each skips a comment, which makes the text shorter
  induction n generalizing t k with
  | zero => cases hn
  | succ n ih =>
    obtain ⟨k, rfl⟩ : ∃ l, k = l + 1 := ⟨k - 1, by omega⟩
    have happend := Text.dropWhile_closing (p := Text.isBlank) (by decide) t
    by_cases hcomment : (t.dropWhile Text.isBlank).head? = some '#'
    · obtain ⟨rest, hrest⟩ := List.head?_eq_some_iff.mp hcomment
      have hblanks := (List.dropWhile_suffix Text.isBlank (l := t)).length_le
      have hline := (List.dropWhile_suffix (· ≠ '\n') (l := rest)).length_le
      rw [hrest, List.length_cons] at hblanks
      rw [hrest, List.cons_append] at happend
      rw [skip_go_comment hrest, skip_go_comment happend, List.dropWhile_append]
      -- without a line feed the comment does not end before the closing text, nor in it
      split
      · next hnil =>
        rw [List.isEmpty_iff.mp hnil]
        exact .inr ⟨skip_go_nil n, skip_go_nil k⟩
      · exact ih (by omega) (by omega)
    · have hcomment' := PatternText.head?_closing (by decide) hcomment
      rw [← happend] at hcomment'
      rw [skip_go_of_head? hcomment, skip_go_of_head? hcomment', happend]
      exact .inl rfl

/-- **Skipping.** Before the closing text as much is skipped as without it, unless a comment runs
over it. -/
theorem skip_closing (m : Mode) (t : Text) :
    m.skip (t ++ closing) = m.skip t ++ closing ∨
      m.skip t = [] ∧ m.skip (t ++ closing) = [] := by
  unfold skip
  split
  · exact skip_go_closing (by omega) (by rw [List.length_append]; omega)
  · exact .inl rfl

/-- Skipping that stops in the text stops at the same character. -/
theorem skip_closing_of_cons {m : Mode} {t rest : Text} {c : Char} (h : m.skip t = c :: rest) :
    m.skip (t ++ closing) = c :: (rest ++ closing) := by
  rcases m.skip_closing t with hskip | ⟨hnil, -⟩
  · rw [hskip, h, List.cons_append]
  · rw [h] at hnil
    cases hnil

/-- Skipping that takes all of the text stops at the closing text, or a comment takes that as
well. -/
theorem skip_closing_of_nil {m : Mode} {t : Text} (h : m.skip t = []) :
    m.skip (t ++ closing) = m.skip closing ∨ m.skip (t ++ closing) = [] := by
  refine (m.skip_closing t).imp (fun hskip => ?_) And.right
  rw [hskip, h]
  exact (skip_cons (by decide) (by decide) _ _).symm

end Mode

namespace PatternText

variable {m : Mode} {t u : Text}

/-! ### Escapes -/

/-- A parenthesis is no digit. -/
theorem basedNat?_of_mem {base : Nat} (h : ')' ∈ t) : Scalar.basedNat? base t = none := by
  -- once there is no number, further digits make none
  have hnone : ∀ u : Text, u.foldl (fun acc c => do
      let n ← acc
      let d ← Scalar.basedNat?.digitIn? c
      if d < base then some (base * n + d) else none) none = none := by
    intro u
    induction u with
    | nil => rfl
    | cons c u ih => exact ih
  rw [Scalar.basedNat?, if_neg (List.ne_nil_of_mem h)]
  -- digits before the parenthesis may be read, and nothing behind it changes the answer
  obtain ⟨s, u, rfl⟩ := List.append_of_mem h
  rw [List.foldl_append, List.foldl_cons]
  cases s.foldl (fun acc c => do
      let n ← acc
      let d ← Scalar.basedNat?.digitIn? c
      if d < base then some (base * n + d) else none) (some 0) with
  | none => exact hnone u
  | some n => exact hnone u

/-- A code point is read alike, since the closing text has no digits. -/
theorem hex?_closing {width : Nat} (hwidth : width ≠ 0) :
    hex? m width (t ++ closing) = (hex? m width t).map withClosing := by
  unfold hex?
  rcases m.skip_closing t with hskip | ⟨hskip, hskip'⟩
  · rw [hskip]
    generalize m.skip t = s
    split
    -- between braces
    · next h =>
      obtain ⟨rest, rfl, rfl⟩ := eq_cons_of_append_closing h (by decide)
      simp only [Option.bind_eq_bind]
      rw [Text.splitOnce?_closing (by decide)]
      refine bind_withClosing fun body after => ?_
      cases Scalar.basedNat? 16 (braced m body) with
      | none => rfl
      | some n => exact bind_some_withClosing
    -- a fixed number of digits, which are all in the text or reach the parenthesis
    · next hbrace =>
      split
      · next h => exact (hbrace _ rfl).elim
      · dsimp only
        by_cases hlength : width ≤ s.length
        · rw [List.take_append_of_le_length hlength, List.drop_append_of_le_length hlength]
          split
          · cases Scalar.basedNat? 16 (s.take width) with
            | none => rfl
            | some n => exact bind_some_withClosing
          · rfl
        · -- too few digits before the parenthesis, which is none itself
          have hparen : ')' ∈ (s ++ closing).take width := by
            rw [List.take_append, List.mem_append]
            right
            obtain ⟨k, hk⟩ : ∃ k, width - s.length = k + 1 := ⟨width - s.length - 1, by omega⟩
            rw [hk]
            exact List.mem_cons_self
          rw [basedNat?_of_mem hparen, if_neg (c := (s.take width).length = width)
            (by rw [List.length_take]; omega)]
          exact ite_self none
  -- a comment runs over the closing text, and there are no digits at all
  · rw [hskip, hskip']
    simp [Ne.symm hwidth]

/-- A property is read alike; the parenthesis is the name of none. -/
theorem property?_closing {negated : Bool} :
    property? m negated (t ++ closing) = (property? m negated t).map withClosing := by
  unfold property?
  split
  · rcases m.skip_closing t with hskip | ⟨hskip, hskip'⟩
    · rw [hskip]
      generalize m.skip t = s
      split
      · next h => exact absurd h (by simp [closing])
      · next h =>
        obtain ⟨rest, rfl, rfl⟩ := eq_cons_of_append_closing h (by decide)
        rfl
      · next h =>
        obtain ⟨rest, rfl, rfl⟩ := eq_cons_of_append_closing h (by decide)
        simp only [Option.bind_eq_bind]
        rw [Text.splitOnce?_closing (by decide)]
        refine bind_withClosing fun body after => ?_
        exact bind_some_withClosing
      · next c rest hbackslash hbrace h =>
        cases s with
        -- one letter
        | nil =>
          cases h
          have hparen : Property.named? [')'] = none := by decide +kernel
          rw [hparen]
          rfl
        | cons d s =>
          cases h
          split
          · next h => cases h
          · next h => cases h; exact (hbackslash rfl).elim
          · next h => cases h; exact (hbrace rfl).elim
          · next h =>
            cases h
            rw [Option.map_map]
            rfl
    · rw [hskip, hskip']
      rfl
  · rfl

/-- A word boundary is read alike, unless the text ends in the brace of its name. Then there is none
by itself, and with the closing text it is one without a name. -/
theorem edge?_closing (m : Mode) (t : Text) :
    edge? m (t ++ closing) = (edge? m t).map withClosing ∨
      ∃ ws a, t = '\x7b' :: ws ∧ m.skip ws = [] ∧ edge? m t = none ∧
        edge? m (t ++ closing) = some (a, t ++ closing) := by
  unfold edge?
  generalize (if m.unicode then Anchor.wordEdge else .asciiWordEdge) = plain
  dsimp only
  split
  · next h =>
    obtain ⟨rest, rfl, rfl⟩ := eq_cons_of_append_closing h (by decide)
    rcases m.skip_closing rest with hskip | ⟨hskip, hskip'⟩
    · cases hs : m.skip rest with
      -- the brace is the last character but for blanks, so the parenthesis shows that no name
      -- follows
      | nil =>
        refine .inr ⟨rest, plain, rfl, hs, by simp [hs], ?_⟩
        simp only [hskip, hs]
        rfl
      | cons c s =>
        left
        simp only [hskip, hs, List.cons_append, List.head?_cons, Option.bind_eq_bind]
        split
        · rw [Text.splitOnce?_closing (by decide)]
          refine bind_withClosing fun body after => ?_
          exact bind_some_withClosing
        · rfl
    · left
      simp only [hskip, hskip']
      rfl
  · next hbrace =>
    left
    split
    · exact (hbrace _ rfl).elim
    · rfl

/-- **Escapes** are read alike but for the word boundary whose brace ends the text. -/
theorem escape?_closing (m : Mode) (c : Char) (t : Text) :
    escape? m (c :: (t ++ closing)) = (escape? m (c :: t)).map withClosing ∨
      ∃ ws a, t = '\x7b' :: ws ∧ m.skip ws = [] ∧ escape? m (c :: t) = none ∧
        escape? m (c :: (t ++ closing)) = some (.anchor a, t ++ closing) := by
  rcases escape?_cases m c with ⟨e, h⟩ | ⟨negated, h⟩ | ⟨width, hwidth, h⟩ | h
  · left
    rw [h, h, Option.map_map]
    rfl
  · left
    rw [h, h, property?_closing, Option.map_map, Option.map_map]
    rfl
  · left
    rw [h, h, hex?_closing hwidth, Option.map_map, Option.map_map]
    rfl
  · rw [h, h]
    rcases edge?_closing m t with hedge | ⟨ws, a, ht, hws, hnone, hedge⟩
    · left
      rw [hedge, Option.map_map, Option.map_map]
      rfl
    · right
      exact ⟨ws, a, ht, hws, by rw [hnone]; rfl, by rw [hedge]; rfl⟩

/-! ### Members of classes -/

/-- The name of a class ends before the closing text. -/
theorem nameAfterSign?_closing (negated : Bool) (t : Text) :
    nameAfterSign? negated (t ++ closing) = (nameAfterSign? negated t).map withClosing := by
  rw [nameAfterSign?, nameAfterSign?, Text.splitOnce?_closing (by decide)]
  refine bind_withClosing fun name after => ?_
  dsimp only
  split
  · next h =>
    obtain ⟨rest, rfl, rfl⟩ := eq_cons_of_append_closing h (by decide)
    exact bind_some_withClosing
  · next h =>
    split
    · exact (h _ rfl).elim
    · rfl

/-- A class by name is read alike. -/
theorem named?_closing (t : Text) : named? (t ++ closing) = (named? t).map withClosing := by
  by_cases h : t.head? = some '^'
  · obtain ⟨rest, rfl⟩ := List.head?_eq_some_iff.mp h
    exact nameAfterSign?_closing true rest
  · rw [named?_of_head? h, named?_of_head? (head?_closing (by decide) h), nameAfterSign?_closing]

/-- A member is read alike; at the end of the text the parenthesis would be one. -/
theorem member?_closing (m : Mode) (t : Text) :
    member? m (t ++ closing) = (member? m t).map withClosing ∨
      member? m t = none ∧ member? m (t ++ closing) = some (.inl ')', ['$']) := by
  rcases t with _ | ⟨c, t⟩
  · exact .inr ⟨rfl, by simp [closing, member?]⟩
  by_cases hc : c = '\\'
  · subst hc
    rcases t with _ | ⟨d, t⟩
    -- a backslash that ends the text escapes the parenthesis
    · exact .inr ⟨rfl, rfl⟩
    left
    rcases escape?_closing m d t with h | ⟨ws, a, -, -, hnone, h⟩
    · simp only [List.cons_append, member?]
      rw [h]
      refine bind_withClosing fun e after => ?_
      cases e <;> rfl
    · -- a word boundary is no member either way
      simp only [List.cons_append, member?, h, hnone]
      rfl
  · left
    rw [List.cons_append, member?_of_ne hc, member?_of_ne hc]
    split <;> rfl

/-- The end of a range is read alike, or the parenthesis has become it. -/
theorem lastOfRange?_closing (m : Mode) (first : Char ⊕ CharClass) (t : Text) :
    lastOfRange? m first (t ++ closing) = (lastOfRange? m first t).map withClosing ∨
      lastOfRange? m first t = none ∧
        ∀ s u, lastOfRange? m first (t ++ closing) = some (s, u) → u <:+ closing := by
  unfold lastOfRange?
  rcases member?_closing m t with h | ⟨hnone, h⟩
  · left
    rw [h]
    refine bind_withClosing fun last rest => ?_
    dsimp only
    split
    · split <;> rfl
    · rfl
  · -- an escape at the end of the text has taken the parenthesis
    right
    refine ⟨by rw [hnone]; rfl, fun s u hu => ?_⟩
    rw [h, Option.bind_eq_bind, Option.bind_some] at hu
    dsimp only at hu
    split at hu
    · split at hu <;> cases hu
      exact List.suffix_cons _ _
    · cases hu

/-- What follows a member is read alike, unless the class is broken off there. -/
theorem afterMember?_closing (m : Mode) (first : Char ⊕ CharClass) (t : Text) :
    afterMember? m first (t ++ closing) = (afterMember? m first t).map withClosing ∨
      afterMember? m first t = none ∧
        ∀ s u, afterMember? m first (t ++ closing) = some (s, u) → u <:+ closing := by
  unfold afterMember?
  split
  · next h => exact absurd h (by simp [closing])
  -- a hyphen: the rest of a range, unless the class ends there
  · next h =>
    obtain ⟨more, rfl, rfl⟩ := eq_cons_of_append_closing h (by decide)
    simp only []
    rcases m.skip_closing more with hskip | ⟨hskip, hskip'⟩
    · rw [hskip]
      generalize m.skip more = v
      split
      · next h => exact absurd h (by simp [closing])
      · next h =>
        obtain ⟨v, rfl, rfl⟩ := eq_cons_of_append_closing h (by decide)
        exact .inl rfl
      · next h =>
        obtain ⟨v, rfl, rfl⟩ := eq_cons_of_append_closing h (by decide)
        exact .inl rfl
      · next hbracket hhyphen =>
        split
        · -- a range that the text breaks off would end with the parenthesis
          refine .inr ⟨rfl, fun s u hu => ?_⟩
          rcases lastOfRange?_closing m first [] with h | ⟨-, h⟩
          · rw [h] at hu
            cases hu
          · exact h s u hu
        · exact (hbracket _ rfl).elim
        · exact (hhyphen _ rfl).elim
        · exact lastOfRange?_closing m first _
    · left
      rw [hskip, hskip']
      rfl
  -- no hyphen follows
  · next hempty hhyphen =>
    split
    -- the text ends behind the member
    · refine .inr ⟨rfl, fun s u hu => ?_⟩
      cases hu
      exact List.suffix_rfl
    · exact (hhyphen _ rfl).elim
    · exact .inl rfl

/-- **Members and ranges** are read alike. One that reaches beyond the text leaves no more than a
part of the closing text. -/
theorem memberOrRange?_closing (m : Mode) (t : Text) :
    memberOrRange? m (t ++ closing) = (memberOrRange? m t).map withClosing ∨
      memberOrRange? m t = none ∧
        ∀ s u, memberOrRange? m (t ++ closing) = some (s, u) → u <:+ closing := by
  rw [memberOrRange?_eq, memberOrRange?_eq]
  rcases member?_closing m t with h | ⟨hnone, h⟩
  · rw [h]
    cases member? m t with
    | none => exact .inl rfl
    | some p =>
      obtain ⟨first, after⟩ := p
      simp only [Option.map_some, Option.bind_some, withClosing]
      rcases m.skip_closing after with hskip | ⟨hskip, hskip'⟩
      · rw [hskip]
        exact afterMember?_closing m first _
      · left
        rw [hskip, hskip']
        rfl
  · right
    refine ⟨by rw [hnone]; rfl, fun s u hu => ?_⟩
    -- the parenthesis itself has become the member
    rw [h, Option.bind_some, Mode.skip_cons (by decide) (by decide)] at hu
    cases hu
    exact List.suffix_cons _ _

/-! ### Classes -/

/-- The mark of a negated class is in the text, and blanks behind it may be skipped to the end. -/
theorem sign_closing (m : Mode) (t : Text) :
    sign m (t ++ closing) = withClosing (sign m t) ∨
      (sign m t).2 = [] ∧ (sign m (t ++ closing)).2 = [] := by
  unfold sign
  rcases m.skip_closing t with hskip | ⟨hskip, hskip'⟩
  · rw [hskip]
    generalize m.skip t = s
    split
    · next h =>
      obtain ⟨rest, rfl, rfl⟩ := eq_cons_of_append_closing h (by decide)
      exact (m.skip_closing rest).imp_left fun hrest => by rw [hrest]; rfl
    · next h =>
      left
      split
      · exact (h _ rfl).elim
      · rfl
  · right
    simp only [hskip, hskip', and_self]

/-- The members at the start of a class are in the text. -/
theorem afterSign_closing (m : Mode) (negated : Bool) (t : Text) :
    afterSign m negated (t ++ closing) = withClosing (afterSign m negated t) ∨
      (afterSign m negated t).2 = [] ∧ (afterSign m negated (t ++ closing)).2 = [] := by
  unfold afterSign
  rw [Text.takeWhile_closing (by decide), Text.dropWhile_closing (by decide)]
  dsimp only
  generalize (t.takeWhile (· = '-')).map (fun _ => CharClass.char '-') = members
  rcases m.skip_closing (t.dropWhile (· = '-')) with hskip | ⟨hskip, hskip'⟩
  · left
    rw [hskip]
    generalize m.skip (t.dropWhile (· = '-')) = s
    split
    · next h =>
      obtain ⟨rest, rfl, rfl⟩ := eq_cons_of_append_closing h (by decide)
      rfl
    · next h =>
      split
      · exact (h _ rfl rfl).elim
      · rfl
  · right
    rw [hskip, hskip']
    cases members <;> exact ⟨rfl, rfl⟩

/-- The opening of a class is read alike, or a comment in it leaves nothing. -/
theorem opening_closing (m : Mode) (t : Text) :
    opening m (t ++ closing) = withClosing (opening m t) ∨
      (opening m t).2 = [] ∧ (opening m (t ++ closing)).2 = [] := by
  rw [opening_eq, opening_eq]
  rcases sign_closing m t with h | ⟨h, h'⟩
  · rw [h]
    exact afterSign_closing m _ _
  · rw [h, h']
    exact .inr ⟨List.suffix_nil.mp (afterSign_isSuffix m _ []),
      List.suffix_nil.mp (afterSign_isSuffix m _ [])⟩

/-- A colon behind the bracket is in the text, and so is the name it begins. -/
theorem byName?_closing (t : Text) : byName? (t ++ closing) = (byName? t).map withClosing := by
  unfold byName?
  split
  · next h =>
    obtain ⟨more, rfl, rfl⟩ := eq_cons_of_append_closing h (by decide)
    exact named?_closing more
  · next h =>
    split
    · exact (h _ rfl).elim
    · rfl

/-- A text that has a member ahead has it with the closing text behind as well. -/
theorem MemberAhead.closing (h : MemberAhead t) : MemberAhead (t ++ closing) where
  not_open := head?_closing (by decide) h.not_open
  not_close := head?_closing (by decide) h.not_close
  not_op := by
    intro c hc rest hs
    -- a mark of an operation is no parenthesis, so both of its characters are in the text
    have hparen : c ≠ ')' := by
      rintro rfl
      revert hc
      decide
    obtain ⟨t', ht, hs'⟩ := eq_cons_of_append_closing hs hparen
    obtain ⟨t'', rfl, -⟩ := eq_cons_of_append_closing hs'.symm hparen
    exact h.not_op c hc t'' ht

section Class

variable {o : OpenClass} {outer : List OpenClass}

/-- A class that is not closed is none. -/
theorem class?_eq_none {steps : Nat} (h : ']' ∉ m.skip t) : class? m steps o outer t = none := by
  -- every step leaves the end of the text, where there is no bracket either
  induction steps generalizing o outer t with
  | zero => rfl
  | succ steps ih =>
    have hrest : ∀ {c : Char} {rest u : Text}, m.skip t = c :: rest → u <:+ rest →
        ']' ∉ m.skip u := by
      intro c rest u hs hu hmem
      rw [hs] at h
      exact h (List.mem_cons_of_mem c (((m.skip_isSuffix u).trans hu).subset hmem))
    rcases class?_cases (m.skip t) with ⟨rest, hs⟩ | ⟨rest, hs⟩ | ⟨c, hc, rest, hs⟩ | hs
    · rw [class?_bracket hs]
      split
      · next hname => exact ih (hrest hs (byName?_isSuffix hname))
      · exact ih (hrest hs (opening_isSuffix m rest))
    · rw [hs] at h
      exact absurd List.mem_cons_self h
    · obtain ⟨o', ho'⟩ := class?_op m o outer hc
      rw [ho' hs]
      exact ih (hrest hs (List.suffix_cons _ _))
    · rw [class?_member hs]
      cases hmember : memberOrRange? m (m.skip t) with
      | none => rfl
      | some p =>
        obtain ⟨c, rest, ht⟩ := List.exists_cons_of_ne_nil (ne_nil_of_memberOrRange? hmember)
        have hafter := memberOrRange?_isSuffix hmember
        rw [ht] at hafter
        exact ih (hrest ht hafter)

/-- **Classes.** A class that is closed in the text is the same with the closing text behind it, and
the closing text closes none. -/
theorem class?_closing {n k : Nat} (hn : t.length < n) (hk : t.length < k) :
    class? m k o outer (t ++ closing) = (class? m n o outer t).map withClosing := by
  -- both numbers are above the count of characters, and each step leaves fewer; so neither of them
  -- is the reason to stop
  induction n generalizing k o outer t with
  | zero => cases hn
  | succ n ih =>
    obtain ⟨k, rfl⟩ : ∃ l, k = l + 1 := ⟨k - 1, by omega⟩
    rcases (m.skip_closing t).symm with ⟨hskip, hskip'⟩ | hskip
    · rw [class?, class?, hskip, hskip']
      rfl
    rcases class?_cases (m.skip t) with ⟨rest, hs⟩ | ⟨rest, hs⟩ | ⟨c, hc, rest, hs⟩ | hs
    · -- a class in the class
      have hlength := m.length_lt_of_skip hs
      rw [hs, List.cons_append] at hskip
      rw [class?_bracket hs, class?_bracket hskip, byName?_closing]
      cases hname : byName? rest with
      | some p =>
        have hafter := (byName?_isSuffix hname).length_le
        exact ih (by omega) (by omega)
      | none =>
        have hafter := (opening_isSuffix m rest).length_le
        rcases opening_closing m rest with h | ⟨h, h'⟩
        · simp only [Option.map_none, h]
          exact ih (by omega) (by omega)
        · simp only [Option.map_none, h, h']
          rw [class?_eq_none (by simp [m.skip_nil]), class?_eq_none (by simp [m.skip_nil])]
          rfl
    · -- the end of a class
      have hlength := m.length_lt_of_skip hs
      rw [hs, List.cons_append] at hskip
      rw [class?_close hs, class?_close hskip]
      cases o.close? m with
      | none => rfl
      | some s =>
        cases outer with
        | nil => rfl
        | cons enclosing more => exact ih (by omega) (by omega)
    · -- an operation
      have hlength := m.length_lt_of_skip hs
      rw [List.length_cons] at hlength
      rw [hs, List.cons_append, List.cons_append] at hskip
      obtain ⟨o', ho'⟩ := class?_op m o outer hc
      rw [ho' hs, ho' hskip]
      exact ih (by omega) (by omega)
    · -- a member or a range
      have hs' := hs.closing
      rw [← hskip] at hs'
      rw [class?_member hs, class?_member hs', hskip]
      rcases memberOrRange?_closing m (m.skip t) with h | ⟨hnone, h⟩
      · rw [h]
        cases hmember : memberOrRange? m (m.skip t) with
        | none => rfl
        | some p =>
          obtain ⟨c, rest, ht⟩ := List.exists_cons_of_ne_nil (ne_nil_of_memberOrRange? hmember)
          have hlength := m.length_lt_of_skip ht
          have hafter := (memberOrRange?_isSuffix hmember).length_le
          rw [ht, List.tail_cons] at hafter
          exact ih (by omega) (by omega)
      · -- the last member reaches beyond the text, and no bracket is left behind it
        rw [hnone]
        cases hmember : memberOrRange? m (m.skip t ++ closing) with
        | none => rfl
        | some p =>
          refine class?_eq_none fun hmem => ?_
          have hclosing := ((m.skip_isSuffix _).trans (h _ _ hmember)).subset hmem
          revert hclosing
          decide

/-- **A class** is read alike, from its opening to its end. -/
theorem readClass?_closing (m : Mode) (t : Text) :
    readClass? m (t ++ closing) = (readClass? m t).map withClosing := by
  unfold readClass?
  have hlength := (opening_isSuffix m t).length_le
  dsimp only
  rcases opening_closing m t with h | ⟨h, h'⟩
  · rw [h]
    refine class?_closing ?_ ?_
    · omega
    · rw [List.length_append]
      omega
  · rw [h, h', class?_eq_none (by simp [m.skip_nil]), class?_eq_none (by simp [m.skip_nil])]
    rfl

end Class

end PatternText

end VendorCli
