import VendorCli.Text.Blank
/-!
# Texts and lines

Device text is a list of characters, so that every rule on it is recursion on the list. This
module holds the vocabulary that the rest of the library speaks: trimming, lines, words, and the
search for a piece of text inside another.

A string literal stands for the text of its characters.

* `lines` ends a line at a line feed, together with one carriage return right before it; text
  after the last line feed is a line of its own, and no line follows a final line feed.
* `trim` takes blanks (`isBlank`) off both ends.
* `words` are the longest runs without a blank; `unwords` puts one space between them.
-/

namespace VendorCli

/-- A piece of text: a list of characters. -/
abbrev Text := List Char

/-- A string literal is the text of its characters. -/
instance : Coe String Text := ⟨String.toList⟩

namespace Text

/-! ### Trimming -/

/-- The text without its leading blanks. -/
def trimStart (t : Text) : Text :=
  t.dropWhile isBlank

/-- The text without its trailing blanks. -/
def trimEnd (t : Text) : Text :=
  (t.reverse.dropWhile isBlank).reverse

/-- The text without blanks at either end. -/
def trim (t : Text) : Text :=
  trimEnd (trimStart t)

/-! ### Lines -/

/-- The lines of a text. A line feed ends a line, and takes one carriage return before it along;
a carriage return anywhere else is an ordinary character. -/
def lines : Text → List Text
  | [] => []
  | '\r' :: '\n' :: rest => [] :: lines rest
  | c :: rest =>
    if c = '\n' then [] :: lines rest
    else match lines rest with
      | [] => [[c]]
      | first :: others => (c :: first) :: others

@[simp] theorem lines_nil : lines [] = [] := by simp [lines]

/-- Texts put one after the other with `glue` between neighbours. -/
def join (glue : Text) : List Text → Text
  | [] => []
  | [t] => t
  | t :: others => t ++ glue ++ join glue others

@[simp] theorem join_nil (glue : Text) : join glue [] = [] := rfl

@[simp] theorem join_singleton (glue t : Text) : join glue [t] = t := rfl

theorem join_cons_cons (glue t u : Text) (rest : List Text) :
    join glue (t :: u :: rest) = t ++ glue ++ join glue (u :: rest) := rfl

/-- Lines put together with a line feed between neighbours and none at the end. -/
def unlines (ls : List Text) : Text :=
  join ['\n'] ls

/-! ### Words -/

/-- The longest runs of characters that are not blank, in order. -/
def words : Text → List Text
  | [] => []
  | c :: rest =>
    if isBlank c then words rest
    else match rest with
      | [] => [[c]]
      | d :: _ =>
        if isBlank d then [c] :: words rest
        else match words rest with
          | [] => [[c]]
          | first :: others => (c :: first) :: others

@[simp] theorem words_nil : words [] = [] := by simp [words]

/-- Words with one space between neighbours. -/
def unwords (ws : List Text) : Text :=
  join [' '] ws

/-! ### Looking for a piece of text -/

/-- What follows `lead`, if the text starts with it. -/
def dropLead? (lead t : Text) : Option Text :=
  lead.isPrefixOf? t

/-- Whether the text starts with `lead`. -/
def startsWith (lead t : Text) : Bool :=
  lead.isPrefixOf t

/-- What precedes `tail`, if the text ends with it. -/
def dropTail? (tail t : Text) : Option Text :=
  tail.isSuffixOf? t

/-- Whether the text ends with `tail`. -/
def endsWith (tail t : Text) : Bool :=
  tail.isSuffixOf t

/-- Whether `piece` occurs somewhere in the text. -/
def occursIn (piece : Text) : Text → Bool
  | [] => piece.isEmpty
  | c :: rest => startsWith piece (c :: rest) || occursIn piece rest

/-- The parts before and after the first `c`, if there is one. -/
def splitOnce? (c : Char) : Text → Option (Text × Text)
  | [] => none
  | d :: rest =>
    if d = c then some ([], rest)
    else (splitOnce? c rest).map fun parts => (d :: parts.1, parts.2)

/-- A text is parted at a character by the first place where it occurs. -/
theorem splitOnce?_append {c : Char} {s : Text} (h : c ∉ s) (t : Text) :
    splitOnce? c (s ++ c :: t) = some (s, t) := by
  induction s with
  | nil => rw [List.nil_append, splitOnce?, if_pos rfl]
  | cons d s ih =>
    rw [List.mem_cons, not_or] at h
    rw [List.cons_append, splitOnce?, if_neg (Ne.symm h.1), ih h.2, Option.map_some]

/-- A text is cut at the first occurrence of the character. -/
theorem splitOnce?_eq_some {c : Char} {t before after : Text}
    (h : splitOnce? c t = some (before, after)) : t = before ++ c :: after ∧ c ∉ before := by
  induction t generalizing before after with
  | nil => simp [splitOnce?] at h
  | cons d rest ih =>
    by_cases hd : d = c
    · simp [splitOnce?, hd] at h
      obtain ⟨rfl, rfl⟩ := h
      simp [hd]
    · simp only [splitOnce?, hd, if_false, Option.map_eq_some_iff, Prod.mk.injEq] at h
      obtain ⟨⟨b, a⟩, hsplit, rfl, rfl⟩ := h
      obtain ⟨rfl, hnot⟩ := ih hsplit
      exact ⟨rfl, by simp [hnot, Ne.symm hd]⟩

/-- What stands behind the cut is shorter than the text. -/
theorem splitOnce?_length {c : Char} {t before after : Text}
    (h : splitOnce? c t = some (before, after)) : after.length < t.length := by
  obtain ⟨rfl, _⟩ := splitOnce?_eq_some h
  simp only [List.length_append, List.length_cons]
  omega

/-- The parts between the occurrences of `c`; one part more than there are occurrences. -/
def splitOn (c : Char) : Text → List Text
  | [] => [[]]
  | d :: rest =>
    if d = c then [] :: splitOn c rest
    else match splitOn c rest with
      | [] => [[d]]
      | first :: others => (d :: first) :: others

/-- Every occurrence of the character `c` written as `by`. -/
def replaceChar (c : Char) (by_ : Text) (t : Text) : Text :=
  t.flatMap fun d => if d = c then by_ else [d]

theorem replaceChar_cons (c d : Char) (by_ t : Text) :
    replaceChar c by_ (d :: t) = (if d = c then by_ else [d]) ++ replaceChar c by_ t :=
  List.flatMap_cons

/-- Every occurrence of `piece`, read from the left without overlap, written as `by`. An empty
piece occurs before every character and at the end. -/
def replace (piece by_ : Text) (t : Text) : Text :=
  match piece with
  | [] => by_ ++ t.flatMap fun c => c :: by_
  | _ :: more => go more.length 0 t
where
  /-- `skip` characters belong to the occurrence that has just been replaced. -/
  go (width : Nat) : Nat → Text → Text
    | _, [] => []
    | skip + 1, _ :: rest => go width skip rest
    | 0, c :: rest =>
      if startsWith piece (c :: rest) then by_ ++ go width width rest
      else c :: go width 0 rest

/-! ### ASCII case -/

/-- The text with the letters of ASCII in lower case. -/
def asciiLower (t : Text) : Text :=
  t.map Char.toLower

/-! ### Padding -/

/-- A text of `n` spaces. -/
def spaces (n : Nat) : Text :=
  List.replicate n ' '

/-- The text followed by as many spaces as it takes to be `width` characters long. -/
def padEnd (width : Nat) (t : Text) : Text :=
  t ++ spaces (width - t.length)

/-! ### Length in bytes -/

/-- The number of bytes of the text in UTF-8. -/
def byteLength : Text → Nat
  | [] => 0
  | c :: rest => c.utf8Size + byteLength rest

/-- The text between single quotes, as messages show it. -/
def inQuotes (t : Text) : Text :=
  '\'' :: t ++ ['\'']

end Text

/-! ### First occurrences -/

/-- The elements of a list without the later copies of each. -/
def distinct {α : Type} [DecidableEq α] : List α → List α
  | [] => []
  | a :: rest => a :: (distinct rest).filter (· ≠ a)

/-- Leaving out repetitions loses no element. -/
theorem mem_distinct {α : Type} [DecidableEq α] {a : α} {l : List α} : a ∈ distinct l ↔ a ∈ l := by
  induction l with
  | nil => rfl
  | cons b l ih =>
    rw [distinct, List.mem_cons, List.mem_filter, List.mem_cons, ih]
    by_cases h : a = b <;> simp [h]

/-- Nothing is repeated where repetitions are left out. -/
theorem nodup_distinct {α : Type} [DecidableEq α] (l : List α) : (distinct l).Nodup := by
  induction l with
  | nil => exact List.nodup_nil
  | cons a l ih =>
    rw [distinct, List.nodup_cons]
    exact ⟨by simp, List.Pairwise.filter _ ih⟩

end VendorCli
