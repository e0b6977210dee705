import VendorCli.Proofs.Text.Lines
/-!
# Words of a text

What cutting a text into words has to do with putting texts together. As with lines, everything
follows from one equation: a text that ends with a blank is cut apart from what follows
(`words_append_cons`), so a proof about words goes from one word to the next (`word_induction`).

* words that are joined and cut again are the same words (`words_unwords`), and where there is a
  space in joined words, it stands between two of them (`eq_of_unwords_eq`);
* a character is a word by itself exactly if it stands between blanks or at an end of the text
  (`singleton_mem_words_iff`). So no character becomes a word by itself when texts are put together
  (`singleton_mem_words_append`), or when another one is replaced by a word
  (`singleton_mem_words_replaceChar`).
-/

namespace VendorCli.Text

/-! ### One word at a time -/

/-- A blank in front belongs to no word. -/
theorem words_cons_of_blank {b : Char} (hb : isBlank b = true) (t : Text) :
    words (b :: t) = words t := by
  rw [words.eq_def]
  exact if_pos hb

/-- A word up to a blank is the first one, and the rest is cut on its own. -/
theorem words_append_blank {w : Text} (hne : w ≠ []) (hw : ∀ c ∈ w, isBlank c = false) {b : Char}
    (hb : isBlank b = true) (t : Text) : words (w ++ b :: t) = w :: words t := by
  induction w with
  | nil => exact absurd rfl hne
  | cons c w ih =>
    rw [List.forall_mem_cons] at hw
    -- a word of one character ends at the blank, a longer one goes on
    cases w with
    | nil =>
      rw [List.cons_append, List.nil_append, words.eq_3, if_neg (by simp [hw.1]), if_pos hb,
        words_cons_of_blank hb]
    | cons d w =>
      have hrest := ih (List.cons_ne_nil d w) hw.2
      rw [List.cons_append] at hrest
      rw [List.cons_append, List.cons_append, words.eq_3, if_neg (by simp [hw.1]),
        if_neg (by simp [hw.2 d]), hrest]

/-- Text without a blank is one word. -/
theorem words_of_not_isBlank {w : Text} (hne : w ≠ []) (hw : ∀ c ∈ w, isBlank c = false) :
    words w = [w] := by
  induction w with
  | nil => exact absurd rfl hne
  | cons c w ih =>
    rw [List.forall_mem_cons] at hw
    cases w with
    | nil => rw [words.eq_2, if_neg (by simp [hw.1])]
    | cons d w =>
      rw [words.eq_3, if_neg (by simp [hw.1]), if_neg (by simp [hw.2 d]),
        ih (List.cons_ne_nil d w) hw.2]

/-- **Induction on words.** What holds of the empty text and of words, and passes from a text to
that text behind a blank and behind a word with a blank, holds of all texts. -/
theorem word_induction {motive : Text → Prop} (nil : motive [])
    (last : ∀ w, w ≠ [] → (∀ c ∈ w, isBlank c = false) → motive w)
    (blank : ∀ b t, isBlank b = true → motive t → motive (b :: t))
    (word : ∀ w b t, w ≠ [] → (∀ c ∈ w, isBlank c = false) → isBlank b = true → motive t →
      motive (w ++ b :: t)) (t : Text) : motive t := by
  -- on the length, since the text after a word is no tail that structural recursion would reach
  induction hn : t.length using Nat.strongRecOn generalizing t with
  | _ n ih =>
    have hlead : ∀ c ∈ t.takeWhile (!isBlank ·), isBlank c = false := fun c hc => by
      simpa using List.mem_takeWhile_imp hc
    have hsplit : t.takeWhile (!isBlank ·) ++ t.dropWhile (!isBlank ·) = t :=
      List.takeWhile_append_dropWhile
    cases hrest : t.dropWhile (!isBlank ·) with
    | nil =>
      rw [hrest, List.append_nil] at hsplit
      by_cases hne : t = []
      · exact hne ▸ nil
      · exact last t hne (hsplit ▸ hlead)
    | cons b u =>
      have hb : isBlank b = true := by
        simpa [hrest] using List.head?_dropWhile_not (!isBlank ·) t
      rw [hrest] at hsplit
      have hlength : u.length < n := by
        rw [← hn, ← hsplit, List.length_append, List.length_cons]
        omega
      rw [← hsplit]
      by_cases hne : t.takeWhile (!isBlank ·) = []
      · rw [hne]
        exact blank b u hb (ih u.length hlength u rfl)
      · exact word _ b u hne hlead hb (ih u.length hlength u rfl)

/-- What is ended by a blank is cut apart from what follows. -/
theorem words_append_cons {b : Char} (hb : isBlank b = true) (s t : Text) :
    words (s ++ b :: t) = words s ++ words t := by
  induction s using word_induction with
  | nil => exact words_cons_of_blank hb t
  | last w hne hw => rw [words_append_blank hne hw hb, words_of_not_isBlank hne hw]; rfl
  | blank d s hd ih => rw [List.cons_append, words_cons_of_blank hd, words_cons_of_blank hd, ih]
  | word w d s hne hw hd ih =>
    rw [List.append_assoc, List.cons_append, words_append_blank hne hw hd,
      words_append_blank hne hw hd, ih]
    rfl

/-- A text without words has nothing but blanks. -/
theorem words_eq_nil_iff {t : Text} : words t = [] ↔ ∀ c ∈ t, isBlank c = true := by
  induction t using word_induction with
  | nil => simp
  | last w hne hw =>
    rw [words_of_not_isBlank hne hw]
    obtain ⟨c, w, rfl⟩ := List.exists_cons_of_ne_nil hne
    simp [hw c List.mem_cons_self]
  | blank b t hb ih => rw [words_cons_of_blank hb, ih, List.forall_mem_cons, and_iff_right hb]
  | word w b t hne hw hb _ =>
    rw [words_append_blank hne hw hb]
    obtain ⟨c, w, rfl⟩ := List.exists_cons_of_ne_nil hne
    simp [hw c List.mem_cons_self]

/-- Blanks at the end belong to no word. -/
theorem words_trimEnd (t : Text) : words (trimEnd t) = words t := by
  induction t using List.reverseRecOn with
  | nil => rfl
  | append_singleton t c ih =>
    rw [trimEnd_concat]
    split
    · next hc => rw [ih, words_append_cons hc, words_nil, List.append_nil]
    · rfl

/-- The blanks around a text belong to no word. -/
@[simp] theorem words_trim (t : Text) : words (trim t) = words t := by
  rw [trim, words_trimEnd]
  -- blanks at the start are passed over one by one
  induction t with
  | nil => rfl
  | cons c t ih =>
    by_cases hc : isBlank c = true
    · rw [words_cons_of_blank hc, ← ih, trimStart, trimStart, List.dropWhile_cons_of_pos hc]
    · rw [trimStart_cons (by simpa using hc)]

/-! ### Joined words -/

/-- Whether a text is one word: characters that are no blanks, at least one. -/
def Unbroken (w : Text) : Prop :=
  w ≠ [] ∧ ∀ c ∈ w, isBlank c = false

instance (w : Text) : Decidable (Unbroken w) :=
  decidable_of_iff (w ≠ [] ∧ w.all (!isBlank ·) = true) (by simp [Unbroken])

/-- What is cut out as a word is one. -/
theorem unbroken_of_mem_words {w t : Text} (h : w ∈ words t) : Unbroken w := by
  induction t using word_induction with
  | nil => simp at h
  | last v hne hv =>
    rw [words_of_not_isBlank hne hv, List.mem_singleton] at h
    exact h ▸ ⟨hne, hv⟩
  | blank b t hb ih =>
    rw [words_cons_of_blank hb] at h
    exact ih h
  | word v b t hne hv hb ih =>
    rw [words_append_blank hne hv hb, List.mem_cons] at h
    rcases h with rfl | h
    · exact ⟨hne, hv⟩
    · exact ih h

/-- Behind a word that is joined to others there is a space. -/
theorem unwords_cons_cons (w v : Text) (ws : List Text) :
    unwords (w :: v :: ws) = w ++ ' ' :: unwords (v :: ws) := by
  simp [unwords, join_cons_cons]

/-- Words that are joined are joined in two parts, with a space between. -/
theorem unwords_append {ws vs : List Text} (hws : ws ≠ []) (hvs : vs ≠ []) :
    unwords (ws ++ vs) = unwords ws ++ ' ' :: unwords vs := by
  rw [unwords, join_append hws hvs, List.append_assoc]
  rfl

section Joined

variable {ws : List Text} {s t : Text}

/-- **Round trip.** Words that are joined and cut again are the same words. -/
theorem words_unwords (h : ∀ w ∈ ws, Unbroken w) : words (unwords ws) = ws := by
  induction ws with
  | nil => exact words_nil
  | cons w ws ih =>
    rw [List.forall_mem_cons] at h
    obtain ⟨⟨hne, hw⟩, hws⟩ := h
    -- the last word is the whole text that is left, any other ends at its space
    cases ws with
    | nil => exact words_of_not_isBlank hne hw
    | cons v ws => rw [unwords_cons_cons, words_append_blank hne hw isBlank_space, ih hws]

/-- Joined words begin and end with characters that are no blanks. -/
theorem trim_unwords (h : ∀ w ∈ ws, Unbroken w) : trim (unwords ws) = unwords ws := by
  refine trim_eq_self (fun c hc => ?_) (fun c hc => ?_)
  · cases ws with
    | nil => cases hc
    | cons w ws =>
      obtain ⟨hne, hw⟩ := h w List.mem_cons_self
      refine hw c (List.mem_of_mem_head? ?_)
      -- the first character is that of the first word
      cases ws with
      | nil => exact hc
      | cons v ws =>
        rwa [unwords_cons_cons, List.head?_append_of_ne_nil _ hne] at hc
  · rcases List.eq_nil_or_concat' ws with rfl | ⟨ws, w, rfl⟩
    · cases hc
    · obtain ⟨hne, hw⟩ := h w (by simp)
      refine hw c (List.mem_of_mem_getLast? ?_)
      -- and the last one that of the last word
      cases ws with
      | nil => exact hc
      | cons v ws =>
        rw [unwords_append (List.cons_ne_nil v ws) (List.cons_ne_nil w []),
          List.getLast?_append_of_ne_nil _ (List.cons_ne_nil _ _)] at hc
        obtain ⟨d, u, rfl⟩ := List.exists_cons_of_ne_nil hne
        rwa [unwords, join_singleton, List.getLast?_cons_cons] at hc

/-- **Spaces in joined words** stand between two of them. -/
theorem eq_of_unwords_eq (h : ∀ w ∈ ws, Unbroken w) (hsplit : unwords ws = s ++ ' ' :: t) :
    ws = words s ++ words t ∧ words s ≠ [] ∧ words t ≠ [] := by
  have htrim : trim (s ++ ' ' :: t) = s ++ ' ' :: t := hsplit ▸ trim_unwords h
  refine ⟨?_, fun hs => ?_, fun ht => ?_⟩
  · rw [← words_append_cons isBlank_space, ← hsplit, words_unwords h]
  · -- otherwise the joined words would begin with a blank
    have hhead : (trim (s ++ ' ' :: t)).head? = some (s.head?.getD ' ') := by
      rw [htrim, List.head?_append]
      cases s.head? <;> rfl
    have hblank : isBlank (s.head?.getD ' ') = true := by
      cases hb : s.head? with
      | none => rfl
      | some b => exact words_eq_nil_iff.mp hs b (List.mem_of_mem_head? hb)
    rw [not_isBlank_of_head?_trim hhead] at hblank
    cases hblank
  · -- otherwise they would end with one
    have hlast : (trim (s ++ ' ' :: t)).getLast? = some (t.getLast?.getD ' ') := by
      rw [htrim, List.getLast?_append_of_ne_nil _ (List.cons_ne_nil _ _), List.getLast?_cons]
    have hblank : isBlank (t.getLast?.getD ' ') = true := by
      cases hb : t.getLast? with
      | none => rfl
      | some b => exact words_eq_nil_iff.mp ht b (List.mem_of_mem_getLast? hb)
    rw [not_isBlank_of_getLast?_trim hlast] at hblank
    cases hblank

end Joined

/-! ### Characters that are words -/

section Singleton

variable {c : Char} {s t : Text}

/-- Whether a text ends with a blank, if it has anything at all. -/
def EndsBlank (t : Text) : Prop :=
  ∀ b ∈ t.getLast?, isBlank b = true

/-- Whether a text begins with a blank, if it has anything at all. -/
def BeginsBlank (t : Text) : Prop :=
  ∀ b ∈ t.head?, isBlank b = true

/-- A text that ends with a blank does so with more text in front. -/
theorem EndsBlank.append_cons {b : Char} (h : EndsBlank t) (hb : isBlank b = true) (s : Text) :
    EndsBlank (s ++ b :: t) := by
  intro d hd
  rw [List.getLast?_append_of_ne_nil _ (List.cons_ne_nil b t), List.getLast?_cons,
    Option.mem_some_iff] at hd
  subst hd
  cases hlast : t.getLast? with
  | none => exact hb
  | some d => exact h d hlast

/-- The end of a text is the end of its last part. -/
theorem EndsBlank.of_append (h : EndsBlank (s ++ t)) : EndsBlank t := by
  intro b hb
  refine h b ?_
  rw [Option.mem_def, List.getLast?_append, Option.mem_def.mp hb, Option.some_or]

/-- The start of a text is the start of its first part. -/
theorem BeginsBlank.of_append (h : BeginsBlank (s ++ t)) : BeginsBlank s := by
  intro b hb
  refine h b ?_
  rw [Option.mem_def, List.head?_append, Option.mem_def.mp hb, Option.some_or]

/-- **A character is a word** by itself if there are blanks around it, or an end of the text. -/
theorem singleton_mem_words_iff (hc : isBlank c = false) :
    [c] ∈ words t ↔ ∃ s u, t = s ++ c :: u ∧ EndsBlank s ∧ BeginsBlank u := by
  constructor
  · intro h
    -- from a word to its place, by induction on the words before it
    induction t using word_induction with
    | nil => simp at h
    | last w hne hw =>
      rw [words_of_not_isBlank hne hw, List.mem_singleton] at h
      subst h
      exact ⟨[], [], rfl, by simp [EndsBlank], by simp [BeginsBlank]⟩
    | blank b t hb ih =>
      rw [words_cons_of_blank hb] at h
      obtain ⟨s, u, rfl, hs, hu⟩ := ih h
      exact ⟨b :: s, u, rfl, hs.append_cons hb [], hu⟩
    | word w b t hne hw hb ih =>
      rw [words_append_blank hne hw hb, List.mem_cons] at h
      rcases h with rfl | h
      · exact ⟨[], b :: t, rfl, by simp [EndsBlank], by simp [BeginsBlank, hb]⟩
      · obtain ⟨s, u, rfl, hs, hu⟩ := ih h
        exact ⟨w ++ b :: s, u, by simp, hs.append_cons hb w, hu⟩
  · rintro ⟨s, u, rfl, hs, hu⟩
    -- from the place to a word: what stands before it is cut off, and the blank behind it ends it
    have hrest : [c] ∈ words (c :: u) := by
      cases u with
      | nil => simp [words_of_not_isBlank (List.cons_ne_nil c []) (by simpa using hc)]
      | cons b u =>
        have hsplit : words ([c] ++ b :: u) = [c] :: words u :=
          words_append_blank (List.cons_ne_nil c []) (by simpa using hc) (hu b rfl) u
        rw [List.singleton_append] at hsplit
        rw [hsplit]
        exact List.mem_cons_self
    rcases List.eq_nil_or_concat' s with rfl | ⟨s, b, rfl⟩
    · exact hrest
    · rw [List.append_assoc, List.singleton_append, words_append_cons (hs b (by simp))]
      exact List.mem_append_right _ hrest

/-- No character becomes a word by itself when texts are put together. -/
theorem singleton_mem_words_append (hc : isBlank c = false) (h : [c] ∈ words (s ++ t)) :
    [c] ∈ words s ∨ [c] ∈ words t := by
  obtain ⟨v, u, hsplit, hv, hu⟩ := (singleton_mem_words_iff hc).mp h
  simp only [singleton_mem_words_iff hc]
  -- the character stands in `t` or in `s`, with the rest of its neighbours
  rcases List.append_eq_append_iff.mp hsplit with ⟨v, rfl, rfl⟩ | ⟨rest, rfl, hrest⟩
  · exact .inr ⟨v, u, rfl, hv.of_append, hu⟩
  · cases rest with
    | nil => exact .inr ⟨[], u, hrest.symm, by simp [EndsBlank], hu⟩
    | cons d rest =>
      obtain ⟨rfl, rfl⟩ := List.cons.inj hrest
      exact .inl ⟨v, rest, rfl, hv, hu.of_append⟩

/-- A character that is left after another one was replaced was there before. -/
theorem exists_of_replaceChar_eq {d : Char} {by_ u : Text} (hne : c ∉ by_)
    (h : replaceChar d by_ t = s ++ c :: u) :
    ∃ v w, t = v ++ c :: w ∧ replaceChar d by_ v = s ∧ replaceChar d by_ w = u := by
  induction t generalizing s with
  | nil => simp [replaceChar] at h
  | cons x t ih =>
    rw [replaceChar_cons] at h
    -- the character stands behind what `x` is written as, and is found in the rest
    have hrest : ∀ s', replaceChar d by_ t = s' ++ c :: u →
        (if x = d then by_ else [x]) ++ s' = s →
        ∃ v w, x :: t = v ++ c :: w ∧ replaceChar d by_ v = s ∧ replaceChar d by_ w = u := by
      rintro s' hs' rfl
      obtain ⟨v, w, rfl, rfl, rfl⟩ := ih hs'
      exact ⟨x :: v, w, rfl, replaceChar_cons d x by_ v, rfl⟩
    rcases List.append_eq_append_iff.mp h with ⟨s', rfl, hs'⟩ | ⟨rest, hfirst, hs'⟩
    · exact hrest s' hs' rfl
    · cases rest with
      | nil =>
        rw [List.append_nil] at hfirst
        exact hrest [] hs'.symm (by rw [List.append_nil, hfirst])
      | cons e rest =>
        obtain ⟨rfl, rfl⟩ := List.cons.inj hs'
        by_cases hx : x = d
        · rw [if_pos hx] at hfirst
          exact absurd (hfirst ▸ by simp) hne
        -- `x` is written as it is, so the character is `x` itself
        · rw [if_neg hx, eq_comm, List.append_eq_singleton_iff] at hfirst
          rcases hfirst with ⟨rfl, hfirst⟩ | ⟨-, hfirst⟩
          · cases hfirst
            exact ⟨[], t, rfl, rfl, rfl⟩
          · cases hfirst

/-- What is written for a character that is no blank has blanks at neither end. -/
theorem isBlank_of_replaced {d x : Char} {by_ : Text} (hby : Unbroken by_)
    (h : EndsBlank (if x = d then by_ else [x]) ∨ BeginsBlank (if x = d then by_ else [x])) :
    isBlank x = true := by
  by_cases hx : x = d
  · rw [if_pos hx] at h
    have hnone : ∀ b ∈ by_, ¬ isBlank b = true := fun b hb => by simp [hby.2 b hb]
    rcases h with h | h
    · have hlast := List.getLast?_eq_some_getLast hby.1
      exact absurd (h _ hlast) (hnone _ (List.mem_of_mem_getLast? hlast))
    · have hhead := List.head?_eq_some_head hby.1
      exact absurd (h _ hhead) (hnone _ (List.mem_of_mem_head? hhead))
  · rw [if_neg hx] at h
    exact h.elim (· x rfl) (· x rfl)

/-- No character becomes a word by itself when another one is replaced by a word. -/
theorem singleton_mem_words_replaceChar {d : Char} {by_ : Text} (hc : isBlank c = false)
    (hby : Unbroken by_) (hne : c ∉ by_) (h : [c] ∈ words (replaceChar d by_ t)) :
    [c] ∈ words t := by
  obtain ⟨s, u, hsplit, hs, hu⟩ := (singleton_mem_words_iff hc).mp h
  obtain ⟨v, w, rfl, rfl, rfl⟩ := exists_of_replaceChar_eq hne hsplit
  refine (singleton_mem_words_iff hc).mpr ⟨v, w, rfl, ?_, ?_⟩
  -- a blank next to the character is there before replacing as well
  · intro b hb
    obtain ⟨v, rfl⟩ := List.getLast?_eq_some_iff.mp hb
    rw [replaceChar, List.flatMap_append, List.flatMap_singleton] at hs
    exact isBlank_of_replaced hby (.inl hs.of_append)
  · intro b hb
    obtain ⟨w, rfl⟩ := List.head?_eq_some_iff.mp hb
    rw [replaceChar, List.flatMap_cons] at hu
    exact isBlank_of_replaced hby (.inr hu.of_append)

end Singleton

end VendorCli.Text
