import VendorCli.Number.Decimal
/-!
# Digits of natural numbers

What a number looks like when it is written, and that it is read back: `readNat_digitsOf`,
`int64?_digitsOf`. Digits that are read are written again for the number, if there is no zero in
front that could be left out (`digitsOf_of_readDigits_zero`).

`Denotes` says which number a text stands for, whatever the limit. Of a text without a sign the
readers return that number if it is within their limit, and fail otherwise
(`readDigits_eq_ok_iff`, `int64?_eq_some_iff`).
-/

namespace VendorCli.Decimal

/-! ### Single digits -/

private theorem digit?_digitChar_all : ∀ d < 10, digit? (digitChar d) = some d := by
  decide

theorem digit?_digitChar {d : Nat} (h : d < 10) : digit? (digitChar d) = some d :=
  digit?_digitChar_all d h

/-- A character that stands for a digit is an ASCII digit. -/
theorem isDigit_of_digit? {c : Char} {d : Nat} (h : digit? c = some d) : c.isDigit = true := by
  unfold digit? at h
  split at h
  · next hc =>
    rw [Char.isDigit, Bool.and_eq_true, decide_eq_true_eq, decide_eq_true_eq]
    exact hc
  · cases h

/-- Only ASCII digits stand for digits. -/
theorem digit?_eq_some_iff {c : Char} {d : Nat} :
    digit? c = some d ↔ c.isDigit = true ∧ d = c.toNat - '0'.toNat := by
  constructor
  · intro h
    refine ⟨isDigit_of_digit? h, ?_⟩
    unfold digit? at h
    split at h
    · exact (Option.some.inj h).symm
    · cases h
  · rintro ⟨hc, rfl⟩
    have hrange : '0' ≤ c ∧ c ≤ '9' := by
      rw [Char.isDigit, Bool.and_eq_true, decide_eq_true_eq, decide_eq_true_eq] at hc
      exact hc
    exact if_pos hrange

theorem toNat_of_isDigit {c : Char} (h : c.isDigit = true) : 48 ≤ c.toNat ∧ c.toNat ≤ 57 := by
  simp only [Char.isDigit, Bool.and_eq_true, decide_eq_true_eq, UInt32.le_iff_toNat_le] at h
  exact h

/-- A character that stands for a digit is the one that is written for it. -/
theorem digitChar_of_digit? {c : Char} {d : Nat} (h : digit? c = some d) :
    d < 10 ∧ digitChar d = c := by
  obtain ⟨hc, rfl⟩ := digit?_eq_some_iff.mp h
  obtain ⟨hlow, hhigh⟩ := toNat_of_isDigit hc
  rw [show '0'.toNat = 48 from rfl, digitChar, Nat.add_sub_cancel' hlow, Char.ofNat_toNat]
  exact ⟨by omega, rfl⟩

/-- No digit is a blank. -/
theorem not_isBlank_of_isDigit {c : Char} (h : c.isDigit = true) : Text.isBlank c = false := by
  have hrange := toNat_of_isDigit h
  simp only [Text.isBlank, Bool.or_eq_false_iff, Bool.and_eq_false_iff, decide_eq_false_iff_not,
    beq_eq_false_iff_ne]
  omega

/-! ### Written numbers -/

/-- All characters of a written number are digits. -/
theorem isDigit_of_mem_digitsOf {n : Nat} {c : Char} (h : c ∈ digitsOf n) : c.isDigit = true := by
  -- on the number: its last digit is written behind those of its tenth part
  induction n using Nat.strongRecOn with
  | _ n ih =>
    by_cases hn : n < 10
    · rw [digitsOf_of_lt hn, List.mem_singleton] at h
      exact h ▸ isDigit_of_digit? (digit?_digitChar hn)
    · rw [digitsOf_of_ge (by omega), List.mem_append, List.mem_singleton] at h
      rcases h with h | rfl
      · exact ih (n / 10) (by omega) h
      · exact isDigit_of_digit? (digit?_digitChar (Nat.mod_lt n (by omega)))

/-- Every number has a digit. -/
theorem digitsOf_ne_nil (n : Nat) : digitsOf n ≠ [] := by
  by_cases hn : n < 10
  · rw [digitsOf_of_lt hn]
    exact List.cons_ne_nil _ _
  · rw [digitsOf_of_ge (by omega)]
    exact List.append_ne_nil_of_right_ne_nil _ (List.cons_ne_nil _ _)

/-- A written number has nothing but digits. -/
theorem not_mem_digitsOf {n : Nat} {c : Char} (h : c.isDigit = false) : c ∉ digitsOf n := by
  intro hmem
  rw [isDigit_of_mem_digitsOf hmem] at h
  cases h

/-! ### Reading -/

/-- One more digit is read with what the digits before it have come to. -/
theorem readDigits_concat {limit : Nat} {excess : Fault} {t : Text} {acc a : Nat}
    (h : readDigits limit excess acc t = .ok a) (c : Char) :
    readDigits limit excess acc (t ++ [c]) = readDigits limit excess a [c] := by
  -- on the text before it, which is read alike with or without one more character
  induction t generalizing acc with
  | nil =>
    cases h
    rfl
  | cons d t ih =>
    rw [readDigits] at h
    rw [List.cons_append, readDigits]
    split at h
    · cases h
    · next k hk =>
      split at h
      · next hle =>
        rw [if_pos hle]
        exact ih h
      · cases h

/-- The digits of a number within the limit are read as the number. -/
theorem readDigits_digitsOf {limit n : Nat} {excess : Fault} (h : n ≤ limit) :
    readDigits limit excess 0 (digitsOf n) = .ok n := by
  induction n using Nat.strongRecOn with
  | _ n ih =>
    by_cases hn : n < 10
    · rw [digitsOf_of_lt hn, readDigits, digit?_digitChar hn]
      dsimp only
      rw [if_pos (by omega), readDigits]
      simp
    -- what the digits but the last come to is the tenth part, which is within the limit too
    · have hprefix := ih (n / 10) (by omega) (by omega)
      rw [digitsOf_of_ge (by omega), readDigits_concat hprefix, readDigits,
        digit?_digitChar (Nat.mod_lt n (by omega))]
      have hsum : 10 * (n / 10) + n % 10 = n := Nat.div_add_mod n 10
      dsimp only
      rw [hsum, if_pos h, readDigits]

/-- Digits that are read behind a number other than zero are written behind it. -/
theorem digitsOf_of_readDigits {limit : Nat} {excess : Fault} {t : Text} {acc n : Nat}
    (hacc : 0 < acc) (h : readDigits limit excess acc t = .ok n) :
    digitsOf n = digitsOf acc ++ t := by
  -- on the digits that are left; the number that they are read behind only grows
  induction t generalizing acc with
  | nil =>
    cases h
    exact (List.append_nil _).symm
  | cons c t ih =>
    rw [readDigits] at h
    split at h
    · cases h
    · next d hd =>
      split at h
      · obtain ⟨hlt, rfl⟩ := digitChar_of_digit? hd
        have hwritten : digitsOf (10 * acc + d) = digitsOf acc ++ [digitChar d] := by
          rw [digitsOf_of_ge (by omega), show (10 * acc + d) / 10 = acc by omega,
            show (10 * acc + d) % 10 = d by omega]
        rw [ih (by omega) h, hwritten, List.append_assoc, List.singleton_append]
      · cases h

/-- **Digits without a superfluous zero** in front are those of the number that is read. -/
theorem digitsOf_of_readDigits_zero {limit : Nat} {excess : Fault} {c : Char} {t : Text} {n : Nat}
    (hlead : t = [] ∨ c ≠ '0') (h : readDigits limit excess 0 (c :: t) = .ok n) :
    digitsOf n = c :: t := by
  rw [readDigits] at h
  split at h
  · cases h
  · next d hd =>
    split at h
    · rw [Nat.mul_zero, Nat.zero_add] at h
      obtain ⟨hlt, rfl⟩ := digitChar_of_digit? hd
      by_cases hzero : d = 0
      · -- a zero in front is the whole number
        subst hzero
        rcases hlead with rfl | hne
        · cases h
          exact digitsOf_of_lt hlt
        · exact absurd rfl hne
      · rw [digitsOf_of_readDigits (by omega) h, digitsOf_of_lt hlt, List.singleton_append]
    · cases h

/-- The number that a text stands for: ASCII digits, the last of them the ones. -/
def Denotes (t : Text) (n : Nat) : Prop :=
  t ≠ [] ∧ (∀ c ∈ t, c.isDigit = true) ∧ Nat.ofDigitChars 10 t 0 = n

/-- More digits make no smaller number. -/
theorem le_ofDigitChars (t : Text) (acc : Nat) : acc ≤ Nat.ofDigitChars 10 t acc := by
  induction t generalizing acc with
  | nil => exact Nat.le_refl acc
  | cons c t ih =>
    calc acc ≤ 10 * acc + (c.toNat - '0'.toNat) := by omega
      _ ≤ Nat.ofDigitChars 10 (c :: t) acc := ih _

/-- What is read is the number of the digits, if it is within the limit. -/
theorem readDigits_eq_ok_iff {limit : Nat} {excess : Fault} {t : Text} {acc n : Nat}
    (hacc : acc ≤ limit) :
    readDigits limit excess acc t = .ok n ↔
      (∀ c ∈ t, c.isDigit = true) ∧ Nat.ofDigitChars 10 t acc = n ∧ n ≤ limit := by
  -- on the digits, the number that they are read behind being within the limit
  induction t generalizing acc with
  | nil =>
    rw [readDigits, Except.ok.injEq, Nat.ofDigitChars_nil]
    constructor
    · rintro rfl
      exact ⟨by simp, rfl, hacc⟩
    · exact fun h => h.2.1
  | cons c t ih =>
    rw [readDigits, List.forall_mem_cons, Nat.ofDigitChars_cons]
    split
    · next hc =>
      have hother : c.isDigit = false := by
        rw [Bool.eq_false_iff]
        exact fun h => Option.some_ne_none _ ((digit?_eq_some_iff.mpr ⟨h, rfl⟩).symm.trans hc)
      simp [hother]
    · next d hc =>
      obtain ⟨hdigit, rfl⟩ := digit?_eq_some_iff.mp hc
      split
      · next hle =>
        rw [ih hle]
        simp [hdigit]
      · next hgt =>
        -- once the limit is passed, no more digits bring the number back below it
        have hlarge := le_ofDigitChars t (10 * acc + (c.toNat - '0'.toNat))
        constructor
        · intro h
          cases h
        · rintro ⟨-, rfl, hle⟩
          omega

/-- The reader without an error is the one with it. -/
theorem nat?_eq_some_iff {limit n : Nat} {t : Text} :
    nat? limit t = some n ↔ readNat limit t = .ok n := by
  rw [nat?]
  cases readNat limit t <;> simp [Except.toOption]

/-- A text without a plus sign is read as its digits are. -/
theorem readNat_cons {limit : Nat} {c : Char} {t : Text} (hplus : c ≠ '+') :
    readNat limit (c :: t) = readDigits limit .tooLarge 0 (c :: t) :=
  readNat.eq_4 limit (c :: t) (by simp) (by rintro h; simp_all) (by rintro rest h; simp_all)

/-- A text without a sign is read as its digits are. -/
theorem readInt_cons {limit : Nat} {c : Char} {t : Text} (hplus : c ≠ '+') (hminus : c ≠ '-') :
    readInt limit (c :: t) = (readDigits limit .tooLarge 0 (c :: t)).map Int.ofNat :=
  readInt.eq_6 limit (c :: t) (by simp) (by rintro h; simp_all) (by rintro h; simp_all)
    (by rintro rest h; simp_all) (by rintro rest h; simp_all)

/-- Without a sign, a signed word is read exactly from the numbers within its limit. -/
theorem int64?_eq_some_iff {c : Char} {t : Text} (hplus : c ≠ '+') (hminus : c ≠ '-') {i : Int} :
    int64? (c :: t) = some i ↔ ∃ n : Nat, Denotes (c :: t) n ∧ n ≤ maxSigned64 ∧ i = n := by
  rw [int64?, readInt_cons hplus hminus]
  -- without a sign, what is read is what the digits denote
  have hread (n : Nat) : readDigits maxSigned64 .tooLarge 0 (c :: t) = .ok n ↔
      Denotes (c :: t) n ∧ n ≤ maxSigned64 := by
    rw [readDigits_eq_ok_iff (Nat.zero_le _), Denotes, and_assoc, and_assoc,
      and_iff_right (List.cons_ne_nil c t)]
  cases hr : readDigits maxSigned64 .tooLarge 0 (c :: t) with
  | error e =>
    constructor
    · intro h
      cases h
    · rintro ⟨n, hn, hle, -⟩
      cases hr.symm.trans ((hread n).mpr ⟨hn, hle⟩)
  | ok n =>
    obtain ⟨hn, hle⟩ := (hread n).mp hr
    constructor
    · intro h
      exact ⟨n, hn, hle, (Option.some.inj h).symm⟩
    · rintro ⟨m, hm, -, rfl⟩
      exact congrArg (fun k : Nat => some (k : Int)) (hn.2.2.symm.trans hm.2.2)

/-- A written number begins with a digit, so it has no sign. -/
theorem exists_digitsOf_cons (n : Nat) :
    ∃ c t, digitsOf n = c :: t ∧ c ≠ '+' ∧ c ≠ '-' := by
  obtain ⟨c, t, ht⟩ := List.exists_cons_of_ne_nil (digitsOf_ne_nil n)
  have hc : c.isDigit = true := isDigit_of_mem_digitsOf (n := n) (by simp [ht])
  refine ⟨c, t, ht, ?_, ?_⟩
  all_goals
    rintro rfl
    cases hc

/-- **Round trip.** A written number is read back. -/
theorem readNat_digitsOf {limit n : Nat} (h : n ≤ limit) : readNat limit (digitsOf n) = .ok n := by
  have hread : readNat limit (digitsOf n) = readDigits limit .tooLarge 0 (digitsOf n) := by
    obtain ⟨c, t, ht, hplus, -⟩ := exists_digitsOf_cons n
    rw [ht, readNat_cons hplus]
  rw [hread, readDigits_digitsOf h]

theorem nat?_digitsOf {limit n : Nat} (h : n ≤ limit) : nat? limit (digitsOf n) = some n :=
  nat?_eq_some_iff.mpr (readNat_digitsOf h)

/-- The same where negative numbers are allowed. -/
theorem int64?_digitsOf {n : Nat} (h : n ≤ maxSigned64) : int64? (digitsOf n) = some (n : Int) := by
  have hread : readInt maxSigned64 (digitsOf n)
      = (readDigits maxSigned64 .tooLarge 0 (digitsOf n)).map Int.ofNat := by
    obtain ⟨c, t, ht, hplus, hminus⟩ := exists_digitsOf_cons n
    rw [ht, readInt_cons hplus hminus]
  rw [int64?, hread, readDigits_digitsOf h]
  rfl

end VendorCli.Decimal
