import VendorCli.Proofs.Interfaces.Settings
import VendorCli.Proofs.Text.Categories
/-!
# The record that a section tells

What the readers of sections return, in full, told without patterns and numbers of fixed width.

A line tells the size of packets by the word for it, a space and digits of any script; it tells the
description by its word and a space. Of each setting the first line counts (`First`). The digits are
a size only if they are ASCII digits of a number that fits sixteen bits (`IsSize`).
`section_read_in_full` says:

* no record is found if no section at the top level is that of the interface;
* else the first such section counts, and reading it fails exactly if the first digits in it are no
  size;
* if it does not fail, it finds the record that the lines tell (`Told`), its size being the number
  that is written.

Sizes go through a signed word of sixty-four bits and from there to one of sixteen. That nothing is
lost on the way, and that no digit of another script is taken, is in `mtuOfDigits_of_denotes` and
`exists_fault_of_not_isSize`; `size_read_in_full` puts them together.
-/

namespace VendorCli.Interfaces

open Text Pattern

/-! ### What lines tell -/

/-- A line that tells a size of packets, in digits of any script. -/
def TellsSize (line digits : Text) : Prop :=
  line = "mtu " ++ digits ∧ digits ≠ [] ∧ ∀ c ∈ digits, Text.isDigit c = true

/-- A line that tells a description. -/
def TellsDescription (line description : Text) : Prop :=
  line = "description " ++ description

/-- Digits that are a size: ASCII digits of a number of at most sixteen bits. -/
def IsSize (digits : Text) : Prop :=
  ∃ n ≤ Decimal.max16, Decimal.Denotes digits n

/-- `value` is what the first of several lines tells that tells anything. -/
def First (tells : Text → Text → Prop) (lines : List Text) (value : Text) : Prop :=
  ∃ above line below, lines = above ++ line :: below ∧ tells line value ∧
    ∀ l ∈ above, ∀ v, ¬ tells l v

/-- A search for the value of a line finds what the first line tells. -/
theorem findSome?_eq_some_iff_first {tells : Text → Text → Prop} {value? : Text → Option Text}
    {lines : List Text} (h : ∀ l ∈ lines, ∀ v, value? l = some v ↔ tells l v) (value : Text) :
    lines.findSome? value? = some value ↔ First tells lines value := by
  rw [List.findSome?_eq_some_iff, First]
  -- the lines are cut in the same place on both sides
  refine exists_congr fun above => exists_congr fun line => exists_congr fun below => ?_
  refine and_congr_right fun hcut => ?_
  have hline : line ∈ lines := by simp [hcut]
  have habove : ∀ l ∈ above, l ∈ lines := fun l hl => by simp [hcut, hl]
  refine and_congr (h line hline value) (forall₂_congr fun l hl => ?_)
  rw [Option.eq_none_iff_forall_ne_some]
  exact forall_congr' fun v => not_congr (h l (habove l hl) v)

/-- The digits in a line are those that it tells a size by. -/
theorem sizeIn?_eq_some_iff {line digits : Text} :
    sizeIn? line = some digits ↔ TellsSize line digits :=
  valueAfter?_eq_some_iff

/-- A neat line with the word of a description has a description after it. -/
theorem descriptionIn?_eq_some_iff {line description : Text} (h : Neat line) :
    descriptionIn? line = some description ↔ TellsDescription line description := by
  constructor
  · exact fun hv => (valueAfter?_eq_some_iff.mp hv).1
  · rintro rfl
    -- a line that is only the word and a space would lose the space to trimming
    refine descriptionIn?_description ?_ fun hfeed => h.feedless (List.mem_append_right _ hfeed)
    rintro rfl
    exact absurd h.trim_eq (by decide)

/-! ### Sizes -/

section Sizes

variable {path : ConfigPath} {digits : Text}

/-- Digits have no sign before them. -/
theorem exists_cons_of_digits (hne : digits ≠ []) (hdigits : ∀ c ∈ digits, Text.isDigit c = true) :
    ∃ c t, digits = c :: t ∧ c ≠ '+' ∧ c ≠ '-' := by
  obtain ⟨c, t, rfl⟩ := List.exists_cons_of_ne_nil hne
  have hc : Text.isDigit c = true := hdigits c List.mem_cons_self
  refine ⟨c, t, rfl, ?_, ?_⟩
  all_goals
    rintro rfl
    cases hc

/-- What the digits of a line are read as. -/
theorem mtuOfDigits_some (hdigits : ∀ c ∈ digits, Text.isDigit c = true) :
    mtuOfDigits path (some digits)
      = (Decimal.int64? digits).elim (.error (.parse (.notInteger "mtu" digits)))
          fun i => mtuOf path (some (.number (.integer i))) := by
  have htrim : trim digits = digits :=
    trim_of_not_isBlank fun c hc => not_isBlank_of_isDigit (hdigits c hc)
  rw [mtuOfDigits, htrim]
  cases Decimal.int64? digits <;> rfl

/-- A number that is no size is refused with the path and the number. -/
theorem mtuOf_integer (n : Nat) : mtuOf path (some (.number (.integer n)))
    = if n ≤ Decimal.max16 then .ok (some (UInt16.ofNat n))
      else .error (.parse (.mtuOutOfRange path.toText n)) :=
  rfl

/-- A size that fits is read as it is. -/
theorem mtuOfDigits_of_denotes (hdigits : ∀ c ∈ digits, Text.isDigit c = true) {n : Nat}
    (hn : Decimal.Denotes digits n) (hle : n ≤ Decimal.max16) :
    mtuOfDigits path (some digits) = .ok (some (UInt16.ofNat n)) := by
  obtain ⟨c, t, rfl, hplus, hminus⟩ := exists_cons_of_digits hn.1 hdigits
  -- without a sign, the digits denote a number that the signed word holds
  have hread : Decimal.int64? (c :: t) = some (n : Int) :=
    (Decimal.int64?_eq_some_iff hplus hminus).mpr ⟨n, hn, hle.trans (by decide), rfl⟩
  rw [mtuOfDigits_some hdigits, hread, Option.elim_some, mtuOf_integer, if_pos hle]

/-- Digits that are no number, or too large a one, make reading fail. -/
theorem exists_fault_of_not_isSize (path : ConfigPath) (hne : digits ≠ [])
    (hdigits : ∀ c ∈ digits, Text.isDigit c = true) (h : ¬ IsSize digits) :
    ∃ fault, mtuOfDigits path (some digits) = .error (.parse fault) := by
  obtain ⟨c, t, rfl, hplus, hminus⟩ := exists_cons_of_digits hne hdigits
  rw [mtuOfDigits_some hdigits]
  cases hread : Decimal.int64? (c :: t) with
  | none => exact ⟨_, rfl⟩
  | some i =>
    -- the number is one of the signed words, but not of those that fit
    obtain ⟨n, hn, -, rfl⟩ := (Decimal.int64?_eq_some_iff hplus hminus).mp hread
    have hlarge : ¬ n ≤ Decimal.max16 := fun hle => h ⟨n, hle, hn⟩
    rw [Option.elim_some, mtuOf_integer, if_neg hlarge]
    exact ⟨_, rfl⟩

/-- **Sizes.** Of several lines the first size is read as the number that is written, or reading
fails because it is no size. -/
theorem size_read_in_full (path : ConfigPath) (lines : List Text) :
    (∃ digits, First TellsSize lines digits ∧ ¬ IsSize digits) ∧
      (∃ fault, mtuOfDigits path (lines.findSome? sizeIn?) = .error (.parse fault)) ∨
    (∀ digits, First TellsSize lines digits → IsSize digits) ∧
      ∃ mtu, mtuOfDigits path (lines.findSome? sizeIn?) = .ok mtu ∧ ∀ m : UInt16,
        mtu = some m ↔ ∃ digits, First TellsSize lines digits ∧ Decimal.Denotes digits m.toNat := by
  -- whatever the first size is, it is the one that the search finds
  have hfirst (digits : Text) :
      First TellsSize lines digits ↔ lines.findSome? sizeIn? = some digits :=
    (findSome?_eq_some_iff_first (fun _ _ _ => sizeIn?_eq_some_iff) digits).symm
  cases hsize : lines.findSome? sizeIn? with
  | none =>
    -- no line tells a size, so there is none to be read and none to be wrong
    have hnone (digits : Text) : ¬ First TellsSize lines digits := by
      rw [hfirst, hsize]
      exact nofun
    refine .inr ⟨fun digits h => absurd h (hnone digits), none, rfl, fun m => ⟨nofun, ?_⟩⟩
    rintro ⟨digits, h, -⟩
    exact absurd h (hnone digits)
  | some digits =>
    have htells : First TellsSize lines digits := (hfirst digits).mpr hsize
    have honly {other : Text} (h : First TellsSize lines other) : other = digits :=
      Option.some.inj (((hfirst other).mp h).symm.trans hsize)
    obtain ⟨hne, hdigits⟩ : digits ≠ [] ∧ ∀ c ∈ digits, Text.isDigit c = true := by
      obtain ⟨-, line, -, -, hline, -⟩ := htells
      exact hline.2
    by_cases hgood : IsSize digits
    · -- the digits denote a number that fits, so the word that is read is that number
      obtain ⟨n, hle, hn⟩ := hgood
      have hword : (UInt16.ofNat n).toNat = n := UInt16.toNat_ofNat_of_lt (Nat.lt_succ_of_le hle)
      refine .inr ⟨fun other h => honly h ▸ ⟨n, hle, hn⟩, some (UInt16.ofNat n),
        mtuOfDigits_of_denotes hdigits hn hle, fun m => ?_⟩
      constructor
      · intro h
        cases h
        exact ⟨digits, htells, hword.symm ▸ hn⟩
      · rintro ⟨other, hother, hm⟩
        -- both are the number of the same digits
        have hvalue : n = m.toNat := by
          calc n = Nat.ofDigitChars 10 digits 0 := hn.2.2.symm
            _ = m.toNat := honly hother ▸ hm.2.2
        exact congrArg some (UInt16.toNat_inj.mp (hword.trans hvalue))
    · exact .inl ⟨⟨digits, htells, hgood⟩, exists_fault_of_not_isSize path hne hdigits hgood⟩

end Sizes

/-! ### Records -/

/-- The record that the lines of a section tell. -/
structure Told (name : Text) (lines : List Text) (i : Interface) : Prop where
  name_eq : i.name = name
  kind_eq : i.kind = InterfaceKind.ofName name
  description_iff : ∀ t, i.description = some t ↔ First TellsDescription lines t
  mtu_iff : ∀ m : UInt16,
    i.mtu = some m ↔ ∃ digits, First TellsSize lines digits ∧ Decimal.Denotes digits m.toNat
  disabled_iff : i.enabled = false ↔ ("shutdown" : Text) ∈ lines

/-- **Lines.** Reading them fails exactly if the first size is none, and else finds the record that
they tell. -/
theorem ofLines_in_full (path : ConfigPath) (name : Text) {lines : List Text}
    (hneat : ∀ l ∈ lines, Neat l) :
    (∃ digits, First TellsSize lines digits ∧ ¬ IsSize digits) ∧
      (∃ fault, ofLines path name id "shutdown" lines = .error (.parse fault)) ∨
    (∀ digits, First TellsSize lines digits → IsSize digits) ∧
      ∃ i, ofLines path name id "shutdown" lines = .ok i ∧ Told name lines i := by
  unfold ofLines
  rcases size_read_in_full path lines with ⟨hbad, fault, hfault⟩ | ⟨hgood, mtu, hmtu, htold⟩
  -- only the size can fail, and it is read before the record is made
  · refine .inl ⟨hbad, fault, ?_⟩
    rw [hfault]
    rfl
  · rw [hmtu]
    refine .inr ⟨hgood, _, rfl, rfl, rfl, fun t => ?_, htold, ?_⟩
    · -- neat lines tell a description exactly where the search for one stops
      rw [Option.map_id]
      exact findSome?_eq_some_iff_first
        (fun l hl v => descriptionIn?_eq_some_iff (hneat l hl)) t
    · rw [Bool.not_eq_false', List.contains_iff_mem]

/-- **Records in full.** For every output and name: without a section of the interface at the top
level there is no record. Of the first such section the direct sub-commands count. Reading fails
exactly if the first size among them is not written in ASCII digits or does not fit sixteen bits,
and else finds the record that they tell. -/
theorem section_read_in_full (path : ConfigPath) (name output : Text) :
    match (Section.ofConfig output).find? fun s => s.line = trim ("interface " ++ name) with
    | none => fromSections path name output = .ok none
    | some s =>
      let lines := s.children.map Section.line
      ((∃ fault, fromSections path name output = .error (.parse fault)) ↔
        ∃ digits, First TellsSize lines digits ∧ ¬ IsSize digits) ∧
      ((∃ fault, fromSections path name output = .error (.parse fault)) ∨
        ∃ i, fromSections path name output = .ok (some i) ∧ Told name lines i) := by
  have hcommands : Section.commands? output ("interface " ++ name)
      = ((Section.ofConfig output).find? fun s => s.line = trim ("interface " ++ name)).map
          fun s => s.children.map Section.line := rfl
  have hread := fromSections_eq path name output
  split
  -- nothing is read without a section
  · next hs =>
    rw [hcommands, hs] at hread
    exact hread
  · next s hs =>
    intro lines
    rw [hs, Option.map_some] at hcommands
    have hneat : ∀ l ∈ lines, Neat l := (Section.commands?_spec hcommands).2
    rw [hcommands] at hread
    replace hread : fromSections path name output
        = (ofLines path name id "shutdown" lines).map some := hread
    rw [hread]
    -- the sub-commands of the section are neat, so what they tell is what is read off them
    rcases ofLines_in_full path name hneat with ⟨hbad, fault, hfault⟩ | ⟨hgood, i, hi, htold⟩
    · have herror : (ofLines path name id "shutdown" lines).map some = .error (.parse fault) := by
        rw [hfault]
        rfl
      exact ⟨⟨fun _ => hbad, fun _ => ⟨fault, herror⟩⟩, .inl ⟨fault, herror⟩⟩
    · have hok : (ofLines path name id "shutdown" lines).map some = .ok (some i) := by
        rw [hi]
        rfl
      refine ⟨⟨?_, ?_⟩, .inr ⟨i, hok, htold⟩⟩
      · rintro ⟨fault, hfault⟩
        cases hok.symm.trans hfault
      · rintro ⟨digits, hfirst, hbad⟩
        exact absurd (hgood digits hfirst) hbad

/-- The first size counts, also where only the second fits. -/
example :
    let output : Text := "interface Gi0/1\n mtu 65536\n description core  link\n mtu 1500"
    fromSections ConfigPath.root "Gi0/1" output = .error (.parse (.mtuOutOfRange "/" 65536)) := by
  decide +kernel

end VendorCli.Interfaces
