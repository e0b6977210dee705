import VendorCli.Interfaces.Reading
import VendorCli.Proofs.Number.Digits
import VendorCli.Proofs.Output.Records
import VendorCli.Proofs.Pattern.Lines
import VendorCli.Proofs.Registry.Refusals
import VendorCli.Proofs.Section.Commands
/-!
# The settings that lines tell

The readers of interfaces look at lines by rules and patterns. `ofLines` is what they do, told
without either: the first line of each setting counts, with what follows its word, and the line that
disables the interface counts wherever it stands.

* `fromSections_eq` and `fromStatements_eq` are the readers as functions of lines: the direct
  sub-commands of a section, and what statements say about the interface;
* `ofLines_spec` says where the fields of a record come from;
* `settingTexts` are lines that tell the settings of a record, and `ofLines_settingTexts` reads the
  record off them.
-/

namespace VendorCli.Interfaces

open Text Pattern

/-! ### Lines -/

/-- The description in a line. -/
def descriptionIn? (line : Text) : Option Text :=
  valueAfter? "description " (CharClass.compl (.char '\n')).contains line

/-- The digits of an MTU in a line. -/
def sizeIn? (line : Text) : Option Text :=
  valueAfter? "mtu " CharClass.digit.contains line

/-- The MTU that is written in some digits. -/
def mtuOfDigits (path : ConfigPath) : Option Text → Except Error (Option UInt16)
  | none => .ok none
  | some digits =>
    match Decimal.int64? (trim digits) with
    | some n => mtuOf path (some (.number (.integer n)))
    | none => .error (.parse (.notInteger "mtu" digits))

/-- The record that lines tell, `off` being the line that disables an interface, and the description
after `text` has been applied to what was written. -/
def ofLines (path : ConfigPath) (name : Text) (text : Text → Text) (off : Text)
    (lines : List Text) : Except Error Interface := do
  let mtu ← mtuOfDigits path (lines.findSome? sizeIn?)
  .ok
    { Interface.named name with
      description := (lines.findSome? descriptionIn?).map text
      mtu := mtu
      enabled := !lines.contains off }

/-! ### Rules -/

/-- The rule for descriptions. -/
private def descriptionRule : CompiledRule :=
  ⟨.ofText "description" "description (?P<value>.+)",
    ⟨.ofLine 'd' "escription " (.plus true (.set (.compl (.char '\n')))), [(1, "value")]⟩⟩

/-- The rule for MTUs. -/
private def sizeRule : CompiledRule :=
  ⟨.ofInteger "mtu" "mtu (?P<value>\\d+)",
    ⟨.ofLine 'm' "tu " (.plus true (.set .digit)), [(1, "value")]⟩⟩

/-- The rule for the line that disables an interface, its first character given apart. -/
private def offRule (c : Char) (off : Text) : CompiledRule :=
  ⟨.ofFlag "enabled" (c :: off) true, ⟨.ofText c off, []⟩⟩

/-- The rules for all settings. -/
private def settingExtractor (c : Char) (off : Text) : Extractor :=
  ⟨[descriptionRule, sizeRule, offRule c off], 0⟩

/-- The fields of the three rules, as which `simp` tells them apart. -/
@[simp] private theorem descriptionRule_field : descriptionRule.rule.field = "description" := rfl

@[simp] private theorem sizeRule_field : sizeRule.rule.field = "mtu" := rfl

@[simp] private theorem offRule_field (c : Char) (off : Text) :
    (offRule c off).rule.field = "enabled" := rfl

/-- The rules of a section: there the line is `shutdown`. -/
private theorem sectionSettings_eq : sectionSettings = settingExtractor 's' "hutdown" := rfl

/-- The rules of statements: there the line is `disable`. -/
private theorem statementSettings_eq : statementSettings = settingExtractor 'd' "isable" := rfl

/-- The pattern for a description captures what `descriptionIn?` cuts off. -/
private theorem reads_descriptionRule : descriptionRule.Reads descriptionIn? :=
  fun _ => captured_ofLine

/-- The pattern for an MTU captures what `sizeIn?` cuts off. -/
private theorem reads_sizeRule : sizeRule.Reads sizeIn? :=
  fun _ => captured_ofLine

section Extraction

variable {path : ConfigPath}

/-- The first line with a description decides, and a text needs no conversion. -/
private theorem descriptionRule_apply (lines : List Text) :
    descriptionRule.apply lines = .ok ((lines.findSome? descriptionIn?).map .string) := by
  rw [reads_descriptionRule.apply (by simp [descriptionRule, Rule.ofText]) rfl]
  cases lines.findSome? descriptionIn? <;> rfl

/-- The MTU that is written in digits is what the record makes of the number that the rule finds. -/
private theorem mtuOfDigits_eq (lines : List Text) :
    mtuOfDigits path (lines.findSome? sizeIn?) = sizeRule.apply lines >>= mtuOf path := by
  rw [reads_sizeRule.apply (by simp [sizeRule, Rule.ofInteger]) rfl]
  -- a number that does not fit into an MTU is the record's concern, not the rule's
  cases lines.findSome? sizeIn? with
  | none => rfl
  | some digits =>
    have hconvert : sizeRule.convert digits = match Decimal.int64? (trim digits) with
        | some n => .ok (.number (.integer n))
        | none => .error (.parse (.notInteger "mtu" digits)) := rfl
    rw [Option.elim_some, hconvert, mtuOfDigits]
    cases Decimal.int64? (trim digits) <;> rfl

/-- The flag is there exactly if one of the lines is the disabling one. -/
private theorem offRule_apply (c : Char) (off : Text) (lines : List Text) :
    (offRule c off).apply lines
      = .ok (if c :: off ∈ lines then some (.bool false) else none) := by
  -- the pattern is a text between anchors, so it matches that line and no other
  have hany : lines.any (offRule c off).regex.isMatch = true ↔ c :: off ∈ lines := by
    rw [List.any_eq_true]
    constructor
    · rintro ⟨l, hl, hmatch⟩
      exact isSome_ofText_iff.mp hmatch ▸ hl
    · exact fun h => ⟨_, h, isSome_ofText_iff.mpr rfl⟩
  have happly : (offRule c off).apply lines
      = .ok (if lines.any (offRule c off).regex.isMatch then some (.bool false) else none) := rfl
  rw [happly]
  by_cases h : c :: off ∈ lines
  · rw [if_pos (hany.mpr h), if_pos h]
  · rw [if_neg (mt hany.mp h), if_neg h]

/-- **Rules as functions.** The record that the rules find is what the lines tell. -/
private theorem ofSettings_record (c : Char) (off body : Text) (path : ConfigPath) (name : Text)
    (text : Text → Text) :
    ((settingExtractor c off).record body >>= ofSettings path name text)
      = ofLines path name text (c :: off) (Output.trimmedLines 0 body) := by
  have hdescription := descriptionRule_apply (Output.trimmedLines 0 body)
  have hoff := offRule_apply c off (Output.trimmedLines 0 body)
  -- the text is converted and the flag is set without fail, so only the MTU decides
  cases hsize : sizeRule.apply (Output.trimmedLines 0 body) with
  | error e =>
    -- digits that make no number are the only failure of the rules
    have hrules : settingExtractor c off = ⟨[descriptionRule] ++ sizeRule :: [offRule c off], 0⟩ :=
      rfl
    have hrecord : (settingExtractor c off).record body = .error e := by
      rw [hrules]
      exact Extractor.record_of_error (by simp [hdescription]) hsize
    rw [hrecord, ofLines, mtuOfDigits_eq, hsize]
    rfl
  | ok size =>
    obtain ⟨r, hr⟩ : ∃ r, (settingExtractor c off).record body = .ok r := by
      refine Extractor.exists_record fun d hd => ?_
      simp only [List.mem_cons, List.not_mem_nil, or_false] at hd
      rcases hd with rfl | rfl | rfl
      · exact ⟨_, hdescription⟩
      · exact ⟨_, hsize⟩
      · exact ⟨_, hoff⟩
    -- the same rules, split before each of them
    have hfirst : (Extractor.mk ([] ++ descriptionRule :: [sizeRule, offRule c off]) 0).record body
        = .ok r := hr
    have hsecond : (Extractor.mk ([descriptionRule] ++ sizeRule :: [offRule c off]) 0).record body
        = .ok r := hr
    have hthird : (Extractor.mk ([descriptionRule, sizeRule] ++ offRule c off :: []) 0).record body
        = .ok r := hr
    obtain ⟨v, hv, hfound⟩ := Extractor.lookup?_record (by simp) (by simp) hfirst
    -- each of the fields has one rule, and it finds what the functions on lines say
    obtain ⟨w, hw, hfound'⟩ := Extractor.lookup?_record (by simp) (by simp) hsecond
    obtain ⟨x, hx, hfound''⟩ := Extractor.lookup?_record (by simp) (by simp) hthird
    cases hdescription.symm.trans hv
    cases hsize.symm.trans hw
    cases hoff.symm.trans hx
    have hmtu : lookup? "mtu" r = size := hfound'.trans Option.or_none
    have hdescribed : (lookup? "description" r).bind Json.text?
        = (Output.trimmedLines 0 body).findSome? descriptionIn? := by
      rw [show lookup? "description" r = _ from hfound.trans Option.or_none, Option.bind_map]
      exact Option.bind_fun_some _
    have henabled : ((lookup? "enabled" r).bind Json.bool?).getD true
        = !(Output.trimmedLines 0 body).contains (c :: off) := by
      rw [show lookup? "enabled" r = _ from hfound'']
      by_cases h : c :: off ∈ Output.trimmedLines 0 body
      · rw [if_pos h, List.contains_iff_mem.mpr h]
        rfl
      · rw [if_neg h, Bool.eq_false_iff.mpr (mt List.contains_iff_mem.mp h)]
        rfl
    rw [hr, ofLines, mtuOfDigits_eq, hsize]
    change ofSettings path name text r = mtuOf path size >>= _
    rw [ofSettings, hmtu, hdescribed, henabled]

end Extraction

/-! ### Readers -/

/-- Neat lines that are joined, indented or not, are what a reader sees of the text. -/
theorem trimmedLines_unlines_indent (indent : Text) {ls : List Text}
    (hblank : ∀ c ∈ indent, isBlank c = true) (hfeed : '\n' ∉ indent) (h : ∀ l ∈ ls, Neat l) :
    Output.trimmedLines 0 (unlines (ls.map (indent ++ ·))) = ls := by
  rw [Output.trimmedLines, List.drop_zero, lines_unlines_indent hfeed h, List.map_map]
  exact (List.map_congr_left fun l hl => trim_indent hblank (h l hl)).trans (List.map_id' ls)

/-- Neat lines that are joined are what a reader sees of the text. -/
theorem trimmedLines_unlines {ls : List Text} (h : ∀ l ∈ ls, Neat l) :
    Output.trimmedLines 0 (unlines ls) = ls := by
  have hjoined := trimmedLines_unlines_indent [] (by simp) (by simp) h
  simpa using hjoined

/-- What statements say is neat. -/
theorem neat_of_mem_under {subtree config t : Text} (h : t ∈ Statements.under subtree config) :
    Neat t := by
  rw [Statements.under, List.mem_filterMap] at h
  obtain ⟨line, hline, h⟩ := h
  split at h
  · next rest hrest =>
    dsimp only at h
    split at h
    · cases h
    · next hne =>
      -- what follows the words is trimmed and not empty, and comes from within one line
      cases h
      rw [dropLead?_eq_some_iff] at hrest
      refine ⟨trim_trim rest, hne, fun hfeed => not_mem_of_mem_lines hline (trim_subset line ?_)⟩
      rw [hrest]
      exact List.mem_append_right _ (trim_subset rest hfeed)
  · cases h

section Readers

variable (path : ConfigPath) (name output : Text)

/-- **Sections.** A reader of sections looks at the direct sub-commands. -/
theorem fromSections_eq : fromSections path name output
    = match Section.commands? output ("interface " ++ name) with
      | none => .ok none
      | some ls => (ofLines path name id "shutdown" ls).map some := by
  rw [fromSections, Section.bodyOf?_eq]
  cases hls : Section.commands? output ("interface " ++ name) with
  | none => rfl
  | some ls =>
    -- the body is made of the sub-commands, each indented by one blank
    have hneat : ∀ l ∈ ls, Neat l := (Section.commands?_spec hls).2
    have hbody : Output.trimmedLines 0 (unlines (ls.map ([' '] ++ ·))) = ls :=
      trimmedLines_unlines_indent [' '] (by simp) (by simp) hneat
    have hrecord := ofSettings_record 's' "hutdown" (unlines (ls.map ([' '] ++ ·))) path name id
    rw [hbody, ← sectionSettings_eq] at hrecord
    rw [Option.map_some]
    dsimp only
    rw [← bind_assoc, hrecord]
    change (ofLines path name id "shutdown" ls >>= fun i => .ok (some i)) = _
    cases ofLines path name id "shutdown" ls <;> rfl

/-- **Statements.** A reader of statements looks at what they say about the interface. -/
theorem fromStatements_eq : fromStatements path name output
    = match Statements.under ("interfaces " ++ name) output with
      | [] => .ok none
      | ls => (ofLines path name unquoted "disable" ls).map some := by
  rw [fromStatements]
  cases hls : Statements.under ("interfaces " ++ name) output with
  | nil => rfl
  | cons l ls =>
    have hneat : ∀ k ∈ l :: ls, Neat k := fun k hk => neat_of_mem_under (hls ▸ hk)
    have hbody : Output.trimmedLines 0 (unlines (l :: ls)) = l :: ls := trimmedLines_unlines hneat
    have hrecord := ofSettings_record 'd' "isable" (unlines (l :: ls)) path name unquoted
    rw [hbody, ← statementSettings_eq] at hrecord
    dsimp only
    rw [← bind_assoc, hrecord]
    change (ofLines path name unquoted "disable" (l :: ls) >>= fun i => .ok (some i)) = _
    cases ofLines path name unquoted "disable" (l :: ls) <;> rfl

end Readers

/-! ### Records -/

section Records

variable {path : ConfigPath} {name off : Text} {text : Text → Text} {lines : List Text}
  {i : Interface}

/-- **Where the fields come from.** The name is the one that was asked for, it tells the kind, and
a description stands after its word in a line. -/
theorem ofLines_spec (h : ofLines path name text off lines = .ok i) :
    i.name = name ∧ i.kind = InterfaceKind.ofName name ∧
      ∀ t, i.description = some t → ∃ v, ("description " : Text) ++ v ∈ lines ∧ text v = t := by
  obtain ⟨mtu, -, h⟩ := exists_of_bind_eq_ok h
  cases h
  refine ⟨rfl, rfl, fun t ht => ?_⟩
  obtain ⟨v, hv, rfl⟩ := Option.map_eq_some_iff.mp ht
  obtain ⟨line, hline, hvalue⟩ := List.exists_of_findSome?_eq_some hv
  obtain ⟨rfl, -, -⟩ := valueAfter?_eq_some_iff.mp hvalue
  exact ⟨v, hline, rfl⟩

/-- Lines that tell the settings of a record: the description as `write` gives it, the MTU in
digits, and what there is to say of the admin state. -/
def settingTexts (write : Text → Text) (i : Interface) (admin : List Text) : List Text :=
  (i.description.map fun t => "description " ++ write t).toList
    ++ (i.mtu.map fun n => "mtu " ++ Decimal.digitsOf n.toNat).toList ++ admin

/-- The description in a line is all that follows the word, if that is there and on one line. -/
theorem descriptionIn?_description {v : Text} (hne : v ≠ []) (hfeed : '\n' ∉ v) :
    descriptionIn? ("description " ++ v) = some v := by
  refine valueAfter?_eq_some_iff.mpr ⟨rfl, hne, fun c hc => ?_⟩
  have hother : c ≠ '\n' := by
    rintro rfl
    exact hfeed hc
  simpa using hother

/-- The digits of a written number are digits to a pattern, which knows digits of other scripts
too. -/
theorem isDigit_of_mem_digitsOf {n : Nat} {c : Char} (h : c ∈ Decimal.digitsOf n) :
    Text.isDigit c = true := by
  have hdigit : c.isDigit = true := Decimal.isDigit_of_mem_digitsOf h
  have hascii : c.toNat < 128 := by
    simp only [Char.isDigit, Bool.and_eq_true, decide_eq_true_eq, UInt32.le_iff_toNat_le] at hdigit
    have hrange : 48 ≤ c.toNat ∧ c.toNat ≤ 57 := hdigit
    omega
  rw [isDigit_of_ascii hascii, hdigit]

/-- The digits in a line with a written number are all of them. -/
theorem sizeIn?_digitsOf (n : Nat) :
    sizeIn? ("mtu " ++ Decimal.digitsOf n) = some (Decimal.digitsOf n) :=
  valueAfter?_eq_some_iff.mpr
    ⟨rfl, Decimal.digitsOf_ne_nil n, fun _ hc => isDigit_of_mem_digitsOf hc⟩

/-- An MTU that is written in digits is read back. -/
theorem mtuOfDigits_digitsOf (path : ConfigPath) (n : UInt16) :
    mtuOfDigits path (some (Decimal.digitsOf n.toNat)) = .ok (some n) := by
  have hle : n.toNat ≤ Decimal.max16 := Nat.le_of_lt_succ n.toNat_lt
  -- an MTU fits into the integer that the rule makes of it, and has no blanks to trim
  have hsigned : n.toNat ≤ Decimal.maxSigned64 := hle.trans (by decide)
  have htrim : trim (Decimal.digitsOf n.toNat) = Decimal.digitsOf n.toNat :=
    trim_of_not_isBlank fun _ hc =>
      Decimal.not_isBlank_of_isDigit (Decimal.isDigit_of_mem_digitsOf hc)
  rw [mtuOfDigits, htrim, Decimal.int64?_digitsOf hsigned]
  have hnat : (some (Json.number (.integer (n.toNat : Int)))).bind Json.nat? = some n.toNat := rfl
  dsimp only
  rw [mtuOf, hnat]
  dsimp only
  rw [if_pos hle, UInt16.ofNat_toNat]

section SettingTexts

variable {write : Text → Text} {admin : List Text}

/-- The description that the settings tell is the one that was written. -/
theorem findSome?_descriptionIn?_settingTexts
    (hdescription : ∀ t, i.description = some t → write t ≠ [] ∧ '\n' ∉ write t)
    (hadmin : ∀ l ∈ admin, descriptionIn? l = none) :
    (settingTexts write i admin).findSome? descriptionIn? = i.description.map write := by
  -- neither the MTU nor the admin state stands after the word of a description
  have hsize : (i.mtu.map fun n => ("mtu " ++ Decimal.digitsOf n.toNat : Text)).toList.findSome?
      descriptionIn? = none := by
    cases i.mtu <;> rfl
  rw [settingTexts, List.findSome?_append, List.findSome?_append,
    List.findSome?_eq_none_iff.mpr hadmin, hsize, Option.or_none, Option.or_none]
  cases hd : i.description with
  | none => rfl
  | some t =>
    obtain ⟨hne, hfeed⟩ := hdescription t hd
    rw [Option.map_some, Option.toList_some, List.findSome?_singleton,
      descriptionIn?_description hne hfeed, Option.map_some]

/-- The MTU that the settings tell is the one that was written. -/
theorem findSome?_sizeIn?_settingTexts (hadmin : ∀ l ∈ admin, sizeIn? l = none) :
    (settingTexts write i admin).findSome? sizeIn?
      = i.mtu.map fun n => Decimal.digitsOf n.toNat := by
  -- a description is no MTU, whatever it says, for its line begins with another word
  have hfirst : (i.description.map fun t => ("description " ++ write t : Text)).toList.findSome?
      sizeIn? = none := by
    cases i.description <;> rfl
  rw [settingTexts, List.findSome?_append, List.findSome?_append,
    List.findSome?_eq_none_iff.mpr hadmin, hfirst, Option.none_or, Option.or_none]
  cases i.mtu with
  | none => rfl
  | some n =>
    rw [Option.map_some, Option.toList_some, List.findSome?_singleton, sizeIn?_digitsOf,
      Option.map_some]

/-- What a line that tells a setting can be. -/
theorem eq_of_mem_settingTexts {l : Text} (h : l ∈ settingTexts write i admin) :
    (∃ t, i.description = some t ∧ l = "description " ++ write t) ∨
    (∃ n : UInt16, l = "mtu " ++ Decimal.digitsOf n.toNat) ∨ l ∈ admin := by
  rw [settingTexts, List.mem_append, List.mem_append] at h
  rcases h with (h | h) | h
  · obtain ⟨t, ht, rfl⟩ := Option.map_eq_some_iff.mp (Option.mem_toList.mp h)
    exact .inl ⟨t, ht, rfl⟩
  · obtain ⟨n, -, rfl⟩ := Option.map_eq_some_iff.mp (Option.mem_toList.mp h)
    exact .inr (.inl ⟨n, rfl⟩)
  · exact .inr (.inr h)

/-- A line without a value can only tell the admin state. -/
theorem mem_settingTexts_iff (hdescription : dropLead? "description " off = none)
    (hmtu : dropLead? "mtu " off = none) : off ∈ settingTexts write i admin ↔ off ∈ admin := by
  constructor
  · intro h
    rcases eq_of_mem_settingTexts h with ⟨t, -, rfl⟩ | ⟨n, rfl⟩ | h
    · rw [dropLead?_append] at hdescription
      cases hdescription
    · rw [dropLead?_append] at hmtu
      cases hmtu
    · exact h
  · exact List.mem_append_right _

/-- **Round trip.** The record is read off the lines that tell its settings, if its description is
read as it was written and no admin line is taken for another setting. -/
theorem ofLines_settingTexts (hkind : i.kind = InterfaceKind.ofName i.name)
    (hdescription : ∀ t, i.description = some t →
      write t ≠ [] ∧ '\n' ∉ write t ∧ text (write t) = t)
    (hadmin : ∀ l ∈ admin, descriptionIn? l = none ∧ sizeIn? l = none)
    (hoff : off ∈ admin ↔ i.enabled = false)
    (hlead : dropLead? "description " off = none ∧ dropLead? "mtu " off = none) :
    ofLines path i.name text off (settingTexts write i admin) = .ok i := by
  -- field by field, what is found in the lines is what the record has
  have hdescribed : (i.description.map write).map text = i.description := by
    cases hd : i.description with
    | none => rfl
    | some t => rw [Option.map_some, Option.map_some, (hdescription t hd).2.2]
  have hmtu : mtuOfDigits path (i.mtu.map fun n => Decimal.digitsOf n.toNat) = .ok i.mtu := by
    cases i.mtu with
    | none => rfl
    | some n => exact mtuOfDigits_digitsOf path n
  have henabled : (!(settingTexts write i admin).contains off) = i.enabled := by
    have hmem : off ∈ settingTexts write i admin ↔ i.enabled = false :=
      (mem_settingTexts_iff hlead.1 hlead.2).trans hoff
    rw [Bool.not_eq_eq_eq_not, Bool.eq_iff_iff, List.contains_iff_mem, hmem, Bool.not_eq_true']
  have hrecord : { Interface.named i.name with
      description := i.description, mtu := i.mtu, enabled := i.enabled } = i := by
    cases i
    rw [Interface.named, ← hkind]
  rw [ofLines, findSome?_sizeIn?_settingTexts fun l hl => (hadmin l hl).2, hmtu,
    findSome?_descriptionIn?_settingTexts (fun t ht => ⟨(hdescription t ht).1,
      (hdescription t ht).2.1⟩) fun l hl => (hadmin l hl).1, hdescribed, henabled]
  exact congrArg Except.ok hrecord

end SettingTexts

end Records

end VendorCli.Interfaces
