import VendorCli.Proofs.Ipv4.Masks
import VendorCli.Proofs.Number.Digits
import VendorCli.Proofs.Text.Lines
import VendorCli.Record.HostAddress
/-!
# Dotted addresses and masks

An address is written as its four octets and read back from them, and there is no other way to write
it (`Ipv4.ofText?_eq_some_iff`). So a dotted mask is read as the prefix length `p` exactly if it is
what is written for the mask of `p` (`Ipv4.prefixLength?_eq_some_iff`).

`HostAddress.ofNetmask?_toText` puts both together: an address beside the mask that is written for
it is read as the same address, with a prefix of at most thirty-two bits. It is the same record
exactly if its prefix is no longer than that (`HostAddress.ofNetmask?_eq_self_iff`). The same holds
of the form with a slash (`HostAddress.ofText_toText_iff`), and no text is read as a longer prefix.
-/

namespace VendorCli

/-! ### Splitting -/

namespace Text

/-- Cutting at a character is the cutting of lists. -/
theorem splitOn_eq (c : Char) (t : Text) : splitOn c t = List.splitOn c t := by
  induction t with
  | nil => rfl
  | cons d t ih =>
    obtain ⟨first, others, hsplit⟩ := List.exists_cons_of_ne_nil (List.splitOn_ne_nil c t)
    rw [splitOn, List.splitOn_cons_eq_if_modifyHead, ih, hsplit, List.modifyHead_cons]
    by_cases h : d = c
    · rw [if_pos h, if_pos (by simpa using h)]
    · rw [if_neg h, if_neg (by simpa using h)]

/-- Joining is the joining of lists. -/
theorem join_eq_intercalate (glue : Text) (ts : List Text) :
    join glue ts = glue.intercalate ts := by
  induction ts with
  | nil => rfl
  | cons t ts ih =>
    cases ts with
    | nil => simp
    | cons u ts => rw [join_cons_cons, ih, List.intercalate_cons_cons]

/-- The parts between the occurrences of a character are joined by it again. -/
theorem join_splitOn (c : Char) (t : Text) : join [c] (splitOn c t) = t := by
  rw [splitOn_eq, join_eq_intercalate]
  exact List.intercalate_splitOn c

/-- Pieces that are joined by a character are the parts between its occurrences, if none of them has
it. -/
theorem splitOn_join {c : Char} {ts : List Text} (hne : ts ≠ []) (h : ∀ t ∈ ts, c ∉ t) :
    splitOn c (join [c] ts) = ts := by
  rw [splitOn_eq, join_eq_intercalate]
  exact List.splitOn_intercalate c h hne

/-- What is joined by a character is made of the pieces and of that character. -/
theorem eq_or_exists_of_mem_join {c d : Char} {ts : List Text} (h : d ∈ join [c] ts) :
    d = c ∨ ∃ t ∈ ts, d ∈ t := by
  -- on the pieces, the last of which has no glue after it
  induction ts with
  | nil => exact absurd h List.not_mem_nil
  | cons t ts ih =>
    cases ts with
    | nil => exact .inr ⟨t, List.mem_singleton_self t, h⟩
    | cons u ts =>
      rw [join_cons_cons, List.mem_append, List.mem_append, List.mem_singleton] at h
      rcases h with (h | h) | h
      · exact .inr ⟨t, List.mem_cons_self, h⟩
      · exact .inl h
      · exact (ih h).imp_right fun ⟨v, hv, hd⟩ => ⟨v, List.mem_cons_of_mem t hv, hd⟩

end Text

/-! ### Octets -/

namespace Decimal

theorem length_digitsOf_of_ge {n : Nat} (h : 10 ≤ n) :
    (digitsOf n).length = (digitsOf (n / 10)).length + 1 := by
  rw [digitsOf_of_ge h, List.length_append, List.length_singleton]

/-- A number below a thousand has three digits at most. -/
theorem length_digitsOf_le {n : Nat} (h : n < 1000) : (digitsOf n).length ≤ 3 := by
  have hone : ∀ m < 10, (digitsOf m).length = 1 := by
    intro m hm
    rw [digitsOf_of_lt hm, List.length_singleton]
  by_cases hn : n < 10
  · rw [hone n hn]
    omega
  · rw [length_digitsOf_of_ge (by omega)]
    by_cases hdiv : n / 10 < 10
    · rw [hone _ hdiv]
      omega
    · rw [length_digitsOf_of_ge (by omega), hone _ (by omega)]

/-- The zero is written for no other digit. -/
private theorem digitChar_ne_zero_all : ∀ d < 10, 0 < d → digitChar d ≠ '0' := by
  decide

/-- A number is written without a zero in front. -/
theorem head?_digitsOf_ne_zero {n : Nat} (h : 0 < n) : (digitsOf n).head? ≠ some '0' := by
  -- on the number: its first digit is that of its tenth part
  induction n using Nat.strongRecOn with
  | _ n ih =>
    by_cases hn : n < 10
    · rw [digitsOf_of_lt hn, List.head?_singleton, ne_eq, Option.some.injEq]
      exact digitChar_ne_zero_all n hn h
    · rw [digitsOf_of_ge (by omega), List.head?_append_of_ne_nil _ (digitsOf_ne_nil _)]
      exact ih (n / 10) (by omega) (by omega)

end Decimal

namespace Ipv4

/-- An octet is read from its digits. -/
theorem octet?_digitsOf {n : Nat} (h : n < 256) : octet? (Decimal.digitsOf n) = some n := by
  have hlength : (Decimal.digitsOf n).length ≤ 3 := Decimal.length_digitsOf_le (by omega)
  have hzero : (Decimal.digitsOf n).length = 1 ∨ (Decimal.digitsOf n).head? ≠ some '0' := by
    by_cases hn : n = 0
    · subst hn
      exact .inl (by rw [Decimal.digitsOf_of_lt (by decide)]; rfl)
    · exact .inr (Decimal.head?_digitsOf_ne_zero (by omega))
  have hplus : (Decimal.digitsOf n).head? ≠ some '+' := by
    intro hhead
    exact Decimal.not_mem_digitsOf rfl (List.mem_of_mem_head? hhead)
  rw [octet?, if_pos ⟨hlength, hzero, Decimal.digitsOf_ne_nil n, hplus⟩]
  exact Decimal.nat?_digitsOf (by rw [Decimal.max8]; omega)

/-- **Octets** are read from their digits and from no other text. -/
theorem octet?_eq_some_iff {t : Text} {n : Nat} :
    octet? t = some n ↔ n < 256 ∧ t = Decimal.digitsOf n := by
  constructor
  · intro h
    unfold octet? at h
    split at h
    · next hform =>
      obtain ⟨-, hzero, hne, hplus⟩ := hform
      obtain ⟨c, rest, rfl⟩ := List.exists_cons_of_ne_nil hne
      -- with a zero in front, the text is that zero alone
      have hlead : rest = [] ∨ c ≠ '0' := by
        simpa using hzero
      have hread : Decimal.readDigits Decimal.max8 .tooLarge 0 (c :: rest) = .ok n := by
        rw [← Decimal.readNat_cons (by simpa using hplus)]
        exact Decimal.nat?_eq_some_iff.mp h
      obtain ⟨-, -, hle⟩ := (Decimal.readDigits_eq_ok_iff (Nat.zero_le _)).mp hread
      rw [Decimal.max8] at hle
      exact ⟨by omega, (Decimal.digitsOf_of_readDigits_zero hlead hread).symm⟩
    · cases h
  · rintro ⟨h, rfl⟩
    exact octet?_digitsOf h

/-- An address is put together from its octets. -/
theorem ofOctets_octets (bits : BitVec 32) :
    ofOctets (bits.toNat / 16777216 % 256) (bits.toNat / 65536 % 256) (bits.toNat / 256 % 256)
      (bits.toNat % 256) = ⟨bits⟩ := by
  have hlt : bits.toNat < 4294967296 := bits.isLt
  rw [ofOctets, Ipv4.mk.injEq]
  refine BitVec.eq_of_toNat_eq ?_
  rw [BitVec.toNat_ofNat]
  omega

/-- The octets of an address are those that it was put together from. -/
theorem octets_ofOctets {a b c d : Nat} (ha : a < 256) (hb : b < 256) (hc : c < 256)
    (hd : d < 256) :
    (ofOctets a b c d).octets = [a, b, c, d] := by
  have hbits : (ofOctets a b c d).bits.toNat = ((a * 256 + b) * 256 + c) * 256 + d := by
    rw [ofOctets, BitVec.toNat_ofNat]
    omega
  simp only [octets, hbits, List.cons.injEq, and_true]
  omega

/-- Texts are all read as octets if they are the digits of these. -/
theorem map_octet?_eq_iff {ts : List Text} {ns : List Nat} :
    ts.map octet? = ns.map some ↔ (∀ n ∈ ns, n < 256) ∧ ts = ns.map Decimal.digitsOf := by
  -- on the octets, each of which is read from its own digits alone
  induction ns generalizing ts with
  | nil => simp
  | cons n ns ih =>
    rw [List.map_cons, List.map_eq_cons_iff, List.forall_mem_cons]
    constructor
    · rintro ⟨t, ts, rfl, ht, hts⟩
      obtain ⟨hn, rfl⟩ := octet?_eq_some_iff.mp ht
      obtain ⟨hns, rfl⟩ := ih.mp hts
      exact ⟨⟨hn, hns⟩, rfl⟩
    · rintro ⟨⟨hn, hns⟩, rfl⟩
      exact ⟨_, _, rfl, octet?_digitsOf hn, ih.mpr ⟨hns, rfl⟩⟩

theorem lt_of_mem_octets {ip : Ipv4} {n : Nat} (h : n ∈ ip.octets) : n < 256 := by
  simp only [octets, List.mem_cons, List.not_mem_nil, or_false] at h
  omega

/-- **Round trip.** The text of an address is read as that address. -/
theorem ofText?_toText (ip : Ipv4) : ofText? ip.toText = some ip := by
  -- the digits have no point in them, so they are what the points part
  have hsplit : Text.splitOn '.' ip.toText = ip.octets.map Decimal.digitsOf := by
    refine Text.splitOn_join (by simp [octets]) fun t ht => ?_
    obtain ⟨n, -, rfl⟩ := List.mem_map.mp ht
    exact Decimal.not_mem_digitsOf rfl
  have hread : (ip.octets.map Decimal.digitsOf).map octet? = ip.octets.map some :=
    map_octet?_eq_iff.mpr ⟨fun _ => lt_of_mem_octets, rfl⟩
  rw [ofText?, hsplit, hread]
  exact congrArg some (ofOctets_octets ip.bits)

/-- **Canonical text.** An address is read from what is written for it and from no other text. -/
theorem ofText?_eq_some_iff {t : Text} {ip : Ipv4} : ofText? t = some ip ↔ t = ip.toText := by
  constructor
  · intro h
    unfold ofText? at h
    split at h
    · next a b c d hoctets =>
      cases h
      have hread : (Text.splitOn '.' t).map octet? = [a, b, c, d].map some := hoctets
      obtain ⟨hlt, hsplit⟩ := map_octet?_eq_iff.mp hread
      simp only [List.forall_mem_cons] at hlt
      obtain ⟨ha, hb, hc, hd, -⟩ := hlt
      -- the parts are the digits of the four octets, and joined by points they are the text
      rw [← Text.join_splitOn '.' t, hsplit, toText, octets_ofOctets ha hb hc hd]
    · cases h
  · rintro rfl
    exact ofText?_toText ip

/-- An address is made of points and digits. -/
theorem eq_or_isDigit_of_mem_toText {ip : Ipv4} {c : Char} (h : c ∈ ip.toText) :
    c = '.' ∨ c.isDigit = true := by
  refine (Text.eq_or_exists_of_mem_join h).imp_right fun ⟨t, ht, hc⟩ => ?_
  obtain ⟨n, -, rfl⟩ := List.mem_map.mp ht
  exact Decimal.isDigit_of_mem_digitsOf hc

/-- The text of an address has no blanks to trim. -/
theorem trim_toText (ip : Ipv4) : Text.trim ip.toText = ip.toText := by
  refine Text.trim_of_not_isBlank fun c hc => ?_
  rcases eq_or_isDigit_of_mem_toText hc with rfl | hdigit
  · rfl
  · exact Decimal.not_isBlank_of_isDigit hdigit

/-! ### Masks -/

/-- **Prefix lengths** are read from the dotted masks and from no other text. -/
theorem prefixLength?_eq_some_iff {t : Text} {p : Nat} :
    prefixLength? t = some p ↔ p ≤ 32 ∧ ofText? (Text.trim t) = some ⟨maskBits p⟩ := by
  unfold prefixLength?
  cases hip : ofText? (Text.trim t) with
  | none => simp
  | some ip =>
    have hbits : ip = ⟨maskBits p⟩ ↔ ip.bits = maskBits p := by
      cases ip
      exact Ipv4.mk.injEq _ _ ▸ Iff.rfl
    -- the two tests of the reader are those of a mask
    rw [Option.some.injEq, hbits, ← leadingOnes_eq_and_contiguous_iff]
    dsimp only
    split
    · next h => rw [Option.some.injEq, and_iff_right h]
    · next h => exact iff_of_false (by simp) fun hmask => h hmask.1

/-- **Round trip.** The text of a mask is read as its prefix length. -/
theorem prefixLength?_toText {p : Nat} (h : p ≤ 32) :
    prefixLength? (Ipv4.mk (maskBits p)).toText = some p := by
  rw [prefixLength?_eq_some_iff, trim_toText]
  exact ⟨h, ofText?_toText _⟩

/-- **Mask conversion** is exact. A text is read as a prefix length if it is, blanks around it
aside, the dotted form of the mask of that length, and as nothing otherwise. The mask has the bits
of the prefix set and its wildcard all others; no shift by all the bits of a word is needed for it.
Above thirty-two there are neither. -/
theorem mask_conversion_exact (t : Text) (p : Nat) :
    (prefixLength? t = some p ↔ p ≤ 32 ∧ ∃ m, netmask? p = some m ∧
      ofText? (Text.trim t) = some m ∧ Text.trim t = m.toText) ∧
    (p ≤ 32 → ∃ m w, netmask? p = some m ∧ wildcard? p = some w ∧ w.bits = ~~~m.bits ∧
      (p ≠ 0 → shiftLeft? (BitVec.allOnes 32) (32 - p) = some m.bits) ∧
      ∀ i < 32, m.bits.getMsbD i = decide (i < p) ∧ w.bits.getMsbD i = decide (p ≤ i)) ∧
    (32 < p → netmask? p = none ∧ wildcard? p = none) := by
  refine ⟨?_, fun h => ?_, fun h => ?_⟩
  · rw [prefixLength?_eq_some_iff]
    refine and_congr_right fun hle => ?_
    rw [netmask?_of_le hle]
    simp [ofText?_eq_some_iff]
  · refine ⟨⟨maskBits p⟩, ⟨~~~maskBits p⟩, netmask?_of_le h, ?_, rfl, shiftLeft?_allOnes,
      fun i hi => ⟨getMsbD_maskBits_of_le h i, ?_⟩⟩
    · rw [wildcard?, netmask?_of_le h, Option.map_some]
    · rw [BitVec.getMsbD_not, getMsbD_maskBits_of_le h, decide_eq_true hi, Bool.true_and,
        ← decide_not, decide_eq_decide, not_lt]
  · have hnone := netmask?_eq_none_iff.mpr h
    exact ⟨hnone, by rw [wildcard?, hnone, Option.map_none]⟩

end Ipv4

/-! ### Records -/

namespace HostAddress

/-- The mask that is written is that of the prefix, or the longest one. -/
theorem netmask_eq (a : HostAddress) :
    a.netmask = ⟨Ipv4.maskBits (min a.prefixLength.toNat 32)⟩ := by
  rw [netmask, Ipv4.netmask?_eq]
  split
  · next h => rw [min_eq_left h, Option.getD_some]
  · next h => rw [min_eq_right (by omega), Option.getD_none]; rfl

/-- **Reading back.** An address beside the mask that is written for it is read as the same address,
with a prefix that is as long as a mask can tell. -/
theorem ofNetmask?_toText (a : HostAddress) : ofNetmask? a.ip.toText a.netmask.toText
    = some ⟨a.ip, UInt8.ofNat (min a.prefixLength.toNat 32)⟩ := by
  have hmask : Ipv4.prefixLength? a.netmask.toText = some (min a.prefixLength.toNat 32) := by
    rw [netmask_eq]
    exact Ipv4.prefixLength?_toText (min_le_right _ _)
  rw [ofNetmask?, Ipv4.ofText?_toText, hmask]
  rfl

/-- It is read as the same record exactly if some mask is that of its prefix. -/
theorem ofNetmask?_eq_self_iff (a : HostAddress) :
    ofNetmask? a.ip.toText a.netmask.toText = some a ↔ a.prefixLength.toNat ≤ 32 := by
  rw [ofNetmask?_toText, Option.some.injEq]
  constructor
  · intro h
    have hlength := congrArg (fun b => b.prefixLength.toNat) h
    dsimp only at hlength
    -- the shorter prefix is the prefix itself only if that is no longer than a mask can tell
    rw [UInt8.toNat_ofNat_of_lt' (by rw [UInt8.size]; omega)] at hlength
    omega
  · intro h
    rw [min_eq_left h, UInt8.ofNat_toNat]

/-- A prefix that is read off a mask is no longer than thirty-two bits. -/
theorem le_of_ofNetmask? {ip mask : Text} {a : HostAddress} (h : ofNetmask? ip mask = some a) :
    a.prefixLength.toNat ≤ 32 := by
  obtain ⟨_, -, h⟩ := Option.bind_eq_some_iff.mp h
  obtain ⟨p, hp, h⟩ := Option.bind_eq_some_iff.mp h
  cases h
  obtain ⟨hle, -⟩ := Ipv4.prefixLength?_eq_some_iff.mp hp
  rwa [UInt8.toNat_ofNat_of_lt' (by rw [UInt8.size]; omega)]

/-- What is written for a record is read as that record, or refused for the length of its prefix. -/
theorem ofText_toText (a : HostAddress) :
    ofText a.toText =
      if a.prefixLength.toNat ≤ 32 then .ok a else .error (.outOfRange a.prefixLength.toNat) := by
  -- the text of an address has no slash, so the first slash is the one before the prefix
  have hsplit : Text.splitOnce? '/' a.toText
      = some (a.ip.toText, Decimal.digitsOf a.prefixLength.toNat) := by
    refine Text.splitOnce?_append (fun hslash => ?_) _
    rcases Ipv4.eq_or_isDigit_of_mem_toText hslash with h | h
    · cases h
    · cases h
  have hlength : Decimal.readNat Decimal.max8 (Decimal.digitsOf a.prefixLength.toNat)
      = .ok a.prefixLength.toNat :=
    Decimal.readNat_digitsOf (Nat.le_of_lt_succ a.prefixLength.toNat_lt)
  simp only [ofText, hsplit, Ipv4.ofText?_toText, hlength, UInt8.ofNat_toNat]

/-- The text of a record is read as that record exactly if its prefix is short enough. -/
theorem ofText_toText_iff (a : HostAddress) :
    ofText a.toText = .ok a ↔ a.prefixLength.toNat ≤ 32 := by
  rw [ofText_toText]
  split
  · next h => exact iff_of_true rfl h
  · next h => exact iff_of_false (by simp) h

/-- A longer prefix is refused when it is read. -/
theorem le_of_ofText {t : Text} {a : HostAddress} (h : ofText t = .ok a) :
    a.prefixLength.toNat ≤ 32 := by
  -- of the ways through the reader, all but one end in a refusal
  unfold ofText at h
  split at h
  · cases h
  · split at h
    · cases h
    · split at h
      · cases h
      · split at h
        · next hle =>
          cases h
          rwa [UInt8.toNat_ofNat_of_lt' (by rw [UInt8.size]; omega)]
        · cases h

/-- **The written forms agree.** A record is read back from the form with a slash, and from its
address beside its mask, exactly if its prefix has at most thirty-two bits; and whatever is read
from either form has such a prefix, so it is read back from what is written for it. -/
theorem written_forms_agree (a : HostAddress) :
    (ofText a.toText = .ok a ↔ a.prefixLength.toNat ≤ 32) ∧
    (ofNetmask? a.ip.toText a.netmask.toText = some a ↔ a.prefixLength.toNat ≤ 32) ∧
    (∀ t, ofText t = .ok a → a.prefixLength.toNat ≤ 32 ∧ ofText a.toText = .ok a) ∧
    ∀ ip mask, ofNetmask? ip mask = some a →
      a.prefixLength.toNat ≤ 32 ∧ ofText a.toText = .ok a := by
  refine ⟨ofText_toText_iff a, ofNetmask?_eq_self_iff a, fun t h => ?_, fun ip mask h => ?_⟩
  · exact ⟨le_of_ofText h, (ofText_toText_iff a).mpr (le_of_ofText h)⟩
  · exact ⟨le_of_ofNetmask? h, (ofText_toText_iff a).mpr (le_of_ofNetmask? h)⟩

end HostAddress

end VendorCli
