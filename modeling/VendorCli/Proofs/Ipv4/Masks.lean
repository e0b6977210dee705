import Mathlib.Data.List.TakeWhile
import VendorCli.Ipv4.Mask
/-!
# The bits of masks

A mask is told by its bits, counted from the highest: those of its prefix are set, and no other
(`getMsbD_maskBits`). Everything else about masks is read off that:

* the mask of a prefix length up to thirty-two is made without a shift by all the bits of a word
  (`shiftLeft?_allOnes`, `netmask?_eq`);
* its set bits are counted as its prefix length (`leadingOnes_maskBits`);
* nothing is left of a word once its leading ones are shifted out exactly if it is the mask of as
  many bits (`shiftLeft?_leadingOnes_iff`). So no word with a set bit behind a cleared one passes
  for a mask.
-/

namespace VendorCli.Ipv4

/-! ### Masks -/

/-- A bit of a mask is set if the shift has not filled its place with zeros. -/
theorem getMsbD_maskBits (p i : Nat) :
    (maskBits p).getMsbD i = decide (i + (32 - p) < 32) := by
  rw [maskBits, BitVec.getMsbD_shiftLeft, BitVec.getMsbD_allOnes]

/-- The bits of a mask are those of its prefix. -/
theorem getMsbD_maskBits_of_le {p : Nat} (h : p ≤ 32) (i : Nat) :
    (maskBits p).getMsbD i = decide (i < p) := by
  rw [getMsbD_maskBits, decide_eq_decide]
  omega

/-- Every mask but the empty one is made by a shift of fewer bits than a word has. -/
theorem shiftLeft?_allOnes {p : Nat} (h : p ≠ 0) :
    shiftLeft? (BitVec.allOnes 32) (32 - p) = some (maskBits p) :=
  if_pos (by omega)

/-- **Masks.** Every prefix length up to thirty-two has a mask, and no other. -/
theorem netmask?_eq (p : Nat) : netmask? p = if p ≤ 32 then some ⟨maskBits p⟩ else none := by
  unfold netmask?
  split
  · next h =>
    subst h
    rfl
  · next h => rw [shiftLeft?_allOnes h, Option.map_some]

theorem netmask?_of_le {p : Nat} (h : p ≤ 32) : netmask? p = some ⟨maskBits p⟩ := by
  rw [netmask?_eq, if_pos h]

theorem netmask?_eq_none_iff {p : Nat} : netmask? p = none ↔ 32 < p := by
  rw [netmask?_eq, ite_eq_right_iff]
  simp

/-! ### Leading ones -/

/-- What is taken off the front of the first numbers is an initial piece of them. -/
theorem takeWhile_range (f : Nat → Bool) (n : Nat) :
    (List.range n).takeWhile f = List.range ((List.range n).takeWhile f).length := by
  -- the piece is the first of the numbers, so it is counted by its length
  have hprefix := List.prefix_iff_eq_take.mp (List.takeWhile_prefix (l := List.range n) f)
  have hle : ((List.range n).takeWhile f).length ≤ n := by
    simpa using (List.takeWhile_prefix (l := List.range n) f).length_le
  rwa [List.take_range, min_eq_left hle] at hprefix

theorem leadingOnes_le (w : BitVec 32) : leadingOnes w ≤ 32 := by
  simpa [leadingOnes] using (List.takeWhile_prefix (l := List.range 32) (w.getMsbD ·)).length_le

/-- The leading ones are set. -/
theorem getMsbD_of_lt_leadingOnes {w : BitVec 32} {i : Nat} (h : i < leadingOnes w) :
    w.getMsbD i = true := by
  have hmem : i ∈ (List.range 32).takeWhile fun i => w.getMsbD i := by
    rw [takeWhile_range]
    exact List.mem_range.mpr h
  exact List.mem_takeWhile_imp hmem

/-- Of the first numbers, those below a bound are as many as the bound. -/
theorem length_takeWhile_range {p n : Nat} (h : p ≤ n) :
    ((List.range n).takeWhile fun i => i < p).length = p := by
  obtain ⟨k, rfl⟩ := Nat.exists_eq_add_of_le h
  have hfront : ∀ i ∈ List.range p, decide (i < p) = true := by simp
  have hback : ((List.range k).map (p + ·)).takeWhile (fun i => decide (i < p)) = [] := by
    cases k with
    | zero => rfl
    | succ k => simp [List.range_succ_eq_map]
  -- all the numbers below `p` are taken, and the first one after them is not
  rw [List.range_add, List.takeWhile_append_of_pos hfront, hback, List.append_nil,
    List.length_range]

/-- A mask has the bits of its prefix set at its front, and no other. -/
theorem leadingOnes_maskBits {p : Nat} (h : p ≤ 32) : leadingOnes (maskBits p) = p := by
  rw [leadingOnes, funext (getMsbD_maskBits_of_le h)]
  exact length_takeWhile_range h

/-- Nothing is left of a word that is shifted if no bit is set behind those that are shifted out. -/
theorem shiftLeft?_eq_zero_iff {w : BitVec 32} {n : Nat} :
    (shiftLeft? w n).getD 0 = 0 ↔ ∀ i, n ≤ i → w.getMsbD i = false := by
  unfold shiftLeft?
  split
  · rw [Option.getD_some]
    constructor
    · intro h i hi
      -- the bit at `i` has moved `n` places to the front
      have hbit := congrArg (BitVec.getMsbD · (i - n)) h
      rwa [BitVec.getMsbD_shiftLeft, Nat.sub_add_cancel hi, BitVec.ofNat_eq_ofNat,
        BitVec.getMsbD_zero] at hbit
    · intro h
      refine BitVec.eq_of_getMsbD_eq fun i _ => ?_
      rw [BitVec.getMsbD_shiftLeft, h (i + n) (by omega), BitVec.ofNat_eq_ofNat,
        BitVec.getMsbD_zero]
  · -- all bits of the word are shifted out
    rw [Option.getD_none]
    exact iff_of_true rfl fun i hi => BitVec.getMsbD_of_ge w i (by omega)

/-- **Contiguous words.** Nothing is left once the leading ones are shifted out exactly if the word
is the mask of as many bits. -/
theorem shiftLeft?_leadingOnes_iff {w : BitVec 32} :
    (shiftLeft? w (leadingOnes w)).getD 0 = 0 ↔ w = maskBits (leadingOnes w) := by
  have hle := leadingOnes_le w
  rw [shiftLeft?_eq_zero_iff]
  constructor
  · intro h
    -- bit by bit, those of the prefix and those behind it
    refine BitVec.eq_of_getMsbD_eq fun i _ => ?_
    rw [getMsbD_maskBits_of_le hle]
    by_cases hi : i < leadingOnes w
    · rw [getMsbD_of_lt_leadingOnes hi, decide_eq_true hi]
    · rw [h i (by omega), decide_eq_false hi]
  · intro h i hi
    rw [h, getMsbD_maskBits_of_le hle]
    exact decide_eq_false (by omega)

/-- **Words with a prefix length** are the masks. -/
theorem leadingOnes_eq_and_contiguous_iff {w : BitVec 32} {p : Nat} :
    (shiftLeft? w (leadingOnes w)).getD 0 = 0 ∧ leadingOnes w = p ↔ p ≤ 32 ∧ w = maskBits p := by
  rw [shiftLeft?_leadingOnes_iff]
  constructor
  · rintro ⟨h, rfl⟩
    exact ⟨leadingOnes_le w, h⟩
  · rintro ⟨hle, rfl⟩
    rw [leadingOnes_maskBits hle]
    exact ⟨rfl, rfl⟩

end VendorCli.Ipv4
