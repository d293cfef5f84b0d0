import GroundStation.Vehicle.Layout
import Mathlib.Algebra.BigOperators.Group.Finset.Basic

/-!
The fields of a word as numbers. A field is what a division and a remainder by powers of two leave of
the word, so it is smaller than the power of two of its width. Fields that are packed one behind the
other are read back, whatever stands above them. A layout that is in order leaves the page field 32
bits at most, so the page number of a heartbeat report is never cut.
-/

namespace GroundStation

namespace Bits

theorem toNat_low_bits {width : UInt32} (hwidth : width < 64) :
    (((1 : UInt64) <<< width.toUInt64) - 1).toNat = 2 ^ width.toNat - 1 := by
  have hbits : width.toNat < 64 := UInt32.lt_iff_toNat_lt.mp hwidth
  have hpow : 2 ^ width.toNat < 2 ^ 64 := Nat.pow_lt_pow_right (by decide) hbits
  have hshift : ((1 : UInt64) <<< width.toUInt64).toNat = 2 ^ width.toNat := by
    rw [UInt64.toNat_shiftLeft, UInt32.toNat_toUInt64, Nat.mod_eq_of_lt hbits]
    simpa [Nat.shiftLeft_eq] using hpow
  have hone : (1 : UInt64) ≤ 1 <<< width.toUInt64 := by
    rw [UInt64.le_iff_toNat_le, hshift]
    exact Nat.two_pow_pos _
  rw [UInt64.toNat_sub_of_le _ _ hone, hshift]
  rfl

/-- A field is the quotient by the bits below it, cut to its width. -/
theorem toNat_field (word : UInt64) (offset width : UInt32) :
    (field word offset width).toNat = word.toNat / 2 ^ offset.toNat % 2 ^ width.toNat := by
  have hword : word.toNat < 2 ^ 64 := word.toNat_lt
  unfold field
  split
  · rename_i hnothing
    rcases hnothing with rfl | hpast
    · exact (Nat.mod_one _).symm
    · have hbits : 64 ≤ offset.toNat := UInt32.le_iff_toNat_le.mp hpast
      have hbelow : word.toNat < 2 ^ offset.toNat :=
        Nat.lt_of_lt_of_le hword (Nat.pow_le_pow_right (by decide) hbits)
      rw [Nat.div_eq_of_lt hbelow, Nat.zero_mod]
      rfl
  · rename_i hinside
    obtain ⟨_, hbits⟩ := not_or.mp hinside
    have hoffset : offset.toNat < 64 := UInt32.lt_iff_toNat_lt.mp (UInt32.not_le.mp hbits)
    have hshifted : (word >>> offset.toUInt64).toNat = word.toNat / 2 ^ offset.toNat := by
      rw [UInt64.toNat_shiftRight, UInt32.toNat_toUInt64, Nat.mod_eq_of_lt hoffset,
        Nat.shiftRight_eq_div_pow]
    dsimp only
    split
    · rename_i hwide
      have hwidth : 64 ≤ width.toNat := UInt32.le_iff_toNat_le.mp hwide
      have hbelow : word.toNat / 2 ^ offset.toNat < 2 ^ width.toNat :=
        Nat.lt_of_le_of_lt (Nat.div_le_self _ _)
          (Nat.lt_of_lt_of_le hword (Nat.pow_le_pow_right (by decide) hwidth))
      rw [hshifted, Nat.mod_eq_of_lt hbelow]
    · rename_i hnarrow
      rw [UInt64.toNat_and, toNat_low_bits (UInt32.not_le.mp hnarrow), hshifted,
        Nat.and_two_pow_sub_one_eq_mod]

theorem field_lt (word : UInt64) (offset width : UInt32) :
    (field word offset width).toNat < 2 ^ width.toNat := by
  rw [toNat_field]
  exact Nat.mod_lt _ (Nat.two_pow_pos _)

theorem field_lt_of_width_le (word : UInt64) (offset : UInt32) {width : UInt32} {bits : Nat}
    (hwidth : width.toNat ≤ bits) : (field word offset width).toNat < 2 ^ bits :=
  Nat.lt_of_lt_of_le (field_lt word offset width) (Nat.pow_le_pow_right (by decide) hwidth)

/-- A field of at most 32 bits fits into a 32-bit word. -/
theorem toNat_narrow32_field (word : UInt64) (offset : UInt32) {width : UInt32}
    (hwidth : width ≤ 32) (fallback : UInt32) :
    (narrow32 (field word offset width) fallback).toNat = (field word offset width).toNat := by
  have hlt : (field word offset width).toNat < 2 ^ 32 :=
    field_lt_of_width_le word offset (UInt32.le_iff_toNat_le.mp hwidth)
  unfold narrow32
  rw [if_pos (UInt64.lt_iff_toNat_lt.mpr hlt), UInt64.toNat_toUInt32, Nat.mod_eq_of_lt hlt]

/-- A number below 256 fits into a byte. -/
theorem narrow8_of_lt {word : UInt64} (hword : word.toNat < 2 ^ 8) (fallback : UInt8) :
    narrow8 word fallback = UInt8.ofNat word.toNat := by
  unfold narrow8
  rw [if_pos (UInt64.lt_iff_toNat_lt.mpr hword)]
  apply UInt8.toNat_inj.mp
  rw [UInt64.toNat_toUInt8, UInt8.toNat_ofNat']

/-- The lowest bit of a field, when fields of the given widths stand one behind the other. -/
def place (widths : Nat → Nat) (index : Nat) : Nat :=
  ∑ earlier ∈ Finset.range index, widths earlier

/-- The word that holds the given numbers in fields that stand one behind the other. -/
def pack (widths numbers : Nat → Nat) (count : Nat) : Nat :=
  ∑ index ∈ Finset.range count, numbers index * 2 ^ place widths index

section Packing

variable {widths numbers : Nat → Nat}

theorem place_succ (widths : Nat → Nat) (index : Nat) :
    place widths (index + 1) = place widths index + widths index :=
  Finset.sum_range_succ _ _

theorem place_mono (widths : Nat → Nat) : Monotone (place widths) := by
  apply monotone_nat_of_le_succ
  intro index
  rw [place_succ]
  exact Nat.le_add_right _ _

theorem pack_succ (widths numbers : Nat → Nat) (count : Nat) :
    pack widths numbers (count + 1) =
      pack widths numbers count + numbers count * 2 ^ place widths count :=
  Finset.sum_range_succ _ _

theorem pack_lt {count : Nat} (hnumbers : ∀ index < count, numbers index < 2 ^ widths index) :
    pack widths numbers count < 2 ^ place widths count := by
  induction count with
  | zero => exact Nat.one_pos
  | succ count ih =>
      have hbelow := ih fun index hindex => hnumbers index (Nat.lt_succ_of_lt hindex)
      have hlast : numbers count + 1 ≤ 2 ^ widths count := hnumbers count (Nat.lt_succ_self count)
      calc pack widths numbers (count + 1)
          = pack widths numbers count + numbers count * 2 ^ place widths count := pack_succ _ _ _
        _ < 2 ^ place widths count + numbers count * 2 ^ place widths count :=
            Nat.add_lt_add_right hbelow _
        _ = (numbers count + 1) * 2 ^ place widths count := by rw [Nat.succ_mul, Nat.add_comm]
        _ ≤ 2 ^ widths count * 2 ^ place widths count := Nat.mul_le_mul_right _ hlast
        _ = 2 ^ place widths (count + 1) := by rw [place_succ, Nat.pow_add, Nat.mul_comm]

/-- A packed number is read back at its place, whatever stands above the packed fields. -/
theorem pack_div_mod {count : Nat} (hnumbers : ∀ index < count, numbers index < 2 ^ widths index)
    (high : Nat) {index : Nat} (hindex : index < count) :
    (pack widths numbers count + high * 2 ^ place widths count) / 2 ^ place widths index %
      2 ^ widths index = numbers index := by
  induction count generalizing high with
  | zero => exact absurd hindex (Nat.not_lt_zero index)
  | succ count ih =>
      have hfewer : ∀ index < count, numbers index < 2 ^ widths index :=
        fun index hindex => hnumbers index (Nat.lt_succ_of_lt hindex)
      have hsplit : pack widths numbers (count + 1) + high * 2 ^ place widths (count + 1) =
          pack widths numbers count +
            (numbers count + 2 ^ widths count * high) * 2 ^ place widths count := by
        rw [pack_succ, place_succ, Nat.pow_add, Nat.add_mul, Nat.add_assoc]
        ac_rfl
      rw [hsplit]
      rcases Nat.lt_succ_iff_lt_or_eq.mp hindex with hbefore | rfl
      · exact ih hfewer _ hbefore
      · rw [Nat.add_mul_div_right _ _ (Nat.two_pow_pos _), Nat.div_eq_of_lt (pack_lt hfewer),
          Nat.zero_add, Nat.add_mul_mod_self_left]
        exact Nat.mod_eq_of_lt (hnumbers index hindex)

/-- The fields of a word, packed again, are the low bits of the word. -/
theorem pack_fields (widths : Nat → Nat) (word count : Nat) :
    pack widths (fun index => word / 2 ^ place widths index % 2 ^ widths index) count =
      word % 2 ^ place widths count := by
  induction count with
  | zero => exact (Nat.mod_one word).symm
  | succ count ih =>
      rw [pack_succ, ih, place_succ, Nat.pow_add, Nat.mod_mul,
        Nat.mul_comm (2 ^ place widths count)]

end Packing

end Bits

end GroundStation
