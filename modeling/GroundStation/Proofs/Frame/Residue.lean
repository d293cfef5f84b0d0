import Mathlib.Algebra.Group.Nat.Defs
import GroundStation.Frame.Checksum

/-!
The checksum as a residue. Folding a carry back in subtracts a multiple of 65535, and a sum that is
not zero never becomes zero by it. So the folded sum is the remainder by 65535, with 65535 in the
place of zero unless there was nothing to add at all: two byte strings have the same checksum
exactly when their sums of words have the same remainder and both or neither of the sums are zero.
-/

namespace GroundStation.Frame

/-- The sum of the little-endian words of a byte string. An odd last byte counts as it is. -/
def wordSum : List UInt8 → Nat
  | [] => 0
  | [last] => last.toNat
  | low :: high :: rest => low.toNat + 256 * high.toNat + wordSum rest

/-- What is left of a sum when no carry is left. -/
def folded (sum : Nat) : Nat :=
  if sum = 0 then 0 else (sum - 1) % 65535 + 1

theorem wordSum_append {words : List UInt8} (heven : words.length % 2 = 0) (rest : List UInt8) :
    wordSum (words ++ rest) = wordSum words + wordSum rest := by
  fun_induction wordSum words with
  | case1 => simp
  | case2 last => cases heven
  | case3 low high more ih =>
      have hmore : more.length % 2 = 0 := by
        simp only [List.length_cons] at heven
        omega
      rw [List.cons_append, List.cons_append, wordSum, ih hmore]
      exact (Nat.add_assoc _ _ _).symm

theorem wordSum_le (bytes : List UInt8) : wordSum bytes ≤ 65535 * bytes.length := by
  fun_induction wordSum bytes with
  | case1 => exact Nat.zero_le _
  | case2 last =>
      have hlast := last.toNat_lt
      simp only [List.length_singleton]
      omega
  | case3 low high rest ih =>
      have hlow := low.toNat_lt
      have hhigh := high.toNat_lt
      simp only [List.length_cons]
      omega

/-- The register does not overflow as long as the sum fits into it. -/
theorem toNat_addWords {sum : UInt64} {bytes : List UInt8}
    (hfits : sum.toNat + wordSum bytes < 2 ^ 64) :
    (addWords sum bytes).toNat = sum.toNat + wordSum bytes := by
  fun_induction addWords sum bytes with
  | case1 sum => rfl
  | case2 sum last =>
      rw [wordSum] at hfits ⊢
      rw [UInt64.toNat_add, UInt8.toNat_toUInt64, Nat.mod_eq_of_lt hfits]
  | case3 sum low high rest ih =>
      rw [wordSum] at hfits ⊢
      have hlow := low.toNat_lt
      have hhigh := high.toNat_lt
      have hshift : (high.toUInt64 <<< 8).toNat = 256 * high.toNat := by
        rw [UInt64.toNat_shiftLeft, UInt8.toNat_toUInt64, Nat.shiftLeft_eq]
        change high.toNat * 2 ^ 8 % 2 ^ 64 = _
        omega
      have hword : (sum + (low.toUInt64 + (high.toUInt64 <<< 8))).toNat =
          sum.toNat + (low.toNat + 256 * high.toNat) := by
        rw [UInt64.toNat_add, UInt64.toNat_add, hshift, UInt8.toNat_toUInt64]
        omega
      rw [ih (by omega), hword]
      omega

/-- A carry counts 65536 where it stands and one where it is folded to. -/
theorem folded_fold {sum : Nat} (hcarries : sum / 65536 ≠ 0) :
    folded (sum % 65536 + sum / 65536) = folded sum := by
  have hsum : 65536 * (sum / 65536) + sum % 65536 = sum := Nat.div_add_mod sum 65536
  have hshift : sum - 1 = sum % 65536 + sum / 65536 - 1 + 65535 * (sum / 65536) := by omega
  unfold folded
  rw [if_neg (by omega), if_neg (by omega), hshift, Nat.add_mul_mod_self_left]

def foldOnce (sum : UInt64) : UInt64 :=
  (sum &&& 0xFFFF : UInt64) + (sum >>> 16 : UInt64)

theorem toNat_carries (sum : UInt64) : (sum >>> 16 : UInt64).toNat = sum.toNat / 65536 := by
  simp [UInt64.toNat_shiftRight, Nat.shiftRight_eq_div_pow]

theorem carries_eq_zero_iff (sum : UInt64) : (sum >>> 16 : UInt64) = 0 ↔ sum.toNat / 65536 = 0 := by
  rw [← UInt64.toNat_inj, toNat_carries]
  rfl

theorem toNat_foldOnce (sum : UInt64) :
    (foldOnce sum).toNat = sum.toNat % 65536 + sum.toNat / 65536 := by
  have hlow : (sum &&& 0xFFFF : UInt64).toNat = sum.toNat % 65536 := by
    rw [UInt64.toNat_and]
    exact Nat.and_two_pow_sub_one_eq_mod _ 16
  have hbound := sum.toNat_lt
  rw [foldOnce, UInt64.toNat_add, hlow, toNat_carries, Nat.mod_eq_of_lt (by omega)]

/-- Folding until there is no carry gives the residue. -/
theorem toNat_foldCarries (sum : UInt64) : (foldCarries sum).toNat = folded sum.toNat := by
  fun_induction foldCarries sum with
  | case1 sum hdone =>
      have hsmall := (carries_eq_zero_iff sum).mp hdone
      unfold folded
      split <;> omega
  | case2 sum hcarries ih =>
      have hlarge := mt (carries_eq_zero_iff sum).mpr hcarries
      exact (ih.trans (congrArg folded (toNat_foldOnce sum))).trans (folded_fold hlarge)

theorem folded_le (sum : Nat) : folded sum ≤ 65535 := by
  unfold folded
  split <;> omega

theorem toNat_addWords_zero {bytes : List UInt8} (hfits : wordSum bytes < 2 ^ 64) :
    (addWords 0 bytes).toNat = wordSum bytes := by
  rw [toNat_addWords (by simpa using hfits)]
  exact Nat.zero_add _

/-- The checksum is the complement of the folded sum. -/
theorem toNat_checksum {bytes : List UInt8} (hfits : wordSum bytes < 2 ^ 64) :
    (checksum bytes).toNat = 65535 - folded (wordSum bytes) := by
  have hfolded := folded_le (wordSum bytes)
  rw [checksum, UInt16.toNat_not, UInt64.toNat_toUInt16, toNat_foldCarries,
    toNat_addWords_zero hfits]
  change 65536 - 1 - _ % 65536 = _
  omega

/-- Two sums fold to the same word if they agree modulo 65535 and as to whether they are zero. -/
theorem folded_eq_iff {sum other : Nat} :
    folded sum = folded other ↔
      sum % 65535 = other % 65535 ∧ (sum = 0 ↔ other = 0) := by
  unfold folded
  split <;> split <;> omega

/-- Byte strings have the same checksum exactly when their sums have the same remainder and both or
neither of them are zero. -/
theorem checksum_eq_iff {bytes other : List UInt8} (hbytes : wordSum bytes < 2 ^ 64)
    (hother : wordSum other < 2 ^ 64) :
    checksum bytes = checksum other ↔
      wordSum bytes % 65535 = wordSum other % 65535 ∧ (wordSum bytes = 0 ↔ wordSum other = 0) := by
  rw [← folded_eq_iff, ← UInt16.toNat_inj, toNat_checksum hbytes, toNat_checksum hother]
  have hfolded := folded_le (wordSum bytes)
  have hfolded' := folded_le (wordSum other)
  omega

end GroundStation.Frame
