import GroundStation.Proofs.Frame.ErrorDetection

/-!
The checksum of a byte string of any length at which the register cannot overflow. The loop that
folds the carries back in goes round four times at most, and the checksum is the complement of the
remainder of the sum, with 65535 in the place of a remainder zero. Two strings collide exactly when
their sums have the same remainder and both or neither of the sums are zero. Another byte at one
position changes the sum by less than 65535, so it never goes unnoticed, and neither does a single
bit that is turned over.
-/

namespace GroundStation.Frame

/-! ### The rounds of the loop -/

/-- Folding goes round as long as there are carries; after the given count of rounds it stops with
`result`. -/
inductive Folds : (rounds : Nat) → (sum result : UInt64) → Prop where
  | stop {sum : UInt64} (hdone : (sum >>> 16 : UInt64) = 0) : Folds 0 sum sum
  | round {rounds : Nat} {sum result : UInt64} (hcarries : (sum >>> 16 : UInt64) ≠ 0)
      (hlater : Folds rounds (foldOnce sum) result) : Folds (rounds + 1) sum result

/-- Sums up to this one are folded in the given count of rounds. -/
def roundLimit : (rounds : Nat) → Nat
  | 0 => 65535
  | 1 => 131070
  | rounds + 2 => 65536 * (roundLimit (rounds + 1) - 65535) + 65535

theorem le_roundLimit (rounds : Nat) : 131070 ≤ roundLimit (rounds + 1) := by
  induction rounds with
  | zero => exact Nat.le_refl _
  | succ rounds ih =>
      rw [roundLimit]
      omega

/-- A round takes a sum below the next lower limit. -/
theorem toNat_foldOnce_le {rounds : Nat} {sum : UInt64}
    (hlimit : sum.toNat ≤ roundLimit (rounds + 1)) : (foldOnce sum).toNat ≤ roundLimit rounds := by
  rw [toNat_foldOnce]
  cases rounds with
  | zero =>
      simp only [roundLimit] at hlimit ⊢
      omega
  | succ rounds =>
      have hlarge := le_roundLimit rounds
      rw [roundLimit] at hlimit
      omega

/-- Within its limit, a sum is folded in the given number of rounds. -/
theorem exists_folds {rounds : Nat} {sum : UInt64} (hlimit : sum.toNat ≤ roundLimit rounds) :
    ∃ taken ≤ rounds, Folds taken sum (foldCarries sum) := by
  induction rounds generalizing sum with
  | zero =>
      have hdone : (sum >>> 16 : UInt64) = 0 := by
        rw [carries_eq_zero_iff]
        simp only [roundLimit] at hlimit
        omega
      rw [foldCarries, if_pos hdone]
      exact ⟨0, Nat.le_refl _, .stop hdone⟩
  | succ rounds ih =>
      by_cases hdone : (sum >>> 16 : UInt64) = 0
      · rw [foldCarries, if_pos hdone]
        exact ⟨0, Nat.zero_le _, .stop hdone⟩
      · obtain ⟨taken, htaken, hlater⟩ := ih (toNat_foldOnce_le hlimit)
        rw [foldCarries, if_neg hdone]
        exact ⟨taken + 1, Nat.succ_le_succ htaken, .round hdone hlater⟩

/-! ### Another byte in the string -/

/-- What a unit of a byte counts in the sum: the bytes at odd positions are the high ones. -/
def weight : (position : Nat) → Nat
  | 0 => 1
  | 1 => 256
  | position + 2 => weight position

theorem weight_eq (position : Nat) : weight position = 1 ∨ weight position = 256 := by
  fun_induction weight position with
  | case1 => exact .inl rfl
  | case2 => exact .inr rfl
  | case3 position ih => exact ih

/-- Replacing a byte takes its share out of the sum and adds the share of the new one. -/
theorem wordSum_set {bytes : List UInt8} {position : Nat} (hinside : position < bytes.length)
    (byte : UInt8) :
    wordSum (bytes.set position byte) + weight position * bytes[position].toNat =
      wordSum bytes + weight position * byte.toNat := by
  fun_induction wordSum bytes generalizing position with
  | case1 => cases hinside
  | case2 last =>
      obtain rfl : position = 0 := by simpa using hinside
      simp only [List.set_cons_zero, List.getElem_cons_zero, wordSum, weight]
      omega
  | case3 low high rest ih =>
      rcases position with _ | _ | position
      · simp only [List.set_cons_zero, List.getElem_cons_zero, wordSum, weight]
        omega
      · simp only [List.set_cons_succ, List.set_cons_zero, List.getElem_cons_succ,
          List.getElem_cons_zero, wordSum, weight]
        omega
      · have hrest : position < rest.length := by simpa using hinside
        have hlater := ih hrest
        simp only [List.set_cons_succ, List.getElem_cons_succ, wordSum, weight]
        omega

section Length

variable {bytes : List UInt8} (hlength : bytes.length < 2 ^ 48)

include hlength

theorem wordSum_lt : wordSum bytes < 2 ^ 64 - 2 ^ 48 := by
  have hbound := wordSum_le bytes
  omega

/-- Four rounds of folding are enough for every list of bytes. -/
theorem exists_folds_addWords :
    ∃ rounds ≤ 4, Folds rounds (addWords 0 bytes) (foldCarries (addWords 0 bytes)) := by
  have hsum := wordSum_lt hlength
  apply exists_folds
  rw [toNat_addWords_zero (by omega)]
  simp only [roundLimit]
  omega

/-- Another byte in one place changes the checksum. -/
theorem checksum_set_ne {position : Nat} (hinside : position < bytes.length) {byte : UInt8}
    (hother : byte ≠ bytes[position]) : checksum (bytes.set position byte) ≠ checksum bytes := by
  have hset : (bytes.set position byte).length < 2 ^ 48 := by rwa [List.length_set]
  have hsum := wordSum_lt hlength
  have hsum' := wordSum_lt hset
  have hshares := wordSum_set hinside byte
  have hbyte := byte.toNat_lt
  have hold := bytes[position].toNat_lt
  have hdiffer : byte.toNat ≠ bytes[position].toNat := mt UInt8.toNat_inj.mp hother
  rw [ne_eq, checksum_eq_iff (by omega) (by omega)]
  rintro ⟨hresidue, -⟩
  rcases weight_eq position with hweight | hweight <;> rw [hweight] at hshares <;> omega

/-- A turned bit changes the checksum. -/
theorem checksum_flipBit_ne {position : Nat} (hinside : position < bytes.length) (bit : Fin 8) :
    checksum (flipBit bytes position bit) ≠ checksum bytes := by
  have hbyte : bytes.getD position 0 = bytes[position] := (List.getElem_eq_getD 0).symm
  rw [flipBit, hbyte]
  exact checksum_set_ne hlength hinside (turned_ne _ bit)

end Length

/-- Let a byte string be so short that the register cannot overflow. Folding its sum of words ends
after four rounds at most, and the checksum is the complement of the remainder of the sum by 65535,
where 65535 stands for a remainder zero of a sum that is not zero. It is the checksum of another
such string exactly if the sums have the same remainder and both or neither of them are zero.
Turning over any bit of the string changes it. -/
theorem checksum_is_residue {bytes : List UInt8} (hlength : bytes.length < 2 ^ 48) :
    let sum := wordSum bytes
    (addWords 0 bytes).toNat = sum ∧
      (∃ rounds ≤ 4, Folds rounds (addWords 0 bytes) (foldCarries (addWords 0 bytes))) ∧
      (checksum bytes).toNat = (if sum = 0 then 0xFFFF else 65535 - ((sum - 1) % 65535 + 1)) ∧
      (∀ other : List UInt8, other.length < 2 ^ 48 →
        (checksum bytes = checksum other ↔
          sum % 65535 = wordSum other % 65535 ∧ (sum = 0 ↔ wordSum other = 0))) ∧
      ∀ position < bytes.length, ∀ bit, checksum (flipBit bytes position bit) ≠ checksum bytes := by
  intro sum
  have hsum := wordSum_lt hlength
  refine ⟨toNat_addWords_zero (by omega), exists_folds_addWords hlength, ?_, ?_, ?_⟩
  · rw [toNat_checksum (by omega), folded, apply_ite (65535 - ·)]
  · intro other hother
    have hsum' := wordSum_lt hother
    exact checksum_eq_iff (by omega) (by omega)
  · intro position hinside bit
    exact checksum_flipBit_ne hlength hinside bit

/-- Strings of three and of two bytes have the same checksum although their sums differ. Two sums
with remainder zero do not give the same checksum if only one of them is zero. The top bit of an odd
last byte shows when it is turned over. -/
theorem checksum_is_residue_odd_length :
    let odd : List UInt8 := [0xFF, 0xFF, 0x80]
    let full : List UInt8 := [0xFF, 0xFF]
    odd.length < 2 ^ 48 ∧ wordSum odd = 0x1007F ∧ (checksum odd).toNat = 0xFF7F ∧
      wordSum [0x80, 0x00] = 0x80 ∧ checksum odd = checksum [0x80, 0x00] ∧
      checksum (flipBit odd 2 7) ≠ checksum odd ∧ full.length < 2 ^ 48 ∧
      checksum full ≠ checksum [0x00, 0x00] := by
  intro odd full
  have hodd : odd.length < 2 ^ 48 := by decide
  have hfull : full.length < 2 ^ 48 := by decide
  obtain ⟨_, _, hvalue, hcollision, hbits⟩ := checksum_is_residue hodd
  obtain ⟨_, _, _, hzero, _⟩ := checksum_is_residue hfull
  refine ⟨hodd, by decide, hvalue.trans (by decide), by decide, ?_, ?_, hfull, ?_⟩
  · exact (hcollision [0x80, 0x00] (by decide)).mpr (by decide)
  · exact hbits 2 (by decide) 7
  · exact mt (hzero [0x00, 0x00] (by decide)).mp (by decide)

end GroundStation.Frame
