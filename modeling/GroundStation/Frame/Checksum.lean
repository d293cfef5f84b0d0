/-!
The 16-bit one's-complement checksum of a byte string. The string is cut into little-endian words,
an odd last byte counting as its own value; the words are added in a 64-bit register, carries above
bit 15 are folded back in until none is left, and the result is complemented.
-/

namespace GroundStation.Frame

/-- Adds the little-endian words of `bytes` to `sum`. -/
def addWords (sum : UInt64) : List UInt8 → UInt64
  | [] => sum
  | [last] => sum + last.toUInt64
  | low :: high :: rest => addWords (sum + (low.toUInt64 + (high.toUInt64 <<< 8))) rest

private theorem folded_lt (sum : UInt64) (carries : ¬ (sum >>> 16 : UInt64) = 0) :
    ((sum &&& 0xFFFF : UInt64) + (sum >>> 16 : UInt64)).toNat < sum.toNat := by
  have hshift : (sum >>> 16 : UInt64).toNat = sum.toNat / 65536 := by
    simp [UInt64.toNat_shiftRight, Nat.shiftRight_eq_div_pow]
  have hmask : (sum &&& 0xFFFF : UInt64).toNat = sum.toNat % 65536 := by
    rw [UInt64.toNat_and]
    exact Nat.and_two_pow_sub_one_eq_mod _ 16
  have hpos : (sum >>> 16 : UInt64).toNat ≠ 0 := by
    intro hzero
    exact carries (UInt64.toNat_inj.mp (by simpa using hzero))
  have hbound : sum.toNat < 2 ^ 64 := sum.toNat_lt
  rw [UInt64.toNat_add, hshift, hmask]
  rw [hshift] at hpos
  rw [Nat.mod_eq_of_lt (by omega)]
  omega

/-- Folds the carries above bit 15 back into the low 16 bits until none is left. -/
def foldCarries (sum : UInt64) : UInt64 :=
  if (sum >>> 16 : UInt64) = 0 then sum
  else foldCarries ((sum &&& 0xFFFF : UInt64) + (sum >>> 16 : UInt64))
termination_by sum.toNat
decreasing_by exact folded_lt sum (by assumption)

/-- The checksum that a frame carries for its payload. -/
def checksum (bytes : List UInt8) : UInt16 :=
  ~~~(foldCarries (addWords 0 bytes)).toUInt16

end GroundStation.Frame
