/-!
Bit fields of 64-bit words. A field is named by the position of its lowest bit and by its width.
Positions past the last bit of the word read as zero, so every pair of numbers names a field.
-/

namespace GroundStation.Bits

/-- The number held by the `width` bits of `word` whose lowest one is bit `offset`. -/
def field (word : UInt64) (offset width : UInt32) : UInt64 :=
  if width = 0 ∨ 64 ≤ offset then
    0
  else
    let shifted := word >>> offset.toUInt64
    if 64 ≤ width then shifted else shifted &&& ((1 <<< width.toUInt64) - 1)

/-- The 32-bit word whose low `bits` bits are set; all of them from 32 on. -/
def lowMask32 (bits : UInt32) : UInt32 :=
  if 32 ≤ bits then 0xFFFFFFFF else (1 <<< bits) - 1

/-- The 64-bit word whose low `bits` bits are set; all of them from 64 on. -/
def lowMask64 (bits : UInt32) : UInt64 :=
  if 64 ≤ bits then 0xFFFFFFFFFFFFFFFF else (1 <<< bits.toUInt64) - 1

/-- The word as a 32-bit one, or `fallback` if it does not fit. -/
def narrow32 (word : UInt64) (fallback : UInt32) : UInt32 :=
  if word < 0x100000000 then word.toUInt32 else fallback

/-- The word as a signed number of 64 bits, or the greatest one if it does not fit. -/
def signed (word : UInt64) : Int :=
  if word < 0x8000000000000000 then word.toNat else 0x7FFFFFFFFFFFFFFF

/-- The word as a byte, or `fallback` if it does not fit. -/
def narrow8 (word : UInt64) (fallback : UInt8) : UInt8 :=
  if word < 0x100 then word.toUInt8 else fallback

end GroundStation.Bits
