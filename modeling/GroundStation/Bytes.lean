/-!
Little-endian numbers on byte lists. `ofNat` writes a number into a fixed count of bytes, least
significant byte first, and drops what does not fit; `value` reads a byte list of any length back.
-/

namespace GroundStation.Bytes

/-- The low `count` bytes of `value`, least significant first. -/
def ofNat : (count value : Nat) → List UInt8
  | 0, _ => []
  | count + 1, value => UInt8.ofNat value :: ofNat count (value / 256)

/-- The number whose bytes, least significant first, are the given ones. -/
def value : List UInt8 → Nat
  | [] => 0
  | byte :: rest => byte.toNat + 256 * value rest

@[simp] theorem ofNat_zero (n : Nat) : ofNat 0 n = [] := rfl

@[simp] theorem ofNat_succ (count n : Nat) :
    ofNat (count + 1) n = UInt8.ofNat n :: ofNat count (n / 256) := rfl

@[simp] theorem value_nil : value [] = 0 := rfl

@[simp] theorem value_cons (byte : UInt8) (rest : List UInt8) :
    value (byte :: rest) = byte.toNat + 256 * value rest := rfl

@[simp] theorem length_ofNat (count n : Nat) : (ofNat count n).length = count := by
  induction count generalizing n with
  | zero => rfl
  | succ count ih => simp [ih]

/-- A byte list is the written form of its own value. -/
theorem ofNat_value (bytes : List UInt8) : ofNat bytes.length (value bytes) = bytes := by
  induction bytes with
  | nil => rfl
  | cons byte rest ih =>
      have small : byte.toNat < 256 := byte.toNat_lt
      have shifted : (byte.toNat + 256 * value rest) / 256 = value rest := by omega
      have head : UInt8.ofNat (byte.toNat + 256 * value rest) = byte := by
        apply UInt8.toNat_inj.mp
        rw [UInt8.toNat_ofNat']
        omega
      rw [List.length_cons, ofNat_succ, value_cons, shifted, ih, head]

end GroundStation.Bytes
