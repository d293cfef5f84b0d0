import Mathlib.Algebra.Group.Nat.Defs
import GroundStation.Message.Basic

/-!
Writing and reading are inverse to each other: for numbers as far as they fit into their bytes, and
for messages in both directions, because every twelve bytes are the payload of some message.
-/

namespace GroundStation

namespace Bytes

/-- Writing keeps exactly what fits into the given count of bytes. -/
theorem value_ofNat (count n : Nat) : value (ofNat count n) = n % 256 ^ count := by
  induction count generalizing n with
  | zero => simp [Nat.mod_one]
  | succ count ih =>
      have low : (UInt8.ofNat n).toNat = n % 256 := by simp
      rw [ofNat_succ, value_cons, ih, low, Nat.pow_succ', Nat.mod_mul]

theorem value_lt (bytes : List UInt8) : value bytes < 256 ^ bytes.length := by
  induction bytes with
  | nil => simp
  | cons byte rest ih =>
      have small : byte.toNat < 256 := byte.toNat_lt
      rw [value_cons, List.length_cons, Nat.pow_succ]
      omega

end Bytes

namespace Message

/-- Reading a written message gives it back. -/
theorem ofPayload_payload (message : Message) : ofPayload message.payload = message := by
  have htake : message.payload.take 4 = Bytes.ofNat 4 message.id.toNat :=
    List.take_left' (Bytes.length_ofNat _ _)
  have hdrop : message.payload.drop 4 = Bytes.ofNat 8 message.data.toNat :=
    List.drop_left' (Bytes.length_ofNat _ _)
  have hwhole : (Bytes.ofNat 8 message.data.toNat).take 8 = Bytes.ofNat 8 message.data.toNat :=
    List.take_of_length_le (Nat.le_of_eq (Bytes.length_ofNat _ _))
  have hidBound : message.id.toNat < 256 ^ 4 := message.id.toNat_lt
  have hdataBound : message.data.toNat < 256 ^ 8 := message.data.toNat_lt
  simp only [ofPayload, htake, hdrop, hwhole, Bytes.value_ofNat, Nat.mod_eq_of_lt hidBound,
    Nat.mod_eq_of_lt hdataBound, UInt32.ofNat_toNat, UInt64.ofNat_toNat]

/-- Writing what was read from twelve bytes gives them back. -/
theorem payload_ofPayload {payload : List UInt8} (hlength : payload.length = 12) :
    (ofPayload payload).payload = payload := by
  have hid : (payload.take 4).length = 4 := by
    rw [List.length_take]
    omega
  have hdata : (payload.drop 4).length = 8 := by
    rw [List.length_drop]
    omega
  have hidBytes : Bytes.ofNat 4 (ofPayload payload).id.toNat = payload.take 4 := by
    have hbound : Bytes.value (payload.take 4) < 2 ^ 32 := by
      have hvalue := Bytes.value_lt (payload.take 4)
      rwa [hid] at hvalue
    have hwritten := Bytes.ofNat_value (payload.take 4)
    rw [hid] at hwritten
    rw [ofPayload, UInt32.toNat_ofNat', Nat.mod_eq_of_lt hbound]
    exact hwritten
  have hdataBytes : Bytes.ofNat 8 (ofPayload payload).data.toNat = payload.drop 4 := by
    have hbound : Bytes.value (payload.drop 4) < 2 ^ 64 := by
      have hvalue := Bytes.value_lt (payload.drop 4)
      rwa [hdata] at hvalue
    have hwritten := Bytes.ofNat_value (payload.drop 4)
    rw [hdata] at hwritten
    rw [ofPayload, List.take_of_length_le (Nat.le_of_eq hdata), UInt64.toNat_ofNat',
      Nat.mod_eq_of_lt hbound]
    exact hwritten
  rw [Message.payload, hidBytes, hdataBytes, List.take_append_drop]

end Message

end GroundStation
