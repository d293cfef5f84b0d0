import GroundStation.Bytes
import GroundStation.Message.Address

/-!
Messages of the vehicle's bus and the twelve bytes that carry one: the address in four
little-endian bytes, then the data word in eight.
-/

namespace GroundStation

structure Message where
  id : UInt32
  data : UInt64
deriving DecidableEq, Repr

namespace Message

def payload (message : Message) : List UInt8 :=
  Bytes.ofNat 4 message.id.toNat ++ Bytes.ofNat 8 message.data.toNat

/-- The message that twelve bytes carry. -/
def ofPayload (payload : List UInt8) : Message where
  id := UInt32.ofNat (Bytes.value (payload.take 4))
  data := UInt64.ofNat (Bytes.value ((payload.drop 4).take 8))

def address (message : Message) : Address :=
  Address.ofRaw message.id

@[simp] theorem length_payload (message : Message) : message.payload.length = 12 := by
  simp [payload]

end Message

end GroundStation
