import GroundStation.Frame.Checksum
import GroundStation.Message.Basic

/-!
The two frame formats of the serial line. A frame is a start byte, the little-endian checksum of
its payload and the payload. The vehicle sends frames with twelve payload bytes, the station sends
frames with eight.
-/

namespace GroundStation.Frame

/-- The byte that opens every frame. -/
def startByte : UInt8 := 0xFF

def checksumSize : Nat := 2

def inboundPayloadSize : Nat := 12

def outboundPayloadSize : Nat := 8

def inboundSize : Nat := 1 + checksumSize + inboundPayloadSize

def outboundSize : Nat := 1 + checksumSize + outboundPayloadSize

/-- The frame around a payload. -/
def enclose (payload : List UInt8) : List UInt8 :=
  startByte :: (Bytes.ofNat checksumSize (checksum payload).toNat ++ payload)

/-- The frame in which the vehicle sends a message. -/
def inbound (message : Message) : List UInt8 :=
  enclose message.payload

/-- Brings a byte string to the outbound payload size: zeros fill it up, bytes past the size are
dropped. -/
def pad (bytes : List UInt8) : List UInt8 :=
  (bytes ++ List.replicate outboundPayloadSize 0).take outboundPayloadSize

/-- The frame in which the station sends a byte string. -/
def outbound (bytes : List UInt8) : List UInt8 :=
  enclose (pad bytes)

@[simp] theorem length_enclose (payload : List UInt8) :
    (enclose payload).length = 1 + checksumSize + payload.length := by
  simp only [enclose, List.length_cons, List.length_append, Bytes.length_ofNat]
  omega

@[simp] theorem length_pad (bytes : List UInt8) : (pad bytes).length = outboundPayloadSize := by
  simp [pad]

theorem length_inbound (message : Message) : (inbound message).length = inboundSize := by
  simp [inbound, inboundSize, inboundPayloadSize]

theorem length_outbound (bytes : List UInt8) : (outbound bytes).length = outboundSize := by
  simp [outbound, outboundSize]

end GroundStation.Frame
