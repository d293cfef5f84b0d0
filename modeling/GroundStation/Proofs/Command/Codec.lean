import GroundStation.Command
import GroundStation.Proofs.Message.Codec
import Mathlib.Algebra.Group.Int.Defs

/-!
The bytes of a command and how the far end reads them. A command can be read back from its payload,
so different commands have different payloads. Frames of commands one behind the other are read back
by cutting the stream into blocks of frame size.
-/

namespace GroundStation

namespace Frame

theorem pad_of_length {bytes : List UInt8} (hlength : bytes.length = outboundPayloadSize) :
    pad bytes = bytes :=
  List.take_left' hlength

/-- The payload of a frame, if the frame opens with the start byte and its checksum field is the
checksum of the payload. -/
def unwrap? : List UInt8 → Option (List UInt8)
  | [] => none
  | byte :: rest =>
    let field := rest.take checksumSize
    let payload := rest.drop checksumSize
    if byte = startByte ∧ field = Bytes.ofNat checksumSize (checksum payload).toNat then
      some payload
    else
      none

/-- The far end finds the payload in a frame. -/
theorem unwrap?_enclose (payload : List UInt8) : unwrap? (enclose payload) = some payload := by
  have hfield := Bytes.length_ofNat checksumSize (checksum payload).toNat
  simp only [enclose, unwrap?, List.take_left' hfield, List.drop_left' hfield, true_and, if_true]

end Frame

namespace Command

/-- The frame of a command: the start byte, the checksum of the payload, the value and four zeros. -/
def frame (command : Command) : List UInt8 :=
  let payload := Bytes.ofNat 4 command.value.toUInt32.toNat ++ [0, 0, 0, 0]
  0xFF :: (Bytes.ofNat 2 (Frame.checksum payload).toNat ++ payload)

theorem outbound_payload (command : Command) : Frame.outbound command.payload = command.frame := by
  rw [Frame.outbound, Frame.pad_of_length command.length_payload]
  rfl

theorem length_frame (command : Command) : command.frame.length = 11 := by
  rw [← outbound_payload, Frame.length_outbound]
  rfl

/-- The command that a payload of eight bytes carries: its value, followed by zeros. -/
def ofPayload? (payload : List UInt8) : Option Command :=
  if payload.length = Frame.outboundPayloadSize ∧ payload.drop 4 = List.replicate 4 0 then
    some { value := (UInt32.ofNat (Bytes.value (payload.take 4))).toInt32 }
  else
    none

/-- A command can be read back from its payload. -/
theorem ofPayload?_payload (command : Command) : ofPayload? command.payload = some command := by
  have hvalue : (Bytes.ofNat 4 command.value.toUInt32.toNat).length = 4 := Bytes.length_ofNat _ _
  have hbound : command.value.toUInt32.toNat < 256 ^ 4 := command.value.toUInt32.toNat_lt
  have hdrop : command.payload.drop 4 = List.replicate 4 0 := List.drop_left' hvalue
  have htake : command.payload.take 4 = Bytes.ofNat 4 command.value.toUInt32.toNat :=
    List.take_left' hvalue
  rw [ofPayload?, if_pos ⟨command.length_payload, hdrop⟩, htake, Bytes.value_ofNat,
    Nat.mod_eq_of_lt hbound, UInt32.ofNat_toNat]
  rfl

/-- The payload is the value modulo 2^32 in four bytes, and four zeros. -/
theorem payload_eq (command : Command) :
    command.payload = Bytes.ofNat 4 (command.value.toInt % 2 ^ 32).toNat ++ [0, 0, 0, 0] := by
  have hword : command.value.toUInt32.toNat = (command.value.toInt % 2 ^ 32).toNat := by
    have hbits := BitVec.toNat_ofInt (n := 32) command.value.toBitVec.toInt
    rw [BitVec.ofInt_toInt] at hbits
    exact hbits
  rw [payload, hword]
  rfl

/-- Different commands have different payloads. -/
theorem payload_inj {command other : Command} :
    command.payload = other.payload ↔ command = other := by
  refine ⟨fun hsame => ?_, congrArg payload⟩
  have hread := congrArg ofPayload? hsame
  rw [ofPayload?_payload, ofPayload?_payload] at hread
  exact Option.some.inj hread

/-- The commands in a stream that is cut into blocks of frame size, each of which must be the frame of
a command. -/
def ofStream? (bytes : List UInt8) : Option (List Command) :=
  if bytes = [] then
    some []
  else do
    let payload ← Frame.unwrap? (bytes.take Frame.outboundSize)
    let command ← ofPayload? payload
    let later ← ofStream? (bytes.drop Frame.outboundSize)
    return command :: later
termination_by bytes.length
decreasing_by
  rename_i nonempty
  have := List.length_pos_iff.mpr nonempty
  simp only [List.length_drop, Frame.outboundSize]
  omega

/-- Frames of commands one behind the other are read back in order. -/
theorem ofStream?_flatMap_frame (commands : List Command) :
    ofStream? (commands.flatMap frame) = some commands := by
  induction commands with
  | nil => rw [List.flatMap_nil, ofStream?, if_pos rfl]
  | cons command rest ih =>
      have hblock : (command.frame ++ rest.flatMap frame).take Frame.outboundSize =
          command.frame := List.take_left' command.length_frame
      have hafter : (command.frame ++ rest.flatMap frame).drop Frame.outboundSize =
          rest.flatMap frame := List.drop_left' command.length_frame
      have hpayload : Frame.unwrap? command.frame = some command.payload := by
        rw [← outbound_payload, Frame.outbound, Frame.pad_of_length command.length_payload]
        exact Frame.unwrap?_enclose _
      rw [List.flatMap_cons, ofStream?, if_neg (by simp [frame]), hblock, hafter, hpayload, ih]
      simp [ofPayload?_payload]

end Command

end GroundStation
