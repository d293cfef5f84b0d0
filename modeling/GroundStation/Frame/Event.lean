import GroundStation.Frame.Format

/-!
What the receiver makes of a frame-sized window that opens with the start byte, and the reference
scanner, which says in one pass over a whole byte string which windows are examined.
-/

namespace GroundStation

inductive FrameEvent where
  /-- The checksum field matches the payload. -/
  | valid (payload : List UInt8)
  /-- The checksum field is `found`, but the payload has checksum `expected`. -/
  | invalid (payload : List UInt8) (expected found : UInt16)
deriving DecidableEq, Repr

namespace Frame

/-- Judges a window by its checksum field and its payload. -/
def judge (field payload : List UInt8) : FrameEvent :=
  let expected := checksum payload
  let found := UInt16.ofNat (Bytes.value field)
  if expected = found then .valid payload else .invalid payload expected found

/-- The events of a whole byte string. Bytes before a start byte are skipped. A start byte with a
full window behind it is judged: after a valid window scanning goes on behind the window, after an
invalid one at the next start byte inside it, if there is one. -/
def scan : List UInt8 → List FrameEvent
  | [] => []
  | byte :: rest =>
    if byte ≠ startByte then
      scan rest
    else if rest.length < inboundSize - 1 then
      []
    else
      let field := rest.take checksumSize
      let payload := (rest.drop checksumSize).take inboundPayloadSize
      match judge field payload with
      | .valid payload => .valid payload :: scan (rest.drop (inboundSize - 1))
      | event =>
        event :: scan ((rest.take (inboundSize - 1)).dropWhile (· ≠ startByte) ++
          rest.drop (inboundSize - 1))
termination_by bytes => bytes.length
decreasing_by
  · simp
  · simp only [List.length_drop, List.length_cons]
    omega
  · have shorter : ((rest.take (inboundSize - 1)).dropWhile (· ≠ startByte)).length ≤
        (rest.take (inboundSize - 1)).length := (List.dropWhile_suffix _).length_le
    simp only [List.length_append, List.length_drop, List.length_cons, List.length_take] at *
    omega

end Frame

end GroundStation
