import GroundStation.Reading.Action
import GroundStation.Vehicle.Profile

/-!
Messages that carry one enumerated code. The whole data word is a signed number; it must fit into 32
bits and stand in the code table of its kind.
-/

namespace GroundStation.Reading

/-- What a message with an enumerated code asks for. -/
def code (registry : Registry) (table : CodeTable) (node : UInt8) (data : UInt64) : List Action :=
  let name := (registry.nodeName? node).getD s!"Unrecognized nodeID: ({node})"
  let sender := s!"{name} (id={node})"
  let value := data.toInt64.toInt
  if value < Int32.minValue.toInt ∨ Int32.maxValue.toInt < value then
    [.fault s!"{table.kind} value out of int range ({value}) from {sender}"]
  else
    match table.name? value with
    | none => [.fault s!"Unrecognized code {value} in {table.kind} from {sender}"]
    | some flag =>
      [.post .telemetry (table.severity value) s!"Flag={flag} ({value}) from {sender}"]

end GroundStation.Reading
