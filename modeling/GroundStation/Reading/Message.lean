import GroundStation.Message.Basic
import GroundStation.Reading.Bus
import GroundStation.Reading.Code
import GroundStation.Reading.Heartbeat
import GroundStation.Reading.Sensor
import GroundStation.Reading.Warning

/-!
What a message asks for, by its function.
-/

namespace GroundStation.Reading

/-- A node that is not in the registry cannot answer the roll call. -/
def pong (registry : Registry) (node : UInt8) : List Action :=
  match registry.nodeName? node with
  | some _ => [.present node]
  | none => [.fault s!"Received HB Pong from unknown nodeId={node}"]

def message (profile : Profile) (message : Message) : List Action :=
  let address := message.address
  let node := address.node
  match address.function? with
  | none =>
    [.fault (s!"Message with unknown function code observed. function code = " ++
      s!"{address.functionCode}. data = {Text.hex message.data.toNat}")]
  | some .networkManagement => [.post .telemetry .ok "Received NMT function message"]
  | some .synchronization => [.post .telemetry .ok "Received synchronization message"]
  | some .errorControl => [.post .telemetry .ok "Received error control message"]
  | some .heartbeatPing => [.post .vitals .ok "Received HB ping message"]
  | some .heartbeatPong => pong profile.registry node
  | some .warningCode => warning profile message.data
  | some .telemetryCommand =>
    code profile.registry profile.codebook.telemetryCommand node message.data
  | some .statusUpdate => code profile.registry profile.codebook.statusUpdate node message.data
  | some .transmitData => sensor profile.registry ⟨node, address.extension⟩ message.data
  | some .heartbeatResponseUpdate => heartbeat profile message.data
  | some .busStatusUpdate => bus profile.codebook message.data

end GroundStation.Reading
