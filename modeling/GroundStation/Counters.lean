import GroundStation.Halt
import GroundStation.Message.Function

/-!
Running totals of the station. Every part of the station counts what it does in a record of this
type, and the records of the parts are added up field by field. A count is a natural number and never
runs over. What can be read off is a snapshot, which shows each count in 64 bits, so that it starts
over at 2^64.
-/

namespace GroundStation

/-- How many messages were seen, by their function. -/
structure FunctionCounters where
  networkManagement : Nat := 0
  synchronization : Nat := 0
  warningCode : Nat := 0
  telemetryCommand : Nat := 0
  heartbeatPing : Nat := 0
  heartbeatPong : Nat := 0
  transmitData : Nat := 0
  heartbeatResponseUpdate : Nat := 0
  busStatusUpdate : Nat := 0
  statusUpdate : Nat := 0
  errorControl : Nat := 0
deriving DecidableEq, Repr

namespace FunctionCounters

def add (a b : FunctionCounters) : FunctionCounters where
  networkManagement := a.networkManagement + b.networkManagement
  synchronization := a.synchronization + b.synchronization
  warningCode := a.warningCode + b.warningCode
  telemetryCommand := a.telemetryCommand + b.telemetryCommand
  heartbeatPing := a.heartbeatPing + b.heartbeatPing
  heartbeatPong := a.heartbeatPong + b.heartbeatPong
  transmitData := a.transmitData + b.transmitData
  heartbeatResponseUpdate := a.heartbeatResponseUpdate + b.heartbeatResponseUpdate
  busStatusUpdate := a.busStatusUpdate + b.busStatusUpdate
  statusUpdate := a.statusUpdate + b.statusUpdate
  errorControl := a.errorControl + b.errorControl

instance : Add FunctionCounters := ⟨add⟩

/-- Changes the counter of a function. -/
def modify (counters : FunctionCounters) (change : Nat → Nat) : Function → FunctionCounters
  | .networkManagement =>
      { counters with networkManagement := change counters.networkManagement }
  | .synchronization => { counters with synchronization := change counters.synchronization }
  | .warningCode => { counters with warningCode := change counters.warningCode }
  | .telemetryCommand => { counters with telemetryCommand := change counters.telemetryCommand }
  | .heartbeatPing => { counters with heartbeatPing := change counters.heartbeatPing }
  | .heartbeatPong => { counters with heartbeatPong := change counters.heartbeatPong }
  | .transmitData => { counters with transmitData := change counters.transmitData }
  | .heartbeatResponseUpdate =>
      { counters with heartbeatResponseUpdate := change counters.heartbeatResponseUpdate }
  | .busStatusUpdate => { counters with busStatusUpdate := change counters.busStatusUpdate }
  | .statusUpdate => { counters with statusUpdate := change counters.statusUpdate }
  | .errorControl => { counters with errorControl := change counters.errorControl }

end FunctionCounters

structure Counters where
  validFrames : Nat := 0
  invalidFrames : Nat := 0
  discardedBytes : Nat := 0
  sentFrames : Nat := 0
  ioErrors : Nat := 0
  protocolWarnings : Nat := 0
  rejectedCommands : Nat := 0
  overdueFrames : Nat := 0
  unknownFunctions : Nat := 0
  functions : FunctionCounters := {}
deriving DecidableEq, Repr

/-- What the counters show. -/
structure Snapshot where
  validFrames : UInt64 := 0
  invalidFrames : UInt64 := 0
  discardedBytes : UInt64 := 0
  sentFrames : UInt64 := 0
  ioErrors : UInt64 := 0
  protocolWarnings : UInt64 := 0
  rejectedCommands : UInt64 := 0
  overdueFrames : UInt64 := 0
  networkManagementMessages : UInt64 := 0
  synchronizationMessages : UInt64 := 0
  warningCodeMessages : UInt64 := 0
  telemetryCommandMessages : UInt64 := 0
  heartbeatPings : UInt64 := 0
  heartbeatPongs : UInt64 := 0
  transmitDataMessages : UInt64 := 0
  heartbeatResponseUpdates : UInt64 := 0
  busStatusUpdates : UInt64 := 0
  statusUpdates : UInt64 := 0
  errorControlMessages : UInt64 := 0
  unknownFunctions : UInt64 := 0
deriving DecidableEq, Repr

namespace Counters

def add (a b : Counters) : Counters where
  validFrames := a.validFrames + b.validFrames
  invalidFrames := a.invalidFrames + b.invalidFrames
  discardedBytes := a.discardedBytes + b.discardedBytes
  sentFrames := a.sentFrames + b.sentFrames
  ioErrors := a.ioErrors + b.ioErrors
  protocolWarnings := a.protocolWarnings + b.protocolWarnings
  rejectedCommands := a.rejectedCommands + b.rejectedCommands
  overdueFrames := a.overdueFrames + b.overdueFrames
  unknownFunctions := a.unknownFunctions + b.unknownFunctions
  functions := a.functions + b.functions

instance : Add Counters := ⟨add⟩

/-- Counts one message by its function; a message whose code is unassigned counts as unknown. -/
def countMessage (counters : Counters) : Option Function → Counters
  | some function =>
      { counters with functions := counters.functions.modify (· + 1) function }
  | none => { counters with unknownFunctions := counters.unknownFunctions + 1 }

/-- What the counters show at the moment. -/
def totals (counters : Counters) : Snapshot where
  validFrames := .ofNat counters.validFrames
  invalidFrames := .ofNat counters.invalidFrames
  discardedBytes := .ofNat counters.discardedBytes
  sentFrames := .ofNat counters.sentFrames
  ioErrors := .ofNat counters.ioErrors
  protocolWarnings := .ofNat counters.protocolWarnings
  rejectedCommands := .ofNat counters.rejectedCommands
  overdueFrames := .ofNat counters.overdueFrames
  networkManagementMessages := .ofNat counters.functions.networkManagement
  synchronizationMessages := .ofNat counters.functions.synchronization
  warningCodeMessages := .ofNat counters.functions.warningCode
  telemetryCommandMessages := .ofNat counters.functions.telemetryCommand
  heartbeatPings := .ofNat counters.functions.heartbeatPing
  heartbeatPongs := .ofNat counters.functions.heartbeatPong
  transmitDataMessages := .ofNat counters.functions.transmitData
  heartbeatResponseUpdates := .ofNat counters.functions.heartbeatResponseUpdate
  busStatusUpdates := .ofNat counters.functions.busStatusUpdate
  statusUpdates := .ofNat counters.functions.statusUpdate
  errorControlMessages := .ofNat counters.functions.errorControl
  unknownFunctions := .ofNat counters.unknownFunctions

end Counters

namespace Snapshot

/-- How many messages with the given function were seen. -/
def messages (snapshot : Snapshot) : Function → UInt64
  | .networkManagement => snapshot.networkManagementMessages
  | .synchronization => snapshot.synchronizationMessages
  | .warningCode => snapshot.warningCodeMessages
  | .telemetryCommand => snapshot.telemetryCommandMessages
  | .heartbeatPing => snapshot.heartbeatPings
  | .heartbeatPong => snapshot.heartbeatPongs
  | .transmitData => snapshot.transmitDataMessages
  | .heartbeatResponseUpdate => snapshot.heartbeatResponseUpdates
  | .busStatusUpdate => snapshot.busStatusUpdates
  | .statusUpdate => snapshot.statusUpdates
  | .errorControl => snapshot.errorControlMessages

/-- The share of frames that failed their checksum, once a frame was seen. Both totals are rounded
to double precision before the division. -/
def invalidRatio (snapshot : Snapshot) : Except Halt (Option Float) := do
  let total ← Halt.sum UInt64.size snapshot.validFrames.toNat snapshot.invalidFrames.toNat
  if total = 0 then
    return none
  else
    return some (snapshot.invalidFrames.toFloat / (UInt64.ofNat total).toFloat)

end Snapshot

end GroundStation
