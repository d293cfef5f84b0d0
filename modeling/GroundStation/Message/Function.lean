/-!
The functions that a message can have on the vehicle's bus. Each assigned function has a 4-bit
code and a printed name; the other codes are unassigned.
-/

namespace GroundStation

/-- What a message is for. -/
inductive Function where
  | networkManagement
  | synchronization
  | warningCode
  | telemetryCommand
  | heartbeatPing
  | heartbeatPong
  | transmitData
  | heartbeatResponseUpdate
  | busStatusUpdate
  | statusUpdate
  | errorControl
deriving DecidableEq, Repr

namespace Function

def code : Function → UInt8
  | networkManagement => 0x0
  | synchronization => 0x1
  | warningCode => 0x2
  | telemetryCommand => 0x3
  | heartbeatPing => 0x4
  | heartbeatPong => 0x5
  | transmitData => 0x6
  | heartbeatResponseUpdate => 0x7
  | busStatusUpdate => 0x8
  | statusUpdate => 0x9
  | errorControl => 0xE

/-- The function with the given code, if the code is assigned. -/
def ofCode? (code : UInt8) : Option Function :=
  match code.toNat with
  | 0x0 => some networkManagement
  | 0x1 => some synchronization
  | 0x2 => some warningCode
  | 0x3 => some telemetryCommand
  | 0x4 => some heartbeatPing
  | 0x5 => some heartbeatPong
  | 0x6 => some transmitData
  | 0x7 => some heartbeatResponseUpdate
  | 0x8 => some busStatusUpdate
  | 0x9 => some statusUpdate
  | 0xE => some errorControl
  | _ => none

def name : Function → String
  | networkManagement => "NMT"
  | synchronization => "Synchronization"
  | warningCode => "WarningCode"
  | telemetryCommand => "TelemetryCommand"
  | heartbeatPing => "HeartbeatPing"
  | heartbeatPong => "HeartbeatPong"
  | transmitData => "TransmitData"
  | heartbeatResponseUpdate => "HeartbeatResponseUpdate"
  | busStatusUpdate => "BusStatusUpdate"
  | statusUpdate => "StatusUpdate"
  | errorControl => "ErrorControl"

@[simp] theorem ofCode?_code (function : Function) : ofCode? function.code = some function := by
  cases function <;> rfl

end Function

end GroundStation
