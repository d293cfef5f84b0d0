import GroundStation.Reading.Action
import GroundStation.Vehicle.Profile

/-!
The state of the vehicle's bus: eight counters and fields that fill the data word from the lowest bit
to the highest.
-/

namespace GroundStation

structure BusStatus where
  state : UInt8
  txError : UInt32
  rxError : UInt32
  busErrorDelta : UInt32
  txFailDelta : UInt32
  rxOverrunDelta : UInt32
  rxMissedDelta : UInt32
  pendingRx : UInt32
deriving DecidableEq, Repr

namespace BusStatus

def ofData (data : UInt64) : BusStatus :=
  let field (offset width : UInt32) : UInt32 := (Bits.field data offset width).toUInt32
  { state := Bits.narrow8 (field 0 2).toUInt64 255
    txError := field 2 8
    rxError := field 10 8
    busErrorDelta := field 18 12
    txFailDelta := field 30 10
    rxOverrunDelta := field 40 10
    rxMissedDelta := field 50 10
    pendingRx := field 60 4 }

/-- Whether an error count is above a limit. -/
def errorsAbove (status : BusStatus) (limit : UInt32) : Bool :=
  limit < status.txError || limit < status.rxError || limit < status.busErrorDelta

/-- Whether a loss count is above a limit. -/
def lossesAbove (status : BusStatus) (limit : UInt32) : Bool :=
  limit < status.txFailDelta || limit < status.rxOverrunDelta || limit < status.rxMissedDelta

/-- How serious the state is, when `running` is the normal one. -/
def severity (status : BusStatus) (running : UInt8) : Severity :=
  if status.errorsAbove 200 || status.lossesAbove 10 then .critical
  else if status.state ≠ running || status.errorsAbove 100 || status.lossesAbove 0 ||
      4 < status.pendingRx then .warning
  else .ok

def describe (status : BusStatus) (states : CodeTable) : String :=
  let state := (states.name? status.state.toNat).getD s!"unknown state {status.state}"
  s!"bus: state={state}, txErr={status.txError}, rxErr={status.rxError}, " ++
    s!"busErrΔ={status.busErrorDelta}, txFailΔ={status.txFailDelta}, " ++
    s!"rxOverΔ={status.rxOverrunDelta}, rxMissΔ={status.rxMissedDelta}, toRx={status.pendingRx}"

end BusStatus

/-- What a bus status message asks for. -/
def Reading.bus (codebook : Codebook) (data : UInt64) : List Action :=
  let status := BusStatus.ofData data
  [.upsert .busStatus .vitals (status.severity codebook.busStateRunning)
    (status.describe codebook.busState)]

end GroundStation
