import GroundStation.Table
import GroundStation.Vehicle.Key

/-!
Countdowns watch for frames that fall silent. A countdown starts at the frame's timeout whenever the
frame arrives, and every tick takes the tick length off. Once it is below zero by more than the
threshold the frame is reported, and the countdown starts again from the timeout or from the backoff
time, whichever is longer. All times are in milliseconds.
-/

namespace GroundStation

structure Countdown where
  timeout : UInt32
  remaining : Int
deriving DecidableEq, Repr

structure TickPolicy where
  /-- What one tick takes off. -/
  tick : UInt32 := 5
  /-- How far below zero a countdown may go unreported. -/
  threshold : UInt32 := 5
  /-- The least time between two reports of a silent frame. -/
  backoff : UInt32 := 1000
deriving DecidableEq, Repr

/-- A frame that is late. -/
structure Overdue where
  key : FrameKey
  /-- How often the frame is expected. -/
  expected : UInt32
  /-- For how long it has been late. -/
  late : Int
deriving DecidableEq, Repr

namespace Countdown

def start (timeout : UInt32) : Countdown :=
  { timeout, remaining := timeout.toNat }

/-- One tick; if the frame is to be reported, also for how long it has been late. -/
def step (policy : TickPolicy) (countdown : Countdown) : Option Int × Countdown :=
  let remaining := countdown.remaining - policy.tick.toNat
  if remaining < -(policy.threshold.toNat : Int) then
    (some (-remaining),
      { countdown with remaining := Nat.max countdown.timeout.toNat policy.backoff.toNat })
  else
    (none, { countdown with remaining })

end Countdown

/-- The countdowns of all watched frames. -/
structure Countdowns where
  table : Table FrameKey Countdown := {}

namespace Countdowns

def size (countdowns : Countdowns) : Nat :=
  countdowns.table.size

/-- Starts the countdown of a frame from its timeout; a timeout of zero changes nothing. -/
def restart (countdowns : Countdowns) (key : FrameKey) (timeout : UInt32) : Countdowns :=
  if timeout = 0 then countdowns else ⟨countdowns.table.insert key (.start timeout)⟩

/-- Starts all the given countdowns. -/
def seeded (frames : List (FrameKey × UInt32)) : Countdowns :=
  frames.foldl (fun countdowns (key, timeout) => countdowns.restart key timeout) {}

def remaining? (countdowns : Countdowns) (key : FrameKey) : Option Int :=
  (countdowns.table.get? key).map Countdown.remaining

/-- The row that a countdown adds to the report of a tick. -/
def overdue? (policy : TickPolicy) (key : FrameKey) (countdown : Countdown) : Option Overdue :=
  (countdown.step policy).1.map fun late => { key, expected := countdown.timeout, late }

/-- One tick of all countdowns; the frames to be reported are in the order of frames. -/
def tick (countdowns : Countdowns) (policy : TickPolicy) : List Overdue × Countdowns :=
  let rows := countdowns.table.rows
  ((rows.filterMap fun (key, countdown) => overdue? policy key countdown).mergeSort
      fun a b => a.key.le b.key,
    ⟨⟨rows.map fun (key, countdown) => (key, (countdown.step policy).2)⟩⟩)

end Countdowns

end GroundStation
