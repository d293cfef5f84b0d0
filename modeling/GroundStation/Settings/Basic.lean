import GroundStation.Frame.Receiver
import GroundStation.Liveness.Countdowns
import GroundStation.Vehicle.Layout

/-!
The settings of a station and their defaults.
-/

namespace GroundStation

/-- A span of time; the nanoseconds are below a second. -/
structure Duration where
  secs : Nat := 0
  nanos : Nat := 0
deriving DecidableEq, Repr

namespace Duration

def ofMillis (millis : Nat) : Duration where
  secs := millis / 1000
  nanos := millis % 1000 * 1000000

/-- The whole milliseconds in the span, at most the largest 32-bit number. -/
def millis (duration : Duration) : UInt32 :=
  UInt32.ofNat (min (duration.secs * 1000 + duration.nanos / 1000000) 0xFFFFFFFF)

end Duration

namespace Settings

structure Bridge where
  receiver : Receiver.Config := {}
  readTimeout : Duration := .ofMillis 10
  idleBackoff : Duration := .ofMillis 1
  joinTimeout : Duration := .ofMillis 500
  settleDelay : Duration := {}
deriving DecidableEq, Repr

/-- How often the watches run, and when they report. -/
structure Monitor where
  heartbeatInterval : Duration := .ofMillis 2000
  frameTick : Duration := .ofMillis 5
  overdueThreshold : Duration := .ofMillis 5
  backoffMin : Duration := .ofMillis 1000
deriving DecidableEq, Repr

namespace Monitor

/-- The policy of the countdowns. -/
def policy (monitor : Monitor) : TickPolicy where
  tick := monitor.frameTick.millis
  threshold := monitor.overdueThreshold.millis
  backoff := monitor.backoffMin.millis

end Monitor

end Settings

structure Settings where
  device : String := "/dev/ttyACM0"
  baud : UInt32 := 115200
  bridge : Settings.Bridge := {}
  layout : Layout := {}
  monitor : Settings.Monitor := {}
deriving DecidableEq, Repr

end GroundStation
