/-!
How serious a notice is, and on which of the operator's two channels it stands.
-/

namespace GroundStation

/-- Severities in rising order. -/
inductive Severity where
  | ok
  | warning
  | critical
deriving DecidableEq, Repr, Ord

namespace Severity

def name : Severity → String
  | ok => "OK"
  | warning => "WARNING"
  | critical => "CRITICAL"

/-- The more serious of two severities. -/
def max (a b : Severity) : Severity :=
  if (compare a b).isLT then b else a

end Severity

/-- The part of the operator's screen on which a notice stands. -/
inductive Channel where
  | vitals
  | telemetry
deriving DecidableEq, Repr

end GroundStation
