import GroundStation.Desk

/-!
The two watches that run beside the desk, each again and again until they are stopped: one closes the
roll call, one ticks the countdowns.
-/

namespace GroundStation

inductive Watch where
  | rollCall
  | frames (policy : TickPolicy)
deriving DecidableEq, Repr

namespace Watch

/-- One round of a watch. -/
def round : Watch → Desk → Desk
  | rollCall, desk => desk.evaluate.2
  | frames policy, desk => (desk.tick policy).2

/-- After how many ticks a countdown that is left alone has been reported. -/
def ticksToReport (policy : TickPolicy) (countdown : Countdown) : Nat :=
  (Nat.max countdown.timeout.toNat policy.backoff.toNat + policy.threshold.toNat) /
    policy.tick.toNat + 1

/-- In how many rounds a watch has sent the given number of events; zero if it never sends one. -/
def roundsFor (wanted : Nat) (desk : Desk) : Watch → Nat
  | rollCall => wanted
  | frames policy =>
    match desk.countdowns.table.rows with
    | [] => 0
    | (_, countdown) :: _ =>
      if policy.tick = 0 then 0 else wanted * ticksToReport policy countdown

/-- Runs a watch until the feed holds the given number of events. -/
def run (watch : Watch) (wanted : Nat) (desk : Desk) : Desk :=
  desk.untilEvents wanted watch.round (watch.roundsFor wanted desk)

end Watch

/-- Whether the watches run. -/
structure Watches where
  running : Bool := true
deriving DecidableEq, Repr

namespace Watches

def stop (_ : Watches) : Watches :=
  { running := false }

end Watches

end GroundStation
