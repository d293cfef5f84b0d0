import GroundStation.Bridge
import GroundStation.Watch

/-!
The ground station: a desk that reads what the bridge receives, and a bridge that sends what the
operator commands.
-/

namespace GroundStation

/-- The version of the station's protocol suite. -/
def version : String := "0.1.0"

structure Station where
  desk : Desk
  bridge : Bridge
  watches : Watches := {}

namespace Station

/-- Sets a station up on a bridge. The layout is checked before the bridge is started. -/
def start (bridge : Bridge) (profile : Profile) : Except (Stop Failure) Station :=
  match Desk.start profile fun _ => true with
  | .error stop => .error stop
  | .ok desk =>
    match bridge.start with
    | (.error e, _) => .error (.refused (.link e))
    | (.ok (), bridge) => .ok { desk, bridge }

def counters (station : Station) : Counters :=
  station.desk.counters + station.bridge.counters

/-- Lets the station read all that has arrived. -/
def settle (station : Station) : Station :=
  let (events, bridge) := station.bridge.settle
  { station with bridge, desk := events.foldl Desk.receive station.desk }

/-- Reads a command text and sends the command. -/
def submit (station : Station) (text : String) : Except Failure Unit × Station :=
  match station.desk.command text with
  | (.error e, desk) => (.error (.invalidCommand e), { station with desk })
  | (.ok command, desk) =>
    match station.bridge.send command.payload with
    | (.error e, bridge) => (.error (.link e), { station with desk, bridge })
    | (.ok (), bridge) => (.ok (), { station with desk, bridge })

/-- Stops the watches and closes the bridge. -/
def close (station : Station) : Station :=
  { station with watches := station.watches.stop, bridge := station.bridge.close }

end Station

end GroundStation
