import GroundStation.Line

/-!
The bridge owns the serial line. Its reader loop polls the line from the first successful start until
the bridge is closed; frames can be sent as long as it is not closed. The reading end of the line
serves one reader loop only.
-/

namespace GroundStation

structure Bridge where
  /-- The serial device behind the line. -/
  device : String
  line : Line := {}
  /-- The receiver of the reader loop. -/
  receiver : Receiver := {}
  /-- Whether the reading end still waits for a reader loop. -/
  parked : Bool := true
  /-- Whether the reader loop may run. -/
  running : Bool := false
  closed : Bool := false
  /-- What the bridge counts itself; the receiver counts frames and bytes. -/
  ownCounters : Counters := {}

namespace Bridge

def counters (bridge : Bridge) : Counters :=
  bridge.ownCounters + bridge.receiver.counters

def countIoError (bridge : Bridge) : Bridge :=
  { bridge with
    ownCounters := { bridge.ownCounters with ioErrors := bridge.ownCounters.ioErrors + 1 } }

/-- Starts the reader loop. -/
def start (bridge : Bridge) : Except LinkError Unit × Bridge :=
  if bridge.closed then
    (.error .closed, bridge)
  else if bridge.running then
    (.error .alreadyRunning, bridge)
  else if bridge.parked then
    (.ok (), { bridge with running := true, parked := false })
  else
    (.error .closed, bridge)

/-- Closes the bridge for good. A bridge that is closed already is left alone. -/
def close (bridge : Bridge) : Bridge :=
  if bridge.closed then bridge
  else { bridge with closed := true, running := false, parked := false }

/-- Sends a payload in one frame. The bytes that a failing line took stay written. -/
def send (bridge : Bridge) (payload : List UInt8) : Except LinkError Unit × Bridge :=
  if bridge.closed then
    (.error .closed, bridge)
  else
    let (written, line) := bridge.line.writeAll (Frame.outbound payload)
    let bridge := { bridge with line }
    match written.bind fun () => line.flush with
    | .error fault => (.error (.io fault), bridge.countIoError)
    | .ok () =>
      let own := bridge.ownCounters
      (.ok (), { bridge with ownCounters := { own with sentFrames := own.sentFrames + 1 } })

/-- One turn of the reader loop: a poll that fails is counted. -/
def poll (bridge : Bridge) : List FrameEvent × Bridge :=
  let (result, events, receiver, line) := bridge.receiver.poll bridge.line
  let bridge := { bridge with receiver, line }
  match result with
  | .ok _ => (events, bridge)
  | .error _ => (events, bridge.countIoError)

/-- What is left to do for the reader loop. A byte counts twice until it is read, and every failure
that the line has in store counts. -/
def backlog (bridge : Bridge) : Nat :=
  bridge.line.failAvailable + bridge.line.failRead + 2 * bridge.line.pending +
    bridge.receiver.buffered

/-- Lets the reader loop poll until nothing changes any more. -/
def settle (bridge : Bridge) : List FrameEvent × Bridge :=
  if bridge.running then
    let (events, after) := bridge.poll
    if after.backlog < bridge.backlog then
      let (later, final) := settle after
      (events ++ later, final)
    else
      (events, after)
  else
    ([], bridge)
termination_by bridge.backlog

/-- One line about the bridge for logs. -/
def summary (bridge : Bridge) : String :=
  s!"SerialBridge \x7b port: {Text.quoted bridge.device}, running: {bridge.running}, " ++
    s!"closed: {bridge.closed}, .. \x7d"

end Bridge

end GroundStation
