import GroundStation.Counters
import GroundStation.Failure
import GroundStation.Frame.Event
import GroundStation.Liveness.Countdowns
import GroundStation.Liveness.RollCall
import GroundStation.Reading.Message

/-!
The operator's desk: everything that changes while messages are read and the two watches run. A
message is counted by its function and its actions are carried out one after the other; closing the
roll call writes its slot; a tick posts one notice per late frame.
-/

namespace GroundStation

structure Desk where
  profile : Profile
  /-- Which data points the display takes samples of. -/
  displays : DataKey → Bool := fun _ => true
  feed : Feed := {}
  board : Board := {}
  rollCall : RollCall := {}
  countdowns : Countdowns := {}
  counters : Counters := {}

namespace Desk

/-- A desk for a vehicle, with the countdowns of all watched frames started. The layout must be in
order. -/
def start (profile : Profile) (displays : DataKey → Bool) : Except (Stop Failure) Desk :=
  match profile.layout.check with
  | .error (.refused problem) => .error (.refused (.invalidLayout problem.message))
  | .error (.halted halt) => .error (.halted halt)
  | .ok () =>
    .ok { profile, displays, countdowns := .seeded profile.registry.monitored }

def post (desk : Desk) (channel : Channel) (severity : Severity) (text : String) : Desk :=
  { desk with feed := (desk.feed.post channel severity text).2 }

/-- Posts that a message is not as agreed, and counts it. -/
def fault (desk : Desk) (text : String) : Desk :=
  let counted :=
    { desk.counters with protocolWarnings := desk.counters.protocolWarnings + 1 }
  { desk with counters := counted }.post .telemetry .warning text

def upsert (desk : Desk) (slot : Slot) (channel : Channel) (severity : Severity) (text : String) :
    Desk :=
  let (_, board, feed) := desk.board.upsert desk.feed slot channel severity text
  { desk with board, feed }

def grade (desk : Desk) (key : DataKey) (severity : Severity) (title : String) : Desk :=
  let (_, board, feed) := desk.board.grade desk.feed key severity title
  { desk with board, feed }

/-- What the operator reads about a sample that the display did not take. -/
def refusalText (key : DataKey) (value : Int) : String :=
  s!"Failed to add data point to display. {key.text} value: {value}"

/-- Shows a sample. A sample that the display does not take is a fault. -/
def sample (desk : Desk) (key : DataKey) (value : Int) : Desk :=
  let refused (desk : Desk) : Desk := desk.fault (refusalText key value)
  if desk.displays key then
    match desk.feed.sample key value with
    | (true, feed) => { desk with feed }
    | (false, feed) => refused { desk with feed }
  else
    refused desk

def perform (desk : Desk) : Action → Desk
  | .post channel severity text => desk.post channel severity text
  | .fault text => desk.fault text
  | .present node => { desk with rollCall := desk.rollCall.record node }
  | .restart key timeout => { desk with countdowns := desk.countdowns.restart key timeout }
  | .grade key severity title => desk.grade key severity title
  | .sample key value => desk.sample key value
  | .upsert slot channel severity text => desk.upsert slot channel severity text

/-- Reads a message. -/
def decode (desk : Desk) (message : Message) : Desk :=
  let counted := desk.counters.countMessage message.address.function?
  (Reading.message desk.profile message).foldl perform { desk with counters := counted }

/-- Reads the message of a valid frame; a frame that failed its checksum changes nothing. -/
def receive (desk : Desk) : FrameEvent → Desk
  | .valid payload => desk.decode (.ofPayload payload)
  | .invalid _ _ _ => desk

/-- What the operator reads about a command that was rejected. -/
def rejectionText (e : CommandError) : String :=
  s!"unable to interpret provided user command: {e.message}"

/-- Reads a command text; a rejected one is counted and posted. -/
def command (desk : Desk) (text : String) : Except CommandError Command × Desk :=
  match Command.parse text with
  | .ok command => (.ok command, desk)
  | .error e =>
    let counted :=
      { desk.counters with rejectedCommands := desk.counters.rejectedCommands + 1 }
    (.error e, { desk with counters := counted }.post .telemetry .warning (rejectionText e))

/-- Closes the roll call and shows its report. -/
def evaluate (desk : Desk) : RollCall.Report × Desk :=
  let (report, rollCall) := desk.rollCall.evaluate desk.profile.registry
  (report,
    { desk with rollCall }.upsert .heartbeatWindow .telemetry report.severity report.text)

/-- What the operator reads about a late frame. -/
def overdueText (registry : Registry) (row : Overdue) : String :=
  let node := RollCall.label registry row.key.node
  s!"Missing CAN frame: {node} (frameIndex={row.key.frame}). " ++
    s!"Expected every ~{row.expected}ms; overdue by {row.late}ms."

/-- Posts that a frame is late, and counts it. -/
def reportOverdue (desk : Desk) (row : Overdue) : Desk :=
  let counted := { desk.counters with overdueFrames := desk.counters.overdueFrames + 1 }
  { desk with counters := counted }.post .telemetry .warning
    (overdueText desk.profile.registry row)

/-- One tick of all countdowns. -/
def tick (desk : Desk) (policy : TickPolicy) : List Overdue × Desk :=
  let (overdue, countdowns) := desk.countdowns.tick policy
  (overdue, overdue.foldl reportOverdue { desk with countdowns })

/-- The waiting events of the feed. -/
def takeEvents (desk : Desk) : List Feed.Event × Desk :=
  let (events, feed) := desk.feed.take
  (events, { desk with feed })

/-- Nobody listens to the feed any more. -/
def hangUp (desk : Desk) : Desk :=
  { desk with feed := desk.feed.hangUp }

/-- Repeats an activity until the feed holds the given number of events, at most `fuel` times. -/
def untilEvents (wanted : Nat) (activity : Desk → Desk) : (fuel : Nat) → Desk → Desk
  | 0, desk => desk
  | fuel + 1, desk =>
    if wanted ≤ desk.feed.events.size then desk
    else untilEvents wanted activity fuel (activity desk)

end Desk

end GroundStation
