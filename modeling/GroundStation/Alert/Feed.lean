import GroundStation.Alert.Severity
import GroundStation.Vehicle.Key

/-!
The feed carries events to the operator's screen. A posted notice gets a handle, counted from one;
later events can change its text or its severity through the handle. Samples go to the display.
When nobody listens any more, events are lost and samples are refused, and handles go on counting.

Handles are numbers without a bound. A feed that counts them in 64 bits gives out the same ones until
`2 ^ 64 - 1` notices have been posted, and would start over after that.
-/

namespace GroundStation

namespace Feed

inductive Event where
  | post (id : Nat) (channel : Channel) (severity : Severity) (text : String)
  | text (id : Nat) (text : String)
  | severity (id : Nat) (severity : Severity)
  | sample (key : DataKey) (value : Int)
deriving DecidableEq, Repr

end Feed

structure Feed where
  /-- The handle of the next notice. -/
  nextId : Nat := 1
  /-- Whether somebody listens. -/
  live : Bool := true
  /-- The events that nobody has taken yet, oldest first. -/
  events : Array Feed.Event := #[]
deriving DecidableEq, Repr

namespace Feed

def emit (feed : Feed) (event : Event) : Feed :=
  if feed.live then { feed with events := feed.events.push event } else feed

@[simp] theorem live_emit (feed : Feed) (event : Event) :
    (feed.emit event).live = feed.live := by
  unfold emit
  split <;> rfl

@[simp] theorem nextId_emit (feed : Feed) (event : Event) :
    (feed.emit event).nextId = feed.nextId := by
  unfold emit
  split <;> rfl

theorem toList_emit {feed : Feed} (hlive : feed.live = true) (event : Event) :
    (feed.emit event).events.toList = feed.events.toList ++ [event] := by
  unfold emit
  rw [if_pos hlive]
  exact Array.toList_push

/-- Posts a notice and returns its handle. -/
def post (feed : Feed) (channel : Channel) (severity : Severity) (text : String) : Nat × Feed :=
  let id := feed.nextId
  (id, { feed with nextId := id + 1 }.emit (.post id channel severity text))

@[simp] theorem live_post (feed : Feed) (channel : Channel) (severity : Severity) (text : String) :
    (feed.post channel severity text).2.live = feed.live := by
  simp [post]

@[simp] theorem nextId_post (feed : Feed) (channel : Channel) (severity : Severity)
    (text : String) : (feed.post channel severity text).2.nextId = feed.nextId + 1 := by
  simp [post]

theorem toList_post {feed : Feed} (hlive : feed.live = true) (channel : Channel)
    (severity : Severity) (text : String) :
    (feed.post channel severity text).2.events.toList =
      feed.events.toList ++ [.post feed.nextId channel severity text] := by
  have hnext : { feed with nextId := feed.nextId + 1 }.live = true := hlive
  exact toList_emit hnext _

def setText (feed : Feed) (id : Nat) (text : String) : Feed :=
  feed.emit (.text id text)

def setSeverity (feed : Feed) (id : Nat) (severity : Severity) : Feed :=
  feed.emit (.severity id severity)

/-- Sends a sample to the display; the flag says whether it was accepted. -/
def sample (feed : Feed) (key : DataKey) (value : Int) : Bool × Feed :=
  (feed.live, feed.emit (.sample key value))

/-- Takes the waiting events. -/
def take (feed : Feed) : List Event × Feed :=
  (feed.events.toList, { feed with events := #[] })

/-- The listener leaves; what waits is lost. -/
def hangUp (feed : Feed) : Feed :=
  { feed with live := false, events := #[] }

end Feed

end GroundStation
