import GroundStation.Alert.Feed
import GroundStation.Table

/-!
The board keeps notices that are updated in place. A slot holds at most one notice, which is posted
when the slot is first written and changed after that. Each data point has a signal, which is posted
when the point first leaves the normal range and changes severity only when the point does.
-/

namespace GroundStation

/-- A place on the board. -/
inductive Slot where
  | busStatus
  | heartbeatTiming
  | heartbeatPage (page : UInt32)
  | heartbeatWindow
deriving DecidableEq, Repr

/-- The notice that follows a data point, and the severity that it shows. -/
structure Signal where
  id : Nat
  severity : Severity
deriving DecidableEq, Repr

/-- What a graded data point did to its signal. -/
inductive Transition where
  | unchanged
  | changed
  | opened
deriving DecidableEq, Repr

structure Board where
  slots : Table Slot Nat := {}
  signals : Table DataKey Signal := {}

namespace Board

/-- The handle of the notice in a slot. -/
def slot? (board : Board) (slot : Slot) : Option Nat :=
  board.slots.get? slot

/-- Writes a slot: the first time its notice is posted, later its text and severity are changed and
the channel is ignored. Returns the notice's handle. -/
def upsert (board : Board) (feed : Feed) (slot : Slot) (channel : Channel) (severity : Severity)
    (text : String) : Nat × Board × Feed :=
  match board.slots.get? slot with
  | some id => (id, board, (feed.setText id text).setSeverity id severity)
  | none =>
    let (id, feed) := feed.post channel severity text
    (id, { board with slots := board.slots.insert slot id }, feed)

/-- Shows the severity of a data point on its signal. A point that was never out of range and still
is not gets no signal. -/
def grade (board : Board) (feed : Feed) (key : DataKey) (severity : Severity) (title : String) :
    Transition × Board × Feed :=
  match board.signals.get? key with
  | some signal =>
    if signal.severity = severity then
      (.unchanged, board, feed)
    else
      (.changed, { board with signals := board.signals.insert key { signal with severity } },
        feed.setSeverity signal.id severity)
  | none =>
    if severity = .ok then
      (.unchanged, board, feed)
    else
      let (id, feed) := feed.post .telemetry severity s!"status of: {title}"
      (.opened, { board with signals := board.signals.insert key { id, severity } }, feed)

end Board

end GroundStation
