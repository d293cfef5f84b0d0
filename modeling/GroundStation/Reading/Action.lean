import GroundStation.Alert.Board

/-!
What a message asks of the operator's desk. Reading a message gives a list of actions, which depends
on the vehicle's profile and on the message only, never on what was received before.
-/

namespace GroundStation

inductive Action where
  /-- Post a notice. -/
  | post (channel : Channel) (severity : Severity) (text : String)
  /-- Post that the message is not as agreed. -/
  | fault (text : String)
  /-- A node answered the heartbeat ping. -/
  | present (node : UInt8)
  /-- A watched frame arrived. -/
  | restart (key : FrameKey) (timeout : UInt32)
  /-- Show the severity of a data point; the title is for its first notice. -/
  | grade (key : DataKey) (severity : Severity) (title : String)
  /-- Show a value on the display. -/
  | sample (key : DataKey) (value : Int)
  /-- Write a slot of the board. -/
  | upsert (slot : Slot) (channel : Channel) (severity : Severity) (text : String)
deriving DecidableEq, Repr

end GroundStation
