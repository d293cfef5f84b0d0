import GroundStation.Table
import GroundStation.Vehicle.Key

/-!
The registry says which nodes the vehicle has, which frames they send and what each data point in a
frame means. It is built from a list of entries. A later entry for the same node, frame or data
point overrides an earlier one; a data point makes sure that its frame exists and declares enough
points, and never changes the frame's timeout.

The roster is the list of nodes that heartbeats are expected from. A node joins it when it is first
named, and a roster entry replaces it as a whole.
-/

namespace GroundStation

structure FrameInfo where
  /-- How often the frame is expected, in milliseconds; zero if it is not watched. -/
  timeout : UInt32
  /-- How many data points the frame declares. -/
  points : UInt8
deriving DecidableEq, Repr

/-- How a data point is packed and which values are normal. -/
structure PointInfo where
  name : String
  bitLength : UInt8
  min : Int32
  max : Int32
  minWarning : Int32
  maxWarning : Int32
  minCritical : Int32
  maxCritical : Int32
deriving DecidableEq, Repr

structure Registry where
  nodes : Table UInt8 String := {}
  frames : Table FrameKey FrameInfo := {}
  points : Table DataKey PointInfo := {}
  roster : List UInt8 := []

namespace Registry

inductive Entry where
  | node (id : UInt8) (name : String)
  | frame (key : FrameKey) (timeout : UInt32)
  | point (key : DataKey) (info : PointInfo)
  | roster (nodes : List UInt8)
deriving DecidableEq, Repr

/-- How many points a frame must declare to hold the given index; 255 is the most. -/
def pointsFor (index : UInt8) : UInt8 :=
  if index = 255 then 255 else index + 1

def addNode (registry : Registry) (id : UInt8) (name : String) : Registry :=
  { registry with
    nodes := registry.nodes.insert id name
    roster := if registry.nodes.contains id then registry.roster else registry.roster ++ [id] }

def addFrame (registry : Registry) (key : FrameKey) (timeout : UInt32) : Registry :=
  let points := (registry.frames.get? key).elim 0 FrameInfo.points
  { registry with frames := registry.frames.insert key { timeout, points } }

def addPoint (registry : Registry) (key : DataKey) (info : PointInfo) : Registry :=
  let frame := (registry.frames.get? key.frameKey).getD { timeout := 0, points := 0 }
  let wanted := pointsFor key.index
  let points := if frame.points < wanted then wanted else frame.points
  { registry with
    frames := registry.frames.insert key.frameKey { frame with points }
    points := registry.points.insert key info }

def add (registry : Registry) : Entry → Registry
  | .node id name => registry.addNode id name
  | .frame key timeout => registry.addFrame key timeout
  | .point key info => registry.addPoint key info
  | .roster nodes => { registry with roster := nodes }

def ofEntries (entries : List Entry) : Registry :=
  entries.foldl add {}

def nodeName? (registry : Registry) (id : UInt8) : Option String :=
  registry.nodes.get? id

def frame? (registry : Registry) (key : FrameKey) : Option FrameInfo :=
  registry.frames.get? key

def point? (registry : Registry) (key : DataKey) : Option PointInfo :=
  registry.points.get? key

/-- The watched frames with their timeouts, in the order of frames. -/
def monitored (registry : Registry) : List (FrameKey × UInt32) :=
  (registry.frames.rows.filterMap fun (key, info) =>
      if 0 < info.timeout then some (key, info.timeout) else none).mergeSort
    fun a b => a.1.le b.1

/-- What a data point is called on the display. -/
def title (registry : Registry) (key : DataKey) : String :=
  let node := (registry.nodeName? key.node).getD s!"node{key.node}"
  let point := (registry.point? key).elim s!"dp{key.index}" PointInfo.name
  s!"{node}.{point}"

end Registry

end GroundStation
