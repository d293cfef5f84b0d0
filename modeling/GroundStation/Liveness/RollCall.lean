import GroundStation.Alert.Severity
import GroundStation.Vehicle.Registry

/-!
The roll call collects the nodes that answered a heartbeat ping. Closing it compares the answers with
the roster, position by position, and starts the next roll call with no answers.
-/

namespace GroundStation

structure RollCall where
  /-- The nodes that answered, in rising order. -/
  present : List UInt8 := []
deriving DecidableEq, Repr

namespace RollCall

/-- The result of a roll call. -/
structure Report where
  /-- How many positions of the roster answered. -/
  collected : Nat
  /-- The length of the roster. -/
  total : Nat
  /-- What the other positions are called, in the order of the roster. -/
  missing : List String
deriving DecidableEq, Repr

namespace Report

def severity (report : Report) : Severity :=
  if report.collected = report.total then .ok else .warning

def text (report : Report) : String :=
  let count := s!"HB Pong Status ({report.collected}/{report.total})"
  match report.missing with
  | [] => count
  | missing => s!"{count}. Missing: " ++ ", ".intercalate missing

end Report

/-- A rising list with one more member. -/
def enroll (node : UInt8) : List UInt8 → List UInt8
  | [] => [node]
  | other :: rest =>
    if node < other then node :: other :: rest
    else if node = other then other :: rest
    else other :: enroll node rest

def record (call : RollCall) (node : UInt8) : RollCall :=
  ⟨enroll node call.present⟩

def contains (call : RollCall) (node : UInt8) : Bool :=
  call.present.contains node

/-- The nodes that answered; the next roll call starts empty. -/
def take (call : RollCall) : List UInt8 × RollCall :=
  (call.present, {})

/-- What a node is called in a report. -/
def label (registry : Registry) (node : UInt8) : String :=
  (registry.nodeName? node).getD s!"id={node}"

def report (call : RollCall) (registry : Registry) : Report where
  collected := (registry.roster.filter call.contains).length
  total := registry.roster.length
  missing := (registry.roster.filter fun node => !call.contains node).map (label registry)

/-- Closes the roll call. -/
def evaluate (call : RollCall) (registry : Registry) : Report × RollCall :=
  (call.report registry, {})

end RollCall

end GroundStation
