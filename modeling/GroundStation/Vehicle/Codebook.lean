import GroundStation.Alert.Severity
import GroundStation.Table

/-!
The meaning of coded values. A code table names the codes of one kind of message and says how serious
each is; a code that was never given a severity is OK, and naming a code again keeps the severity it
has. A flag table names masks; a value is described by the names of all masks that share a bit with
it, in the order of the masks.
-/

namespace GroundStation

structure CodeTable where
  kind : String
  names : Table Int String := {}
  severities : Table Int Severity := {}

namespace CodeTable

/-- Names a code. -/
def define (table : CodeTable) (code : Int) (name : String) : CodeTable :=
  { table with names := table.names.insert code name }

/-- Names a code and says how serious it is. -/
def classify (table : CodeTable) (code : Int) (name : String) (severity : Severity) : CodeTable :=
  { table with
    names := table.names.insert code name
    severities :=
      if severity = .ok then table.severities.erase code
      else table.severities.insert code severity }

def name? (table : CodeTable) (code : Int) : Option String :=
  table.names.get? code

def severity (table : CodeTable) (code : Int) : Severity :=
  (table.severities.get? code).getD .ok

end CodeTable

structure FlagTable where
  rows : List (UInt32 × String) := []
deriving DecidableEq, Repr

namespace FlagTable

/-- Puts a row behind the rows whose masks are not greater. -/
def place (mask : UInt32) (name : String) : List (UInt32 × String) → List (UInt32 × String)
  | [] => [(mask, name)]
  | row :: rest => if mask < row.1 then (mask, name) :: row :: rest else row :: place mask name rest

def add (table : FlagTable) (mask : UInt32) (name : String) : FlagTable :=
  ⟨place mask name table.rows⟩

/-- The names of the masks that share a bit with the value. -/
def names (table : FlagTable) (value : UInt32) : List String :=
  (table.rows.filter fun row => value &&& row.1 ≠ 0).map Prod.snd

def describe (table : FlagTable) (value : UInt32) : String :=
  match table.names value with
  | [] => "no flags set"
  | names => ", ".intercalate names

end FlagTable

/-- All code tables of the vehicle. -/
structure Codebook where
  telemetryCommand : CodeTable
  statusUpdate : CodeTable
  warningFlags : FlagTable
  busState : CodeTable
  /-- The bus state that is normal. -/
  busStateRunning : UInt8

namespace Codebook

def standardWarningFlags : FlagTable :=
  ({} : FlagTable)
    |>.add 0x001 "critical"
    |>.add 0x002 "nonCritical"
    |>.add 0x004 "latched"
    |>.add 0x008 "valueAboveMax"
    |>.add 0x010 "valueBelowMin"
    |>.add 0x020 "frameMissing"
    |>.add 0x040 "nodeReset"
    |>.add 0x080 "busFault"
    |>.add 0x100 "sensorFault"

def standard : Codebook where
  telemetryCommand :=
    ({ kind := "telemetryCommand" } : CodeTable)
      |>.define 0 "ack"
      |>.define 1 "valueUpdated"
      |>.define 2 "enablePrecharge"
      |>.classify 3 "disablePrecharge" .critical
      |>.classify 4 "commandRejected" .warning
  statusUpdate :=
    ({ kind := "statusUpdate" } : CodeTable)
      |>.define 0 "nominal"
      |>.define 1 "prechargeOn"
      |>.classify 2 "prechargeOff" .critical
      |>.classify 3 "lowPowerMode" .warning
  warningFlags := standardWarningFlags
  busState :=
    ({ kind := "busState" } : CodeTable)
      |>.define 0 "stopped"
      |>.define 1 "running"
      |>.define 2 "busOff"
      |>.define 3 "recovering"
  busStateRunning := 1

end Codebook

end GroundStation
