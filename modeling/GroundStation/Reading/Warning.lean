import GroundStation.Reading.Action
import GroundStation.Vehicle.Profile

/-!
Warning messages. The low 32 bits of the data word say how serious the warning is, which flags are
set and which node, frame and data point it is about.
-/

namespace GroundStation.Reading

/-- The parts of a warning word. -/
structure Warning where
  critical : Bool
  nonCritical : Bool
  flags : UInt32
  node : UInt8
  frame : UInt32
  index : UInt8
deriving DecidableEq, Repr

namespace Warning

def ofData (layout : Layout.Warning) (data : UInt64) : Warning :=
  let word := Bits.field data 0 32
  let kind := Bits.field word 0 layout.typeBits
  let part (offset width : UInt32) : UInt32 := Bits.narrow32 (Bits.field word offset width) 0
  { critical := kind &&& layout.criticalBit.toUInt64 ≠ 0
    nonCritical := kind &&& layout.nonCriticalBit.toUInt64 ≠ 0
    flags := Bits.narrow32 (Bits.field word 0 layout.nodeOffset) 0xFFFFFFFF
    node := Bits.narrow8 (part layout.nodeOffset layout.nodeBits).toUInt64 0
    frame := part layout.frameOffset layout.frameBits
    index := Bits.narrow8 (part layout.dataOffset layout.dataBits).toUInt64 0 }

def severity (warning : Warning) : Severity :=
  if warning.critical then .critical else .warning

def typeLabel (warning : Warning) : String :=
  if warning.critical then "CRITICAL" else if warning.nonCritical then "WARNING" else "NONE"

/-- A warning should have exactly one of its two type bits. -/
def typeNotice (warning : Warning) : List Action :=
  match warning.critical, warning.nonCritical with
  | false, false => [.fault "Warning msg with no critical/non-critical type bit set."]
  | true, true =>
      [.post .telemetry .critical "Warning msg with BOTH critical and non-critical bits set."]
  | _, _ => []

def text (profile : Profile) (warning : Warning) : String :=
  let registry := profile.registry
  let node := warning.node
  let name := (registry.nodeName? node).getD s!"Unrecognized nodeID: {node}"
  let point := (registry.point? ⟨node, warning.frame, warning.index⟩).elim "unknown dataName"
    PointInfo.name
  let flags := profile.codebook.warningFlags.describe warning.flags
  s!"warning for node: {name} (id={node}). type={warning.typeLabel}. flags={flags}. " ++
    s!"Other fields: frame={warning.frame}, data={point}"

def actions (profile : Profile) (warning : Warning) : List Action :=
  warning.typeNotice ++ [.post .vitals warning.severity (warning.text profile)]

end Warning

/-- What a warning message asks for. -/
def warning (profile : Profile) (data : UInt64) : List Action :=
  (Warning.ofData profile.layout.warning data).actions profile

end GroundStation.Reading
