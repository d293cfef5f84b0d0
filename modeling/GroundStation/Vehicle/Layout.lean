import GroundStation.Bits
import GroundStation.Halt

/-!
Where the parts of a warning word and of a heartbeat word lie. A layout can be checked; the check
reports the first rule that is broken, the warning rules before the heartbeat rules. A sum of
positions and widths that does not fit into 32 bits stops the program, in the check and wherever the
measures of a heartbeat layout are asked for. The measures themselves are 32-bit numbers; for a layout
that passes its check they are reached without a halt.
-/

namespace GroundStation

/-- The rule that a layout breaks. -/
inductive LayoutProblem where
  | typeBitsOutside
  | typeBitsNotDistinct
  | nodeOverlapsType
  | nodeWidth (bits : UInt32)
  | frameOverlapsData
  | dataOutsideWord
  | heartbeatTypeWidth (bits : UInt32)
  | heartbeatTypeValues
  | heartbeatPageWidth (bits : UInt32)
  | tooFewNodeSlots (slots : Nat)
  | heartbeatFieldWidths
  | timingHeaderTooLong
deriving DecidableEq, Repr

namespace Layout

/-- A status page must have more node slots than this. -/
def minNodeSlots : UInt32 := 30

end Layout

namespace LayoutProblem

def message : LayoutProblem → String
  | typeBitsOutside => "warning type bits fall outside the type field"
  | typeBitsNotDistinct => "warning critical/non-critical bits must be distinct and non-zero"
  | nodeOverlapsType => "warning node id overlaps the type field"
  | nodeWidth bits => s!"warning node id must be 1..=8 bits, got {bits}"
  | frameOverlapsData => "warning frame number overlaps the data index"
  | dataOutsideWord => "warning data index does not fit the 32-bit warning word"
  | heartbeatTypeWidth bits => s!"heartbeat type field must be 1..=32 bits, got {bits}"
  | heartbeatTypeValues => "heartbeat type values must be distinct and fit the type field"
  | heartbeatPageWidth bits => s!"heartbeat page field must be at most 32 bits, got {bits}"
  | tooFewNodeSlots slots =>
      s!"heartbeat status page carries {slots} node slots; more than {Layout.minNodeSlots} required"
  | heartbeatFieldWidths => "heartbeat timer must be 1..=32 bits and node id 1..=8 bits"
  | timingHeaderTooLong => "heartbeat timing header exceeds 64 bits"

end LayoutProblem

namespace Layout

/-- The parts of a warning word: type bits at the bottom, which open the flags, then node, frame and
data index. -/
structure Warning where
  typeBits : UInt32 := 3
  criticalBit : UInt32 := 1
  nonCriticalBit : UInt32 := 2
  nodeOffset : UInt32 := 12
  frameOffset : UInt32 := 19
  frameBits : UInt32 := 5
  dataOffset : UInt32 := 24
  dataBits : UInt32 := 5
deriving DecidableEq, Repr

/-- The parts of a heartbeat word. A timing word holds its type, an average and pairs of node and
time; a status word holds its type, a page number and one presence bit per node. -/
structure Heartbeat where
  typeBits : UInt32 := 2
  timingType : UInt64 := 0
  statusType : UInt64 := 1
  pageBits : UInt32 := 3
  timerBits : UInt32 := 10
  nodeBits : UInt32 := 7
  maxTimingPairs : UInt32 := 3
deriving DecidableEq, Repr

/-- Subtraction that stops at zero. -/
def monus (a b : UInt32) : UInt32 :=
  if a < b then 0 else a - b

/-- A way to add two numbers of 32 bits. -/
abbrev Addition := Nat → Nat → Except Halt Nat

/-- One rule of a check: the problem is reported if the rule is broken. -/
def rule (broken : Prop) [Decidable broken] (problem : LayoutProblem) :
    Except (Stop LayoutProblem) Unit :=
  if broken then .error (.refused problem) else .ok ()

/-- A sum inside a check. -/
def Addition.sum (add : Addition) (a b : UInt32) : Except (Stop LayoutProblem) Nat :=
  (add a.toNat b.toNat).mapError .halted

namespace Warning

/-- The node field reaches up to the frame field. -/
def nodeBits (layout : Warning) : UInt32 :=
  monus layout.frameOffset layout.nodeOffset

/-- The rules about the type bits and the node. They need no sum. -/
def opening (layout : Warning) : Except (Stop LayoutProblem) Unit := do
  let typeMask := Bits.lowMask32 layout.typeBits
  rule (layout.criticalBit &&& ~~~typeMask ≠ 0 ∨ layout.nonCriticalBit &&& ~~~typeMask ≠ 0)
    .typeBitsOutside
  rule (layout.criticalBit = 0 ∨ layout.nonCriticalBit = 0 ∨
    layout.criticalBit &&& layout.nonCriticalBit ≠ 0) .typeBitsNotDistinct
  rule (layout.nodeOffset < layout.typeBits) .nodeOverlapsType
  rule (layout.nodeBits < 1 ∨ 8 < layout.nodeBits) (.nodeWidth layout.nodeBits)

/-- The rules about the frame and the data index. -/
def closing (add : Addition) (layout : Warning) : Except (Stop LayoutProblem) Unit := do
  let frameEnd ← add.sum layout.frameOffset layout.frameBits
  rule (layout.dataOffset.toNat < frameEnd) .frameOverlapsData
  rule (8 < layout.dataBits.toNat) .dataOutsideWord
  let dataEnd ← add.sum layout.dataOffset layout.dataBits
  rule (32 < dataEnd) .dataOutsideWord

def checkWith (add : Addition) (layout : Warning) : Except (Stop LayoutProblem) Unit := do
  layout.opening
  layout.closing add

def check (layout : Warning) : Except (Stop LayoutProblem) Unit :=
  layout.checkWith (Halt.sum UInt32.size)

end Warning

namespace Heartbeat

def statusHeaderBits (layout : Heartbeat) : UInt32 :=
  layout.typeBits + layout.pageBits

/-- How many presence bits a status word has room for. -/
def nodeSlotsPerPage (layout : Heartbeat) : UInt32 :=
  monus 64 layout.statusHeaderBits

def pairBits (layout : Heartbeat) : UInt32 :=
  layout.nodeBits + layout.timerBits

/-- How many pairs of `pair` bits fit behind a header of `header` bits, at most `most`. -/
def pairsBehind (header pair most : UInt32) : UInt32 :=
  let byBits := if pair = 0 then 0 else monus 64 header / pair
  if byBits < most then byBits else most

/-- How many pairs a timing word holds. -/
def timingPairs (layout : Heartbeat) : UInt32 :=
  pairsBehind (layout.typeBits + layout.timerBits) layout.pairBits layout.maxTimingPairs

/-! The measures again, as they are computed: a sum beyond 32 bits halts. -/

def statusHeaderBitsChecked (layout : Heartbeat) : Except Halt UInt32 :=
  Halt.sum32 layout.typeBits layout.pageBits

def nodeSlotsPerPageChecked (layout : Heartbeat) : Except Halt UInt32 := do
  return monus 64 (← layout.statusHeaderBitsChecked)

def pairBitsChecked (layout : Heartbeat) : Except Halt UInt32 :=
  Halt.sum32 layout.nodeBits layout.timerBits

def timingPairsChecked (layout : Heartbeat) : Except Halt UInt32 := do
  let header ← Halt.sum32 layout.typeBits layout.timerBits
  let pair ← layout.pairBitsChecked
  return pairsBehind header pair layout.maxTimingPairs

def checkWith (add : Addition) (layout : Heartbeat) : Except (Stop LayoutProblem) Unit := do
  let typeMask := Bits.lowMask64 layout.typeBits
  rule (layout.typeBits < 1 ∨ 32 < layout.typeBits) (.heartbeatTypeWidth layout.typeBits)
  rule (layout.timingType &&& ~~~typeMask ≠ 0 ∨ layout.statusType &&& ~~~typeMask ≠ 0 ∨
    layout.timingType = layout.statusType) .heartbeatTypeValues
  rule (32 < layout.pageBits) (.heartbeatPageWidth layout.pageBits)
  let statusHeader ← add.sum layout.typeBits layout.pageBits
  rule (64 - statusHeader ≤ minNodeSlots.toNat) (.tooFewNodeSlots (64 - statusHeader))
  rule (layout.timerBits < 1 ∨ 32 < layout.timerBits ∨ layout.nodeBits < 1 ∨ 8 < layout.nodeBits)
    .heartbeatFieldWidths
  let timingHeader ← add.sum layout.typeBits layout.timerBits
  rule (64 < timingHeader) .timingHeaderTooLong

def check (layout : Heartbeat) : Except (Stop LayoutProblem) Unit :=
  layout.checkWith (Halt.sum UInt32.size)

end Heartbeat

end Layout

structure Layout where
  warning : Layout.Warning := {}
  heartbeat : Layout.Heartbeat := {}
deriving DecidableEq, Repr

namespace Layout

def checkWith (add : Addition) (layout : Layout) : Except (Stop LayoutProblem) Unit := do
  layout.warning.checkWith add
  layout.heartbeat.checkWith add

def check (layout : Layout) : Except (Stop LayoutProblem) Unit :=
  layout.checkWith (Halt.sum UInt32.size)

theorem check_default : check {} = .ok () := rfl

end Layout

end GroundStation
