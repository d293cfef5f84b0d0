import GroundStation.Reading.Action
import GroundStation.Vehicle.Profile

/-!
Heartbeat reports. A timing word gives an average answer time and the times of some nodes. A status
word gives one page of presence bits: the roster is cut into pages of equal length, and the bits of
a page stand in the order of the roster.
-/

namespace GroundStation.Reading

open Layout (Heartbeat)

/-- One pair of a timing word. -/
structure TimingPair where
  node : UInt64
  time : UInt64
deriving DecidableEq, Repr

/-- A pair without a node is padding. -/
def TimingPair.isNull (pair : TimingPair) : Bool :=
  pair.node == 0

/-- The pairs that follow the average in a timing word, the first at bit `cursor`. Padding is skipped
as a whole pair; behind a node the cursor moves over the node and then over its time. -/
def timingPairs (layout : Heartbeat) (data : UInt64) : (count : Nat) → (cursor : UInt32) →
    List TimingPair
  | 0, _ => []
  | count + 1, cursor =>
    let pair : TimingPair :=
      { node := Bits.field data cursor layout.nodeBits
        time := Bits.field data (cursor + layout.nodeBits) layout.timerBits }
    if pair.isNull then
      pair :: timingPairs layout data count (cursor + layout.pairBits)
    else
      pair :: timingPairs layout data count (cursor + layout.nodeBits + layout.timerBits)

namespace TimingPair

/-- The node of the pair. -/
def nodeId (pair : TimingPair) : UInt8 :=
  Bits.narrow8 pair.node 255

/-- The part of the notice's text that the pair adds. -/
def text (registry : Registry) (pair : TimingPair) : String :=
  if pair.isNull then
    ""
  else
    match registry.nodeName? pair.nodeId with
    | some name => s!"; {name}={pair.time}ms"
    | none => s!"; id{pair.nodeId}={pair.time}ms"

/-- What is wrong with the pair. Padding is in order only if the roster is too short to fill the
word. -/
def faults (registry : Registry) (count : Nat) (pair : TimingPair) : List Action :=
  if pair.isNull then
    if count ≤ registry.roster.length then
      [.fault ("Got Null node (id=0) for HB timing, even though there are enough " ++
        "nodes to fill the msg.")]
    else
      []
  else
    match registry.nodeName? pair.nodeId with
    | some _ => []
    | none => [.fault s!"HB Timing parse: missing nodeInfo for nodeID={pair.nodeId}"]

end TimingPair

/-- What a timing word asks for. -/
def heartbeatTiming (layout : Heartbeat) (registry : Registry) (data : UInt64) : List Action :=
  let average := Bits.field data layout.typeBits layout.timerBits
  let count := layout.timingPairs.toNat
  let pairs := timingPairs layout data count (layout.typeBits + layout.timerBits)
  let details := String.join (pairs.map (TimingPair.text registry))
  pairs.flatMap (TimingPair.faults registry count) ++
    [.upsert .heartbeatTiming .vitals .ok s!"HB Timing: avg={average}ms{details}"]

/-- How many pages of `slots` nodes the roster takes. -/
def pagesNeeded (slots total : Nat) : Nat :=
  (total + slots - 1) / slots

/-- The nodes of a page with whether their presence bit is set. -/
def presence (layout : Heartbeat) (data : UInt64) (nodes : List UInt8) : List (UInt8 × Bool) :=
  nodes.zipIdx.map fun (node, slot) =>
    (node, Bits.field data (layout.statusHeaderBits + UInt32.ofNat slot) 1 == 1)

/-- The report of one page. -/
def statusPage (registry : Registry) (page : UInt32) (marks : List (UInt8 × Bool)) : List Action :=
  let absent := (marks.filter fun mark => !mark.2).map Prod.fst
  let collected := (marks.filter Prod.snd).length
  let expected := marks.length
  let faults := absent.filterMap fun node =>
    match registry.nodeName? node with
    | some _ => none
    | none => some (Action.fault s!"HB Status parse: missing nodeInfo for nodeID={node}")
  let missing := ",".intercalate (absent.filterMap registry.nodeName?)
  let severity : Severity := if collected = expected then .ok else .warning
  let count := s!"HB Status frame {page} ({collected}/{expected})."
  let text :=
    if severity = .warning then s!"{count} missingNodes=" ++ "\x7b" ++ missing ++ "\x7d" else count
  faults ++ [.upsert (.heartbeatPage page) .vitals severity text]

/-- What a status word asks for. -/
def heartbeatStatus (layout : Heartbeat) (registry : Registry) (data : UInt64) : List Action :=
  let slots := layout.nodeSlotsPerPage.toNat
  let page := Bits.narrow32 (Bits.field data layout.typeBits layout.pageBits) 0xFFFFFFFF
  let total := registry.roster.length
  let needed := pagesNeeded slots total
  if needed ≤ page.toNat then
    [.fault (s!"HB Status parse: received frameNo={page} but framesNeeded={needed} " ++
      s!"for numberOfNodes={total}")]
  else
    let start := page.toNat * slots
    let stop := min total (start + slots)
    if stop ≤ start then
      [.fault s!"HB Status parse: empty node range for frame {page}"]
    else
      statusPage registry page
        (presence layout data ((registry.roster.drop start).take (stop - start)))

/-- What a heartbeat report asks for. -/
def heartbeat (profile : Profile) (data : UInt64) : List Action :=
  let layout := profile.layout.heartbeat
  let kind := Bits.field data 0 layout.typeBits
  if kind = layout.timingType then
    heartbeatTiming layout profile.registry data
  else if kind = layout.statusType then
    heartbeatStatus layout profile.registry data
  else
    [.fault s!"HB parse: unknown frame type value {kind}"]

end GroundStation.Reading
