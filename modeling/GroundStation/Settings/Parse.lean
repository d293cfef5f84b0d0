import GroundStation.Settings.Basic
import GroundStation.Settings.JsonReader

/-!
Settings from JSON text. Every group of settings is an object; a member that is missing keeps its
default and an unknown one is ignored, but a known one must not stand twice. An array stands for the
object that gives its items, in order, to the first keys of the group. A duration needs both of its
members and takes no other. Layouts are not checked here.
-/

namespace GroundStation.Settings

/-- The members of an object. -/
abbrev Members := List (String × JsonValue)

/-- The members of a group with the given keys. An array gives its items to the keys in their order: it
may leave out the last keys, but has no item beyond them. -/
def group? (keys : List String) : JsonValue → Option Members
  | .array items => if items.length ≤ keys.length then some (keys.zip items) else none
  | value => value.members?

/-- The values that stand under a key. -/
def under (key : String) (members : Members) : List JsonValue :=
  (members.filter fun member => member.1 == key).map Prod.snd

/-- The member with the given key, read by `read`, or the default if there is none. -/
def memberD {α : Type} (members : Members) (key : String) (default : α)
    (read : JsonValue → Option α) : Option α :=
  match under key members with
  | [] => some default
  | [value] => read value
  | _ => none

/-- The member with the given key, which must be there once. -/
def member {α : Type} (members : Members) (key : String) (read : JsonValue → Option α) : Option α :=
  match under key members with
  | [value] => read value
  | _ => none

def uint32? (value : JsonValue) : Option UInt32 :=
  (value.natural? UInt32.size).map UInt32.ofNat

def uint64? (value : JsonValue) : Option UInt64 :=
  (value.natural? UInt64.size).map UInt64.ofNat

/-- A count that may be absent. -/
def limit? : JsonValue → Option (Option Nat)
  | .null => some none
  | value => (value.natural? UInt64.size).map some

/-- Nanoseconds from a second on carry into the seconds, which must still fit into 64 bits. -/
def duration? (value : JsonValue) : Option Duration := do
  let members ← group? ["secs", "nanos"] value
  if members.all fun member => member.1 == "secs" || member.1 == "nanos" then
    let secs ← member members "secs" (JsonValue.natural? UInt64.size)
    let nanos ← member members "nanos" (JsonValue.natural? UInt32.size)
    let carried := secs + nanos / 1000000000
    if carried < UInt64.size then some { secs := carried, nanos := nanos % 1000000000 } else none
  else
    none

def receiver? (value : JsonValue) : Option Receiver.Config := do
  let members ← group? ["noise_limit", "max_frames_per_poll"] value
  let base : Receiver.Config := {}
  return {
    noiseLimit := ← memberD members "noise_limit" base.noiseLimit (JsonValue.natural? UInt64.size)
    maxFramesPerPoll := ← memberD members "max_frames_per_poll" base.maxFramesPerPoll limit? }

def bridge? (value : JsonValue) : Option Bridge := do
  let members ← group?
    ["framer", "read_timeout", "idle_backoff", "join_timeout", "settle_delay"] value
  let base : Bridge := {}
  return {
    receiver := ← memberD members "framer" base.receiver receiver?
    readTimeout := ← memberD members "read_timeout" base.readTimeout duration?
    idleBackoff := ← memberD members "idle_backoff" base.idleBackoff duration?
    joinTimeout := ← memberD members "join_timeout" base.joinTimeout duration?
    settleDelay := ← memberD members "settle_delay" base.settleDelay duration? }

def warningLayout? (value : JsonValue) : Option Layout.Warning := do
  let members ← group?
    ["type_bits", "critical_bit", "non_critical_bit", "node_offset", "frame_offset", "frame_bits",
     "data_offset", "data_bits"] value
  let base : Layout.Warning := {}
  return {
    typeBits := ← memberD members "type_bits" base.typeBits uint32?
    criticalBit := ← memberD members "critical_bit" base.criticalBit uint32?
    nonCriticalBit := ← memberD members "non_critical_bit" base.nonCriticalBit uint32?
    nodeOffset := ← memberD members "node_offset" base.nodeOffset uint32?
    frameOffset := ← memberD members "frame_offset" base.frameOffset uint32?
    frameBits := ← memberD members "frame_bits" base.frameBits uint32?
    dataOffset := ← memberD members "data_offset" base.dataOffset uint32?
    dataBits := ← memberD members "data_bits" base.dataBits uint32? }

def heartbeatLayout? (value : JsonValue) : Option Layout.Heartbeat := do
  let members ← group?
    ["type_bits", "timing_type", "status_type", "page_bits", "timer_ms_bits", "node_id_bits",
     "max_timing_pairs"] value
  let base : Layout.Heartbeat := {}
  return {
    typeBits := ← memberD members "type_bits" base.typeBits uint32?
    timingType := ← memberD members "timing_type" base.timingType uint64?
    statusType := ← memberD members "status_type" base.statusType uint64?
    pageBits := ← memberD members "page_bits" base.pageBits uint32?
    timerBits := ← memberD members "timer_ms_bits" base.timerBits uint32?
    nodeBits := ← memberD members "node_id_bits" base.nodeBits uint32?
    maxTimingPairs := ← memberD members "max_timing_pairs" base.maxTimingPairs uint32? }

def layout? (value : JsonValue) : Option Layout := do
  let members ← group? ["warning", "heartbeat"] value
  let base : Layout := {}
  return {
    warning := ← memberD members "warning" base.warning warningLayout?
    heartbeat := ← memberD members "heartbeat" base.heartbeat heartbeatLayout? }

def monitor? (value : JsonValue) : Option Monitor := do
  let members ← group?
    ["heartbeat_interval", "frame_tick", "overdue_threshold", "backoff_min"] value
  let base : Monitor := {}
  return {
    heartbeatInterval := ← memberD members "heartbeat_interval" base.heartbeatInterval duration?
    frameTick := ← memberD members "frame_tick" base.frameTick duration?
    overdueThreshold := ← memberD members "overdue_threshold" base.overdueThreshold duration?
    backoffMin := ← memberD members "backoff_min" base.backoffMin duration? }

def ofJson? (value : JsonValue) : Option Settings := do
  let members ← group? ["port", "baud", "bridge", "layout", "monitor"] value
  let base : Settings := {}
  return {
    device := ← memberD members "port" base.device JsonValue.text?
    baud := ← memberD members "baud" base.baud uint32?
    bridge := ← memberD members "bridge" base.bridge bridge?
    layout := ← memberD members "layout" base.layout layout?
    monitor := ← memberD members "monitor" base.monitor monitor? }

/-- The settings that a text gives, if it gives any. -/
def parse? (text : String) : Option Settings :=
  (JsonReader.parse? text).bind ofJson?

end GroundStation.Settings
