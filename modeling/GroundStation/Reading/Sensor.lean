import GroundStation.Reading.Action
import GroundStation.Vehicle.Profile

/-!
Frames of sensor data. The data points of a frame are packed into the data word one behind the other
from the lowest bit up, each as its distance from the least value of the point. Reading stops at the
first point that cannot be read; the points before it are not affected.
-/

namespace GroundStation

namespace PointInfo

/-- A value outside the critical range is critical, else one outside the warning range is a
warning. -/
def classify (info : PointInfo) (value : Int) : Severity :=
  if value < info.minCritical.toInt ∨ info.maxCritical.toInt < value then .critical
  else if value < info.minWarning.toInt ∨ info.maxWarning.toInt < value then .warning
  else .ok

end PointInfo

namespace Reading

/-- A data point has at most this many bits. -/
def maxPointBits : UInt8 := 32

/-- Reads the points with the given indices, the first at bit `cursor`. -/
def points (registry : Registry) (frame : FrameKey) (data : UInt64) :
    List UInt8 → (cursor : UInt32) → List Action
  | [], _ => []
  | index :: rest, cursor =>
    let key : DataKey := ⟨frame.node, frame.frame, index⟩
    match registry.point? key with
    | none => [.fault s!"Missing DataInfo for a data point declared by the frame. {key.text}"]
    | some info =>
      let width := info.bitLength.toUInt32
      if maxPointBits < info.bitLength then
        [.fault s!"DataInfo has invalid bitLength. {key.text} bitLength: {info.bitLength}"]
      else if 64 < cursor + width then
        [.fault s!"Data overflowed 64 bits. {key.text}"]
      else
        let value := info.min.toInt + Bits.signed (Bits.field data cursor width)
        .grade key (info.classify value) (registry.title key) :: .sample key value ::
          points registry frame data rest (cursor + width)

/-- The indices of the points that a frame declares. -/
def indices (frame : FrameInfo) : List UInt8 :=
  (List.range frame.points.toNat).map UInt8.ofNat

theorem mem_indices_iff {frame : FrameInfo} {index : UInt8} :
    index ∈ indices frame ↔ index < frame.points := by
  rw [UInt8.lt_iff_toNat_lt, indices, List.mem_map]
  constructor
  · rintro ⟨position, hposition, rfl⟩
    have hlt : position < frame.points.toNat := List.mem_range.mp hposition
    have hbyte := frame.points.toNat_lt
    rwa [UInt8.toNat_ofNat', Nat.mod_eq_of_lt (by omega)]
  · intro hlt
    exact ⟨index.toNat, List.mem_range.mpr hlt, UInt8.ofNat_toNat⟩

/-- What a frame of sensor data asks for. -/
def sensor (registry : Registry) (frame : FrameKey) (data : UInt64) : List Action :=
  match registry.frame? frame with
  | none =>
    [.fault s!"Transmit Data from unknown nodeId/frameIndex: {frame.node}/{frame.frame}"]
  | some info =>
    let restart := if 0 < info.timeout then [Action.restart frame info.timeout] else []
    restart ++ points registry frame data (indices info) 0

end Reading

end GroundStation
