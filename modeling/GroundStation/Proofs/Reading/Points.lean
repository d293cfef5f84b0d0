import GroundStation.Proofs.Reading.Fields
import GroundStation.Reading.Sensor
import Mathlib.Data.Nat.Find

/-!
The data points of a frame, each by its index. A point stands above the points with smaller indices,
so its lowest bit is the sum of their widths. The first points of a frame can be read as long as the
registry knows each of them, none has more than 32 bits and together they fit into the word. Reading
a frame grades and shows exactly these points, and ends with a fault about the next one if the frame
declares more.
-/

namespace GroundStation

def FrameKey.point (frame : FrameKey) (index : Nat) : DataKey :=
  ⟨frame.node, frame.frame, UInt8.ofNat index⟩

namespace FrameKey

theorem point_ne {index other : Nat} (hindex : index < 256) (hother : other < 256)
    (hne : index ≠ other) (frame : FrameKey) : frame.point index ≠ frame.point other := by
  intro heq
  have hbytes := congrArg (fun key : DataKey => key.index.toNat) heq
  simp only [point, UInt8.toNat_ofNat', Nat.mod_eq_of_lt hindex, Nat.mod_eq_of_lt hother] at hbytes
  exact hne hbytes

/-- A frame has no more points than bytes can name, so the points of a frame are distinct. -/
theorem pairwise_point_ne (frame : FrameKey) {count : Nat} (hcount : count ≤ 256) :
    (List.range count).Pairwise fun index other => frame.point index ≠ frame.point other := by
  refine List.pairwise_lt_range.imp_of_mem ?_
  intro index other hindex hother hlt
  have hbefore := List.mem_range.mp hindex
  have hafter := List.mem_range.mp hother
  exact point_ne (by omega) (by omega) (Nat.ne_of_lt hlt) frame

end FrameKey

namespace DataKey

theorem point_frameKey (key : DataKey) : key.frameKey.point key.index.toNat = key := by
  rw [FrameKey.point, UInt8.ofNat_toNat]
  rfl

theorem toDigits_append_inj {m n : Nat} {rest rest' : List Char}
    (hrest : rest.takeWhile Char.isDigit = []) (hrest' : rest'.takeWhile Char.isDigit = [])
    (heq : Nat.toDigits 10 m ++ rest = Nat.toDigits 10 n ++ rest') : m = n ∧ rest = rest' := by
  have hdigits (k : Nat) : ∀ c ∈ Nat.toDigits 10 k, c.isDigit = true :=
    fun c hc => Nat.isDigit_of_mem_toDigits (by decide) (by decide) hc
  have hfront := congrArg (List.takeWhile Char.isDigit) heq
  rw [List.takeWhile_append_of_pos (hdigits m), List.takeWhile_append_of_pos (hdigits n), hrest,
    hrest', List.append_nil, List.append_nil] at hfront
  rw [hfront] at heq
  have hvalue := congrArg (fun digits => Nat.ofDigitChars 10 digits 0) hfront
  simp only [Nat.ofDigitChars_toDigits (b := 10) (by decide) (by decide)] at hvalue
  exact ⟨hvalue, List.append_cancel_left heq⟩

theorem toList_text (key : DataKey) :
    key.text.toList =
      "node=".toList ++ (Nat.toDigits 10 key.node.toNat ++ (" frame=".toList ++
        (Nat.toDigits 10 key.frame.toNat ++ (" data=".toList ++
          Nat.toDigits 10 key.index.toNat)))) := by
  simp only [text, toString, String.toList_append, Nat.toList_repr, List.append_assoc]

/-- A text that names a data point names no other, whatever follows behind the digits. -/
theorem text_append_inj {key other : DataKey} {rest rest' : List Char}
    (hrest : rest.takeWhile Char.isDigit = []) (hrest' : rest'.takeWhile Char.isDigit = [])
    (heq : key.text.toList ++ rest = other.text.toList ++ rest') : key = other := by
  rw [toList_text, toList_text] at heq
  simp only [List.append_assoc] at heq
  obtain ⟨hnode, hframes⟩ := toDigits_append_inj rfl rfl (List.append_cancel_left heq)
  obtain ⟨hframe, hindices⟩ := toDigits_append_inj rfl rfl (List.append_cancel_left hframes)
  obtain ⟨hindex, _⟩ := toDigits_append_inj hrest hrest' (List.append_cancel_left hindices)
  obtain ⟨node, frame, index⟩ := key
  obtain ⟨node', frame', index'⟩ := other
  congr
  · exact UInt8.toNat_inj.mp hnode
  · exact UInt32.toNat_inj.mp hframe
  · exact UInt8.toNat_inj.mp hindex
end DataKey

namespace Registry

/-- How many bits a data point takes. A point that the registry does not know takes none. -/
def width (registry : Registry) (frame : FrameKey) (index : Nat) : Nat :=
  (registry.point? (frame.point index)).elim 0 fun info => info.bitLength.toNat

def offset (registry : Registry) (frame : FrameKey) (index : Nat) : Nat :=
  Bits.place (registry.width frame) index

/-- Each of the first data points of a frame is known, has at most 32 bits and ends inside the
word. -/
def Readable (registry : Registry) (frame : FrameKey) (count : Nat) : Prop :=
  ∀ index < count,
    (registry.point? (frame.point index)).any (fun info => info.bitLength ≤ 32) = true ∧
      registry.offset frame (index + 1) ≤ 64

instance (registry : Registry) (frame : FrameKey) : DecidablePred (registry.Readable frame) :=
  fun count => inferInstanceAs (Decidable (∀ index < count, _ ∧ _))

/-- How many of the declared data points of a frame can be read. -/
def readable (registry : Registry) (frame : FrameKey) (declared : Nat) : Nat :=
  Nat.findGreatest (registry.Readable frame) declared

/-- The value of a data point whose bits are all zero. -/
def least (registry : Registry) (frame : FrameKey) (index : Nat) : Int :=
  (registry.point? (frame.point index)).elim 0 fun info => info.min.toInt

def value (registry : Registry) (frame : FrameKey) (data : UInt64) (index : Nat) : Int :=
  registry.least frame index +
    ((data.toNat / 2 ^ registry.offset frame index % 2 ^ registry.width frame index : Nat) : Int)

def classify (registry : Registry) (key : DataKey) (value : Int) : Severity :=
  (registry.point? key).elim .ok fun info => info.classify value

/-- What the operator reads when a frame cannot be read from a data point on. -/
def stopText (registry : Registry) (frame : FrameKey) (index : Nat) : String :=
  let key := frame.point index
  let place := s!"node={key.node} frame={key.frame} data={key.index}"
  match registry.point? key with
  | none => s!"Missing DataInfo for a data point declared by the frame. {place}"
  | some info =>
    if 32 < info.bitLength then
      s!"DataInfo has invalid bitLength. {place} bitLength: {info.bitLength}"
    else
      s!"Data overflowed 64 bits. {place}"

variable {registry : Registry} {frame : FrameKey}

theorem offset_succ (registry : Registry) (frame : FrameKey) (index : Nat) :
    registry.offset frame (index + 1) = registry.offset frame index + registry.width frame index :=
  Bits.place_succ _ _

theorem width_of_point? {index : Nat} {info : PointInfo}
    (hinfo : registry.point? (frame.point index) = some info) :
    registry.width frame index = info.bitLength.toNat := by
  rw [width, hinfo, Option.elim_some]

namespace Readable

theorem zero (registry : Registry) (frame : FrameKey) : registry.Readable frame 0 :=
  fun _ hindex => absurd hindex (Nat.not_lt_zero _)

theorem of_le {count fewer : Nat} (readable : registry.Readable frame count)
    (hfewer : fewer ≤ count) : registry.Readable frame fewer :=
  fun index hindex => readable index (Nat.lt_of_lt_of_le hindex hfewer)

theorem offset_le {count : Nat} (readable : registry.Readable frame count) :
    registry.offset frame count ≤ 64 := by
  cases count with
  | zero => exact Nat.zero_le 64
  | succ index => exact (readable index (Nat.lt_succ_self index)).2

theorem exists_info {count index : Nat} (readable : registry.Readable frame count)
    (hindex : index < count) :
    ∃ info, registry.point? (frame.point index) = some info ∧ info.bitLength ≤ 32 := by
  obtain ⟨info, hinfo, hwidth⟩ := (Option.any_eq_true _ _).mp (readable index hindex).1
  exact ⟨info, hinfo, of_decide_eq_true hwidth⟩

theorem succ {index : Nat} (readable : registry.Readable frame index) {info : PointInfo}
    (hinfo : registry.point? (frame.point index) = some info) (hwidth : info.bitLength ≤ 32)
    (hfits : registry.offset frame (index + 1) ≤ 64) : registry.Readable frame (index + 1) := by
  intro earlier hearlier
  rcases Nat.lt_succ_iff_lt_or_eq.mp hearlier with hbefore | rfl
  · exact readable earlier hbefore
  · exact ⟨by simp [hinfo, hwidth], hfits⟩

/-- Points that are known and not too wide can be read if the last of them ends inside the word. -/
theorem of_offset_le {count : Nat}
    (hpoints : ∀ index < count, ∃ info, registry.point? (frame.point index) = some info ∧
      info.bitLength ≤ 32)
    (hfits : registry.offset frame count ≤ 64) : registry.Readable frame count := by
  intro index hindex
  obtain ⟨info, hinfo, hwidth⟩ := hpoints index hindex
  exact ⟨by simp [hinfo, hwidth], (Bits.place_mono _ hindex).trans hfits⟩

end Readable

/-- The points up to the first one that cannot be read can be read. -/
theorem readable_readable (registry : Registry) (frame : FrameKey) (declared : Nat) :
    registry.Readable frame (registry.readable frame declared) :=
  Nat.findGreatest_spec (Nat.zero_le declared) (Readable.zero registry frame)

theorem readable_le (registry : Registry) (frame : FrameKey) (declared : Nat) :
    registry.readable frame declared ≤ declared :=
  Nat.findGreatest_le declared

/-- No more points can be read than those. -/
theorem le_readable {count declared : Nat} (readable : registry.Readable frame count)
    (hcount : count ≤ declared) : count ≤ registry.readable frame declared :=
  Nat.le_findGreatest hcount readable

/-- Reading stops at a point that cannot be read with the ones before it. -/
theorem readable_eq_of_not {index declared : Nat} (readable : registry.Readable frame index)
    (hstop : ¬ registry.Readable frame (index + 1)) (hindex : index ≤ declared) :
    registry.readable frame declared = index := by
  apply Nat.findGreatest_eq_iff.mpr
  refine ⟨hindex, fun _ => readable, ?_⟩
  intro count hmore _ hcount
  exact hstop (hcount.of_le hmore)

/-- Reading comes to the end of the declared points exactly if all of them can be read. -/
theorem readable_eq_self_iff {declared : Nat} :
    registry.readable frame declared = declared ↔ registry.Readable frame declared := by
  constructor
  · intro hall
    rw [← hall]
    exact registry.readable_readable frame declared
  · intro readable
    exact Nat.findGreatest_eq readable

/-- A frame that declares only the points that can be read is read to its end. -/
theorem readable_idem (registry : Registry) (frame : FrameKey) (declared : Nat) :
    registry.readable frame (registry.readable frame declared) =
      registry.readable frame declared :=
  readable_eq_self_iff.mpr (registry.readable_readable frame declared)

/-- Values that are packed as their distances from the least values are read back, whatever the rest
of the word holds. -/
theorem value_of_pack {data : UInt64} {count : Nat} {values : Nat → Int} {high : Nat}
    (hvalues : ∀ index < count, registry.least frame index ≤ values index ∧
      values index ≤ registry.least frame index + (2 ^ registry.width frame index - 1 : Nat))
    (hdata : data.toNat =
      Bits.pack (registry.width frame)
          (fun index => (values index - registry.least frame index).toNat) count +
        high * 2 ^ registry.offset frame count)
    {index : Nat} (hindex : index < count) : registry.value frame data index = values index := by
  have hnumbers : ∀ index < count,
      (values index - registry.least frame index).toNat < 2 ^ registry.width frame index := by
    intro index hindex
    obtain ⟨hleast, hmost⟩ := hvalues index hindex
    have hpositive := Nat.two_pow_pos (registry.width frame index)
    omega
  have hfield := Bits.pack_div_mod hnumbers high hindex
  have hleast := (hvalues index hindex).1
  rw [value, hdata]
  unfold offset
  rw [hfield]
  omega

def stopFronts : List String :=
  ["Missing DataInfo for a data point declared by the frame. ", "DataInfo has invalid bitLength. ",
    "Data overflowed 64 bits. "]

/-- The text names the data point behind one of three fronts. -/
theorem toList_stopText (registry : Registry) (frame : FrameKey) (index : Nat) :
    ∃ front ∈ stopFronts, ∃ back : List Char, back.takeWhile Char.isDigit = [] ∧
      (registry.stopText frame index).toList =
        front.toList ++ ((frame.point index).text.toList ++ back) := by
  unfold stopText
  dsimp only
  cases registry.point? (frame.point index) with
  | none =>
      refine ⟨_, List.mem_cons_self, [], rfl, ?_⟩
      rw [List.append_nil, ← String.toList_append]
      rfl
  | some info =>
      dsimp only
      split
      · refine ⟨_, List.mem_cons_of_mem _ List.mem_cons_self,
          s!" bitLength: {info.bitLength}".toList, ?_, ?_⟩
        · simp [toString]
        · rw [← String.toList_append, ← String.toList_append, ← String.append_assoc]
          exact congrArg String.toList (String.append_assoc ..)
      · refine ⟨_, List.mem_cons_of_mem _ (List.mem_cons_of_mem _ List.mem_cons_self), [], rfl, ?_⟩
        rw [List.append_nil, ← String.toList_append]
        rfl

/-- The fronts are told apart by their first characters. -/
theorem eq_of_stopFronts {front front' : String} (hfront : front ∈ stopFronts)
    (hfront' : front' ∈ stopFronts) {rest rest' : List Char}
    (heq : front.toList ++ rest = front'.toList ++ rest') : front = front' := by
  have hfirst : ∀ text ∈ stopFronts, ∀ other ∈ stopFronts,
      text.toList.take 5 = other.toList.take 5 → text = other := by
    decide
  have hlong : ∀ text ∈ stopFronts, 5 ≤ text.toList.length := by decide
  apply hfirst front hfront front' hfront'
  have htake := congrArg (List.take 5) heq
  rwa [List.take_append_of_le_length (hlong front hfront),
    List.take_append_of_le_length (hlong front' hfront')] at htake

/-- The text names the data point: its node, its frame and its index can be told from the text. -/
theorem stopText_inj {registry other : Registry} {frame frame' : FrameKey} {index index' : Nat}
    (htext : registry.stopText frame index = other.stopText frame' index') :
    frame.point index = frame'.point index' := by
  obtain ⟨front, hfront, back, hback, hlist⟩ := registry.toList_stopText frame index
  obtain ⟨front', hfront', back', hback', hlist'⟩ := other.toList_stopText frame' index'
  rw [htext, hlist'] at hlist
  have hsame := eq_of_stopFronts hfront' hfront hlist
  rw [hsame] at hlist
  exact (DataKey.text_append_inj hback' hback (List.append_cancel_left hlist)).symm

end Registry

namespace Reading

variable {registry : Registry} {frame : FrameKey}

def sampled (registry : Registry) (key : DataKey) (value : Int) : List Action :=
  [.grade key (registry.classify key value) (registry.title key), .sample key value]

def point (registry : Registry) (frame : FrameKey) (data : UInt64) (index : Nat) : List Action :=
  sampled registry (frame.point index) (registry.value frame data index)

def stop (registry : Registry) (frame : FrameKey) (declared index : Nat) : List Action :=
  if index < declared then [.fault (registry.stopText frame index)] else []

/-- The cursor counts bits in 32 bits, of which it needs few. -/
theorem cursor_succ {index : Nat} {info : PointInfo}
    (hinfo : registry.point? (frame.point index) = some info) :
    UInt32.ofNat (registry.offset frame index) + info.bitLength.toUInt32 =
      UInt32.ofNat (registry.offset frame (index + 1)) := by
  have hwidth : info.bitLength.toUInt32 = UInt32.ofNat info.bitLength.toNat := by
    apply UInt32.toNat_inj.mp
    simp
  rw [Registry.offset_succ, Registry.width_of_point? hinfo, hwidth, UInt32.ofNat_add]

theorem toNat_cursor {bits : Nat} (hbits : bits ≤ 64 + 255) : (UInt32.ofNat bits).toNat = bits :=
  UInt32.toNat_ofNat_of_lt (Nat.lt_of_le_of_lt hbits (by decide))

theorem field_lt (data : UInt64) (cursor : UInt32) {width : UInt8} (hwidth : width ≤ 32) :
    (Bits.field data cursor width.toUInt32).toNat < 2 ^ 32 := by
  apply Bits.field_lt_of_width_le
  rw [UInt8.toNat_toUInt32]
  exact UInt8.le_iff_toNat_le.mp hwidth

/-- The field of a point that is not too wide is a signed number as it is. -/
theorem signed_field (data : UInt64) (cursor : UInt32) {width : UInt8} (hwidth : width ≤ 32) :
    Bits.signed (Bits.field data cursor width.toUInt32) =
      ((Bits.field data cursor width.toUInt32).toNat : Int) := by
  have hfield := field_lt data cursor hwidth
  apply if_pos
  rw [UInt64.lt_iff_toNat_lt]
  exact hfield.trans (by decide)

/-- Every value that is shown is a signed number of 64 bits, as the least value of its point has 32
and its field has no more. -/
theorem value_of_mem_points {data : UInt64} {indices : List UInt8} {cursor : UInt32}
    {key : DataKey} {value : Int}
    (hmem : Action.sample key value ∈ points registry frame data indices cursor) :
    Int64.minValue.toInt ≤ value ∧ value ≤ Int64.maxValue.toInt := by
  fun_induction points registry frame data indices cursor with
  | case1 => cases hmem
  | case2 | case3 | case4 => simp at hmem
  | case5 index rest cursor point info hinfo width hwide hover shown ih =>
      have hwidth : info.bitLength ≤ 32 := UInt8.not_lt.mp hwide
      rcases List.mem_cons.mp hmem with hgrade | hsample
      · cases hgrade
      · rcases List.mem_cons.mp hsample with hhere | hlater
        · obtain ⟨-, rfl⟩ := Action.sample.inj hhere
          have hleast := info.min.le_toInt
          have hmost := info.min.toInt_lt
          have hfield : (Bits.field data cursor width).toNat < 2 ^ 32 := field_lt data cursor hwidth
          have hbounds : Int64.minValue.toInt = -2 ^ 63 ∧ Int64.maxValue.toInt = 2 ^ 63 - 1 := by
            decide
          have hshown : shown = info.min.toInt + (Bits.field data cursor width).toNat :=
            congrArg (info.min.toInt + ·) (signed_field data cursor hwidth)
          omega
        · exact ih hlater

/-- A point that is known, is not too wide and fits is graded and shown, and reading goes on above
its bits. -/
theorem points_cons {index : Nat} {info : PointInfo} (data : UInt64) (rest : List UInt8)
    (hinfo : registry.point? (frame.point index) = some info) (hwidth : info.bitLength ≤ 32)
    (hfits : registry.offset frame (index + 1) ≤ 64) :
    points registry frame data (UInt8.ofNat index :: rest)
        (UInt32.ofNat (registry.offset frame index)) =
      point registry frame data index ++
        points registry frame data rest (UInt32.ofNat (registry.offset frame (index + 1))) := by
  have hbelow : registry.offset frame index ≤ 64 := by
    rw [Registry.offset_succ] at hfits
    omega
  have hcursor : ¬ 64 < UInt32.ofNat (registry.offset frame (index + 1)) := by
    rw [UInt32.not_lt, UInt32.le_iff_toNat_le, toNat_cursor (by omega)]
    exact hfits
  have hvalue : info.min.toInt + Bits.signed (Bits.field data
      (UInt32.ofNat (registry.offset frame index)) info.bitLength.toUInt32) =
        registry.value frame data index := by
    rw [signed_field data _ hwidth, Bits.toNat_field, toNat_cursor (by omega),
      UInt8.toNat_toUInt32, Registry.value, Registry.least, hinfo, Option.elim_some,
      Registry.width_of_point? hinfo]
  have hclass : info.classify (registry.value frame data index) =
      registry.classify (frame.point index) (registry.value frame data index) := by
    rw [Registry.classify, hinfo, Option.elim_some]
  have hkey : registry.point? ⟨frame.node, frame.frame, UInt8.ofNat index⟩ = some info := hinfo
  rw [points]
  simp only [hkey, cursor_succ hinfo, if_neg hcursor, hvalue, hclass, maxPointBits,
    if_neg (UInt8.not_lt.mpr hwidth)]
  rfl

/-- A point that cannot be read with the ones before it is a fault, and nothing follows. -/
theorem points_of_not_readable {index : Nat} (data : UInt64) (rest : List UInt8)
    (readable : registry.Readable frame index) (hstop : ¬ registry.Readable frame (index + 1)) :
    points registry frame data (UInt8.ofNat index :: rest)
        (UInt32.ofNat (registry.offset frame index)) =
      [.fault (registry.stopText frame index)] := by
  have hoffset := readable.offset_le
  rw [points, Registry.stopText]
  dsimp only [FrameKey.point]
  cases hinfo : registry.point? ⟨frame.node, frame.frame, UInt8.ofNat index⟩ with
  | none => rfl
  | some info =>
      by_cases hwide : 32 < info.bitLength
      · simp [maxPointBits, hwide, DataKey.text]
      · have hbits := info.bitLength.toNat_lt
        have hnext := Registry.offset_succ registry frame index
        rw [Registry.width_of_point? hinfo] at hnext
        have hover : 64 < UInt32.ofNat (registry.offset frame (index + 1)) := by
          rw [UInt32.lt_iff_toNat_lt, toNat_cursor (by omega)]
          apply Nat.lt_of_not_le
          intro hfits
          exact hstop (readable.succ hinfo (UInt8.not_lt.mp hwide) hfits)
        simp only [cursor_succ hinfo, if_pos hover, if_neg hwide, maxPointBits]
        rfl

/-- Reading from a point on, when the points before it could be read. -/
theorem points_range' (data : UInt64) {index : Nat} (readable : registry.Readable frame index)
    (count : Nat) :
    points registry frame data ((List.range' index count).map UInt8.ofNat)
        (UInt32.ofNat (registry.offset frame index)) =
      let last := registry.readable frame (index + count)
      (List.range' index (last - index)).flatMap (point registry frame data) ++
        stop registry frame (index + count) last := by
  induction count generalizing index with
  | zero =>
      have hlast := Registry.readable_eq_self_iff.mpr readable
      simp [points, stop, hlast]
  | succ count ih =>
      rw [List.range'_succ, List.map_cons]
      by_cases hnext : registry.Readable frame (index + 1)
      · obtain ⟨info, hinfo, hwidth⟩ := hnext.exists_info (Nat.lt_succ_self index)
        rw [points_cons data _ hinfo hwidth hnext.offset_le, ih hnext]
        have hlast : index + 1 ≤ registry.readable frame (index + 1 + count) :=
          Registry.le_readable hnext (Nat.le_add_right _ _)
        rw [Nat.add_right_comm index 1 count, Nat.add_assoc] at hlast ⊢
        obtain ⟨more, hmore⟩ := Nat.exists_eq_add_of_le hlast
        dsimp only
        rw [hmore, Nat.add_sub_cancel_left, Nat.add_assoc index 1 more, Nat.add_sub_cancel_left,
          Nat.add_comm 1 more, List.range'_succ, List.flatMap_cons, List.append_assoc]
      · have hlast := Registry.readable_eq_of_not readable hnext (Nat.le_add_right index (count + 1))
        rw [points_of_not_readable data _ readable hnext]
        simp [hlast, stop]

/-- A frame of sensor data restarts the countdown of the frame, grades and shows the points that can
be read in the order of their indices, and ends with a fault if there are more. -/
theorem sensor_eq {info : FrameInfo} (hframe : registry.frame? frame = some info)
    (data : UInt64) :
    sensor registry frame data =
      let last := registry.readable frame info.points.toNat
      (if 0 < info.timeout then [.restart frame info.timeout] else []) ++
        ((List.range last).flatMap (point registry frame data) ++
          stop registry frame info.points.toNat last) := by
  have hpoints := points_range' data (Registry.Readable.zero registry frame) info.points.toNat
  dsimp only at hpoints
  rw [Nat.zero_add, Nat.sub_zero, ← List.range_eq_range', ← List.range_eq_range'] at hpoints
  unfold sensor indices
  rw [hframe]
  exact congrArg _ hpoints

/-- What is picked from a frame of sensor data, beside its countdown and its faults, is picked from
the points that can be read. -/
theorem filterMap_sensor {info : FrameInfo} (hframe : registry.frame? frame = some info)
    (data : UInt64) {β : Type} {pick : Action → Option β}
    (hrestart : ∀ key timeout, pick (.restart key timeout) = none)
    (hfault : ∀ text, pick (.fault text) = none) :
    (sensor registry frame data).filterMap pick =
      (List.range (registry.readable frame info.points.toNat)).flatMap fun index =>
        (point registry frame data index).filterMap pick := by
  have hfirst : (if 0 < info.timeout then [Action.restart frame info.timeout] else []).filterMap
      pick = [] := by
    split <;> simp [hrestart]
  have hlast (index : Nat) : (stop registry frame info.points.toNat index).filterMap pick = [] := by
    unfold stop
    split <;> simp [hfault]
  rw [sensor_eq hframe]
  dsimp only
  rw [List.filterMap_append, List.filterMap_append, hfirst, hlast, List.nil_append,
    List.append_nil, List.filterMap_flatMap]

end Reading

end GroundStation
