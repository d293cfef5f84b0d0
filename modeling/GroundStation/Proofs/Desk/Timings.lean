import GroundStation.Proofs.Desk.Pages

/-!
The pairs of a heartbeat timing. A timing word holds its type, an average and as many pairs of node
and time as fit, one behind the other from the lowest bit up. A layout that is in order keeps all of
them inside the word and leaves a node no more bits than a byte has, so what was packed is read back
whatever stands above it. A pair without a node takes its place like any other and only stays out of
the text.
-/

namespace GroundStation

namespace Bits

theorem add_mul_div {low width : Nat} (hlow : low < 2 ^ width) (above : Nat) :
    (low + 2 ^ width * above) / 2 ^ width = above := by
  rw [Nat.add_mul_div_left _ _ (Nat.two_pow_pos _), Nat.div_eq_of_lt hlow, Nat.zero_add]

theorem add_mul_mod {low width : Nat} (hlow : low < 2 ^ width) (above : Nat) :
    (low + 2 ^ width * above) % 2 ^ width = low := by
  rw [Nat.add_mul_mod_self_left, Nat.mod_eq_of_lt hlow]

end Bits

namespace Layout.Heartbeat

/-- A node with its answer time, as a timing word can hold them. -/
structure Timing (layout : Heartbeat) where
  node : Nat
  time : Nat
  node_lt : node < 2 ^ layout.nodeBits.toNat
  time_lt : time < 2 ^ layout.timerBits.toNat

/-- The number that holds timings one behind the other, with `high` above the last. -/
def timingsWord {layout : Heartbeat} (high : Nat) : List layout.Timing → Nat
  | [] => high
  | timing :: rest =>
    timing.node + 2 ^ layout.nodeBits.toNat *
      (timing.time + 2 ^ layout.timerBits.toNat * timingsWord high rest)

/-- The number that holds the timing type, an average and timings, with `high` above the last. -/
def timingWord {layout : Heartbeat} (average : Nat) (timings : List layout.Timing)
    (high : Nat) : Nat :=
  layout.timingType.toNat + 2 ^ layout.typeBits.toNat *
    (average + 2 ^ layout.timerBits.toNat * timingsWord high timings)

def pairPlace (layout : Heartbeat) (index : Nat) : Nat :=
  layout.typeBits.toNat + layout.timerBits.toNat +
    index * (layout.nodeBits.toNat + layout.timerBits.toNat)

theorem pairPlace_succ (layout : Heartbeat) (index : Nat) :
    layout.pairPlace (index + 1) =
      layout.pairPlace index + (layout.nodeBits.toNat + layout.timerBits.toNat) := by
  rw [pairPlace, pairPlace, Nat.succ_mul, ← Nat.add_assoc]

namespace InOrder

variable {layout : Heartbeat} (order : layout.InOrder)

include order

theorem toNat_pairBits :
    layout.pairBits.toNat = layout.nodeBits.toNat + layout.timerBits.toNat := by
  have hnode := order.nodeBits_le
  have htimer := order.timerBits_le
  exact toNat_add_of_lt (by omega)

theorem toNat_timingHeader :
    (layout.typeBits + layout.timerBits).toNat =
      layout.typeBits.toNat + layout.timerBits.toNat := by
  have hheader := order.timingHeader_le
  exact toNat_add_of_lt (by omega)

/-- There are no more pairs than the word has room for behind its header. -/
theorem timingPairs_le :
    layout.timingPairs.toNat ≤
      (64 - (layout.typeBits.toNat + layout.timerBits.toNat)) /
        (layout.nodeBits.toNat + layout.timerBits.toNat) := by
  have hpair : layout.pairBits ≠ 0 := by
    intro hzero
    have hnode := order.nodeBits_pos
    have hnat := order.toNat_pairBits
    rw [hzero] at hnat
    change 0 = _ at hnat
    omega
  have hbits : (monus 64 (layout.typeBits + layout.timerBits) / layout.pairBits).toNat =
      (64 - (layout.typeBits.toNat + layout.timerBits.toNat)) /
        (layout.nodeBits.toNat + layout.timerBits.toNat) := by
    rw [UInt32.toNat_div, toNat_monus, order.toNat_timingHeader, order.toNat_pairBits]
    rfl
  unfold timingPairs pairsBehind
  dsimp only
  rw [if_neg hpair, ← hbits]
  split
  · exact Nat.le_refl _
  · rename_i hmax
    exact UInt32.le_iff_toNat_le.mp (UInt32.not_lt.mp hmax)

/-- All pairs of a timing word end inside the word. -/
theorem pairPlace_le : layout.pairPlace layout.timingPairs.toNat ≤ 64 := by
  have hheader := order.timingHeader_le
  have hpairs := Nat.mul_le_of_le_div _ _ _ order.timingPairs_le
  unfold pairPlace
  omega

end InOrder

end Layout.Heartbeat

namespace Reading

open Layout (Heartbeat)

/-- A word with the timing type is read as a timing. -/
theorem heartbeat_of_timing {profile : Profile} {data : UInt64}
    (htiming : data.toNat % 2 ^ profile.layout.heartbeat.typeBits.toNat =
      profile.layout.heartbeat.timingType.toNat) :
    heartbeat profile data =
      heartbeatTiming profile.layout.heartbeat profile.registry data := by
  have hkind : Bits.field data 0 profile.layout.heartbeat.typeBits =
      profile.layout.heartbeat.timingType :=
    UInt64.toNat_inj.mp ((toNat_kind _ data).trans htiming)
  unfold heartbeat
  dsimp only
  rw [hkind, if_pos rfl]

def TimingPair.ofTiming {layout : Heartbeat} (timing : layout.Timing) : TimingPair where
  node := UInt64.ofNat timing.node
  time := UInt64.ofNat timing.time

def timingText {layout : Heartbeat} (registry : Registry) (timing : layout.Timing) : String :=
  let name := (registry.nodeName? (UInt8.ofNat timing.node)).getD s!"id{timing.node}"
  s!"; {name}={timing.time}ms"

def paddingText : String :=
  "Got Null node (id=0) for HB timing, even though there are enough " ++ "nodes to fill the msg."

def unresolvedText (node : Nat) : String :=
  s!"HB Timing parse: missing nodeInfo for nodeID={node}"

/-- What the operator reads about a timing, if anything is wrong with it. -/
def timingFault? {layout : Heartbeat} (registry : Registry) (count : Nat)
    (timing : layout.Timing) : Option String :=
  if timing.node = 0 then
    if count ≤ registry.roster.length then some paddingText else none
  else
    if registry.nodeName? (UInt8.ofNat timing.node) = none then some (unresolvedText timing.node)
    else none

section Timing

variable {layout : Heartbeat} (order : layout.InOrder) (registry : Registry)

/-- The bits of the pairs, one pair after the other. -/
theorem timingPairs_eq_map (layout : Heartbeat) (data : UInt64) (count index : Nat) :
    timingPairs layout data count (UInt32.ofNat (layout.pairPlace index)) =
      (List.range' index count).map fun index =>
        { node := Bits.field data (UInt32.ofNat (layout.pairPlace index)) layout.nodeBits
          time := Bits.field data
            (UInt32.ofNat (layout.pairPlace index + layout.nodeBits.toNat)) layout.timerBits } := by
  induction count generalizing index with
  | zero => rfl
  | succ count ih =>
      have htime : UInt32.ofNat (layout.pairPlace index) + layout.nodeBits =
          UInt32.ofNat (layout.pairPlace index + layout.nodeBits.toNat) := by
        rw [UInt32.ofNat_add, UInt32.ofNat_toNat]
      have hnext : UInt32.ofNat (layout.pairPlace index) + layout.pairBits =
          UInt32.ofNat (layout.pairPlace (index + 1)) := by
        rw [Heartbeat.pairPlace_succ, UInt32.ofNat_add, UInt32.ofNat_add, UInt32.ofNat_toNat,
          UInt32.ofNat_toNat, Heartbeat.pairBits]
      have hbehind : UInt32.ofNat (layout.pairPlace index) + layout.nodeBits + layout.timerBits =
          UInt32.ofNat (layout.pairPlace (index + 1)) := by
        rw [← hnext, Heartbeat.pairBits, UInt32.add_assoc]
      rw [timingPairs, List.range'_succ, List.map_cons, ← ih, hnext, hbehind, htime]
      exact ite_self _

include order

theorem node_lt (timing : layout.Timing) : timing.node < 2 ^ 8 :=
  Nat.lt_of_lt_of_le timing.node_lt (Nat.pow_le_pow_right (by decide) order.nodeBits_le)

theorem toNat_node (timing : layout.Timing) :
    (TimingPair.ofTiming timing).node.toNat = timing.node :=
  UInt64.toNat_ofNat_of_lt' (Nat.lt_trans (node_lt order timing) (by decide))

theorem toNat_time (timing : layout.Timing) :
    (TimingPair.ofTiming timing).time.toNat = timing.time := by
  apply UInt64.toNat_ofNat_of_lt'
  calc timing.time < 2 ^ layout.timerBits.toNat := timing.time_lt
    _ ≤ 2 ^ 32 := Nat.pow_le_pow_right (by decide) order.timerBits_le
    _ < 2 ^ 64 := by decide

/-- Timings that are packed from a bit on are read back from there. -/
theorem timingPairs_of_word {data : UInt64} {high : Nat} {timings : List layout.Timing}
    {cursor : UInt32}
    (hfits : cursor.toNat +
      timings.length * (layout.nodeBits.toNat + layout.timerBits.toNat) ≤ 64)
    (hword : data.toNat / 2 ^ cursor.toNat = Heartbeat.timingsWord high timings) :
    timingPairs layout data timings.length cursor = timings.map TimingPair.ofTiming := by
  induction timings generalizing cursor with
  | nil => rfl
  | cons timing rest ih =>
      rw [List.length_cons, Nat.succ_mul] at hfits
      have hnodeEnd : (cursor + layout.nodeBits).toNat =
          cursor.toNat + layout.nodeBits.toNat := Layout.toNat_add_of_lt (by omega)
      have htimeEnd : (cursor + layout.nodeBits + layout.timerBits).toNat =
          (cursor + layout.nodeBits).toNat + layout.timerBits.toNat :=
        Layout.toNat_add_of_lt (by omega)
      have hskipped : (cursor + layout.pairBits).toNat = cursor.toNat + layout.pairBits.toNat := by
        apply Layout.toNat_add_of_lt
        rw [order.toNat_pairBits]
        omega
      have htime : data.toNat / 2 ^ (cursor + layout.nodeBits).toNat =
          timing.time + 2 ^ layout.timerBits.toNat * Heartbeat.timingsWord high rest := by
        rw [hnodeEnd, Nat.pow_add, ← Nat.div_div_eq_div_mul, hword, Heartbeat.timingsWord,
          Bits.add_mul_div timing.node_lt]
      have hbehindTime : data.toNat / 2 ^ (cursor + layout.nodeBits + layout.timerBits).toNat =
          Heartbeat.timingsWord high rest := by
        rw [htimeEnd, Nat.pow_add, ← Nat.div_div_eq_div_mul, htime,
          Bits.add_mul_div timing.time_lt]
      have hbehindPair : data.toNat / 2 ^ (cursor + layout.pairBits).toNat =
          Heartbeat.timingsWord high rest := by
        rw [← hbehindTime, htimeEnd, hnodeEnd, hskipped, order.toNat_pairBits, Nat.add_assoc]
      have hpair : TimingPair.mk (Bits.field data cursor layout.nodeBits)
          (Bits.field data (cursor + layout.nodeBits) layout.timerBits) =
            TimingPair.ofTiming timing := by
        rw [TimingPair.ofTiming, TimingPair.mk.injEq, ← UInt64.toNat_inj, ← UInt64.toNat_inj,
          Bits.toNat_field, Bits.toNat_field, hword, htime, Heartbeat.timingsWord,
          Bits.add_mul_mod timing.node_lt, Bits.add_mul_mod timing.time_lt]
        exact ⟨(toNat_node order timing).symm, (toNat_time order timing).symm⟩
      rw [List.length_cons, timingPairs, List.map_cons, hpair]
      split
      case isTrue =>
        rw [ih (by rw [hskipped, order.toNat_pairBits]; omega) hbehindPair]
      case isFalse =>
        rw [ih (by rw [htimeEnd, hnodeEnd]; omega) hbehindTime]

theorem isNull_ofTiming (timing : layout.Timing) :
    (TimingPair.ofTiming timing).isNull = decide (timing.node = 0) := by
  unfold TimingPair.isNull
  rw [beq_eq_decide]
  apply decide_eq_decide.mpr
  rw [← UInt64.toNat_inj, toNat_node order]
  rfl

theorem nodeId_ofTiming (timing : layout.Timing) :
    (TimingPair.ofTiming timing).nodeId = UInt8.ofNat timing.node := by
  unfold TimingPair.nodeId
  rw [Bits.narrow8_of_lt, toNat_node order]
  rw [toNat_node order]
  exact node_lt order timing

theorem toString_nodeId (timing : layout.Timing) :
    toString (UInt8.ofNat timing.node) = toString timing.node :=
  congrArg toString (UInt8.toNat_ofNat_of_lt' (node_lt order timing))

theorem toString_time (timing : layout.Timing) :
    toString (TimingPair.ofTiming timing).time = toString timing.time :=
  congrArg toString (toNat_time order timing)

/-- A pair is told by the name of its node and its time, and a null pair not at all. -/
theorem text_ofTiming (timing : layout.Timing) :
    (TimingPair.ofTiming timing).text registry =
      if timing.node = 0 then "" else timingText registry timing := by
  unfold TimingPair.text timingText
  simp only [isNull_ofTiming order, nodeId_ofTiming order, toString_nodeId order,
    toString_time order, decide_eq_true_eq]
  split
  · rfl
  · cases registry.nodeName? (UInt8.ofNat timing.node) with
    | some name => rfl
    | none =>
        have hlabel : "; " ++ ("id" ++ toString timing.node) = "; id" ++ toString timing.node :=
          String.append_assoc.symm
        exact congrArg (· ++ "=" ++ toString timing.time ++ "ms") hlabel.symm

theorem join_text (timings : List layout.Timing) :
    String.join ((timings.map TimingPair.ofTiming).map (TimingPair.text registry)) =
      String.join ((timings.filter (·.node ≠ 0)).map (timingText registry)) := by
  induction timings with
  | nil => rfl
  | cons timing rest ih =>
      rw [List.map_cons, List.map_cons, String.join_cons, ih, text_ofTiming order]
      split
      · rename_i hnull
        rw [List.filter_cons_of_neg (by simpa using hnull), String.empty_append]
      · rename_i hnode
        rw [List.filter_cons_of_pos (by simpa using hnode), List.map_cons, String.join_cons]

theorem faults_ofTiming (count : Nat) (timing : layout.Timing) :
    (TimingPair.ofTiming timing).faults registry count =
      (timingFault? registry count timing).toList.map .fault := by
  unfold TimingPair.faults timingFault?
  simp only [isNull_ofTiming order, nodeId_ofTiming order, toString_nodeId order,
    decide_eq_true_eq]
  split
  · split <;> rfl
  · cases registry.nodeName? (UInt8.ofNat timing.node) <;> rfl

theorem flatMap_faults (count : Nat) (timings : List layout.Timing) :
    (timings.map TimingPair.ofTiming).flatMap (TimingPair.faults registry count) =
      (timings.filterMap (timingFault? registry count)).map .fault := by
  rw [List.flatMap_map, List.filterMap_eq_flatMap_toList, List.map_flatMap]
  exact congrArg timings.flatMap (funext (faults_ofTiming order registry count))

/-- A word that holds an average and pairs is read as these. -/
theorem heartbeatTiming_of_word {data : UInt64} {average high : Nat} {timings : List layout.Timing}
    (hcount : timings.length = layout.timingPairs.toNat)
    (haverage : average < 2 ^ layout.timerBits.toNat)
    (hdata : data.toNat = Heartbeat.timingWord average timings high) :
    timingPairs layout data layout.timingPairs.toNat (layout.typeBits + layout.timerBits) =
        timings.map TimingPair.ofTiming ∧
      heartbeatTiming layout registry data =
        (timings.filterMap (timingFault? registry layout.timingPairs.toNat)).map .fault ++
          [.upsert .heartbeatTiming .vitals .ok
            (s!"HB Timing: avg={average}ms" ++
              String.join ((timings.filter (·.node ≠ 0)).map (timingText registry)))] := by
  have hafterType : data.toNat / 2 ^ layout.typeBits.toNat =
      average + 2 ^ layout.timerBits.toNat * Heartbeat.timingsWord high timings := by
    rw [hdata, Heartbeat.timingWord, Bits.add_mul_div order.timingType_lt]
  have hafterAverage : data.toNat / 2 ^ (layout.typeBits + layout.timerBits).toNat =
      Heartbeat.timingsWord high timings := by
    rw [order.toNat_timingHeader, Nat.pow_add, ← Nat.div_div_eq_div_mul, hafterType,
      Bits.add_mul_div haverage]
  have hpairs : timingPairs layout data layout.timingPairs.toNat
      (layout.typeBits + layout.timerBits) = timings.map TimingPair.ofTiming := by
    rw [← hcount]
    apply timingPairs_of_word order ?_ hafterAverage
    rw [hcount, order.toNat_timingHeader]
    exact order.pairPlace_le
  have hfield : (Bits.field data layout.typeBits layout.timerBits).toNat = average := by
    rw [Bits.toNat_field, hafterType, Bits.add_mul_mod haverage]
  have hprinted : toString (Bits.field data layout.typeBits layout.timerBits) =
      toString average := congrArg toString hfield
  refine ⟨hpairs, ?_⟩
  unfold heartbeatTiming
  dsimp only
  rw [hpairs, flatMap_faults order, join_text order, hprinted]
  rfl

omit order in
/-- Padding is a fault if the roster could fill the word, and so is each node without a name. -/
theorem length_timingFaults (count : Nat) (timings : List layout.Timing) :
    (timings.filterMap (timingFault? registry count)).length =
      (if count ≤ registry.roster.length then timings.countP (·.node = 0) else 0) +
        timings.countP fun timing =>
          timing.node ≠ 0 ∧ registry.nodeName? (UInt8.ofNat timing.node) = none := by
  induction timings with
  | nil => simp
  | cons timing rest ih =>
      rw [List.countP_cons, List.countP_cons]
      by_cases hnull : timing.node = 0
      · by_cases hfull : count ≤ registry.roster.length
        · simp [timingFault?, hnull, hfull, ih]
          omega
        · simp [timingFault?, hnull, hfull, ih]
      · by_cases hname : registry.nodeName? (UInt8.ofNat timing.node) = none
        · simp [timingFault?, hnull, hname, ih]
          omega
        · simp [timingFault?, hnull, hname, ih]

end Timing

end Reading

namespace Desk

/-- A timing word that packs its type, an average and as many timings as the layout has room for,
with anything above them. The average and the timings are read back, each from its own bits inside
the word, and no node is cut to a byte. The slot of the timings is written, with a text that lists
the average and the timings of nodes other than zero, in their order. Before it come the faults: one
for each timing of node zero if the roster could fill the word, and one for each node without a
name. -/
theorem packed_timings_read_back {desk : Desk} {sent : Message} {average high : Nat}
    {timings : List desk.profile.layout.heartbeat.Timing}
    (hcheck : desk.profile.layout.heartbeat.check = .ok ())
    (hreport : sent.address.function? = some .heartbeatResponseUpdate)
    (hcount : timings.length = desk.profile.layout.heartbeat.timingPairs.toNat)
    (haverage : average < 2 ^ desk.profile.layout.heartbeat.timerBits.toNat)
    (hdata : sent.data.toNat = Layout.Heartbeat.timingWord average timings high) :
    let layout := desk.profile.layout.heartbeat
    let registry := desk.profile.registry
    let count := layout.timingPairs.toNat
    let read := Reading.timingPairs layout sent.data count (layout.typeBits + layout.timerBits)
    let faults := timings.filterMap (Reading.timingFault? registry count)
    let text := s!"HB Timing: avg={average}ms" ++
      String.join ((timings.filter (·.node ≠ 0)).map (Reading.timingText registry))
    Reading.message desk.profile sent =
        faults.map .fault ++ [.upsert .heartbeatTiming .vitals .ok text] ∧
      Reported desk faults .heartbeatTiming { channel := .vitals, severity := .ok, text }
        (desk.decode sent) ∧
      faults.length =
        (if count ≤ registry.roster.length then timings.countP (·.node = 0) else 0) +
          timings.countP (fun timing =>
            timing.node ≠ 0 ∧ registry.nodeName? (UInt8.ofNat timing.node) = none) ∧
      (read.map fun pair => (pair.nodeId.toNat, pair.node.toNat, pair.time.toNat)) =
        (timings.map fun timing => (timing.node, timing.node, timing.time)) ∧
      read = ((List.range count).map fun index =>
        { node := Bits.field sent.data (UInt32.ofNat (layout.pairPlace index)) layout.nodeBits
          time := Bits.field sent.data
            (UInt32.ofNat (layout.pairPlace index + layout.nodeBits.toNat)) layout.timerBits }) ∧
      layout.typeBits.toNat + layout.timerBits.toNat ≤ 64 ∧
      ∀ index < count,
        layout.pairPlace index + layout.nodeBits.toNat + layout.timerBits.toNat ≤ 64 := by
  intro layout registry count read faults text
  have order : layout.InOrder := Layout.Heartbeat.check_eq_ok_iff.mp hcheck
  have htype : sent.data.toNat % 2 ^ layout.typeBits.toNat = layout.timingType.toNat := by
    rw [hdata, Layout.Heartbeat.timingWord, Bits.add_mul_mod order.timingType_lt]
  obtain ⟨hpairs, htiming⟩ :=
    Reading.heartbeatTiming_of_word order registry hcount haverage hdata
  have hread : Reading.message desk.profile sent =
      faults.map .fault ++ [.upsert .heartbeatTiming .vitals .ok text] := by
    rw [Reading.message_of_heartbeat hreport, Reading.heartbeat_of_timing htype]
    exact htiming
  refine ⟨hread, Reported.decode hread, Reading.length_timingFaults registry count timings, ?_, ?_,
    order.timingHeader_le, ?_⟩
  · rw [show read = timings.map Reading.TimingPair.ofTiming from hpairs, List.map_map]
    apply List.map_congr_left
    intro timing _
    simp only [Function.comp_apply, Reading.nodeId_ofTiming order, Reading.toNat_node order,
      Reading.toNat_time order, UInt8.toNat_ofNat_of_lt' (Reading.node_lt order timing)]
  · have hcursor : layout.typeBits + layout.timerBits = UInt32.ofNat (layout.pairPlace 0) := by
      rw [Layout.Heartbeat.pairPlace, Nat.zero_mul, Nat.add_zero, UInt32.ofNat_add,
        UInt32.ofNat_toNat, UInt32.ofNat_toNat]
    rw [List.range_eq_range', ← Reading.timingPairs_eq_map, ← hcursor]
  · intro index hindex
    calc layout.pairPlace index + layout.nodeBits.toNat + layout.timerBits.toNat
        = layout.pairPlace (index + 1) := by rw [layout.pairPlace_succ, Nat.add_assoc]
      _ ≤ layout.pairPlace count :=
          Nat.add_le_add_left (Nat.mul_le_mul_right _ hindex) _
      _ ≤ 64 := order.pairPlace_le

/-- Four timings of eleven bits, and all bits above them set. The second timing is padding with a
time, in front of two others; the node of the third has no name. -/
theorem packed_timings_read_back_padding_between :
    let layout : Layout.Heartbeat :=
      { typeBits := 3, timingType := 2, timerBits := 6, nodeBits := 5, maxTimingPairs := 4 }
    let registry := Registry.ofEntries [.node 3 "arm", .node 9 "leg", .roster [3, 9, 1, 2]]
    let desk : Desk := { profile := { registry, layout := { heartbeat := layout } } }
    let timings : List layout.Timing :=
      [⟨3, 10, by decide, by decide⟩, ⟨0, 33, by decide, by decide⟩, ⟨7, 5, by decide, by decide⟩,
        ⟨9, 63, by decide, by decide⟩]
    let sent : Message := ⟨0x381, 0xFFFFA453C202874A⟩
    layout.check = .ok () ∧
      sent.data.toNat = Layout.Heartbeat.timingWord 41 timings 2047 ∧
      Reported desk
        ["Got Null node (id=0) for HB timing, even though there are enough nodes to fill the msg.",
          "HB Timing parse: missing nodeInfo for nodeID=7"]
        .heartbeatTiming
        { channel := .vitals
          severity := .ok
          text := "HB Timing: avg=41ms; arm=10ms; id7=5ms; leg=63ms" }
        (desk.decode sent) := by
  intro layout registry desk timings sent
  have hcheck : layout.check = .ok () := by decide
  have hdata : sent.data.toNat = Layout.Heartbeat.timingWord 41 timings 2047 := by decide +kernel
  have hread := @packed_timings_read_back desk sent 41 2047 timings hcheck (by decide)
    (by decide) (by decide) hdata
  refine ⟨hcheck, hdata, ?_⟩
  convert hread.2.1 using 1 <;> decide +kernel

end Desk

end GroundStation
