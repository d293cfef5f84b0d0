import GroundStation.Proofs.Desk.Isolation
import GroundStation.Proofs.Desk.Totals
import GroundStation.Proofs.Reading.Points

/-!
What one message of sensor data does at the desk. The points of the frame that can be read are taken
in the order of their indices: the signal of a point announces the point's severity if that is news,
and the value goes to the display. A value that the display refuses is a fault and changes nothing
for the points after it. If the frame declares a point that cannot be read, one fault names it and
nothing of it or of later points is shown. So values that a sender packs within their ranges arrive
at the display as they are.
-/

namespace GroundStation

def Action.shown? : Action → Option (DataKey × Int)
  | .sample key value => some (key, value)
  | .post _ _ _ | .fault _ | .upsert _ _ _ _ | .present _ | .restart _ _ | .grade _ _ _ => none

def Feed.Event.sample? : Feed.Event → Option (DataKey × Int)
  | .sample key value => some (key, value)
  | .post _ _ _ _ | .text _ _ | .severity _ _ => none

/-- The registry with a frame that declares only its first points. -/
def Registry.declaring (registry : Registry) (frame : FrameKey) (info : FrameInfo) (count : Nat) :
    Registry :=
  { registry with
    frames := registry.frames.insert frame { info with points := UInt8.ofNat count } }

namespace Reading

theorem message_of_carries (profile : Profile) {sent : Message} {frame : FrameKey}
    (hcarries : sent.carries frame = true) :
    message profile sent = sensor profile.registry frame sent.data := by
  obtain ⟨hdata, rfl⟩ := Message.carries_iff.mp hcarries
  exact message_of_transmitData hdata

variable {registry : Registry} {frame : FrameKey} {info : FrameInfo}

/-- Sensor data shows each point that can be read once, in the order of the indices. -/
theorem filterMap_shown?_sensor (hframe : registry.frame? frame = some info) (data : UInt64) :
    (sensor registry frame data).filterMap Action.shown? =
      (List.range (registry.readable frame info.points.toNat)).map fun index =>
        (frame.point index, registry.value frame data index) := by
  rw [filterMap_sensor hframe data (fun _ _ => rfl) fun _ => rfl, List.map_eq_flatMap]
  rfl

/-- Sensor data grades each point that can be read once, in the order of the indices. -/
theorem filterMap_graded?_sensor (hframe : registry.frame? frame = some info) (data : UInt64) :
    (sensor registry frame data).filterMap Action.graded? =
      (List.range (registry.readable frame info.points.toNat)).map frame.point := by
  rw [filterMap_sensor hframe data (fun _ _ => rfl) fun _ => rfl, List.map_eq_flatMap]
  rfl

/-- Up to the fault at its end, a frame is read as if it declared only the points that can be
read. -/
theorem sensor_declaring (hframe : registry.frame? frame = some info) (data : UInt64) :
    let count := registry.readable frame info.points.toNat
    sensor registry frame data =
      sensor (registry.declaring frame info count) frame data ++
        stop registry frame info.points.toNat count := by
  intro count
  have hcount : (UInt8.ofNat count).toNat = count := by
    have hle := registry.readable_le frame info.points.toNat
    exact UInt8.toNat_ofNat_of_lt (Nat.lt_of_le_of_lt hle info.points.toNat_lt)
  have hinfo : (registry.declaring frame info count).frame? frame =
      some { info with points := UInt8.ofNat count } :=
    (Table.get?_insert _ _ _ _).trans (if_pos rfl)
  have hall : (registry.declaring frame info count).readable frame count = count :=
    registry.readable_idem frame info.points.toNat
  rw [sensor_eq hframe, sensor_eq hinfo]
  dsimp only
  rw [hcount, hall]
  have hend : stop (registry.declaring frame info count) frame count count = [] :=
    if_neg (Nat.lt_irrefl count)
  rw [hend, List.append_nil, List.append_assoc]
  rfl

end Reading

namespace Desk

/-- What the operator sees of a data point that can be read. -/
def pointSightings (desk : Desk) (frame : FrameKey) (data : UInt64) (index : Nat) :
    List Sighting :=
  let registry := desk.profile.registry
  let key := frame.point index
  let value := registry.value frame data index
  announced key (registry.classify key value) (registry.title key) (desk.board.severity? key) ++
    [if desk.displays key then .sample key value else .fault (refusalText key value)]

section Points

variable {desk : Desk} {frame : FrameKey} {step : Step}

/-- A data point is announced if that is news, and shown or refused. -/
theorem sightings_point (hlive : desk.feed.live = true) (hstep : step.carries frame = true)
    (data : UInt64) (index : Nat) :
    (desk.trace step (Reading.point desk.profile.registry frame data index)).flatMap
        (Entry.sightings frame) = desk.pointSightings frame data index := by
  have hframe : (frame.point index).frameKey = frame := rfl
  simp only [Reading.point, Reading.sampled, trace, List.flatMap_cons, List.flatMap_nil,
    List.append_nil, sightings_emits hlive, sightings_emits (live_perform hlive _), shows,
    displays_perform, hframe, hstep, if_true, pointSightings]
  split <;> rfl

/-- What is seen of a data point does not depend on the other points. -/
theorem pointSightings_perform (desk : Desk) {action : Action} {index : Nat}
    (hother : action.graded? ≠ some (frame.point index)) (data : UInt64) :
    (desk.perform action).pointSightings frame data index =
      desk.pointSightings frame data index := by
  simp only [pointSightings, Board.severity?, profile_perform, displays_perform,
    desk.get?_signals_perform hother]

/-- The points are distinct, so each is seen as if the others had not been read. -/
theorem sightings_points (hlive : desk.feed.live = true) (hstep : step.carries frame = true)
    (data : UInt64) {indices : List Nat}
    (hdistinct : indices.Pairwise fun index other => frame.point index ≠ frame.point other) :
    (desk.trace step (indices.flatMap (Reading.point desk.profile.registry frame data))).flatMap
        (Entry.sightings frame) = indices.flatMap (desk.pointSightings frame data) := by
  induction indices generalizing desk with
  | nil => rfl
  | cons index rest ih =>
      obtain ⟨hfirst, hlater⟩ := List.pairwise_cons.mp hdistinct
      let actions := Reading.point desk.profile.registry frame data index
      have hprofile : (actions.foldl perform desk).profile = desk.profile :=
        profile_foldl_perform _ _
      have hrest := ih ((desk.live_foldl_perform actions).trans hlive) hlater
      have hkept : rest.flatMap ((actions.foldl perform desk).pointSightings frame data) =
          rest.flatMap (desk.pointSightings frame data) := by
        apply List.flatMap_congr
        intro other hmem
        refine foldl_perform_of_kept (fun desk => desk.pointSightings frame data other) ?_ desk
        intro action haction before
        apply before.pointSightings_perform
        intro hgraded
        rcases List.mem_pair.mp haction with rfl | rfl
        · exact hfirst other hmem (Option.some.inj hgraded)
        · cases hgraded
      rw [hprofile, hkept] at hrest
      rw [List.flatMap_cons, trace_append, List.flatMap_append, hrest, List.flatMap_cons,
        sightings_point hlive hstep]

theorem sightings_stop (hlive : desk.feed.live = true) (hstep : step.carries frame = true)
    (registry : Registry) (declared index : Nat) :
    (desk.trace step (Reading.stop registry frame declared index)).flatMap (Entry.sightings frame) =
      if index < declared then [.fault (registry.stopText frame index)] else [] := by
  unfold Reading.stop
  split <;> simp [trace, sightings_emits hlive, shows, hstep]

/-- What is seen of a frame when its sensor data arrives: its points as far as they can be read, and
the fault at the end. -/
theorem sightings_sensor (hlive : desk.feed.live = true) (hstep : step.carries frame = true)
    {info : FrameInfo} (hframe : desk.profile.registry.frame? frame = some info)
    (data : UInt64) :
    let registry := desk.profile.registry
    let count := registry.readable frame info.points.toNat
    (desk.trace step (Reading.sensor registry frame data)).flatMap (Entry.sightings frame) =
      (List.range count).flatMap (desk.pointSightings frame data) ++
        if count < info.points.toNat then [.fault (registry.stopText frame count)] else [] := by
  intro registry count
  let restarts : List Action := if 0 < info.timeout then [.restart frame info.timeout] else []
  let started := restarts.foldl perform desk
  have hquiet : (desk.trace step restarts).flatMap (Entry.sightings frame) = [] := by
    simp only [restarts]
    split <;> simp [trace, sightings_emits hlive, shows]
  have hstarted : started.feed.live = true := (desk.live_foldl_perform restarts).trans hlive
  have hprofile : started.profile = desk.profile := profile_foldl_perform _ _
  have hseen : started.pointSightings frame data = desk.pointSightings frame data := by
    funext index
    refine foldl_perform_of_kept (fun desk => desk.pointSightings frame data index) ?_ desk
    intro action hmem before
    apply before.pointSightings_perform
    rw [List.mem_singleton.mp (List.mem_ite_nil_right.mp hmem).2]
    exact (Option.some_ne_none _).symm
  have hdistinct := frame.pairwise_point_ne (Nat.le_of_lt
    (Nat.lt_of_le_of_lt (registry.readable_le frame info.points.toNat) info.points.toNat_lt))
  have hpoints := sightings_points hstarted hstep data hdistinct
  rw [hprofile, hseen] at hpoints
  rw [Reading.sensor_eq hframe]
  dsimp only
  rw [trace_append, trace_append, List.flatMap_append, List.flatMap_append, hquiet, hpoints,
    List.nil_append, sightings_stop ((started.live_foldl_perform _).trans hstarted) hstep]

end Points

/-- The events that bring sightings to the operator. Notices are posted under the handles from `next`
on, and the signal of a data point is changed under the handle that it has on the board. -/
def told (board : Board) : (next : Nat) → List Sighting → List Feed.Event
  | _, [] => []
  | next, .sample key value :: rest => .sample key value :: told board next rest
  | next, .opened _ severity text :: rest =>
    .post next .telemetry severity text :: told board (next + 1) rest
  | next, .changed key severity _ :: rest =>
    ((board.signals.get? key).map fun signal => .severity signal.id severity).toList ++
      told board next rest
  | next, .fault text :: rest => .post next .telemetry .warning text :: told board (next + 1) rest

section Telling

theorem told_append (board : Board) (next : Nat) (earlier later : List Sighting) :
    told board next (earlier ++ later) =
      told board next earlier ++
        told board (next + (Feed.posted (told board next earlier)).length) later := by
  induction earlier generalizing next with
  | nil => rfl
  | cons sighting rest ih =>
      cases sighting with
      | sample key value =>
          simp [told, ih, Feed.posted, List.filterMap_cons, Feed.Event.posted?]
      | opened key severity text =>
          simp [told, ih, Feed.posted, Feed.Event.posted?, Nat.add_assoc, Nat.add_comm 1]
      | changed key severity title =>
          cases hsignal : board.signals.get? key <;>
            simp [told, ih, hsignal, Feed.posted, List.filterMap_cons, Feed.Event.posted?]
      | fault text =>
          simp [told, ih, Feed.posted, Feed.Event.posted?, Nat.add_assoc, Nat.add_comm 1]

theorem told_congr {board other : Board} {sightings : List Sighting}
    (hsignals : ∀ key severity title, Sighting.changed key severity title ∈ sightings →
      board.signals.get? key = other.signals.get? key) (next : Nat) :
    told board next sightings = told other next sightings := by
  induction sightings generalizing next with
  | nil => rfl
  | cons sighting rest ih =>
      have hrest := ih fun key severity title hmem =>
        hsignals key severity title (List.mem_cons_of_mem _ hmem)
      cases sighting with
      | changed key severity title =>
          rw [told, told, hrest, hsignals key severity title List.mem_cons_self]
      | sample | opened | fault => rw [told, told, hrest]

/-- Every event of an action of the frame's own messages is a sighting of the frame. -/
theorem Effect.eq_told {displays : DataKey → Bool} {board after : Board} {next final : Nat}
    {action : Action} {events : List Feed.Event}
    (effect : Effect displays board next action events after final) {frame : FrameKey}
    {step : Step} (habout : action.isAbout frame = true) (hstep : step.carries frame = true) :
    events = told board next (({ step, action, events } : Entry).sightings frame) := by
  unfold Entry.sightings
  cases effect with
  | posted | marked | opened | rewritten => cases habout
  | restarted | normal | steady => rfl
  | faulted text => simp [sighting?, hstep, told]
  | shown value hshown =>
      have hkey := of_decide_eq_true habout
      simp [sighting?, hkey, told]
  | refused value hrefused => simp [sighting?, hstep, told]
  | raised title hnone hsevere =>
      have hkey := of_decide_eq_true habout
      simp [sighting?, hkey, told]
  | changed title hsome hother =>
      have hkey := of_decide_eq_true habout
      simp [sighting?, hkey, told, hsome]

theorem isAbout_of_mem_asks {frame : FrameKey} {step : Step} (hcarries : step.carries frame = true)
    {desk : Desk} {action : Action} (hmem : action ∈ desk.asks step) :
    action.isAbout frame = true := by
  cases step with
  | decode message =>
      rw [asks, Reading.message_of_carries _ hcarries] at hmem
      exact List.all_eq_true.mp (Reading.all_isAbout_sensor _ _ _) action hmem
  | evaluate | tick | command => cases hcarries

theorem graded?_of_changed {frame : FrameKey} {entry : Entry} {key : DataKey}
    {severity : Severity} {title : String}
    (hmem : Sighting.changed key severity title ∈ entry.sightings frame) :
    entry.action.graded? = some key := by
  obtain ⟨event, _, hsighting⟩ := List.mem_filterMap.mp hmem
  cases event with
  | severity id shown =>
      cases haction : entry.action with
      | grade graded _ _ =>
          simp only [haction, sighting?, Option.ite_none_right_eq_some, Option.some.injEq,
            Sighting.changed.injEq] at hsighting
          rw [Action.graded?, hsighting.2.1]
      | _ => simp [haction, sighting?] at hsighting
  | post id channel shown text =>
      cases haction : entry.action <;> simp [haction, sighting?] at hsighting
  | text => cases hsighting
  | sample => simp [sighting?] at hsighting

/-- If no data point is graded twice, then the sightings tell every event and every handle. -/
theorem events_trace {desk : Desk} (hlive : desk.feed.live = true) {frame : FrameKey} {step : Step}
    (hstep : step.carries frame = true) {actions : List Action}
    (habout : ∀ action ∈ actions, action.isAbout frame = true)
    (hdistinct : (actions.filterMap Action.graded?).Nodup) :
    (desk.trace step actions).flatMap Entry.events =
      told desk.board desk.feed.nextId
        ((desk.trace step actions).flatMap (Entry.sightings frame)) := by
  induction actions generalizing desk with
  | nil => rfl
  | cons action rest ih =>
      obtain ⟨hfirst, hlater⟩ := List.forall_mem_cons.mp habout
      have effect := effect_perform hlive action
      have htold := effect.eq_told hfirst hstep
      obtain ⟨hmono, hposted⟩ := effect.posted_eq
      have hnext : desk.feed.nextId + (Feed.posted (desk.emits action)).length =
          (desk.perform action).feed.nextId := by
        rw [hposted, List.length_range']
        omega
      have hrest := ih (live_perform hlive action) hlater (hdistinct.sublist
        ((List.sublist_cons_self action rest).filterMap _))
      have hsignals : ∀ key severity title, Sighting.changed key severity title ∈
          ((desk.perform action).trace step rest).flatMap (Entry.sightings frame) →
            (desk.perform action).board.signals.get? key = desk.board.signals.get? key := by
        intro key severity title hmem
        obtain ⟨entry, hentry, hchanged⟩ := List.mem_flatMap.mp hmem
        apply desk.get?_signals_perform
        intro hgraded
        rw [List.filterMap_cons_some hgraded, List.nodup_cons] at hdistinct
        exact hdistinct.1 (List.mem_filterMap.mpr
          ⟨entry.action, (mem_trace hentry).2, graded?_of_changed hchanged⟩)
      rw [trace, List.flatMap_cons, List.flatMap_cons, told_append, ← htold, hnext, hrest,
        told_congr hsignals]

end Telling

section Decoding

variable {desk : Desk} {message : Message} {frame : FrameKey} {info : FrameInfo}

/-- What the message says about its frame are its points and the fault at the end. -/
theorem sightings_decode (hlive : desk.feed.live = true) (hcarries : message.carries frame = true)
    (hframe : desk.profile.registry.frame? frame = some info) :
    let registry := desk.profile.registry
    let count := registry.readable frame info.points.toNat
    (desk.journal [.decode message]).flatMap (Entry.sightings frame) =
      (List.range count).flatMap (desk.pointSightings frame message.data) ++
        if count < info.points.toNat then [.fault (registry.stopText frame count)] else [] := by
  have hstep : (Step.decode message).carries frame = true := hcarries
  rw [journal, journal, List.append_nil, asks, Reading.message_of_carries _ hcarries]
  exact sightings_sensor hlive hstep hframe message.data

/-- What is seen of a frame when its sensor data arrives is all that gets onto the feed. -/
theorem events_decode (hlive : desk.feed.live = true) (hcarries : message.carries frame = true)
    (hframe : desk.profile.registry.frame? frame = some info) :
    let registry := desk.profile.registry
    let count := registry.readable frame info.points.toNat
    (desk.decode message).feed.events.toList =
      desk.feed.events.toList ++ told desk.board desk.feed.nextId
        ((List.range count).flatMap (desk.pointSightings frame message.data) ++
          if count < info.points.toNat then [.fault (registry.stopText frame count)] else []) := by
  intro registry count
  have hstep : (Step.decode message).carries frame = true := hcarries
  have hasks : desk.asks (.decode message) = Reading.sensor registry frame message.data :=
    Reading.message_of_carries _ hcarries
  have hdistinct : ((desk.asks (.decode message)).filterMap Action.graded?).Nodup := by
    rw [hasks, Reading.filterMap_graded?_sensor hframe, List.nodup_iff_pairwise_ne,
      List.pairwise_map]
    exact frame.pairwise_point_ne (Nat.le_of_lt
      (Nat.lt_of_le_of_lt (registry.readable_le frame info.points.toNat) info.points.toNat_lt))
  have hevents := events_trace hlive hstep (fun _ hmem => isAbout_of_mem_asks hstep hmem) hdistinct
  have hrun := toList_run hlive [.decode message]
  have hsightings := sightings_decode hlive hcarries hframe
  rw [journal, journal, List.append_nil] at hrun hsightings
  rw [hevents, hsightings] at hrun
  exact hrun

/-- Reading stops without a trace on the signals of the point that it stops at and of later ones. -/
theorem get?_signals_decode_of_unread (hcarries : message.carries frame = true)
    (hframe : desk.profile.registry.frame? frame = some info) {key : DataKey}
    (hkey : desk.profile.registry.readable frame info.points.toNat ≤ key.index.toNat) :
    (desk.decode message).board.signals.get? key = desk.board.signals.get? key := by
  refine foldl_perform_of_kept (fun desk => desk.board.signals.get? key) ?_ _
  intro action hmem before
  apply before.get?_signals_perform
  intro hgraded
  rw [Reading.message_of_carries _ hcarries] at hmem
  have hpoint : key ∈ (Reading.sensor desk.profile.registry frame message.data).filterMap
      Action.graded? := List.mem_filterMap.mpr ⟨action, hmem, hgraded⟩
  rw [Reading.filterMap_graded?_sensor hframe] at hpoint
  obtain ⟨index, hindex, rfl⟩ := List.mem_map.mp hpoint
  have hread := List.mem_range.mp hindex
  have hsmall : (frame.point index).index.toNat ≤ index := by
    simpa [FrameKey.point] using Nat.mod_le index 256
  omega

theorem sum_faults_points (takes : DataKey → Bool) (registry : Registry) (frame : FrameKey)
    (data : UInt64) (indices : List Nat) :
    ((indices.flatMap (Reading.point registry frame data)).map (faults takes)).sum =
      indices.countP fun index => !takes (frame.point index) := by
  induction indices with
  | nil => rfl
  | cons index rest ih =>
      rw [List.flatMap_cons, List.map_append, List.sum_append, ih, List.countP_cons]
      cases htakes : takes (frame.point index) <;>
        simp [Reading.point, Reading.sampled, faults, htakes, Nat.add_comm]

/-- A frame of sensor data adds one fault for each value that the display refuses, and one if it
cannot be read to its end. -/
theorem protocolWarnings_decode_of_carries (hcarries : message.carries frame = true)
    (hframe : desk.profile.registry.frame? frame = some info) :
    let count := desk.profile.registry.readable frame info.points.toNat
    (desk.decode message).counters.protocolWarnings =
      desk.counters.protocolWarnings +
        ((List.range count).countP (fun index => !desk.takes (frame.point index)) +
          if count < info.points.toNat then 1 else 0) := by
  intro count
  have hfirst : ((if 0 < info.timeout then [Action.restart frame info.timeout] else []).map
      (faults desk.takes)).sum = 0 := by
    split <;> rfl
  have hlast : ((Reading.stop desk.profile.registry frame info.points.toNat count).map
      (faults desk.takes)).sum = if count < info.points.toNat then 1 else 0 := by
    unfold Reading.stop
    split <;> rfl
  rw [counters_decode, Reading.message_of_carries _ hcarries, Reading.sensor_eq hframe]
  dsimp only
  rw [List.map_append, List.map_append, List.sum_append, List.sum_append, hfirst,
    sum_faults_points, hlast, Nat.zero_add]

/-- An action brings the display the sample that it asks for, if the display takes it. -/
theorem Effect.filterMap_sample? {displays : DataKey → Bool} {board after : Board}
    {next final : Nat} {action : Action} {events : List Feed.Event}
    (effect : Effect displays board next action events after final) :
    events.filterMap Feed.Event.sample? =
      action.shown?.toList.filter fun sample => displays sample.1 := by
  cases effect with
  | shown value hshown => simp [Action.shown?, Feed.Event.sample?, hshown]
  | refused value hrefused => simp [Action.shown?, Feed.Event.sample?, hrefused]
  | _ => rfl

theorem filterMap_sample?_trace (hlive : desk.feed.live = true) (step : Step)
    (actions : List Action) :
    ((desk.trace step actions).flatMap Entry.events).filterMap Feed.Event.sample? =
      (actions.filterMap Action.shown?).filter fun sample => desk.displays sample.1 := by
  induction actions generalizing desk with
  | nil => rfl
  | cons action rest ih =>
      rw [trace, List.flatMap_cons, List.filterMap_append, ih (live_perform hlive action),
        displays_perform, (effect_perform hlive action).filterMap_sample?, List.filterMap_cons]
      cases action.shown? with
      | none => rfl
      | some sample => cases hshown : desk.displays sample.1 <;> simp [hshown]

/-- The display gets the samples that the message asks for, as far as it takes them. -/
theorem filterMap_sample?_decode (hlive : desk.feed.live = true) (message : Message) :
    (desk.decode message).feed.events.toList.filterMap Feed.Event.sample? =
      desk.feed.events.toList.filterMap Feed.Event.sample? ++
        ((Reading.message desk.profile message).filterMap Action.shown?).filter
          fun sample => desk.displays sample.1 := by
  have hevents := toList_run hlive [.decode message]
  rw [journal, journal, List.append_nil] at hevents
  have hdecode : desk.run [.decode message] = desk.decode message := rfl
  rw [← hdecode, hevents, List.filterMap_append, filterMap_sample?_trace hlive]
  rfl

end Decoding

/-- A frame is read up to the first data point that is unknown, too wide or does not fit, as if it
declared no more than the points before. Each of these is sent to the display once, in the order of
the indices, and is graded. The point that stops the reading is named by one fault, which comes last
and could be about no other point, and neither it nor a later point is shown or changes its signal. A
sample that the display refuses adds one fault in its place. Nothing else gets onto the feed. If the
frame is watched, its countdown starts again from the timeout in any case. -/
theorem faulty_point_is_isolated {desk : Desk} {message : Message} {frame : FrameKey}
    {info : FrameInfo} (hcarries : message.carries frame = true)
    (hframe : desk.profile.registry.frame? frame = some info) :
    let registry := desk.profile.registry
    let declared := info.points.toNat
    let count := registry.readable frame declared
    let actions := Reading.message desk.profile message
    let after := desk.decode message
    actions.filterMap Action.shown? =
        (List.range count).map (fun index =>
          (frame.point index, registry.value frame message.data index)) ∧
      actions =
        Reading.message { desk.profile with registry := registry.declaring frame info count }
            message ++
          (if count < declared then [.fault (registry.stopText frame count)] else []) ∧
      (desk.feed.live = true →
        after.feed.events.toList =
          desk.feed.events.toList ++ told desk.board desk.feed.nextId
            ((List.range count).flatMap (desk.pointSightings frame message.data) ++
              if count < declared then [.fault (registry.stopText frame count)] else [])) ∧
      (∀ (other : Registry) (key : DataKey),
        other.stopText key.frameKey key.index.toNat = registry.stopText frame count →
          key = frame.point count) ∧
      (∀ key : DataKey, count ≤ key.index.toNat →
        after.board.signals.get? key = desk.board.signals.get? key) ∧
      after.counters.protocolWarnings =
        desk.counters.protocolWarnings +
          ((List.range count).countP (fun index => !desk.takes (frame.point index)) +
            if count < declared then 1 else 0) ∧
      (0 < info.timeout → after.countdowns.table.get? frame =
        some { timeout := info.timeout, remaining := info.timeout.toNat }) := by
  intro registry declared count actions after
  have hactions : actions = Reading.sensor registry frame message.data :=
    Reading.message_of_carries _ hcarries
  refine ⟨?_, ?_, ?_, ?_, ?_, protocolWarnings_decode_of_carries hcarries hframe, ?_⟩
  · rw [hactions, Reading.filterMap_shown?_sensor hframe]
  · rw [hactions, Reading.message_of_carries _ hcarries]
    exact Reading.sensor_declaring hframe message.data
  · intro hlive
    exact events_decode hlive hcarries hframe
  · intro other key htext
    rw [← Registry.stopText_inj htext, key.point_frameKey]
  · intro key hkey
    exact get?_signals_decode_of_unread hcarries hframe hkey
  · intro hwatched
    have hrenewal : message.renewal? registry frame = some info.timeout := by
      rw [Message.renewal?, if_pos hcarries]
      exact Registry.watch?_eq_some_iff.mpr ⟨info, hframe, hwatched, rfl⟩
    have hcountdown := (Footprint.decode desk message).countdowns frame
    rw [hrenewal] at hcountdown
    exact hcountdown

/-- The third of four points is too wide, and the display takes no samples of the second. -/
theorem faulty_point_is_isolated_wide_point :
    let point : PointInfo :=
      { name := "rpm", bitLength := 8, min := 0, max := 255, minWarning := 0, maxWarning := 90,
        minCritical := 0, maxCritical := 100 }
    let registry : Registry := .ofEntries
      [.node 3 "motor", .frame ⟨3, 0⟩ 100, .point ⟨3, 0, 0⟩ point, .point ⟨3, 0, 1⟩ point,
        .point ⟨3, 0, 2⟩ { point with bitLength := 40 }, .point ⟨3, 0, 3⟩ point]
    let desk : Desk := { profile := { registry }, displays := fun key => key.index ≠ 1 }
    let message : Message := ⟨0x303, 0xC8C8C8⟩
    message.carries ⟨3, 0⟩ = true ∧
      registry.frame? ⟨3, 0⟩ = some { timeout := 100, points := 4 } ∧
      registry.readable ⟨3, 0⟩ 4 = 2 ∧
      (Reading.message desk.profile message).filterMap Action.shown? =
        [(⟨3, 0, 0⟩, 200), (⟨3, 0, 1⟩, 200)] ∧
      (desk.decode message).feed.events.toList =
        [.post 1 .telemetry .critical "status of: motor.rpm", .sample ⟨3, 0, 0⟩ 200,
          .post 2 .telemetry .critical "status of: motor.rpm",
          .post 3 .telemetry .warning
            "Failed to add data point to display. node=3 frame=0 data=1 value: 200",
          .post 4 .telemetry .warning
            "DataInfo has invalid bitLength. node=3 frame=0 data=2 bitLength: 40"] ∧
      (desk.decode message).counters.protocolWarnings = 2 ∧
      (desk.decode message).countdowns.table.get? ⟨3, 0⟩ =
        some { timeout := 100, remaining := 100 } := by
  intro point registry desk message
  have hcarries : message.carries ⟨3, 0⟩ = true := by decide +kernel
  have hframe : desk.profile.registry.frame? ⟨3, 0⟩ = some { timeout := 100, points := 4 } := by
    decide +kernel
  obtain ⟨hshown, _, hevents, _, _, hfaults, hcountdown⟩ := faulty_point_is_isolated hcarries hframe
  refine ⟨hcarries, hframe, by decide +kernel, ?_, ?_, ?_, hcountdown (by decide)⟩
  · exact hshown.trans (by decide +kernel)
  · exact (hevents rfl).trans (by decide +kernel)
  · exact hfaults.trans (by decide +kernel)

theorem fault_not_mem_announced (text : String) (key : DataKey) (severity : Severity)
    (title : String) (known : Option Severity) :
    Sighting.fault text ∉ announced key severity title known := by
  unfold announced
  split
  · split <;> simp
  · split <;> simp

/-- Let every point of a frame be known and have at most 32 bits, and let them fit into the word
together. A word that holds, from the lowest bit up, the distances of values from the least values of
their points shows exactly these values, in the order of the indices, whatever its other bits are. If
the display takes samples of the points, it gets them and there is no fault. -/
theorem packed_values_read_back {desk : Desk} {message : Message} {frame : FrameKey}
    {info : FrameInfo} {values : Nat → Int} {high : Nat}
    (hcarries : message.carries frame = true)
    (hframe : desk.profile.registry.frame? frame = some info)
    (hpoints : ∀ index < info.points.toNat, ∃ point,
      desk.profile.registry.point? (frame.point index) = some point ∧ point.bitLength ≤ 32)
    (hfits : desk.profile.registry.offset frame info.points.toNat ≤ 64)
    (hvalues : ∀ index < info.points.toNat,
      desk.profile.registry.least frame index ≤ values index ∧
        values index ≤ desk.profile.registry.least frame index +
          (2 ^ desk.profile.registry.width frame index - 1 : Nat))
    (hdata : message.data.toNat =
      Bits.pack (desk.profile.registry.width frame)
          (fun index => (values index - desk.profile.registry.least frame index).toNat)
          info.points.toNat +
        high * 2 ^ desk.profile.registry.offset frame info.points.toNat) :
    let samples := (List.range info.points.toNat).map fun index =>
      (frame.point index, values index)
    let after := desk.decode message
    (Reading.message desk.profile message).filterMap Action.shown? = samples ∧
      (desk.feed.live = true →
        (∀ index < info.points.toNat, desk.displays (frame.point index) = true) →
        after.feed.events.toList.filterMap Feed.Event.sample? =
            desk.feed.events.toList.filterMap Feed.Event.sample? ++ samples ∧
          after.counters.protocolWarnings = desk.counters.protocolWarnings ∧
          ∀ text, Sighting.fault text ∉
            (desk.journal [.decode message]).flatMap (Entry.sightings frame)) := by
  intro samples after
  have hcount := Registry.readable_eq_self_iff.mpr (.of_offset_le hpoints hfits)
  have hshown : (Reading.message desk.profile message).filterMap Action.shown? = samples := by
    rw [Reading.message_of_carries _ hcarries, Reading.filterMap_shown?_sensor hframe, hcount]
    apply List.map_congr_left
    intro index hmem
    rw [Registry.value_of_pack hvalues hdata (List.mem_range.mp hmem)]
  refine ⟨hshown, ?_⟩
  intro hlive hdisplays
  refine ⟨?_, ?_, ?_⟩
  · rw [filterMap_sample?_decode hlive, hshown, List.filter_eq_self.mpr]
    intro sample hmem
    obtain ⟨index, hindex, rfl⟩ := List.mem_map.mp hmem
    exact hdisplays index (List.mem_range.mp hindex)
  · have hfaults := protocolWarnings_decode_of_carries hcarries hframe
    have hnone : (List.range info.points.toNat).countP
        (fun index => !desk.takes (frame.point index)) = 0 := by
      rw [List.countP_eq_zero]
      intro index hmem
      simp [takes_of_live hlive, hdisplays index (List.mem_range.mp hmem)]
    simp only [hcount, hnone, Nat.lt_irrefl, if_false] at hfaults
    exact hfaults
  · intro text hmem
    rw [sightings_decode hlive hcarries hframe, hcount, if_neg (Nat.lt_irrefl _),
      List.append_nil] at hmem
    obtain ⟨index, hindex, hpoint⟩ := List.mem_flatMap.mp hmem
    rcases List.mem_append.mp hpoint with hannounced | hsample
    · exact fault_not_mem_announced _ _ _ _ _ hannounced
    · rw [if_pos (hdisplays index (List.mem_range.mp hindex))] at hsample
      cases List.mem_singleton.mp hsample

/-- Two points of 32 bits fill the word, and one between them has no bits. -/
theorem packed_values_read_back_full_word :
    let point : PointInfo :=
      { name := "position", bitLength := 32, min := -5, max := 0, minWarning := 0, maxWarning := 0,
        minCritical := 0, maxCritical := 0 }
    let registry : Registry := .ofEntries
      [.node 3 "arm", .frame ⟨3, 0⟩ 100, .point ⟨3, 0, 0⟩ point,
        .point ⟨3, 0, 1⟩ { point with bitLength := 0, min := 7 },
        .point ⟨3, 0, 2⟩ { point with min := -2147483648 }]
    let desk : Desk := { profile := { registry }, displays := fun _ => true }
    let message : Message := ⟨0x303, 0x80000001FFFFFFFF⟩
    message.carries ⟨3, 0⟩ = true ∧
      registry.frame? ⟨3, 0⟩ = some { timeout := 100, points := 3 } ∧
      registry.offset ⟨3, 0⟩ 3 = 64 ∧
      (desk.decode message).feed.events.toList.filterMap Feed.Event.sample? =
        [(⟨3, 0, 0⟩, 4294967290), (⟨3, 0, 1⟩, 7), (⟨3, 0, 2⟩, 1)] ∧
      (desk.decode message).counters.protocolWarnings = 0 := by
  intro point registry desk message
  let values : Nat → Int := fun index => [4294967290, 7, 1].getD index 0
  have hcarries : message.carries ⟨3, 0⟩ = true := by decide +kernel
  have hframe : desk.profile.registry.frame? ⟨3, 0⟩ = some { timeout := 100, points := 3 } := by
    decide +kernel
  have hpoints : ∀ index < 3, ∃ point,
      desk.profile.registry.point? (FrameKey.point ⟨3, 0⟩ index) = some point ∧
        point.bitLength ≤ 32 := by
    intro index hindex
    match index, hindex with
    | 0, _ | 1, _ | 2, _ => exact ⟨_, rfl, by decide⟩
  have hfits : desk.profile.registry.offset ⟨3, 0⟩ 3 = 64 := by decide +kernel
  have hvalues : ∀ index < 3, desk.profile.registry.least ⟨3, 0⟩ index ≤ values index ∧
      values index ≤ desk.profile.registry.least ⟨3, 0⟩ index +
        (2 ^ desk.profile.registry.width ⟨3, 0⟩ index - 1 : Nat) := by
    decide +kernel
  have hdata : message.data.toNat =
      Bits.pack (desk.profile.registry.width ⟨3, 0⟩)
          (fun index => (values index - desk.profile.registry.least ⟨3, 0⟩ index).toNat) 3 +
        0 * 2 ^ desk.profile.registry.offset ⟨3, 0⟩ 3 := by
    decide +kernel
  obtain ⟨_, hread⟩ :=
    packed_values_read_back hcarries hframe hpoints hfits.le hvalues hdata
  obtain ⟨hsamples, hfaults, _⟩ := hread rfl fun _ _ => rfl
  exact ⟨hcarries, hframe, hfits, hsamples, hfaults⟩

end Desk

end GroundStation
