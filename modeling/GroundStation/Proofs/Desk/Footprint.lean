import GroundStation.Proofs.Desk.Notices
import GroundStation.Proofs.Frame.Scanning
import GroundStation.Proofs.Liveness.Watched
import GroundStation.Proofs.Desk.Windows
import GroundStation.Proofs.Vehicle.Geometry

/-!
What reading a message can change. Beside the feed and the counters, the answer of a node with a
name changes the roll call, sensor data of a watched frame changes the frame's countdown, sensor data
of any frame changes signals of data points that the frame declares, and a bus status or a heartbeat
report changes at most one slot of the board, which is never the slot of the roll call. A frame that
failed its checksum changes nothing at all.

The desk may be in any state. What an action can write is said once, for the board in
`board_perform` and for the rest in `perform_eq`; which actions a message asks for is said reading by
reading.
-/

namespace GroundStation

namespace Action

def graded? : Action → Option DataKey
  | .grade key _ _ => some key
  | .post _ _ _ | .fault _ | .upsert _ _ _ _ | .present _ | .restart _ _ | .sample _ _ => none

def restarted? : Action → Option (FrameKey × UInt32)
  | .restart key timeout => some (key, timeout)
  | .post _ _ _ | .fault _ | .upsert _ _ _ _ | .present _ | .grade _ _ _ | .sample _ _ => none

theorem graded?_of_isNotice {action : Action} (hnotice : action.isNotice = true) :
    action.graded? = none := by
  cases action <;> first | rfl | cases hnotice

theorem restarted?_of_isNotice {action : Action} (hnotice : action.isNotice = true) :
    action.restarted? = none := by
  cases action <;> first | rfl | cases hnotice

theorem slot?_of_isAbout {action : Action} {frame : FrameKey}
    (habout : action.isAbout frame = true) : action.slot? = none := by
  cases action <;> first | rfl | cases habout

end Action

namespace Message

/-- The frame whose sensor data the message carries, if it carries any. -/
def frame (message : Message) : FrameKey :=
  ⟨message.address.node, message.address.extension⟩

theorem carries_iff {message : Message} {frame : FrameKey} :
    message.carries frame = true ↔
      message.address.function? = some .transmitData ∧ message.frame = frame := by
  rw [carries, Bool.and_eq_true, decide_eq_true_iff, decide_eq_true_iff]
  rfl

/-- The timeout that the message restarts a frame's countdown with: the message carries the sensor
data of the frame, and the frame is watched. -/
def renewal? (registry : Registry) (message : Message) (frame : FrameKey) : Option UInt32 :=
  if message.carries frame then registry.watch? frame else none

/-- The message carries the sensor data of a frame that declares the data point. -/
def reaches (registry : Registry) (message : Message) (key : DataKey) : Bool :=
  message.carries key.frameKey &&
    (registry.frame? key.frameKey).any fun info => key.index < info.points

/-- The slot that the message may write. -/
def slot? (layout : Layout.Heartbeat) (message : Message) : Option Slot :=
  match message.address.function? with
  | some .busStatusUpdate => some .busStatus
  | some .heartbeatResponseUpdate =>
    let kind := Bits.field message.data 0 layout.typeBits
    let page := Bits.field message.data layout.typeBits layout.pageBits
    if kind = layout.timingType then some .heartbeatTiming
    else if kind = layout.statusType then some (.heartbeatPage (Bits.narrow32 page 0xFFFFFFFF))
    else none
  | _ => none

/-- No message writes the slot of the roll call. -/
theorem slot?_ne_heartbeatWindow (layout : Layout.Heartbeat) (message : Message) :
    message.slot? layout ≠ some .heartbeatWindow := by
  unfold slot?
  split
  · simp
  · dsimp only
    split
    · simp
    · split <;> simp
  · simp

/-- In a layout that is in order the page is the page field of the message. -/
theorem page_of_slot? {layout : Layout} (hcheck : layout.check = .ok ()) {message : Message}
    {page : UInt32} (hslot : message.slot? layout.heartbeat = some (.heartbeatPage page)) :
    page.toNat = (Bits.field message.data layout.heartbeat.typeBits
      layout.heartbeat.pageBits).toNat := by
  unfold slot? at hslot
  split at hslot
  · cases hslot
  · dsimp only at hslot
    split at hslot
    · cases hslot
    · split at hslot
      · cases hslot
        exact Layout.toNat_page hcheck message.data _
      · cases hslot
  · cases hslot

end Message

namespace Reading

/-- A reading of data points asks for nothing but faults and for gradings and samples of the points
that it was given. -/
theorem mem_points {registry : Registry} {frame : FrameKey} {data : UInt64} {indices : List UInt8}
    {cursor : UInt32} {action : Action}
    (hmem : action ∈ points registry frame data indices cursor) :
    (∃ text, action = .fault text) ∨
      ∃ index ∈ indices,
        (∃ severity title, action = .grade ⟨frame.node, frame.frame, index⟩ severity title) ∨
          ∃ value, action = .sample ⟨frame.node, frame.frame, index⟩ value := by
  induction indices generalizing cursor with
  | nil => cases hmem
  | cons index rest ih =>
      unfold points at hmem
      dsimp only at hmem
      split at hmem
      · exact .inl ⟨_, List.mem_singleton.mp hmem⟩
      · split at hmem
        · exact .inl ⟨_, List.mem_singleton.mp hmem⟩
        · split at hmem
          · exact .inl ⟨_, List.mem_singleton.mp hmem⟩
          · rcases List.mem_cons.mp hmem with rfl | hmem
            · exact .inr ⟨index, List.mem_cons_self, .inl ⟨_, _, rfl⟩⟩
            · rcases List.mem_cons.mp hmem with rfl | hmem
              · exact .inr ⟨index, List.mem_cons_self, .inr ⟨_, rfl⟩⟩
              · rcases ih hmem with hfault | ⟨other, hother, hpoint⟩
                · exact .inl hfault
                · exact .inr ⟨other, List.mem_cons_of_mem _ hother, hpoint⟩

/-- Sensor data grades data points that its frame declares. -/
theorem graded?_of_mem_sensor {registry : Registry} {frame : FrameKey} {data : UInt64}
    {action : Action} (hmem : action ∈ sensor registry frame data) {key : DataKey}
    (hgraded : action.graded? = some key) :
    key.frameKey = frame ∧
      (registry.frame? frame).any (fun info => key.index < info.points) = true := by
  unfold sensor at hmem
  split at hmem
  · rw [List.mem_singleton.mp hmem] at hgraded
    cases hgraded
  · rename_i info hinfo
    rcases List.mem_append.mp hmem with hrestart | hpoints
    · split at hrestart
      · rw [List.mem_singleton.mp hrestart] at hgraded
        cases hgraded
      · cases hrestart
    · rcases mem_points hpoints with ⟨_, rfl⟩ | ⟨index, hindex, ⟨_, _, rfl⟩ | ⟨_, rfl⟩⟩
      · cases hgraded
      · cases hgraded
        exact ⟨rfl, by simpa [hinfo] using mem_indices_iff.mp hindex⟩
      · cases hgraded

/-- Sensor data restarts the countdown of its frame if that is watched, and no other. -/
theorem filterMap_restarted?_sensor (registry : Registry) (frame : FrameKey) (data : UInt64) :
    (sensor registry frame data).filterMap Action.restarted? =
      ((registry.watch? frame).map (Prod.mk frame)).toList := by
  unfold sensor Registry.watch?
  cases registry.frame? frame with
  | none => rfl
  | some info =>
      have hpoints : (points registry frame data (indices info) 0).filterMap Action.restarted? =
          [] := by
        rw [List.filterMap_eq_nil_iff]
        intro action hmem
        rcases mem_points hmem with ⟨_, rfl⟩ | ⟨_, _, ⟨_, _, rfl⟩ | ⟨_, rfl⟩⟩ <;> rfl
      dsimp only
      rw [List.filterMap_append, hpoints, List.append_nil, Option.bind_some]
      split <;> rfl

/-- A message restarts the countdown of its own frame, or none. -/
theorem filterMap_restarted?_message (profile : Profile) (sent : Message) :
    (message profile sent).filterMap Action.restarted? =
      ((sent.renewal? profile.registry sent.frame).map (Prod.mk sent.frame)).toList := by
  unfold Message.renewal?
  by_cases hdata : sent.address.function? = some .transmitData
  · rw [message_of_transmitData hdata, filterMap_restarted?_sensor,
      if_pos (Message.carries_iff.mpr ⟨hdata, rfl⟩)]
    rfl
  · rw [if_neg (mt (And.left ∘ Message.carries_iff.mp) hdata), Option.map_none,
      Option.toList_none, List.filterMap_eq_nil_iff]
    intro action hmem
    rcases mem_message hmem with ⟨hsensor, _⟩ | rfl | hnotice
    · exact absurd hsensor hdata
    · rfl
    · exact Action.restarted?_of_isNotice hnotice

/-- A message grades data points that it reaches, and no others. -/
theorem reaches_of_mem_message {profile : Profile} {sent : Message} {action : Action}
    (hmem : action ∈ message profile sent) {key : DataKey} (hgraded : action.graded? = some key) :
    sent.reaches profile.registry key = true := by
  rcases mem_message hmem with ⟨hdata, hsensor⟩ | rfl | hnotice
  · obtain ⟨hframe, hpoint⟩ := graded?_of_mem_sensor hsensor hgraded
    rw [Message.reaches, hframe, Bool.and_eq_true]
    exact ⟨Message.carries_iff.mpr ⟨hdata, rfl⟩, hpoint⟩
  · cases hgraded
  · rw [Action.graded?_of_isNotice hnotice] at hgraded
    cases hgraded

theorem filterMap_slot?_warning (profile : Profile) (data : UInt64) :
    (warning profile data).filterMap Action.slot? = [] := by
  unfold warning Warning.actions Warning.typeNotice
  split <;> rfl

theorem filterMap_slot?_code (registry : Registry) (table : CodeTable) (node : UInt8)
    (data : UInt64) : (code registry table node data).filterMap Action.slot? = [] := by
  unfold code
  dsimp only
  split
  · rfl
  · split <;> rfl

theorem filterMap_slot?_faults (registry : Registry) (count : Nat) (pair : TimingPair) :
    (pair.faults registry count).filterMap Action.slot? = [] := by
  unfold TimingPair.faults
  split
  · split <;> rfl
  · split <;> rfl

/-- A timing report writes its slot once. -/
theorem filterMap_slot?_heartbeatTiming (layout : Layout.Heartbeat) (registry : Registry)
    (data : UInt64) :
    (heartbeatTiming layout registry data).filterMap Action.slot? = [.heartbeatTiming] := by
  unfold heartbeatTiming
  rw [List.filterMap_append, List.filterMap_flatMap]
  simp only [filterMap_slot?_faults]
  simp [Action.slot?]

theorem filterMap_slot?_statusPage (registry : Registry) (page : UInt32)
    (marks : List (UInt8 × Bool)) :
    (statusPage registry page marks).filterMap Action.slot? = [.heartbeatPage page] := by
  unfold statusPage
  rw [List.filterMap_append]
  refine List.append_left_eq_self.mpr ?_
  rw [List.filterMap_eq_nil_iff]
  intro action hmem
  obtain ⟨node, _, hfault⟩ := List.mem_filterMap.mp hmem
  split at hfault
  · cases hfault
  · cases hfault
    rfl

/-- A heartbeat report writes at most the slot of its kind. -/
theorem filterMap_slot?_heartbeat {profile : Profile} {sent : Message}
    (hreport : sent.address.function? = some .heartbeatResponseUpdate) :
    ((heartbeat profile sent.data).filterMap Action.slot?).Sublist
      (sent.slot? profile.layout.heartbeat).toList := by
  unfold heartbeat Message.slot?
  rw [hreport]
  dsimp only
  split
  · rw [filterMap_slot?_heartbeatTiming]
    exact List.Sublist.refl _
  · split
    · unfold heartbeatStatus
      dsimp only
      split
      · exact List.nil_sublist _
      · split
        · exact List.nil_sublist _
        · rw [filterMap_slot?_statusPage]
          exact List.Sublist.refl _
    · exact List.nil_sublist _

/-- A message writes one slot or none. -/
theorem filterMap_slot?_message (profile : Profile) (sent : Message) :
    ((message profile sent).filterMap Action.slot?).Sublist
      (sent.slot? profile.layout.heartbeat).toList := by
  unfold message
  dsimp only
  split
  case h_6 =>
    unfold pong
    split <;> exact List.nil_sublist _
  case h_7 =>
    rw [filterMap_slot?_warning]
    exact List.nil_sublist _
  case h_8 =>
    rw [filterMap_slot?_code]
    exact List.nil_sublist _
  case h_9 =>
    rw [filterMap_slot?_code]
    exact List.nil_sublist _
  case h_10 =>
    have hnone : (sensor profile.registry ⟨sent.address.node, sent.address.extension⟩
        sent.data).filterMap Action.slot? = [] := by
      rw [List.filterMap_eq_nil_iff]
      intro action hmem
      exact Action.slot?_of_isAbout (List.all_eq_true.mp (all_isAbout_sensor _ _ _) action hmem)
    rw [hnone]
    exact List.nil_sublist _
  case h_11 hfunction => exact filterMap_slot?_heartbeat hfunction
  case h_12 hfunction =>
    rw [Message.slot?, hfunction]
    exact List.Sublist.refl _
  all_goals exact List.nil_sublist _

end Reading

namespace Board

theorem slots_grade (board : Board) (feed : Feed) (key : DataKey) (severity : Severity)
    (title : String) : (board.grade feed key severity title).2.1.slots = board.slots := by
  unfold grade
  split
  · split <;> rfl
  · split <;> rfl

theorem signals_upsert (board : Board) (feed : Feed) (slot : Slot) (channel : Channel)
    (severity : Severity) (text : String) :
    (board.upsert feed slot channel severity text).2.1.signals = board.signals := by
  unfold upsert
  split <;> rfl

theorem get?_signals_grade (board : Board) (feed : Feed) {key other : DataKey}
    (hother : key ≠ other) (severity : Severity) (title : String) :
    (board.grade feed key severity title).2.1.signals.get? other = board.signals.get? other := by
  unfold grade
  split
  · split
    · rfl
    · exact (Table.get?_insert _ _ _ _).trans (if_neg hother)
  · split
    · rfl
    · exact (Table.get?_insert _ _ _ _).trans (if_neg hother)

theorem get?_slots_upsert (board : Board) (feed : Feed) {slot other : Slot}
    (hother : slot ≠ other) (channel : Channel) (severity : Severity) (text : String) :
    (board.upsert feed slot channel severity text).2.1.slots.get? other =
      board.slots.get? other := by
  unfold upsert
  split
  · rfl
  · exact (Table.get?_insert _ _ _ _).trans (if_neg hother)

end Board

namespace Desk

theorem board_perform (desk : Desk) (action : Action) :
    (desk.perform action).board =
      match action with
      | .grade key severity title => (desk.board.grade desk.feed key severity title).2.1
      | .upsert slot channel severity text =>
        (desk.board.upsert desk.feed slot channel severity text).2.1
      | _ => desk.board := by
  cases action with
  | sample key value =>
      simp only [perform, sample]
      split
      · split <;> rfl
      · rfl
  | _ => rfl

/-- An action leaves every signal alone that it does not grade. -/
theorem get?_signals_perform (desk : Desk) {action : Action} {key : DataKey}
    (hkey : action.graded? ≠ some key) :
    (desk.perform action).board.signals.get? key = desk.board.signals.get? key := by
  rw [board_perform]
  cases action with
  | grade other severity title =>
      exact desk.board.get?_signals_grade _ (fun heq => hkey (congrArg some heq)) _ _
  | upsert slot channel severity text =>
      dsimp only
      rw [Board.signals_upsert]
  | _ => rfl

/-- An action leaves every slot alone that it does not write. -/
theorem get?_slots_perform (desk : Desk) {action : Action} {slot : Slot}
    (hslot : action.slot? ≠ some slot) :
    (desk.perform action).board.slots.get? slot = desk.board.slots.get? slot := by
  rw [board_perform]
  cases action with
  | grade key severity title =>
      dsimp only
      rw [Board.slots_grade]
  | upsert other channel severity text =>
      exact desk.board.get?_slots_upsert _ (fun heq => hslot (congrArg some heq)) _ _ _
  | _ => rfl

/-- What none of the actions changes is the same after all of them. -/
theorem foldl_perform_of_kept {α : Type} (view : Desk → α) {actions : List Action}
    (hkept : ∀ action ∈ actions, ∀ desk : Desk, view (desk.perform action) = view desk)
    (desk : Desk) : view (actions.foldl perform desk) = view desk := by
  induction actions generalizing desk with
  | nil => rfl
  | cons action rest ih =>
      rw [List.foldl_cons, ih fun other hmem => hkept other (List.mem_cons_of_mem _ hmem)]
      exact hkept action List.mem_cons_self desk

theorem countdowns_foldl_perform (desk : Desk) (actions : List Action) :
    (actions.foldl perform desk).countdowns =
      (actions.filterMap Action.restarted?).foldl
        (fun countdowns (key, timeout) => countdowns.restart key timeout) desk.countdowns := by
  induction actions generalizing desk with
  | nil => rfl
  | cons action rest ih =>
      rw [List.foldl_cons, ih, desk.perform_eq action]
      cases action <;> rfl

/-- A message restarts at most the countdown of its frame. -/
theorem countdowns_decode (desk : Desk) (message : Message) :
    (desk.decode message).countdowns =
      match message.renewal? desk.profile.registry message.frame with
      | some timeout => desk.countdowns.restart message.frame timeout
      | none => desk.countdowns := by
  unfold decode
  dsimp only
  rw [countdowns_foldl_perform, Reading.filterMap_restarted?_message]
  cases message.renewal? desk.profile.registry message.frame <;> rfl

/-- What reading a message may change, given the desk before and after it. The feed and the counters
are left out. -/
structure Footprint (message : Message) (before after : Desk) : Prop where
  profile : after.profile = before.profile
  displays : after.displays = before.displays
  /-- The sender joins the roll call if it answered the ping and has a name. -/
  rollCall : ∀ node, after.rollCall.contains node =
    (before.rollCall.contains node ||
      ((before.profile.registry.nodeName? node).isSome && message.isAnswer &&
        message.address.node = node))
  /-- The countdown of the frame whose sensor data arrived starts from its timeout. -/
  countdowns : ∀ frame, after.countdowns.table.get? frame =
    match message.renewal? before.profile.registry frame with
    | some timeout => some { timeout, remaining := timeout.toNat }
    | none => before.countdowns.table.get? frame
  signals : ∀ key, message.reaches before.profile.registry key = false →
    after.board.signals.get? key = before.board.signals.get? key
  slots : ∀ slot, message.slot? before.profile.layout.heartbeat ≠ some slot →
    after.board.slots.get? slot = before.board.slots.get? slot
  /-- The report of the roll call is not touched by messages. -/
  window : after.board.slots.get? .heartbeatWindow = before.board.slots.get? .heartbeatWindow

/-- The countdown of a frame is full after a message that renews it and as before otherwise. -/
theorem get?_countdowns_decode (desk : Desk) (message : Message) (frame : FrameKey) :
    (desk.decode message).countdowns.table.get? frame =
      match message.renewal? desk.profile.registry frame with
      | some timeout => some { timeout, remaining := timeout.toNat }
      | none => desk.countdowns.table.get? frame := by
  rw [countdowns_decode]
  by_cases hframe : message.frame = frame
  · subst hframe
    cases hrenewal : message.renewal? desk.profile.registry message.frame with
    | none => rfl
    | some timeout =>
        have hwatch := (Option.ite_none_right_eq_some.mp hrenewal).2
        obtain ⟨info, _, hpositive, rfl⟩ := Registry.watch?_eq_some_iff.mp hwatch
        dsimp only
        rw [Countdowns.get?_restart, if_pos ⟨rfl, UInt32.pos_iff_ne_zero.mp hpositive⟩]
        rfl
  · have hnone : message.renewal? desk.profile.registry frame = none :=
      if_neg (mt (And.right ∘ Message.carries_iff.mp) hframe)
    rw [hnone]
    cases message.renewal? desk.profile.registry message.frame with
    | none => rfl
    | some timeout =>
        dsimp only
        rw [Countdowns.get?_restart, if_neg (mt And.left hframe)]

/-- A message leaves every signal alone that it does not reach. -/
theorem get?_signals_decode (desk : Desk) {message : Message} {key : DataKey}
    (hkey : message.reaches desk.profile.registry key = false) :
    (desk.decode message).board.signals.get? key = desk.board.signals.get? key := by
  refine foldl_perform_of_kept (fun desk => desk.board.signals.get? key) ?_ _
  intro action hmem other
  apply other.get?_signals_perform
  intro hgraded
  rw [Reading.reaches_of_mem_message hmem hgraded] at hkey
  cases hkey

/-- A message leaves every slot alone that it does not write. -/
theorem get?_slots_decode (desk : Desk) {message : Message} {slot : Slot}
    (hslot : message.slot? desk.profile.layout.heartbeat ≠ some slot) :
    (desk.decode message).board.slots.get? slot = desk.board.slots.get? slot := by
  refine foldl_perform_of_kept (fun desk => desk.board.slots.get? slot) ?_ _
  intro action hmem other
  apply other.get?_slots_perform
  intro hwrites
  have hmem := (Reading.filterMap_slot?_message desk.profile message).subset
    (List.mem_filterMap.mpr ⟨action, hmem, hwrites⟩)
  exact hslot (Option.mem_toList.mp hmem)

/-- A message marks at most its sender, and only as an answer of a node with a name. -/
theorem contains_rollCall_decode (desk : Desk) (message : Message) (node : UInt8) :
    (desk.decode message).rollCall.contains node =
      (desk.rollCall.contains node ||
        ((desk.profile.registry.nodeName? node).isSome && message.isAnswer &&
          message.address.node = node)) := by
  rw [rollCall_decode, contains_of_answer, Step.answersFor, Bool.and_assoc]

theorem Footprint.decode (desk : Desk) (message : Message) :
    Footprint message desk (desk.decode message) where
  profile := profile_foldl_perform _ _
  displays :=
    foldl_perform_of_kept Desk.displays (fun action _ desk => desk.displays_perform action) _
  rollCall := desk.contains_rollCall_decode message
  countdowns := desk.get?_countdowns_decode message
  signals := fun _ => desk.get?_signals_decode
  slots := fun _ => desk.get?_slots_decode
  window := desk.get?_slots_decode (message.slot?_ne_heartbeatWindow _)

/-- A frame that fails its checksum does nothing at the desk. -/
theorem receive_of_not_matches (desk : Desk) {field payload : List UInt8}
    (hfailed : ¬ Frame.Matches field payload) :
    desk.receive (Frame.judge field payload) = desk := by
  rw [Frame.judge_of_not_matches hfailed]
  rfl

theorem watches_step {desk : Desk} (watches : desk.countdowns.Watches desk.profile.registry)
    (step : Step) : (desk.step step).countdowns.Watches desk.profile.registry := by
  cases step with
  | decode message =>
      rw [Desk.step, countdowns_decode]
      cases hrenewal : message.renewal? desk.profile.registry message.frame with
      | none => exact watches
      | some timeout => exact watches.restart (Option.ite_none_right_eq_some.mp hrenewal).2
  | evaluate => exact watches
  | tick policy =>
      simp only [Desk.step, tick]
      rw [foldl_reportOverdue_eq]
      exact watches.tick policy
  | command text =>
      simp only [Desk.step, command]
      cases Command.parse text <;> exact watches

/-- Whatever happens at the desk, the watched frames stay those of the registry. -/
theorem watches_run {desk : Desk} (watches : desk.countdowns.Watches desk.profile.registry)
    (steps : List Step) : (desk.run steps).countdowns.Watches desk.profile.registry := by
  induction steps generalizing desk with
  | nil => exact watches
  | cons step rest ih =>
      have hafter : (desk.step step).profile = desk.profile := desk.profile_step step
      have hstep : (desk.step step).countdowns.Watches (desk.step step).profile.registry := by
        rw [hafter]
        exact watches_step watches step
      have hrest := ih hstep
      rw [hafter] at hrest
      exact hrest

/-- Whatever state the desk is in, a message changes nothing but its footprint, and in a layout that
is in order the page that a heartbeat report writes is the page field of the message. A frame that
fails its checksum leaves the desk as it is, with the feed and the counters. After any steps of a desk
whose registry is built from entries, the frames that have a countdown are exactly those that the
registry gives a timeout, one countdown for each, with the timeout of the registry. -/
theorem decode_stays_in_footprint :
    (∀ (desk : Desk) (message : Message), Footprint message desk (desk.decode message)) ∧
      (∀ (layout : Layout) (message : Message) (page : UInt32), layout.check = .ok () →
        message.slot? layout.heartbeat = some (.heartbeatPage page) →
        page.toNat = (Bits.field message.data layout.heartbeat.typeBits
          layout.heartbeat.pageBits).toNat) ∧
      (∀ (desk : Desk) (field payload : List UInt8),
        Frame.checksum payload ≠ UInt16.ofNat (Bytes.value field) →
        desk.receive (Frame.judge field payload) = desk) ∧
      ∀ (entries : List Registry.Entry) (profile : Profile) (displays : DataKey → Bool)
        (desk : Desk), profile.registry = .ofEntries entries →
        start profile displays = .ok desk → ∀ steps : List Step,
        let countdowns := (desk.run steps).countdowns.table
        countdowns.keys.Nodup ∧
          (∀ frame, frame ∈ countdowns.keys ↔
            ∃ info, profile.registry.frame? frame = some info ∧ 0 < info.timeout) ∧
          ∀ frame countdown, countdowns.get? frame = some countdown →
            ∃ info, profile.registry.frame? frame = some info ∧
              countdown.timeout = info.timeout := by
  refine ⟨Footprint.decode, fun _ _ _ hcheck hslot => Message.page_of_slot? hcheck hslot,
    fun desk _ _ hfailed => desk.receive_of_not_matches hfailed, ?_⟩
  intro entries profile displays desk hregistry hstart steps countdowns
  have hdesk := eq_of_start hstart
  have hprofile : desk.profile = profile := by rw [hdesk]
  have hframes : profile.registry.frames.keys.Nodup := by
    rw [hregistry]
    exact Registry.nodup_frames_ofEntries entries
  have hseeded : desk.countdowns.Watches desk.profile.registry := by
    rw [hdesk]
    exact .seeded hframes
  have watches := watches_run hseeded steps
  rw [hprofile] at watches
  refine ⟨watches.keys, watches.mem_keys_iff, ?_⟩
  intro frame countdown hcountdown
  have htimeout := watches.timeouts frame
  rw [hcountdown, Option.map_some] at htimeout
  obtain ⟨info, hinfo, _, hsame⟩ := Registry.watch?_eq_some_iff.mp htimeout.symm
  exact ⟨info, hinfo, hsame.symm⟩

/-- Frame 1 of node 3 declares three data points, but the registry does not know the second. After a
tick its sensor data grades the first point and restarts the countdown; reading stops at the second
point, so the third keeps having no signal. Frame 0 of node 4 is not watched. -/
theorem decode_stays_in_footprint_unknown_point :
    let info : PointInfo :=
      { name := "temperature", bitLength := 8, min := 0, max := 255, minWarning := 0,
        maxWarning := 100, minCritical := 0, maxCritical := 200 }
    let entries : List Registry.Entry :=
      [.node 3 "motor", .frame ⟨3, 1⟩ 100, .point ⟨3, 1, 0⟩ info, .point ⟨3, 1, 2⟩ info,
        .frame ⟨4, 0⟩ 0]
    let profile : Profile := { registry := .ofEntries entries }
    let started : Desk :=
      { profile, displays := fun _ => true, countdowns := .seeded profile.registry.monitored }
    let before := started.run [.tick {}]
    let message : Message := ⟨0xB03, 0x0000F0F0⟩
    let after := before.decode message
    start profile (fun _ => true) = .ok started ∧
      before.countdowns.table.get? ⟨3, 1⟩ = some { timeout := 100, remaining := 95 } ∧
      after.countdowns.table.get? ⟨3, 1⟩ = some { timeout := 100, remaining := 100 } ∧
      after.board.signals.get? ⟨3, 1, 0⟩ = some { id := 1, severity := .critical } ∧
      after.board.signals.get? ⟨3, 1, 2⟩ = none ∧
      after.board.signals.get? ⟨3, 2, 0⟩ = before.board.signals.get? ⟨3, 2, 0⟩ ∧
      ⟨4, 0⟩ ∉ after.countdowns.table.keys := by
  intro info entries profile started before message after
  have hcheck : profile.layout.check = .ok () := Layout.check_default
  have hstart : start profile (fun _ => true) = .ok started := start_of_check hcheck _
  obtain ⟨hfootprint, _, _, hwatched⟩ := decode_stays_in_footprint
  refine ⟨hstart, by decide +kernel, ?_, by decide +kernel, by decide +kernel, ?_, ?_⟩
  · exact ((hfootprint before message).countdowns ⟨3, 1⟩).trans (by decide +kernel)
  · exact (hfootprint before message).signals _ (by decide +kernel)
  · have hkeys := (hwatched entries profile _ started rfl hstart [.tick {}, .decode message]).2.1
    intro hmem
    obtain ⟨frame, hframe, hpositive⟩ := (hkeys ⟨4, 0⟩).mp hmem
    have hzero : profile.registry.frame? ⟨4, 0⟩ = some { timeout := 0, points := 0 } := by
      decide +kernel
    rw [hzero] at hframe
    cases hframe
    exact absurd hpositive (by decide)

end Desk

end GroundStation
