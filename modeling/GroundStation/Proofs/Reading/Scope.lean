import GroundStation.Reading.Message

/-!
What a reading can ask for. Only a frame of sensor data touches countdowns, signals and the display,
and only those of the frame itself; only the answer to a heartbeat ping marks a node as present. All
other messages tell the operator something and nothing more.
-/

namespace GroundStation

namespace Action

/-- The action tells the operator something and leaves the roll call, the countdowns, the signals
and the display alone. -/
def isNotice : Action → Bool
  | .post _ _ _ | .fault _ | .upsert _ _ _ _ => true
  | .present _ | .restart _ _ | .grade _ _ _ | .sample _ _ => false

/-- The action is one that a frame of sensor data can ask for: a fault, or something about the frame
itself. -/
def isAbout (frame : FrameKey) : Action → Bool
  | .fault _ => true
  | .restart key _ => key = frame
  | .grade key _ _ | .sample key _ => key.frameKey = frame
  | .post _ _ _ | .upsert _ _ _ _ | .present _ => false

def marked? : Action → Option UInt8
  | .present node => some node
  | .post _ _ _ | .fault _ | .upsert _ _ _ _ | .restart _ _ | .grade _ _ _ | .sample _ _ => none

end Action

namespace Message

def isAnswer (message : Message) : Bool :=
  message.address.function? = some .heartbeatPong

def carries (message : Message) (frame : FrameKey) : Bool :=
  message.address.function? = some .transmitData &&
    (⟨message.address.node, message.address.extension⟩ : FrameKey) = frame

end Message

namespace Reading

theorem all_isNotice_warning (profile : Profile) (data : UInt64) :
    (warning profile data).all Action.isNotice = true := by
  unfold warning Warning.actions Warning.typeNotice
  split <;> rfl

theorem all_isNotice_code (registry : Registry) (table : CodeTable) (node : UInt8)
    (data : UInt64) : (code registry table node data).all Action.isNotice = true := by
  unfold code
  dsimp only
  split
  · rfl
  · split <;> rfl

theorem mem_faults {registry : Registry} {count : Nat} {pair : TimingPair} {action : Action}
    (hmem : action ∈ pair.faults registry count) : ∃ text, action = .fault text := by
  unfold TimingPair.faults at hmem
  split at hmem
  · split at hmem
    · exact ⟨_, List.mem_singleton.mp hmem⟩
    · cases hmem
  · split at hmem
    · cases hmem
    · exact ⟨_, List.mem_singleton.mp hmem⟩

theorem mem_statusPage {registry : Registry} {page : UInt32} {marks : List (UInt8 × Bool)}
    {action : Action} (hmem : action ∈ statusPage registry page marks) :
    (∃ text, action = .fault text) ∨
      ∃ slot severity text, action = .upsert slot .vitals severity text := by
  unfold statusPage at hmem
  rcases List.mem_append.mp hmem with hfault | hwrite
  · left
    obtain ⟨node, _, hnode⟩ := List.mem_filterMap.mp hfault
    split at hnode
    · cases hnode
    · exact ⟨_, (Option.some.inj hnode).symm⟩
  · exact .inr ⟨_, _, _, List.mem_singleton.mp hwrite⟩

/-- A heartbeat report asks for faults and for the writing of slots on the channel for vitals. -/
theorem mem_heartbeat {profile : Profile} {data : UInt64} {action : Action}
    (hmem : action ∈ heartbeat profile data) :
    (∃ text, action = .fault text) ∨
      ∃ slot severity text, action = .upsert slot .vitals severity text := by
  unfold heartbeat at hmem
  dsimp only at hmem
  split at hmem
  · unfold heartbeatTiming at hmem
    rcases List.mem_append.mp hmem with hfault | hwrite
    · obtain ⟨pair, _, hpair⟩ := List.mem_flatMap.mp hfault
      exact .inl (mem_faults hpair)
    · exact .inr ⟨_, _, _, List.mem_singleton.mp hwrite⟩
  · split at hmem
    · unfold heartbeatStatus at hmem
      dsimp only at hmem
      split at hmem
      · exact .inl ⟨_, List.mem_singleton.mp hmem⟩
      · split at hmem
        · exact .inl ⟨_, List.mem_singleton.mp hmem⟩
        · exact mem_statusPage hmem
    · exact .inl ⟨_, List.mem_singleton.mp hmem⟩

/-- A heartbeat report is told and does nothing else. -/
theorem all_isNotice_heartbeat (profile : Profile) (data : UInt64) :
    (heartbeat profile data).all Action.isNotice = true := by
  rw [List.all_eq_true]
  intro action hmem
  rcases mem_heartbeat hmem with ⟨text, rfl⟩ | ⟨slot, severity, text, rfl⟩ <;> rfl

theorem all_isAbout_points (registry : Registry) (frame : FrameKey) (data : UInt64)
    (indices : List UInt8) (cursor : UInt32) :
    (points registry frame data indices cursor).all (Action.isAbout frame) = true := by
  induction indices generalizing cursor with
  | nil => rfl
  | cons index rest ih =>
      unfold points
      dsimp only
      split
      · rfl
      · split
        · rfl
        · split
          · rfl
          · simp [Action.isAbout, DataKey.frameKey, ih]

/-- A frame of sensor data asks for nothing but what is about the frame. -/
theorem all_isAbout_sensor (registry : Registry) (frame : FrameKey) (data : UInt64) :
    (sensor registry frame data).all (Action.isAbout frame) = true := by
  unfold sensor
  split
  · rfl
  · rw [List.all_append, all_isAbout_points]
    split <;> simp [Action.isAbout]

theorem message_of_transmitData {profile : Profile} {sent : Message}
    (hdata : sent.address.function? = some .transmitData) :
    message profile sent =
      sensor profile.registry ⟨sent.address.node, sent.address.extension⟩ sent.data := by
  simp only [message, hdata]

theorem message_of_heartbeatPong {profile : Profile} {sent : Message}
    (hpong : sent.address.function? = some .heartbeatPong) :
    message profile sent = pong profile.registry sent.address.node := by
  simp only [message, hpong]

/-- A message that is neither an answer to the ping nor sensor data only tells something. -/
theorem all_isNotice_message {profile : Profile} {sent : Message}
    (hpong : sent.address.function? ≠ some .heartbeatPong)
    (hdata : sent.address.function? ≠ some .transmitData) :
    (message profile sent).all Action.isNotice = true := by
  unfold message
  dsimp only
  split
  case h_6 hfunction => exact absurd hfunction hpong
  case h_7 => exact all_isNotice_warning _ _
  case h_8 => exact all_isNotice_code _ _ _ _
  case h_9 => exact all_isNotice_code _ _ _ _
  case h_10 hfunction => exact absurd hfunction hdata
  case h_11 => exact all_isNotice_heartbeat _ _
  all_goals rfl

/-- What a message asks for is asked for by the sensor data that it carries, marks its sender as
present, or only tells something. -/
theorem mem_message {profile : Profile} {sent : Message} {action : Action}
    (hmem : action ∈ message profile sent) :
    (sent.address.function? = some .transmitData ∧
        action ∈ sensor profile.registry ⟨sent.address.node, sent.address.extension⟩ sent.data) ∨
      action = .present sent.address.node ∨ action.isNotice = true := by
  by_cases hdata : sent.address.function? = some .transmitData
  · rw [message_of_transmitData hdata] at hmem
    exact .inl ⟨hdata, hmem⟩
  · right
    by_cases hpong : sent.address.function? = some .heartbeatPong
    · rw [message_of_heartbeatPong hpong, pong] at hmem
      split at hmem
      · exact .inl (List.mem_singleton.mp hmem)
      · right
        rw [List.mem_singleton.mp hmem]
        rfl
    · exact .inr (List.all_eq_true.mp (all_isNotice_message hpong hdata) action hmem)

/-- A node is marked as present by its own answer only, and only if it has a name. -/
theorem filterMap_marked?_message (profile : Profile) (sent : Message) :
    (message profile sent).filterMap Action.marked? =
      if sent.isAnswer ∧ (profile.registry.nodeName? sent.address.node).isSome then
        [sent.address.node]
      else [] := by
  unfold Message.isAnswer
  by_cases hpong : sent.address.function? = some .heartbeatPong
  · rw [message_of_heartbeatPong hpong, pong]
    cases profile.registry.nodeName? sent.address.node with
    | none => simp [Action.marked?]
    | some name => simp [hpong, Action.marked?]
  · rw [if_neg (by simp [hpong]), List.filterMap_eq_nil_iff]
    intro action hmem
    by_cases hdata : sent.address.function? = some .transmitData
    · rw [message_of_transmitData hdata] at hmem
      have habout := List.all_eq_true.mp (all_isAbout_sensor _ _ _) action hmem
      cases action <;> first | rfl | cases habout
    · have hnotice := List.all_eq_true.mp (all_isNotice_message hpong hdata) action hmem
      cases action <;> first | rfl | cases hnotice

end Reading

end GroundStation
