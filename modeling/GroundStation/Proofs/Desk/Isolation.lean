import GroundStation.Proofs.Desk.Journal
import GroundStation.Proofs.Reading.Scope

/-!
Frames of sensor data do not see each other. What the actions of a run say about a frame are the
samples of its data points, the severities that their signals announce and the faults of its messages.
All of it follows from the messages of the frame alone: two desks that agree on the severities of a
frame's signals stay alike under the frame's messages, and one of them may take any other step alone.
-/

namespace GroundStation

def Board.severity? (board : Board) (key : DataKey) : Option Severity :=
  (board.signals.get? key).map Signal.severity

/-- The action touches neither the signals nor the samples of a frame. -/
def Action.spares (frame : FrameKey) : Action → Bool
  | .grade key _ _ | .sample key _ => key.frameKey ≠ frame
  | .post _ _ _ | .fault _ | .upsert _ _ _ _ | .present _ | .restart _ _ => true

theorem Action.spares_of_isNotice {action : Action} (hnotice : action.isNotice = true)
    (frame : FrameKey) : action.spares frame = true := by
  cases action <;> first | rfl | cases hnotice

theorem Action.spares_of_isAbout {action : Action} {frame other : FrameKey}
    (habout : action.isAbout other = true) (hother : other ≠ frame) :
    action.spares frame = true := by
  cases action <;> simp_all [Action.isAbout, Action.spares]

namespace Desk

def Step.carries (frame : FrameKey) : Step → Bool
  | .decode message => message.carries frame
  | .evaluate | .tick _ | .command _ => false

/-- What an action says about a frame. The handles of notices are left out. -/
inductive Sighting where
  | sample (key : DataKey) (value : Int)
  /-- The signal of a data point is posted. -/
  | opened (key : DataKey) (severity : Severity) (text : String)
  /-- The signal of a data point changes its severity. -/
  | changed (key : DataKey) (severity : Severity) (title : String)
  /-- A message of the frame is not as agreed. -/
  | fault (text : String)
deriving DecidableEq, Repr

/-- What an event shows of a frame, given the action that put it on the feed and the step that asked
for the action. -/
def sighting? (frame : FrameKey) (step : Step) (action : Action) : Feed.Event → Option Sighting
  | .sample key value => if key.frameKey = frame then some (.sample key value) else none
  | .post _ _ severity text =>
    match action with
    | .grade key _ _ => if key.frameKey = frame then some (.opened key severity text) else none
    | .fault _ | .sample _ _ => if step.carries frame then some (.fault text) else none
    | .post _ _ _ | .upsert _ _ _ _ | .present _ | .restart _ _ => none
  | .severity _ severity =>
    match action with
    | .grade key _ title =>
      if key.frameKey = frame then some (.changed key severity title) else none
    | .post _ _ _ | .fault _ | .upsert _ _ _ _ | .present _ | .restart _ _ | .sample _ _ => none
  | .text _ _ => none

def Entry.sightings (frame : FrameKey) (entry : Entry) : List Sighting :=
  entry.events.filterMap (sighting? frame entry.step entry.action)

/-- What a signal announces when its data point is graded. -/
def announced (key : DataKey) (severity : Severity) (title : String) :
    Option Severity → List Sighting
  | none => if severity = .ok then [] else [.opened key severity s!"status of: {title}"]
  | some shown => if shown = severity then [] else [.changed key severity title]

/-- The severity that the signal of a data point shows after an action, from the one before it. A
point that was never out of range gets no signal by being in range. -/
def regraded (key : DataKey) (known : Option Severity) : Action → Option Severity
  | .grade graded severity _ =>
    if graded ≠ key ∨ (known = none ∧ severity = .ok) then known else some severity
  | .post _ _ _ | .fault _ | .upsert _ _ _ _ | .present _ | .restart _ _ | .sample _ _ => known

/-- What an action shows of a frame, read off the samples that the display takes and the severities
that the signals show before it. -/
def shows (displays : DataKey → Bool) (board : Board) (frame : FrameKey) (step : Step) :
    Action → List Sighting
  | .grade key severity title =>
    if key.frameKey = frame then announced key severity title (board.severity? key) else []
  | .sample key value =>
    if displays key then
      if key.frameKey = frame then [.sample key value] else []
    else if step.carries frame then [.fault (refusalText key value)] else []
  | .fault text => if step.carries frame then [.fault text] else []
  | .post _ _ _ | .upsert _ _ _ _ | .present _ | .restart _ _ => []

namespace Effect

variable {displays : DataKey → Bool} {board after : Board} {next final : Nat} {action : Action}
  {events : List Feed.Event}

/-- What an action says about a frame can be told before it is carried out. -/
theorem sightings_eq (effect : Effect displays board next action events after final)
    (frame : FrameKey) (step : Step) :
    ({ step, action, events } : Entry).sightings frame = shows displays board frame step action := by
  unfold Entry.sightings
  cases effect with
  | posted | marked | restarted | opened | rewritten => rfl
  | faulted text => cases hcarries : step.carries frame <;> simp [sighting?, shows, hcarries]
  | @shown key value hshown =>
      by_cases hkey : key.frameKey = frame <;> simp [sighting?, shows, hshown, hkey]
  | refused value hrefused =>
      cases hcarries : step.carries frame <;> simp [sighting?, shows, hrefused, hcarries]
  | normal title hnone => simp [shows, Board.severity?, hnone, announced]
  | steady title hsome => simp [shows, Board.severity?, hsome, announced]
  | @raised key severity title hnone hsevere =>
      by_cases hkey : key.frameKey = frame <;>
        simp [sighting?, shows, Board.severity?, hnone, announced, hsevere, hkey]
  | @changed key signal severity title hsome hother =>
      by_cases hkey : key.frameKey = frame <;>
        simp [sighting?, shows, Board.severity?, hsome, announced, hother, hkey]

/-- What a signal shows after an action depends on what it showed before and on the action. -/
theorem severity?_eq (effect : Effect displays board next action events after final)
    (key : DataKey) : after.severity? key = regraded key (board.severity? key) action := by
  cases effect with
  | posted | faulted | marked | restarted | shown | refused | opened | rewritten => rfl
  | @normal graded title hnone =>
      by_cases hkey : graded = key
      · subst hkey
        simp [Board.severity?, hnone, regraded]
      · simp [regraded, hkey]
  | @steady graded signal title hsome =>
      by_cases hkey : graded = key
      · subst hkey
        simp [Board.severity?, hsome, regraded]
      · simp [regraded, hkey]
  | @raised graded severity title hnone hsevere =>
      by_cases hkey : graded = key
      · subst hkey
        simp [Board.severity?, Table.get?_insert, hnone, regraded, hsevere]
      · simp [Board.severity?, Table.get?_insert, regraded, hkey]
  | @changed graded signal severity title hsome hother =>
      by_cases hkey : graded = key
      · subst hkey
        simp [Board.severity?, Table.get?_insert, hsome, regraded]
      · simp [Board.severity?, Table.get?_insert, regraded, hkey]

end Effect

/-- Two desks that cannot be told apart by what they show of a frame from now on. -/
structure Alike (frame : FrameKey) (desk other : Desk) : Prop where
  profile : desk.profile = other.profile
  displays : desk.displays = other.displays
  live : desk.feed.live = true
  live_other : other.feed.live = true
  severity : ∀ key : DataKey, key.frameKey = frame →
    desk.board.severity? key = other.board.severity? key

theorem sightings_emits {desk : Desk} (hlive : desk.feed.live = true) (frame : FrameKey)
    (step : Step) (action : Action) :
    ({ step, action, events := desk.emits action } : Entry).sightings frame =
      shows desk.displays desk.board frame step action :=
  (effect_perform hlive action).sightings_eq frame step

/-- An action that spares a frame says nothing about it, unless the step is of the frame. -/
theorem shows_eq_nil {frame : FrameKey} {step : Step} {action : Action}
    (hspares : action.spares frame = true) (hstep : step.carries frame = false)
    (displays : DataKey → Bool) (board : Board) :
    shows displays board frame step action = [] := by
  cases action <;> simp_all [Action.spares, shows]

/-- Every action that a step asks for spares a frame, unless the step brings data of the frame.
Sensor data of another frame asks for grades and samples, but of that frame only. -/
theorem spares_of_mem_asks {frame : FrameKey} {step : Step} (hstep : step.carries frame = false)
    {desk : Desk} {action : Action} (hmem : action ∈ desk.asks step) :
    action.spares frame = true := by
  cases step with
  | decode message =>
      by_cases hdata : message.address.function? = some .transmitData
      · have hother : (⟨message.address.node, message.address.extension⟩ : FrameKey) ≠ frame := by
          simpa [Step.carries, Message.carries, hdata] using hstep
        rw [asks, Reading.message_of_transmitData hdata] at hmem
        have habout := List.all_eq_true.mp (Reading.all_isAbout_sensor _ _ _) action hmem
        exact Action.spares_of_isAbout habout hother
      · by_cases hpong : message.address.function? = some .heartbeatPong
        · rw [asks, Reading.message_of_heartbeatPong hpong, Reading.pong] at hmem
          split at hmem <;> rw [List.mem_singleton.mp hmem] <;> rfl
        · have hnotice :=
            List.all_eq_true.mp (Reading.all_isNotice_message hpong hdata) action hmem
          exact Action.spares_of_isNotice hnotice frame
  | evaluate =>
      rw [List.mem_singleton.mp hmem]
      rfl
  | tick policy =>
      obtain ⟨row, _, hrow⟩ := List.mem_map.mp hmem
      rw [← hrow]
      rfl
  | command text =>
      simp only [asks] at hmem
      split at hmem
      · cases hmem
      · rw [List.mem_singleton.mp hmem]
        rfl

theorem asks_of_carries {frame : FrameKey} {step : Step} (hstep : step.carries frame = true)
    {desk other : Desk} (hprofile : desk.profile = other.profile) :
    desk.asks step = other.asks step := by
  cases step with
  | decode message => rw [asks, asks, hprofile]
  | evaluate | tick | command => cases hstep

namespace Alike

variable {frame : FrameKey} {desk other : Desk}

theorem shows_eq (alike : Alike frame desk other) (step : Step) (action : Action) :
    shows desk.displays desk.board frame step action =
      shows other.displays other.board frame step action := by
  cases action with
  | grade key severity title =>
      by_cases hkey : key.frameKey = frame
      · simp only [shows, alike.severity key hkey]
      · simp only [shows, if_neg hkey]
  | sample key value => simp only [shows, alike.displays]
  | _ => rfl

/-- Alike desks stay alike when both carry out an action. -/
theorem perform (alike : Alike frame desk other) (action : Action) :
    Alike frame (desk.perform action) (other.perform action) where
  profile := by rw [profile_perform, profile_perform, alike.profile]
  displays := by rw [displays_perform, displays_perform, alike.displays]
  live := live_perform alike.live action
  live_other := live_perform alike.live_other action
  severity := by
    intro key hkey
    rw [(effect_perform alike.live action).severity?_eq,
      (effect_perform alike.live_other action).severity?_eq, alike.severity key hkey]

/-- One of the desks may carry out an action alone, if the action spares the frame. -/
theorem perform_left (alike : Alike frame desk other) {action : Action}
    (hspares : action.spares frame = true) : Alike frame (desk.perform action) other where
  profile := (desk.profile_perform action).trans alike.profile
  displays := (desk.displays_perform action).trans alike.displays
  live := live_perform alike.live action
  live_other := alike.live_other
  severity := by
    intro key hkey
    rw [(effect_perform alike.live action).severity?_eq, ← alike.severity key hkey]
    cases action with
    | grade graded severity title =>
        have hother : graded ≠ key := by
          rintro rfl
          simp [Action.spares, hkey] at hspares
        exact if_pos (.inl hother)
    | _ => rfl

theorem trace (alike : Alike frame desk other) (step : Step) (actions : List Action) :
    (desk.trace step actions).flatMap (Entry.sightings frame) =
        (other.trace step actions).flatMap (Entry.sightings frame) ∧
      Alike frame (actions.foldl Desk.perform desk) (actions.foldl Desk.perform other) := by
  induction actions generalizing desk other with
  | nil => exact ⟨rfl, alike⟩
  | cons action rest ih =>
      obtain ⟨hrest, hafter⟩ := ih (alike.perform action)
      refine ⟨?_, hafter⟩
      rw [Desk.trace, Desk.trace, List.flatMap_cons, List.flatMap_cons, hrest,
        sightings_emits alike.live, sightings_emits alike.live_other, alike.shows_eq]

theorem trace_left (alike : Alike frame desk other) {step : Step}
    (hstep : step.carries frame = false) {actions : List Action}
    (hspares : ∀ action ∈ actions, action.spares frame = true) :
    (desk.trace step actions).flatMap (Entry.sightings frame) = [] ∧
      Alike frame (actions.foldl Desk.perform desk) other := by
  induction actions generalizing desk with
  | nil => exact ⟨rfl, alike⟩
  | cons action rest ih =>
      obtain ⟨hfirst, hlater⟩ := List.forall_mem_cons.mp hspares
      obtain ⟨hrest, hafter⟩ := ih (alike.perform_left hfirst) hlater
      refine ⟨?_, hafter⟩
      rw [Desk.trace, List.flatMap_cons, hrest, sightings_emits alike.live,
        shows_eq_nil hfirst hstep, List.nil_append]

/-- Desks are alike by what is on the screen and by the vehicle they are for. -/
theorem of_screen {desk' other' : Desk} (alike : Alike frame desk other)
    (hdesk : desk'.screen = desk.screen) (hother : other'.screen = other.screen)
    (hprofile : desk'.profile = other'.profile) : Alike frame desk' other' where
  profile := hprofile
  displays := by
    change desk'.screen.displays = other'.screen.displays
    rw [hdesk, hother]
    exact alike.displays
  live := by
    change desk'.screen.feed.live = true
    rw [hdesk]
    exact alike.live
  live_other := by
    change other'.screen.feed.live = true
    rw [hother]
    exact alike.live_other
  severity := by
    change ∀ key : DataKey, key.frameKey = frame →
      desk'.screen.board.severity? key = other'.screen.board.severity? key
    rw [hdesk, hother]
    exact alike.severity

/-- A step of the frame is the same to alike desks. -/
theorem step (alike : Alike frame desk other) {step : Step} (hstep : step.carries frame = true) :
    (desk.trace step (desk.asks step)).flatMap (Entry.sightings frame) =
        (other.trace step (other.asks step)).flatMap (Entry.sightings frame) ∧
      Alike frame (desk.step step) (other.step step) := by
  have hasks := asks_of_carries hstep alike.profile
  obtain ⟨hsightings, hafter⟩ := alike.trace step (other.asks step)
  rw [← hasks] at hsightings hafter
  refine ⟨hasks ▸ hsightings, ?_⟩
  have hother := other.screen_step step
  rw [← hasks] at hother
  apply hafter.of_screen (desk.screen_step step) hother
  rw [profile_step, profile_step, alike.profile]

/-- A step that is not of the frame may be taken by one desk alone. -/
theorem step_left (alike : Alike frame desk other) {step : Step}
    (hstep : step.carries frame = false) :
    (desk.trace step (desk.asks step)).flatMap (Entry.sightings frame) = [] ∧
      Alike frame (desk.step step) other := by
  obtain ⟨hsightings, hafter⟩ :=
    alike.trace_left hstep fun action hmem => spares_of_mem_asks hstep hmem
  refine ⟨hsightings, hafter.of_screen (desk.screen_step step) rfl ?_⟩
  rw [profile_step, alike.profile]

/-- The frame's own steps are taken by both desks, all others by the first one alone, and what is said
about the frame is the same. -/
theorem journal (alike : Alike frame desk other) (steps : List Step) :
    (desk.journal steps).flatMap (Entry.sightings frame) =
      (other.journal (steps.filter (Step.carries frame))).flatMap (Entry.sightings frame) := by
  induction steps generalizing desk other with
  | nil => rfl
  | cons step rest ih =>
      rw [Desk.journal, List.flatMap_append]
      cases hstep : step.carries frame with
      | true =>
          obtain ⟨hsightings, hafter⟩ := alike.step hstep
          rw [List.filter_cons_of_pos hstep, Desk.journal, List.flatMap_append, hsightings,
            ih hafter]
      | false =>
          obtain ⟨hsightings, hafter⟩ := alike.step_left hstep
          rw [List.filter_cons_of_neg (by simp [hstep]), hsightings, ih hafter, List.nil_append]

end Alike

end Desk

end GroundStation
