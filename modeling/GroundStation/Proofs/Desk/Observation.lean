import GroundStation.Proofs.Desk.Signals

/-!
What the operator sees of a frame, told from the feed and not from what the desk meant to do. An
event that names a notice is about what the notice stands for on the board at the end of the run. If
that is the signal of a data point, then the operator sees the notice as it reads from then on; if it
is a slot, then the event is not about a frame; and a notice that the board does not keep is a fault of
the message that posted it.

Handles stay with their owners, so the events can be read as the journal goes on, and they show of a
frame what the journal says about it.
-/

namespace GroundStation

namespace Board

def owners (board : Board) : List Owner :=
  board.slots.keys.map .slot ++ board.signals.keys.map .signal

def owner? (board : Board) (id : Nat) : Option Owner :=
  board.owners.find? fun owner => board.handle? owner = some id

theorem mem_owners {board : Board} {owner : Owner} {id : Nat}
    (hid : board.handle? owner = some id) : owner ∈ board.owners := by
  cases owner with
  | slot slot =>
      have hslot : slot ∈ board.slots.keys :=
        (board.slots.mem_keys_iff slot).mpr (Option.isSome_of_eq_some hid)
      exact List.mem_append_left _ (List.mem_map_of_mem hslot)
  | signal key =>
      obtain ⟨signal, hsignal, _⟩ := Option.map_eq_some_iff.mp hid
      have hkey : key ∈ board.signals.keys :=
        (board.signals.mem_keys_iff key).mpr (Option.isSome_of_eq_some hsignal)
      exact List.mem_append_right _ (List.mem_map_of_mem hkey)

theorem handle?_of_owner? {board : Board} {id : Nat} {owner : Owner}
    (howner : board.owner? id = some owner) : board.handle? owner = some id := by
  have hfound := List.find?_some howner
  simpa using hfound

namespace Handles

variable {board : Board} {next : Nat}

/-- As handles are distinct, the owner of a notice is the one that has its handle. -/
theorem owner?_eq_some_iff (handles : board.Handles next) {id : Nat} {owner : Owner} :
    board.owner? id = some owner ↔ board.handle? owner = some id := by
  constructor
  · exact handle?_of_owner?
  · intro hid
    have hsome : (board.owner? id).isSome = true :=
      List.find?_isSome.mpr ⟨owner, mem_owners hid, decide_eq_true hid⟩
    obtain ⟨other, hother⟩ := Option.isSome_iff_exists.mp hsome
    rw [handles.distinct hid (handle?_of_owner? hother), hother]

/-- The next handle has no owner yet. -/
theorem owner?_next (handles : board.Handles next) : board.owner? next = none := by
  rw [Option.eq_none_iff_forall_ne_some]
  intro owner howner
  have hgiven := handles.given (handles.owner?_eq_some_iff.mp howner)
  omega

theorem owner?_slot (handles : board.Handles next) {slot : Slot} {id : Nat}
    (hslot : board.slot? slot = some id) : board.owner? id = some (.slot slot) :=
  handles.owner?_eq_some_iff.mpr hslot

theorem owner?_signal (handles : board.Handles next) {key : DataKey} {signal : Signal}
    (hsignal : board.signals.get? key = some signal) :
    board.owner? signal.id = some (.signal key) := by
  rw [handles.owner?_eq_some_iff, handle?, hsignal, Option.map_some]

end Handles

end Board

namespace Desk

/-- What the operator sees of a frame. The handles of notices are left out. -/
inductive Observation where
  | sample (key : DataKey) (value : Int)
  /-- The notice of a data point's signal is posted or changed, and this is how it reads now. -/
  | signal (key : DataKey) (notice : Feed.Notice)
  /-- A message of the frame is not as agreed. -/
  | fault (notice : Feed.Notice)
deriving DecidableEq, Repr

/-- What a notice shows of a frame when a step posts or changes it. -/
def observeNotice? (board : Board) (frame : FrameKey) (step : Step)
    (notices : Table Nat Feed.Notice) (id : Nat) : Option Observation :=
  match board.owner? id with
  | some (.signal key) =>
    if key.frameKey = frame then (notices.get? id).map (.signal key) else none
  | some (.slot _) => none
  | none => if step.carries frame then (notices.get? id).map .fault else none

/-- What an event shows of a frame, given the notices as they read after it. -/
def observeEvent? (board : Board) (frame : FrameKey) (step : Step) (notices : Table Nat Feed.Notice) :
    Feed.Event → Option Observation
  | .sample key value => if key.frameKey = frame then some (.sample key value) else none
  | .post id _ _ _ | .text id _ | .severity id _ => observeNotice? board frame step notices id

/-- What events show of a frame one after the other, each with the step that put it on the feed. -/
def observe (board : Board) (frame : FrameKey) :
    Table Nat Feed.Notice → List (Step × Feed.Event) → List Observation
  | _, [] => []
  | notices, (step, event) :: rest =>
    let shown := Feed.reflect notices event
    (observeEvent? board frame step shown event).toList ++ observe board frame shown rest

def Entry.stamped (entry : Entry) : List (Step × Feed.Event) :=
  entry.events.map fun event => (entry.step, event)

/-- What the operator sees of a frame in a run. Notices are told apart by what they stand for on the
board that the run leaves. -/
def observations (desk : Desk) (frame : FrameKey) (steps : List Step) : List Observation :=
  observe (desk.run steps).board frame {} ((desk.journal steps).flatMap Entry.stamped)

/-- Later events are seen with the notices as the earlier ones left them. -/
theorem observe_append (board : Board) (frame : FrameKey) (notices : Table Nat Feed.Notice)
    (earlier later : List (Step × Feed.Event)) :
    observe board frame notices (earlier ++ later) =
      observe board frame notices earlier ++
        observe board frame ((earlier.map Prod.snd).foldl Feed.reflect notices) later := by
  induction earlier generalizing notices with
  | nil => rfl
  | cons first rest ih =>
      rw [List.cons_append, observe, observe, ih, List.append_assoc]
      rfl

/-- Boards that agree on who owns the notices show the same. -/
theorem observe_congr {board other : Board} {events : List (Step × Feed.Event)}
    (howner : ∀ event ∈ events, ∀ id, event.2.isOf id = true → board.owner? id = other.owner? id)
    (frame : FrameKey) (notices : Table Nat Feed.Notice) :
    observe board frame notices events = observe other frame notices events := by
  induction events generalizing notices with
  | nil => rfl
  | cons first rest ih =>
      obtain ⟨step, event⟩ := first
      obtain ⟨hfirst, hrest⟩ := List.forall_mem_cons.mp howner
      have hevent (shown : Table Nat Feed.Notice) :
          observeEvent? board frame step shown event = observeEvent? other frame step shown event := by
        cases event with
        | sample key value => rfl
        | post id | text id | severity id =>
            have hid := hfirst id (decide_eq_true rfl)
            simp only [observeEvent?, observeNotice?, hid]
      rw [observe, observe, hevent, ih hrest]

theorem map_snd_stamped (entries : List Entry) :
    (entries.flatMap Entry.stamped).map Prod.snd = entries.flatMap Entry.events := by
  rw [List.map_flatMap]
  apply List.flatMap_congr
  intro entry _
  simp [Entry.stamped]

/-- How something that an action shows of a frame reads on the screen. -/
def Sighting.observed : Sighting → Observation
  | .sample key value => .sample key value
  | .opened key severity text => .signal key { channel := .telemetry, severity, text }
  | .changed key severity title =>
    .signal key { channel := .telemetry, severity, text := s!"status of: {title}" }
  | .fault text => .fault { channel := .telemetry, severity := .warning, text }

/-- The notice of every signal reads as the signal is. -/
def Legible (title : DataKey → String) (board : Board) (notices : Table Nat Feed.Notice) : Prop :=
  ∀ key signal, board.signals.get? key = some signal →
    notices.get? signal.id =
      some { channel := .telemetry, severity := signal.severity, text := s!"status of: {title key}" }

/-- The entry grades data points by their titles, and only faults of a frame's own messages are
notices without an owner. -/
def Entry.Proper (title : DataKey → String) (frame : FrameKey) (entry : Entry) : Prop :=
  (∀ key severity text, entry.action = .grade key severity text → text = title key) ∧
    (entry.step.carries frame = true → entry.action.isAbout frame = true)

namespace Effect

variable {displays : DataKey → Bool} {board after : Board} {next final : Nat} {action : Action}
  {events : List Feed.Event}

/-- A handle that was given out before an action keeps its owner. -/
theorem owner?_eq (effect : Effect displays board next action events after final)
    (hnext : 1 ≤ next) (handles : board.Handles next) {id : Nat} (hid : id < next) :
    after.owner? id = board.owner? id := by
  apply Option.ext
  intro owner
  rw [(effect.handles hnext handles).owner?_eq_some_iff, handles.owner?_eq_some_iff]
  rcases effect.handle?_eq with hsame | ⟨_, opened, hnone, hafter⟩
  · rw [hsame]
  · rw [hafter]
    split
    · rename_i hopened
      rw [← hopened, hnone]
      simp only [Option.some.injEq, reduceCtorEq, iff_false]
      omega
    · rfl

theorem get?_signals (effect : Effect displays board next action events after final)
    {key : DataKey} (hother : action.graded? ≠ some key) :
    after.signals.get? key = board.signals.get? key := by
  cases effect with
  | raised title hnone hsevere =>
      exact (Table.get?_insert _ _ _ _).trans (if_neg fun heq => hother (congrArg some heq))
  | changed title hsome hnews =>
      exact (Table.get?_insert _ _ _ _).trans (if_neg fun heq => hother (congrArg some heq))
  | _ => rfl

/-- Every action keeps the notices of the signals legible. -/
theorem legible (effect : Effect displays board next action events after final)
    (handles : board.Handles next) {title : DataKey → String} {notices : Table Nat Feed.Notice}
    (htitle : ∀ key severity text, action = .grade key severity text → text = title key)
    (hlegible : Legible title board notices) :
    Legible title after (events.foldl Feed.reflect notices) := by
  intro key signal hsignal
  by_cases hgraded : action.graded? = some key
  · cases effect with
    | normal text hnone =>
        cases hgraded
        rw [hnone] at hsignal
        cases hsignal
    | steady text hsome => exact hlegible key signal hsignal
    | raised text hnone hsevere =>
        cases hgraded
        rw [Table.get?_insert, if_pos rfl] at hsignal
        cases hsignal
        rw [← htitle _ _ _ rfl]
        exact (Table.get?_insert _ _ _ _).trans (if_pos rfl)
    | @changed _ shown severity text hsome hother =>
        cases hgraded
        rw [Table.get?_insert, if_pos rfl] at hsignal
        cases hsignal
        refine (Feed.get?_revise _ _ _ _).trans ?_
        rw [if_pos rfl, hlegible key shown hsome, Option.map_some]
    | posted | faulted | marked | restarted | shown | refused | opened | rewritten => cases hgraded
  · have hbefore : board.signals.get? key = some signal := by
      rw [← hsignal]
      exact (effect.get?_signals hgraded).symm
    have hothers := effect.filter_isOf_eq_nil handles hbefore hgraded
    rw [List.filter_eq_nil_iff] at hothers
    rw [Feed.get?_foldl_reflect_of_ne notices, hlegible key signal hbefore]
    intro event hmem
    have hother := hothers event hmem
    rw [Feed.Event.isOf_iff, not_or] at hother
    exact hother

/-- What the events of an action show of a frame is what the action says about it. -/
theorem observe_eq (effect : Effect displays board next action events after final)
    (hnext : 1 ≤ next) (handles : board.Handles next) {title : DataKey → String}
    {frame : FrameKey} {step : Step} {notices : Table Nat Feed.Notice}
    (proper : ({ step, action, events } : Entry).Proper title frame)
    (hlegible : Legible title board notices) :
    observe after frame notices ({ step, action, events } : Entry).stamped =
      (({ step, action, events } : Entry).sightings frame).map Sighting.observed := by
  obtain ⟨htitle, habout⟩ := proper
  have hafter := effect.handles hnext handles
  have hread (notice : Feed.Notice) : (notices.insert next notice).get? next = some notice :=
    (Table.get?_insert _ _ _ _).trans (if_pos rfl)
  unfold Entry.sightings Entry.stamped
  cases effect with
  | marked | restarted | normal | steady => rfl
  | posted channel severity text =>
      have hforeign : step.carries frame = false :=
        Bool.eq_false_iff.mpr fun hcarries => nomatch habout hcarries
      simp [observe, observeEvent?, observeNotice?, handles.owner?_next, hforeign, sighting?]
  | faulted text =>
      cases hcarries : step.carries frame <;>
        simp [observe, observeEvent?, observeNotice?, handles.owner?_next, hcarries, sighting?,
          Feed.reflect, hread, Sighting.observed]
  | @shown key value hshown =>
      by_cases hkey : key.frameKey = frame <;>
        simp [observe, observeEvent?, hkey, sighting?, Sighting.observed]
  | refused value hrefused =>
      cases hcarries : step.carries frame <;>
        simp [observe, observeEvent?, observeNotice?, handles.owner?_next, hcarries, sighting?,
          Feed.reflect, hread, Sighting.observed]
  | @opened slot channel severity text hnone =>
      have howner := hafter.owner?_slot ((Table.get?_insert _ _ _ _).trans (if_pos rfl))
      simp [observe, observeEvent?, observeNotice?, howner, sighting?]
  | rewritten channel severity text hsome =>
      have howner := handles.owner?_slot hsome
      simp [observe, observeEvent?, observeNotice?, howner, sighting?]
  | @raised key severity text hnone hsevere =>
      have howner := hafter.owner?_signal ((Table.get?_insert _ _ _ _).trans (if_pos rfl))
      by_cases hkey : key.frameKey = frame <;>
        simp [observe, observeEvent?, observeNotice?, howner, hkey, sighting?, Feed.reflect, hread,
          Sighting.observed]
  | @changed key signal severity text hsome hother =>
      have howner := hafter.owner?_signal ((Table.get?_insert _ _ _ _).trans (if_pos rfl))
      have hshown := hlegible key signal hsome
      rw [← htitle key severity text rfl] at hshown
      by_cases hkey : key.frameKey = frame <;>
        simp [observe, observeEvent?, observeNotice?, howner, hkey, sighting?, Feed.reflect,
          Feed.get?_revise, hshown, Sighting.observed]

end Effect

/-- The messages of a frame ask for nothing that is not about the frame. -/
theorem isAbout_of_mem_journal {frame : FrameKey} {desk : Desk} {steps : List Step} {entry : Entry}
    (hmem : entry ∈ desk.journal steps) (hcarries : entry.step.carries frame = true) :
    entry.action.isAbout frame = true := by
  induction steps generalizing desk with
  | nil => cases hmem
  | cons step rest ih =>
      rcases List.mem_append.mp hmem with htrace | hrest
      · obtain ⟨hstep, haction⟩ := mem_trace htrace
        rw [hstep] at hcarries
        exact isAbout_of_mem_asks hcarries haction
      · exact ih hrest

theorem proper_of_mem_journal {frame : FrameKey} {desk : Desk} {steps : List Step} {entry : Entry}
    (hmem : entry ∈ desk.journal steps) : entry.Proper desk.profile.registry.title frame :=
  ⟨fun _ _ _ hgrade => title_of_mem_journal hmem hgrade, isAbout_of_mem_journal hmem⟩

/-- The journal so far, the board and the screen agree on what is seen of a frame. -/
structure Observed (title : DataKey → String) (frame : FrameKey) (entries : List Entry)
    (board : Board) : Prop where
  legible : Legible title board (Feed.replay (entries.flatMap Entry.events))
  seen : observe board frame {} (entries.flatMap Entry.stamped) =
    (entries.flatMap (Entry.sightings frame)).map Sighting.observed

/-- An action shows of the frame what it says about it, and what was seen before stays as it was. -/
theorem Kept.observed_perform {entries : List Entry} {desk : Desk}
    (kept : Kept entries desk.screen) {title : DataKey → String} {frame : FrameKey}
    (observed : Observed title frame entries desk.board) {step : Step} {action : Action}
    (proper : ({ step, action, events := desk.emits action } : Entry).Proper title frame) :
    Observed title frame (entries ++ [{ step, action, events := desk.emits action }])
      (desk.perform action).board where
  legible := by
    rw [flatMap_events_append, Feed.replay_append]
    exact (effect_perform kept.live action).legible kept.handles proper.1 observed.legible
  seen := by
    have effect := effect_perform kept.live action
    have hearlier : observe (desk.perform action).board frame {} (entries.flatMap Entry.stamped) =
        observe desk.board frame {} (entries.flatMap Entry.stamped) := by
      apply observe_congr
      intro event hmem id hid
      have hevent : event.2 ∈ entries.flatMap Entry.events := by
        rw [← map_snd_stamped]
        exact List.mem_map_of_mem hmem
      exact effect.owner?_eq kept.next kept.handles (kept.handle_lt hevent hid)
    rw [List.flatMap_append, List.flatMap_append, List.map_append, observe_append, hearlier,
      observed.seen, map_snd_stamped, List.flatMap_singleton, List.flatMap_singleton]
    congr 1
    exact effect.observe_eq kept.next kept.handles proper observed.legible

/-- The events of a run show of a frame what the journal says about it. -/
theorem observations_eq {profile : Profile} {displays : DataKey → Bool} {desk : Desk}
    (hstart : start profile displays = .ok desk) (frame : FrameKey) (steps : List Step) :
    desk.observations frame steps =
      ((desk.journal steps).flatMap (Entry.sightings frame)).map Sighting.observed := by
  let title := desk.profile.registry.title
  suffices hrun : Kept (desk.journal steps) (desk.run steps).screen ∧
      ((∀ entry ∈ desk.journal steps, entry.Proper title frame) →
        Observed title frame (desk.journal steps) (desk.run steps).screen.board) from
    (hrun.2 fun _ hmem => proper_of_mem_journal hmem).seen
  apply journal_induction (motive := fun entries screen => Kept entries screen ∧
    ((∀ entry ∈ entries, entry.Proper title frame) → Observed title frame entries screen.board))
  · rintro before entries step action ⟨kept, hobserved⟩
    refine ⟨kept.perform step action, ?_⟩
    intro hproper
    obtain ⟨hearlier, hlast⟩ := List.forall_mem_append.mp hproper
    exact kept.observed_perform (hobserved hearlier) (hlast _ List.mem_cons_self)
  · rw [eq_of_start hstart]
    refine ⟨kept_start displays, fun _ => ⟨?_, rfl⟩⟩
    intro key signal hsignal
    cases hsignal

/-- What the operator sees of a frame is the same if everything but the frame's messages is left out
of the run: the samples of the frame's data points, the notices of their signals as they are posted
and as they read after every change, and the faults of the frame's messages, in the same order. The
events that show it are those on the feed in either run. -/
theorem observations_of_own_messages {profile : Profile} {displays : DataKey → Bool} {desk : Desk}
    (hstart : start profile displays = .ok desk) (frame : FrameKey) (steps : List Step) :
    let own := steps.filter (Step.carries frame)
    desk.observations frame steps = desk.observations frame own ∧
      (desk.run steps).feed.events.toList =
        ((desk.journal steps).flatMap Entry.stamped).map Prod.snd ∧
      (desk.run own).feed.events.toList =
        ((desk.journal own).flatMap Entry.stamped).map Prod.snd := by
  intro own
  rw [map_snd_stamped, map_snd_stamped, observations_eq hstart, observations_eq hstart]
  have hdesk := eq_of_start hstart
  subst hdesk
  refine ⟨congrArg _ ?_, toList_run rfl steps, toList_run rfl own⟩
  apply Alike.journal
  exact ⟨rfl, rfl, rfl, rfl, fun _ _ => rfl⟩

/-- The signal of node 3 has handle 3 in the first run and handle 1 in the second. In both it is
opened as critical and goes back to normal, and the display refuses the second data point. -/
theorem observations_of_own_messages_shifted_handle :
    let point : PointInfo :=
      { name := "rpm", bitLength := 8, min := 0, max := 255, minWarning := 0, maxWarning := 90,
        minCritical := 0, maxCritical := 100 }
    let profile : Profile :=
      { registry := .ofEntries
          [.node 3 "motor", .point ⟨3, 0, 0⟩ point, .point ⟨3, 0, 1⟩ point,
            .point ⟨4, 0, 0⟩ point] }
    let displays : DataKey → Bool := fun key => key.index = 0
    let desk : Desk :=
      { profile, displays, countdowns := .seeded profile.registry.monitored }
    let steps : List Step :=
      [.decode ⟨0x304, 200⟩, .evaluate, .decode ⟨0x303, 200⟩, .tick {}, .evaluate,
        .decode ⟨0x304, 50⟩, .decode ⟨0x303, 50⟩]
    let own : List Step := [.decode ⟨0x303, 200⟩, .decode ⟨0x303, 50⟩]
    start profile displays = .ok desk ∧
      desk.observations ⟨3, 0⟩ steps = desk.observations ⟨3, 0⟩ own ∧
      (desk.run steps).board.owner? 1 = some (.signal ⟨4, 0, 0⟩) ∧
      (desk.run steps).board.owner? 3 = some (.signal ⟨3, 0, 0⟩) ∧
      (desk.run own).board.owner? 1 = some (.signal ⟨3, 0, 0⟩) ∧
      desk.observations ⟨3, 0⟩ own =
        [.signal ⟨3, 0, 0⟩ ⟨.telemetry, .critical, "status of: motor.rpm"⟩, .sample ⟨3, 0, 0⟩ 200,
          .fault ⟨.telemetry, .warning,
            "Failed to add data point to display. node=3 frame=0 data=1 value: 0"⟩,
          .signal ⟨3, 0, 0⟩ ⟨.telemetry, .ok, "status of: motor.rpm"⟩, .sample ⟨3, 0, 0⟩ 50,
          .fault ⟨.telemetry, .warning,
            "Failed to add data point to display. node=3 frame=0 data=1 value: 0"⟩] := by
  intro point profile displays desk steps own
  have hcheck : profile.layout.check = .ok () := Layout.check_default
  have hstart : start profile displays = .ok desk := start_of_check hcheck _
  exact ⟨hstart, (observations_of_own_messages hstart ⟨3, 0⟩ steps).1, by decide +kernel,
    by decide +kernel, by decide +kernel, by decide +kernel⟩

end Desk

end GroundStation
