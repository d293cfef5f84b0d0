import GroundStation.Desk

/-!
Runs of a desk and what they put on the feed. Messages, closings of the roll call, ticks and command
texts come in any order. Whatever comes, the desk answers it with a list of actions, and the journal
of a run has one entry for each action that was carried out: the step that asked for it and the events
that it put on the feed. Read one behind the other, the events of the journal are the waiting events
of the feed.

`Effect` says once what an action can do to the board, to the next handle and to the events; what a
run keeps is derived from it by `journal_induction`.
-/

namespace GroundStation

namespace Desk

/-- One thing that happens at a desk. -/
inductive Step where
  | decode (message : Message)
  | evaluate
  | tick (policy : TickPolicy)
  | command (text : String)
deriving DecidableEq, Repr

def step (desk : Desk) : Step → Desk
  | .decode message => desk.decode message
  | .evaluate => desk.evaluate.2
  | .tick policy => (desk.tick policy).2
  | .command text => (desk.command text).2

def run (desk : Desk) (steps : List Step) : Desk :=
  steps.foldl step desk

theorem run_append (desk : Desk) (earlier later : List Step) :
    desk.run (earlier ++ later) = (desk.run earlier).run later :=
  List.foldl_append

def asks (desk : Desk) : Step → List Action
  | .decode message => Reading.message desk.profile message
  | .evaluate =>
    let report := desk.rollCall.report desk.profile.registry
    [.upsert .heartbeatWindow .telemetry report.severity report.text]
  | .tick policy =>
    (desk.countdowns.tick policy).1.map fun row =>
      .post .telemetry .warning (overdueText desk.profile.registry row)
  | .command text =>
    match Command.parse text with
    | .ok _ => []
    | .error e => [.post .telemetry .warning (rejectionText e)]

/-- The part of a desk that decides what an action puts on the feed. -/
structure Screen where
  displays : DataKey → Bool
  board : Board
  feed : Feed

def screen (desk : Desk) : Screen where
  displays := desk.displays
  board := desk.board
  feed := desk.feed

theorem sample_of_shown {desk : Desk} {key : DataKey} (hshown : desk.displays key = true)
    (hlive : desk.feed.live = true) (value : Int) :
    desk.sample key value = { desk with feed := desk.feed.emit (.sample key value) } := by
  unfold sample Feed.sample
  rw [if_pos hshown, hlive]

theorem sample_of_refused {desk : Desk} {key : DataKey} (hrefused : desk.displays key = false)
    (value : Int) : desk.sample key value = desk.fault (refusalText key value) := by
  unfold sample
  rw [if_neg (by rw [hrefused]; exact Bool.false_ne_true)]

/-- What carrying out an action does to the board and the next handle, and the events that it puts
on a feed with a listener. -/
inductive Effect (displays : DataKey → Bool) (board : Board) (next : Nat) :
    Action → List Feed.Event → Board → Nat → Prop where
  | posted (channel : Channel) (severity : Severity) (text : String) :
      Effect displays board next (.post channel severity text)
        [.post next channel severity text] board (next + 1)
  | faulted (text : String) :
      Effect displays board next (.fault text) [.post next .telemetry .warning text] board (next + 1)
  | marked (node : UInt8) : Effect displays board next (.present node) [] board next
  | restarted (key : FrameKey) (timeout : UInt32) :
      Effect displays board next (.restart key timeout) [] board next
  | shown {key : DataKey} (value : Int) (hshown : displays key = true) :
      Effect displays board next (.sample key value) [.sample key value] board next
  | refused {key : DataKey} (value : Int) (hrefused : displays key = false) :
      Effect displays board next (.sample key value)
        [.post next .telemetry .warning (refusalText key value)] board (next + 1)
  | opened {slot : Slot} (channel : Channel) (severity : Severity) (text : String)
      (hnone : board.slots.get? slot = none) :
      Effect displays board next (.upsert slot channel severity text)
        [.post next channel severity text]
        { board with slots := board.slots.insert slot next } (next + 1)
  | rewritten {slot : Slot} {id : Nat} (channel : Channel) (severity : Severity) (text : String)
      (hsome : board.slots.get? slot = some id) :
      Effect displays board next (.upsert slot channel severity text)
        [.text id text, .severity id severity] board next
  | normal {key : DataKey} (title : String) (hnone : board.signals.get? key = none) :
      Effect displays board next (.grade key .ok title) [] board next
  | steady {key : DataKey} {signal : Signal} (title : String)
      (hsome : board.signals.get? key = some signal) :
      Effect displays board next (.grade key signal.severity title) [] board next
  | raised {key : DataKey} {severity : Severity} (title : String)
      (hnone : board.signals.get? key = none) (hsevere : severity ≠ .ok) :
      Effect displays board next (.grade key severity title)
        [.post next .telemetry severity s!"status of: {title}"]
        { board with signals := board.signals.insert key { id := next, severity } } (next + 1)
  | changed {key : DataKey} {signal : Signal} {severity : Severity} (title : String)
      (hsome : board.signals.get? key = some signal) (hother : signal.severity ≠ severity) :
      Effect displays board next (.grade key severity title) [.severity signal.id severity]
        { board with signals := board.signals.insert key { signal with severity } } next

/-- The events that carrying out an action puts on the feed. -/
def emits (desk : Desk) (action : Action) : List Feed.Event :=
  (desk.perform action).feed.events.toList.drop desk.feed.events.toList.length

/-- Every action has one of the effects on a feed with a listener, and appends its events. -/
theorem exists_effect {desk : Desk} (hlive : desk.feed.live = true) (action : Action) :
    ∃ events, (desk.perform action).feed.live = true ∧
      (desk.perform action).feed.events.toList = desk.feed.events.toList ++ events ∧
      Effect desk.displays desk.board desk.feed.nextId action events (desk.perform action).board
        (desk.perform action).feed.nextId := by
  cases action with
  | post channel severity text =>
      refine ⟨_, (Feed.live_post _ _ _ _).trans hlive, Feed.toList_post hlive _ _ _, ?_⟩
      simp only [perform, post, Feed.nextId_post]
      exact .posted channel severity text
  | fault text =>
      refine ⟨_, (Feed.live_post _ _ _ _).trans hlive, Feed.toList_post hlive _ _ _, ?_⟩
      simp only [perform, fault, post, Feed.nextId_post]
      exact .faulted text
  | present node => exact ⟨[], hlive, (List.append_nil _).symm, .marked node⟩
  | restart key timeout => exact ⟨[], hlive, (List.append_nil _).symm, .restarted key timeout⟩
  | grade key severity title =>
      simp only [perform, grade, Board.grade]
      cases hsignal : desk.board.signals.get? key with
      | none =>
          by_cases hok : severity = .ok
          · subst hok
            exact ⟨[], hlive, (List.append_nil _).symm, .normal title hsignal⟩
          · simp only [if_neg hok]
            refine ⟨_, (Feed.live_post _ _ _ _).trans hlive, Feed.toList_post hlive _ _ _, ?_⟩
            simp only [Feed.nextId_post]
            exact .raised title hsignal hok
      | some signal =>
          by_cases hsame : signal.severity = severity
          · subst hsame
            simp only [if_true]
            exact ⟨[], hlive, (List.append_nil _).symm, .steady title hsignal⟩
          · simp only [if_neg hsame]
            refine ⟨_, (Feed.live_emit _ _).trans hlive, Feed.toList_emit hlive _, ?_⟩
            simp only [Feed.setSeverity, Feed.nextId_emit]
            exact .changed title hsignal hsame
  | sample key value =>
      simp only [perform]
      cases hshown : desk.displays key with
      | false =>
          rw [sample_of_refused hshown]
          refine ⟨_, (Feed.live_post _ _ _ _).trans hlive, Feed.toList_post hlive _ _ _, ?_⟩
          simp only [fault, post, Feed.nextId_post]
          exact .refused value hshown
      | true =>
          rw [sample_of_shown hshown hlive]
          refine ⟨_, (Feed.live_emit _ _).trans hlive, Feed.toList_emit hlive _, ?_⟩
          simp only [Feed.nextId_emit]
          exact .shown value hshown
  | upsert slot channel severity text =>
      simp only [perform, upsert, Board.upsert]
      cases hslot : desk.board.slots.get? slot with
      | none =>
          refine ⟨_, (Feed.live_post _ _ _ _).trans hlive, Feed.toList_post hlive _ _ _, ?_⟩
          simp only [Feed.nextId_post]
          exact .opened channel severity text hslot
      | some id =>
          dsimp only [Feed.setText, Feed.setSeverity]
          have htext : (desk.feed.emit (.text id text)).live = true := by
            rw [Feed.live_emit, hlive]
          refine ⟨[.text id text, .severity id severity], (Feed.live_emit _ _).trans htext, ?_, ?_⟩
          · rw [Feed.toList_emit htext, Feed.toList_emit hlive, List.append_assoc]
            rfl
          · simp only [Feed.nextId_emit]
            exact .rewritten channel severity text hslot

theorem live_perform {desk : Desk} (hlive : desk.feed.live = true) (action : Action) :
    (desk.perform action).feed.live = true := by
  obtain ⟨events, hafter, _⟩ := exists_effect hlive action
  exact hafter

theorem toList_perform {desk : Desk} (hlive : desk.feed.live = true) (action : Action) :
    (desk.perform action).feed.events.toList = desk.feed.events.toList ++ desk.emits action := by
  obtain ⟨events, _, hevents, _⟩ := exists_effect hlive action
  rw [emits, hevents, List.drop_left]

/-- What an action puts on the feed is one of the effects. -/
theorem effect_perform {desk : Desk} (hlive : desk.feed.live = true) (action : Action) :
    Effect desk.displays desk.board desk.feed.nextId action (desk.emits action)
      (desk.perform action).board (desk.perform action).feed.nextId := by
  obtain ⟨events, _, hevents, heffect⟩ := exists_effect hlive action
  rwa [emits, hevents, List.drop_left]

/-- Apart from the feed, the board and the counters, an action changes the roll call if it marks a
node as present and the countdowns if it restarts one. -/
theorem perform_eq (desk : Desk) (action : Action) :
    desk.perform action =
      { desk with
        feed := (desk.perform action).feed
        board := (desk.perform action).board
        counters := (desk.perform action).counters
        rollCall :=
          match action with
          | .present node => desk.rollCall.record node
          | _ => desk.rollCall
        countdowns :=
          match action with
          | .restart key timeout => desk.countdowns.restart key timeout
          | _ => desk.countdowns } := by
  cases action with
  | sample key value =>
      simp only [perform, sample]
      split
      · split <;> rfl
      · rfl
  | _ => rfl

theorem profile_perform (desk : Desk) (action : Action) :
    (desk.perform action).profile = desk.profile := by
  rw [perform_eq]

theorem displays_perform (desk : Desk) (action : Action) :
    (desk.perform action).displays = desk.displays := by
  rw [perform_eq]

theorem profile_foldl_perform (desk : Desk) (actions : List Action) :
    (actions.foldl perform desk).profile = desk.profile := by
  induction actions generalizing desk with
  | nil => rfl
  | cons action rest ih => exact (ih (desk.perform action)).trans (desk.profile_perform action)

/-- The ticks of the countdowns leave everything but the feed and the counters alone. -/
theorem foldl_reportOverdue_eq (desk : Desk) (rows : List Overdue) :
    rows.foldl reportOverdue desk =
      { desk with
        feed := (rows.foldl reportOverdue desk).feed
        counters := (rows.foldl reportOverdue desk).counters } := by
  induction rows generalizing desk with
  | nil => rfl
  | cons row rest ih => exact ih (desk.reportOverdue row)

theorem profile_step (desk : Desk) (step : Step) : (desk.step step).profile = desk.profile := by
  cases step with
  | decode message => exact profile_foldl_perform _ _
  | evaluate => rfl
  | tick policy =>
      simp only [Desk.step, tick]
      rw [foldl_reportOverdue_eq]
  | command text =>
      simp only [Desk.step, command]
      cases Command.parse text <;> rfl

theorem profile_run (desk : Desk) (steps : List Step) : (desk.run steps).profile = desk.profile := by
  induction steps generalizing desk with
  | nil => rfl
  | cons step rest ih => exact (ih (desk.step step)).trans (desk.profile_step step)

/-- What an action does to the screen depends on the screen alone. -/
theorem screen_perform {desk other : Desk} (hscreen : desk.screen = other.screen)
    (action : Action) : (desk.perform action).screen = (other.perform action).screen := by
  obtain ⟨profile, displays, feed, board, rollCall, countdowns, counters⟩ := desk
  obtain ⟨profile', displays', feed', board', rollCall', countdowns', counters'⟩ := other
  cases hscreen
  cases action with
  | sample key value =>
      simp only [perform, sample]
      split
      · split <;> rfl
      · rfl
  | _ => rfl

theorem screen_foldl_perform {desk other : Desk} (hscreen : desk.screen = other.screen)
    (actions : List Action) :
    (actions.foldl perform desk).screen = (actions.foldl perform other).screen := by
  induction actions generalizing desk other with
  | nil => exact hscreen
  | cons action rest ih => exact ih (screen_perform hscreen action)

theorem screen_reportOverdue {desk other : Desk} (hscreen : desk.screen = other.screen)
    (rows : List Overdue) :
    (rows.foldl reportOverdue desk).screen =
      ((rows.map fun row => Action.post .telemetry .warning
        (overdueText desk.profile.registry row)).foldl perform other).screen := by
  induction rows generalizing desk other with
  | nil => exact hscreen
  | cons row rest ih =>
      exact ih (screen_perform hscreen (.post .telemetry .warning _))

/-- On the feed and on the board a step does what it asks for, action by action. -/
theorem screen_step (desk : Desk) (step : Step) :
    (desk.step step).screen = ((desk.asks step).foldl perform desk).screen := by
  cases step with
  | decode message =>
      let counted := { desk with counters := desk.counters.countMessage message.address.function? }
      have hcounted : counted.screen = desk.screen := rfl
      exact screen_foldl_perform hcounted _
  | evaluate => rfl
  | tick policy =>
      let ticked := { desk with countdowns := (desk.countdowns.tick policy).2 }
      have hticked : ticked.screen = desk.screen := rfl
      exact screen_reportOverdue hticked _
  | command text =>
      simp only [Desk.step, command, asks]
      cases Command.parse text with
      | ok command => rfl
      | error e => rfl

/-- An action that was carried out, with the step that asked for it and the events that it put on
the feed. -/
structure Entry where
  step : Step
  action : Action
  events : List Feed.Event

def trace (desk : Desk) (step : Step) : List Action → List Entry
  | [] => []
  | action :: rest =>
    { step, action, events := desk.emits action } :: (desk.perform action).trace step rest

theorem trace_append (desk : Desk) (step : Step) (earlier later : List Action) :
    desk.trace step (earlier ++ later) =
      desk.trace step earlier ++ (earlier.foldl perform desk).trace step later := by
  induction earlier generalizing desk with
  | nil => rfl
  | cons action rest ih => exact congrArg _ (ih (desk.perform action))

theorem mem_trace {desk : Desk} {step : Step} {actions : List Action} {entry : Entry}
    (hmem : entry ∈ desk.trace step actions) : entry.step = step ∧ entry.action ∈ actions := by
  induction actions generalizing desk with
  | nil => cases hmem
  | cons action rest ih =>
      rcases List.mem_cons.mp hmem with rfl | hrest
      · exact ⟨rfl, List.mem_cons_self⟩
      · obtain ⟨hstep, haction⟩ := ih hrest
        exact ⟨hstep, List.mem_cons_of_mem _ haction⟩

/-- The entries of a run, in the order in which the actions were carried out. -/
def journal (desk : Desk) : List Step → List Entry
  | [] => []
  | step :: rest => desk.trace step (desk.asks step) ++ (desk.step step).journal rest

section Induction

variable {motive : List Entry → Screen → Prop}

/-- What every action keeps is kept by the actions of a step. -/
theorem trace_induction
    (hperform : ∀ (desk : Desk) (entries : List Entry) (step : Step) (action : Action),
      motive entries desk.screen →
      motive (entries ++ [{ step, action, events := desk.emits action }])
        (desk.perform action).screen)
    {desk : Desk} {entries : List Entry} (hentries : motive entries desk.screen) (step : Step)
    (actions : List Action) :
    motive (entries ++ desk.trace step actions) (actions.foldl perform desk).screen := by
  induction actions generalizing desk entries with
  | nil =>
      rw [trace, List.append_nil]
      exact hentries
  | cons action rest ih =>
      have hrest := ih (hperform desk entries step action hentries)
      rw [List.append_assoc] at hrest
      exact hrest

/-- What holds at the start and is kept by every action holds after every run. Steps come at the
front and entries at the end, so the induction keeps the entries written before apart. -/
theorem journal_induction
    (hperform : ∀ (desk : Desk) (entries : List Entry) (step : Step) (action : Action),
      motive entries desk.screen →
      motive (entries ++ [{ step, action, events := desk.emits action }])
        (desk.perform action).screen)
    {desk : Desk} (hstart : motive [] desk.screen) (steps : List Step) :
    motive (desk.journal steps) (desk.run steps).screen := by
  suffices hrun : ∀ entries, motive entries desk.screen →
      motive (entries ++ desk.journal steps) (desk.run steps).screen by
    simpa using hrun [] hstart
  clear hstart
  induction steps generalizing desk with
  | nil =>
      intro entries hentries
      rw [journal, List.append_nil]
      exact hentries
  | cons step rest ih =>
      intro entries hentries
      have hstep := trace_induction hperform hentries step (desk.asks step)
      rw [← screen_step] at hstep
      have hrest := ih _ hstep
      rw [List.append_assoc] at hrest
      exact hrest

end Induction

theorem flatMap_events_append (entries : List Entry) (entry : Entry) :
    (entries ++ [entry]).flatMap Entry.events = entries.flatMap Entry.events ++ entry.events := by
  simp

/-- Nothing gets onto the feed but the events of the journal. -/
theorem toList_run {desk : Desk} (hlive : desk.feed.live = true) (steps : List Step) :
    (desk.run steps).feed.events.toList =
      desk.feed.events.toList ++ (desk.journal steps).flatMap Entry.events := by
  suffices hrun : (desk.run steps).screen.feed.live = true ∧
      (desk.run steps).screen.feed.events.toList =
        desk.feed.events.toList ++ (desk.journal steps).flatMap Entry.events from hrun.2
  apply journal_induction (motive := fun entries screen => screen.feed.live = true ∧
    screen.feed.events.toList = desk.feed.events.toList ++ entries.flatMap Entry.events)
  · rintro before entries step action ⟨hbefore, hevents⟩
    refine ⟨live_perform hbefore action, ?_⟩
    rw [flatMap_events_append, ← List.append_assoc, ← hevents]
    exact toList_perform hbefore action
  · exact ⟨hlive, (List.append_nil _).symm⟩

/-- A layout that passes its check gives a fresh desk. -/
theorem start_of_check {profile : Profile} (hcheck : profile.layout.check = .ok ())
    (displays : DataKey → Bool) :
    start profile displays =
      .ok { profile, displays, countdowns := .seeded profile.registry.monitored } := by
  unfold start
  rw [hcheck]

/-- A desk that was started is a fresh one. -/
theorem eq_of_start {profile : Profile} {displays : DataKey → Bool} {desk : Desk}
    (hstart : start profile displays = .ok desk) :
    desk = { profile, displays, countdowns := .seeded profile.registry.monitored } := by
  unfold start at hstart
  split at hstart
  · cases hstart
  · cases hstart
  · exact (Except.ok.inj hstart).symm

end Desk

end GroundStation
