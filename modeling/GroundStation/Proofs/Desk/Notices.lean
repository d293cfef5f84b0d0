import GroundStation.Proofs.Alert.Replay
import GroundStation.Proofs.Desk.Journal

/-!
The notices of a run. Handles are given out in order, an event changes only a notice that was posted
before it, and the board never mixes two notices up: a slot is posted once, its notice shows what was
written last, and no two slots or signals have the same handle.
-/

namespace GroundStation

def Action.slot? : Action → Option Slot
  | .upsert slot _ _ _ => some slot
  | .post _ _ _ | .fault _ | .present _ | .restart _ _ | .grade _ _ _ | .sample _ _ => none

def Action.write? (slot : Slot) : Action → Option (Severity × String)
  | .upsert other _ severity text => if other = slot then some (severity, text) else none
  | .post _ _ _ | .fault _ | .present _ | .restart _ _ | .grade _ _ _ | .sample _ _ => none

theorem Action.exists_upsert_of_slot? {action : Action} {slot : Slot}
    (hslot : action.slot? = some slot) :
    ∃ channel severity text, action = .upsert slot channel severity text := by
  cases action with
  | upsert other channel severity text =>
      cases hslot
      exact ⟨channel, severity, text, rfl⟩
  | _ => cases hslot

theorem Action.write?_eq_none {action : Action} {slot : Slot} (hslot : action.slot? ≠ some slot) :
    action.write? slot = none := by
  cases action with
  | upsert other channel severity text =>
      rw [write?, if_neg (fun heq => hslot (congrArg some heq))]
  | _ => rfl

namespace Board

/-- What a notice on the board stands for. -/
inductive Owner where
  | slot (slot : Slot)
  | signal (key : DataKey)
deriving DecidableEq, Repr

def handle? (board : Board) : Owner → Option Nat
  | .slot slot => board.slot? slot
  | .signal key => (board.signals.get? key).map Signal.id

theorem handle?_insert_slot (board : Board) (slot : Slot) (id : Nat) (owner : Owner) :
    ({ board with slots := board.slots.insert slot id } : Board).handle? owner =
      if .slot slot = owner then some id else board.handle? owner := by
  cases owner with
  | slot other => simp [handle?, slot?, Table.get?_insert]
  | signal key => simp [handle?]

theorem handle?_insert_signal (board : Board) (key : DataKey) (signal : Signal) (owner : Owner) :
    ({ board with signals := board.signals.insert key signal } : Board).handle? owner =
      if .signal key = owner then some signal.id else board.handle? owner := by
  cases owner with
  | slot slot => simp [handle?, slot?]
  | signal other =>
      by_cases hkey : key = other <;> simp [handle?, Table.get?_insert, hkey]

/-- The handles on the board have been given out, each to one owner. -/
structure Handles (board : Board) (next : Nat) : Prop where
  given : ∀ {owner : Owner} {id : Nat}, board.handle? owner = some id → 1 ≤ id ∧ id < next
  distinct : ∀ {owner other : Owner} {id : Nat},
    board.handle? owner = some id → board.handle? other = some id → owner = other

end Board

namespace Desk

namespace Effect

variable {displays : DataKey → Bool} {board after : Board} {next final : Nat} {action : Action}
  {events : List Feed.Event}

/-- The handles that an action gives out are the next ones in order. -/
theorem posted_eq (effect : Effect displays board next action events after final) :
    next ≤ final ∧ Feed.posted events = List.range' next (final - next) := by
  cases effect <;> simp [Feed.posted, Feed.Event.posted?]

/-- An action gives a handle to at most one owner, which had none, and takes no handle away. -/
theorem handle?_eq (effect : Effect displays board next action events after final) :
    (∀ owner, after.handle? owner = board.handle? owner) ∨
      final = next + 1 ∧ ∃ opened, board.handle? opened = none ∧
        ∀ owner, after.handle? owner =
          if opened = owner then some next else board.handle? owner := by
  cases effect with
  | @opened slot channel severity text hnone =>
      exact .inr ⟨rfl, .slot slot, hnone, board.handle?_insert_slot slot next⟩
  | @raised key severity title hnone hsevere =>
      refine .inr ⟨rfl, .signal key, ?_, board.handle?_insert_signal key _⟩
      rw [Board.handle?, hnone, Option.map_none]
  | @changed key signal severity title hsome hother =>
      left
      intro owner
      rw [Board.handle?_insert_signal]
      split
      · rename_i howner
        rw [← howner, Board.handle?, hsome, Option.map_some]
      · rfl
  | _ => exact .inl fun owner => rfl

/-- What an action changes has an owner; if it is a slot, then the action writes it. -/
theorem exists_owner_of_changed (effect : Effect displays board next action events after final)
    {event : Feed.Event} (hmem : event ∈ events) {id : Nat} (hchanged : event.changed? = some id) :
    ∃ owner, board.handle? owner = some id ∧
      ∀ slot, owner = .slot slot → action.slot? = some slot := by
  cases effect with
  | @rewritten slot id' channel severity text hsome =>
      have hid : id' = id := by
        rcases List.mem_cons.mp hmem with rfl | hmem
        · exact Option.some.inj hchanged
        · rw [List.mem_singleton.mp hmem] at hchanged
          exact Option.some.inj hchanged
      subst hid
      refine ⟨.slot slot, hsome, ?_⟩
      rintro other hother
      rw [Board.Owner.slot.inj hother]
      rfl
  | @changed key signal severity title hsome hother =>
      rw [List.mem_singleton.mp hmem] at hchanged
      rw [← Option.some.inj hchanged]
      refine ⟨.signal key, ?_, fun slot hslot => nomatch hslot⟩
      rw [Board.handle?, hsome, Option.map_some]
  | marked node => cases hmem
  | restarted key timeout => cases hmem
  | normal title hnone => cases hmem
  | steady title hsome => cases hmem
  | _ =>
      rw [List.mem_singleton.mp hmem] at hchanged
      cases hchanged

theorem slot?_eq_of_ne (effect : Effect displays board next action events after final)
    {slot : Slot} (hslot : action.slot? ≠ some slot) : after.slot? slot = board.slot? slot := by
  cases effect with
  | @opened other channel severity text hnone =>
      have hother : other ≠ slot := fun heq => hslot (congrArg some heq)
      rw [Board.slot?, Table.get?_insert, if_neg hother]
      rfl
  | _ => rfl

/-- Writing a slot posts a notice the first time and changes it after that. -/
theorem write_cases {slot : Slot} {channel : Channel} {severity : Severity} {text : String}
    (effect : Effect displays board next (.upsert slot channel severity text) events after final) :
    (board.slot? slot = none ∧ after.slot? slot = some next ∧
        events = [.post next channel severity text]) ∨
      ∃ id, board.slot? slot = some id ∧ after.slot? slot = some id ∧
        events = [.text id text, .severity id severity] := by
  cases effect with
  | opened _ _ _ hnone =>
      refine .inl ⟨hnone, ?_, rfl⟩
      rw [Board.slot?, Table.get?_insert, if_pos rfl]
  | @rewritten _ id _ _ _ hsome => exact .inr ⟨id, hsome, hsome, rfl⟩

/-- Every action keeps the handles on the board given out, each to one owner. -/
theorem handles (effect : Effect displays board next action events after final)
    (hnext : 1 ≤ next) (hboard : board.Handles next) : after.Handles final := by
  have hmono := effect.posted_eq.1
  rcases effect.handle?_eq with hsame | ⟨hfinal, opened, hnone, hafter⟩
  · constructor
    · intro owner id hid
      rw [hsame] at hid
      obtain ⟨hpositive, hbound⟩ := hboard.given hid
      exact ⟨hpositive, Nat.lt_of_lt_of_le hbound hmono⟩
    · intro owner other id howner hother
      rw [hsame] at howner hother
      exact hboard.distinct howner hother
  · -- the new handle is above all that were given out before
    have hfresh {owner : Board.Owner} (howner : board.handle? owner = some next) : False :=
      Nat.lt_irrefl _ (hboard.given howner).2
    constructor
    · intro owner id hid
      rw [hafter] at hid
      split at hid
      · cases hid
        omega
      · have hgiven := hboard.given hid
        omega
    · intro owner other id howner hother
      rw [hafter] at howner hother
      split at howner <;> split at hother
      · rename_i hopened hopened'
        rw [← hopened, ← hopened']
      · cases howner
        exact (hfresh hother).elim
      · cases hother
        exact (hfresh howner).elim
      · exact hboard.distinct howner hother

end Effect

def eventsFor (slot : Slot) (entries : List Entry) : List Feed.Event :=
  (entries.filter fun entry => entry.action.slot? = some slot).flatMap Entry.events

def lastWrite? (slot : Slot) (entries : List Entry) : Option (Severity × String) :=
  (entries.filterMap fun entry => entry.action.write? slot).getLast?

theorem eventsFor_append (slot : Slot) (entries : List Entry) (entry : Entry) :
    eventsFor slot (entries ++ [entry]) =
      eventsFor slot entries ++ if entry.action.slot? = some slot then entry.events else [] := by
  by_cases hslot : entry.action.slot? = some slot <;>
    simp [eventsFor, List.filter_append, hslot]

theorem lastWrite?_append (slot : Slot) (entries : List Entry) (entry : Entry) :
    lastWrite? slot (entries ++ [entry]) =
      (entry.action.write? slot).or (lastWrite? slot entries) := by
  cases hwrite : entry.action.write? slot <;> simp [lastWrite?, List.filterMap_append, hwrite]

/-- What the journal of a run has to do with the board and the feed that the run leaves. -/
structure Kept (entries : List Entry) (screen : Screen) : Prop where
  live : screen.feed.live = true
  next : 1 ≤ screen.feed.nextId
  posted : Feed.posted (entries.flatMap Entry.events) = List.range' 1 (screen.feed.nextId - 1)
  changes : Feed.ChangesFollowPosts (entries.flatMap Entry.events)
  handles : screen.board.Handles screen.feed.nextId
  owned : ∀ slot, Feed.posted (eventsFor slot entries) = (screen.board.slot? slot).toList
  shown : ∀ slot,
    ((screen.board.slot? slot).bind (Feed.replay (entries.flatMap Entry.events)).get?).map
      Feed.Notice.content = lastWrite? slot entries

namespace Kept

variable {entries : List Entry}

/-- The notices on the board have been posted. -/
theorem mem_posted {screen : Screen} (kept : Kept entries screen) {owner : Board.Owner} {id : Nat}
    (hid : screen.board.handle? owner = some id) :
    id ∈ Feed.posted (entries.flatMap Entry.events) := by
  have hgiven := kept.handles.given hid
  rw [kept.posted, List.mem_range'_1]
  omega

theorem posted_perform {desk : Desk} (kept : Kept entries desk.screen) (action : Action) :
    Feed.posted (entries.flatMap Entry.events ++ desk.emits action) =
      List.range' 1 ((desk.perform action).feed.nextId - 1) := by
  obtain ⟨hmono, hposted⟩ := (effect_perform kept.live action).posted_eq
  have hnext : 1 ≤ desk.feed.nextId := kept.next
  have hstart : 1 + (desk.feed.nextId - 1) = desk.feed.nextId := by omega
  have hcount : desk.feed.nextId - 1 + ((desk.perform action).feed.nextId - desk.feed.nextId) =
      (desk.perform action).feed.nextId - 1 := by omega
  have happend := @List.range'_append_1 1 (desk.feed.nextId - 1)
    ((desk.perform action).feed.nextId - desk.feed.nextId)
  rw [hstart, hcount] at happend
  rw [Feed.posted_append, hposted, kept.posted]
  exact happend

theorem changes_perform {desk : Desk} (kept : Kept entries desk.screen) (action : Action) :
    Feed.ChangesFollowPosts (entries.flatMap Entry.events ++ desk.emits action) := by
  apply kept.changes.append
  intro event hmem id hchanged
  obtain ⟨owner, howner, _⟩ :=
    (effect_perform kept.live action).exists_owner_of_changed hmem hchanged
  exact kept.mem_posted howner

/-- The notice of a slot that an action does not write stays as it is. -/
theorem get?_replay_perform_of_ne {desk : Desk} (kept : Kept entries desk.screen) {action : Action}
    {slot : Slot} (hslot : action.slot? ≠ some slot) {id : Nat}
    (hid : desk.board.slot? slot = some id) :
    (Feed.replay (entries.flatMap Entry.events ++ desk.emits action)).get? id =
      (Feed.replay (entries.flatMap Entry.events)).get? id := by
  have effect := effect_perform kept.live action
  rw [Feed.replay_append]
  apply Feed.get?_foldl_reflect_of_ne
  intro event hmem
  constructor
  · intro hposted
    have hnew : id ∈ Feed.posted (desk.emits action) := List.mem_filterMap.mpr ⟨event, hmem, hposted⟩
    rw [effect.posted_eq.2, List.mem_range'_1] at hnew
    have howner : desk.screen.board.handle? (.slot slot) = some id := hid
    have hold : id < desk.feed.nextId := (kept.handles.given howner).2
    omega
  · intro hchanged
    obtain ⟨owner, howner, hwrites⟩ := effect.exists_owner_of_changed hmem hchanged
    exact hslot (hwrites slot (kept.handles.distinct howner hid))

theorem owned_perform {desk : Desk} (kept : Kept entries desk.screen) (step : Step)
    (action : Action) (slot : Slot) :
    Feed.posted (eventsFor slot (entries ++ [{ step, action, events := desk.emits action }])) =
      ((desk.perform action).board.slot? slot).toList := by
  have effect := effect_perform kept.live action
  have howned : Feed.posted (eventsFor slot entries) = (desk.board.slot? slot).toList :=
    kept.owned slot
  rw [eventsFor_append, Feed.posted_append, howned]
  by_cases hslot : action.slot? = some slot
  · rw [if_pos hslot]
    obtain ⟨channel, severity, text, rfl⟩ := Action.exists_upsert_of_slot? hslot
    rcases effect.write_cases with ⟨hnone, hafter, hevents⟩ | ⟨id, hsome, hafter, hevents⟩
    · rw [hnone, hafter, hevents]
      rfl
    · rw [hsome, hafter, hevents]
      rfl
  · rw [if_neg hslot, effect.slot?_eq_of_ne hslot]
    exact List.append_nil _

theorem shown_perform {desk : Desk} (kept : Kept entries desk.screen) (step : Step)
    (action : Action) (slot : Slot) :
    (((desk.perform action).board.slot? slot).bind
        (Feed.replay (entries.flatMap Entry.events ++ desk.emits action)).get?).map
        Feed.Notice.content =
      lastWrite? slot (entries ++ [{ step, action, events := desk.emits action }]) := by
  have effect := effect_perform kept.live action
  rw [lastWrite?_append]
  by_cases hslot : action.slot? = some slot
  · obtain ⟨channel, severity, text, rfl⟩ := Action.exists_upsert_of_slot? hslot
    rw [Action.write?, if_pos rfl, Option.some_or]
    rcases effect.write_cases with ⟨_, hafter, hevents⟩ | ⟨id, hsome, hafter, hevents⟩
    · rw [hafter, hevents, Option.bind_some, Feed.replay_append]
      simp only [List.foldl_cons, List.foldl_nil, Feed.reflect]
      rw [Table.get?_insert, if_pos rfl]
      rfl
    · have howner : desk.screen.board.handle? (.slot slot) = some id := hsome
      have hseen := (Feed.isSome_get?_replay _ _).mpr (kept.mem_posted howner)
      obtain ⟨notice, hnotice⟩ := Option.isSome_iff_exists.mp hseen
      rw [hafter, hevents, Option.bind_some, Feed.replay_append]
      simp only [List.foldl_cons, List.foldl_nil, Feed.reflect]
      rw [Feed.get?_revise, if_pos rfl, Feed.get?_revise, if_pos rfl, hnotice]
      rfl
  · have hshown : ((desk.board.slot? slot).bind
        (Feed.replay (entries.flatMap Entry.events)).get?).map Feed.Notice.content =
          lastWrite? slot entries := kept.shown slot
    rw [effect.slot?_eq_of_ne hslot, Action.write?_eq_none hslot, Option.none_or, ← hshown]
    cases hid : desk.board.slot? slot with
    | none => rfl
    | some id => rw [Option.bind_some, kept.get?_replay_perform_of_ne hslot hid, Option.bind_some]

/-- Every action keeps the journal in line with the screen. -/
theorem perform {desk : Desk} (kept : Kept entries desk.screen) (step : Step) (action : Action) :
    Kept (entries ++ [{ step, action, events := desk.emits action }])
      (desk.perform action).screen where
  live := live_perform kept.live action
  next := Nat.le_trans kept.next (effect_perform kept.live action).posted_eq.1
  posted := by
    rw [flatMap_events_append]
    exact kept.posted_perform action
  changes := by
    rw [flatMap_events_append]
    exact kept.changes_perform action
  handles := (effect_perform kept.live action).handles kept.next kept.handles
  owned := kept.owned_perform step action
  shown := by
    rw [flatMap_events_append]
    exact kept.shown_perform step action

end Kept

theorem kept_start (displays : DataKey → Bool) :
    Kept [] { displays, board := {}, feed := {} } where
  live := rfl
  next := Nat.le_refl 1
  posted := rfl
  changes := by
    intro before later event id hsplit
    cases before <;> cases hsplit
  handles := by
    constructor
    · intro owner id hid
      cases owner <;> cases hid
    · intro owner other id hid
      cases owner <;> cases hid
  owned := fun _ => rfl
  shown := fun _ => rfl

/-- After every run from the start, the journal is in line with the screen. -/
theorem kept_run {profile : Profile} {displays : DataKey → Bool} {desk : Desk}
    (hstart : start profile displays = .ok desk) (steps : List Step) :
    Kept (desk.journal steps) (desk.run steps).screen := by
  have hdesk := eq_of_start hstart
  subst hdesk
  apply journal_induction
  · intro desk entries step action kept
    exact kept.perform step action
  · exact kept_start displays

/-- Whatever happens at a desk and in whatever order, the events on the feed are those of the
journal, handles are given out as 1, 2, 3 and so on, and a change is of a notice that was posted
before it. Writing a slot posts at most one notice ever, under the handle that the slot then has, and
in the replay of the events that notice shows what was written last. No two slots have the same
handle, nor have a slot and a signal. -/
theorem run_keeps_notices {profile : Profile} {displays : DataKey → Bool} {desk : Desk}
    (hstart : start profile displays = .ok desk) (steps : List Step) :
    let after := desk.run steps
    let events := after.feed.events.toList
    let entries := desk.journal steps
    events = entries.flatMap Entry.events ∧
      Feed.posted events = List.range' 1 (Feed.posted events).length ∧
      Feed.ChangesFollowPosts events ∧
      (∀ slot, (Feed.posted (eventsFor slot entries)).length ≤ 1 ∧
        Feed.posted (eventsFor slot entries) = (after.board.slot? slot).toList) ∧
      (∀ slot, ((after.board.slot? slot).bind (Feed.replay events).get?).map Feed.Notice.content =
        lastWrite? slot entries) ∧
      (∀ slot other id, after.board.slot? slot = some id → after.board.slot? other = some id →
        slot = other) ∧
      ∀ slot key id signal, after.board.slot? slot = some id →
        after.board.signals.get? key = some signal → signal.id ≠ id := by
  intro after events entries
  have kept : Kept entries after.screen := kept_run hstart steps
  have hqueue : events = entries.flatMap Entry.events := by
    have hdesk := eq_of_start hstart
    subst hdesk
    exact toList_run rfl steps
  rw [hqueue]
  refine ⟨rfl, ?_, kept.changes, ?_, kept.shown, ?_, ?_⟩
  · rw [kept.posted, List.length_range']
  · intro slot
    refine ⟨?_, kept.owned slot⟩
    rw [kept.owned slot]
    cases after.screen.board.slot? slot <;> simp
  · intro slot other id hslot hother
    have howner : after.screen.board.handle? (.slot slot) = some id := hslot
    exact Board.Owner.slot.inj (kept.handles.distinct howner hother)
  · intro slot key id signal hslot hsignal hid
    have howner : after.screen.board.handle? (.slot slot) = some id := hslot
    have hother : after.screen.board.handle? (.signal key) = some id := by
      rw [← hid]
      exact congrArg (Option.map Signal.id) hsignal
    cases kept.handles.distinct howner hother

/-- A data point leaves its range, the roll call is closed, the node answers, and the roll call is
closed again between two bus reports: each slot has one notice, which shows the later report. -/
theorem run_keeps_notices_second_report :
    let point : PointInfo :=
      { name := "rpm", bitLength := 8, min := 0, max := 255, minWarning := 0, maxWarning := 90,
        minCritical := 0, maxCritical := 100 }
    let profile : Profile := { registry := .ofEntries [.node 3 "motor", .point ⟨3, 0, 0⟩ point] }
    let desk : Desk :=
      { profile, displays := fun _ => true, countdowns := .seeded profile.registry.monitored }
    let steps : List Step :=
      [.decode ⟨0x303, 200⟩, .evaluate, .decode ⟨0x400, 0⟩, .decode ⟨0x283, 0⟩, .evaluate,
        .command "stop", .decode ⟨0x400, 1⟩]
    let after := desk.run steps
    start profile (fun _ => true) = .ok desk ∧
      after.board.slot? .heartbeatWindow = some 2 ∧ after.board.slot? .busStatus = some 3 ∧
      Feed.posted after.feed.events.toList = [1, 2, 3, 4] ∧
      ((after.board.slot? .heartbeatWindow).bind
          (Feed.replay after.feed.events.toList).get?).map Feed.Notice.content =
        lastWrite? .heartbeatWindow (desk.journal steps) ∧
      lastWrite? .heartbeatWindow (desk.journal steps) = some (.ok, "HB Pong Status (1/1)") :=
  ⟨start_of_check rfl _, by decide +kernel, by decide +kernel, by decide +kernel,
    (run_keeps_notices (start_of_check rfl _) _).2.2.2.2.1 .heartbeatWindow, by decide +kernel⟩

end Desk

end GroundStation
