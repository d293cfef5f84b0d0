import GroundStation.Proofs.Desk.Totals

/-!
What a message does at the desk when all it asks for are notices, or notices and then one write of a
slot. Notices get the next handles one after the other and leave the board alone. A write posts the
slot's notice the first time, behind the notices before it, and changes it after that.
-/

namespace GroundStation

def Feed.Notice.fault (text : String) : Feed.Notice where
  channel := .telemetry
  severity := .warning
  text := text

def Action.notice? : Action → Option Feed.Notice
  | .post channel severity text => some { channel, severity, text }
  | .fault text => some (.fault text)
  | .upsert _ _ _ _ | .present _ | .restart _ _ | .grade _ _ _ | .sample _ _ => none

/-- The events that post notices, the first one with the given handle. -/
def Feed.posting (next : Nat) : List Notice → List Event
  | [] => []
  | notice :: rest =>
    .post next notice.channel notice.severity notice.text :: posting (next + 1) rest

/-- The events that bring a notice into a slot, when the next handle is the given one. -/
def Board.writing (board : Board) (next : Nat) (slot : Slot) (notice : Feed.Notice) :
    List Feed.Event :=
  match board.slot? slot with
  | some id => [.text id notice.text, .severity id notice.severity]
  | none => [.post next notice.channel notice.severity notice.text]

namespace Desk

/-- Between the desks nothing happened but that notices were posted, and that some of them were
counted as faults. -/
structure Posted (before : Desk) (notices : List Feed.Notice) (faults : Nat) (after : Desk) :
    Prop where
  board : after.board = before.board
  nextId : after.feed.nextId = before.feed.nextId + notices.length
  protocolWarnings :
    after.counters.protocolWarnings = before.counters.protocolWarnings + faults
  events : before.feed.live = true →
    after.feed.events.toList =
      before.feed.events.toList ++ Feed.posting before.feed.nextId notices

/-- Between the desks faults were posted and then one slot was written. -/
structure Reported (before : Desk) (faults : List String) (slot : Slot) (notice : Feed.Notice)
    (after : Desk) : Prop where
  signals : after.board.signals = before.board.signals
  others : ∀ other, slot ≠ other → after.board.slot? other = before.board.slot? other
  written : after.board.slot? slot =
    some ((before.board.slot? slot).getD (before.feed.nextId + faults.length))
  protocolWarnings :
    after.counters.protocolWarnings = before.counters.protocolWarnings + faults.length
  events : before.feed.live = true →
    after.feed.events.toList =
      before.feed.events.toList ++
        (Feed.posting before.feed.nextId (faults.map Feed.Notice.fault) ++
          before.board.writing (before.feed.nextId + faults.length) slot notice)

/-- An action that posts a notice does just that, and counts it if it is a fault. -/
theorem Posted.perform (desk : Desk) {action : Action} {notice : Feed.Notice}
    (hnotice : action.notice? = some notice) :
    Posted desk [notice] (Desk.faults desk.takes action) (desk.perform action) := by
  have hcounters := congrArg Counters.protocolWarnings (desk.counters_perform action)
  cases action with
  | post channel severity text =>
      cases hnotice
      exact ⟨rfl, Feed.nextId_post _ _ _ _, hcounters, fun hlive => Feed.toList_post hlive _ _ _⟩
  | fault text =>
      cases hnotice
      exact ⟨rfl, Feed.nextId_post _ _ _ _, hcounters, fun hlive => Feed.toList_post hlive _ _ _⟩
  | _ => cases hnotice

theorem Posted.foldl_perform {actions : List Action}
    (hposts : ∀ action ∈ actions, action.notice? ≠ none) (desk : Desk) :
    Posted desk (actions.filterMap Action.notice?) (actions.map (Desk.faults desk.takes)).sum
      (actions.foldl Desk.perform desk) := by
  induction actions generalizing desk with
  | nil => exact ⟨rfl, rfl, rfl, fun _ => (List.append_nil _).symm⟩
  | cons action rest ih =>
      obtain ⟨notice, hnotice⟩ := Option.ne_none_iff_exists'.mp (hposts action List.mem_cons_self)
      have first := Posted.perform desk hnotice
      have later := ih (fun other hmem => hposts other (List.mem_cons_of_mem _ hmem))
        (desk.perform action)
      rw [takes_perform] at later
      rw [List.filterMap_cons_some hnotice, List.map_cons, List.sum_cons, List.foldl_cons]
      refine ⟨later.board.trans first.board, ?_, ?_, ?_⟩
      · rw [later.nextId, first.nextId, Nat.add_assoc, Nat.add_comm [notice].length]
        rfl
      · rw [later.protocolWarnings, first.protocolWarnings, Nat.add_assoc]
      · intro hlive
        rw [later.events (live_perform hlive action), first.events hlive, first.nextId,
          List.append_assoc]
        rfl

/-- The message that is counted first changes none of what notices depend on. -/
theorem Posted.decode {desk : Desk} {sent : Message}
    (hposts : ∀ action ∈ Reading.message desk.profile sent, action.notice? ≠ none) :
    Posted desk ((Reading.message desk.profile sent).filterMap Action.notice?)
      ((Reading.message desk.profile sent).map (Desk.faults desk.takes)).sum
      (desk.decode sent) := by
  let counted := { desk with counters := desk.counters.countMessage sent.address.function? }
  have posted := Posted.foldl_perform hposts counted
  have hcounters := congrArg Counters.protocolWarnings (desk.counters_decode sent)
  exact ⟨posted.board, posted.nextId, hcounters, posted.events⟩

theorem slot?_upsert (desk : Desk) (slot : Slot) (notice : Feed.Notice) :
    (desk.upsert slot notice.channel notice.severity notice.text).board.slot? slot =
      some ((desk.board.slot? slot).getD desk.feed.nextId) := by
  simp only [upsert, Board.upsert, Board.slot?]
  cases hslot : desk.board.slots.get? slot with
  | none => exact (Table.get?_insert _ _ _ _).trans (if_pos rfl)
  | some id => exact hslot

/-- Writing a slot posts its notice or rewrites it. -/
theorem emits_upsert {desk : Desk} (hlive : desk.feed.live = true) (slot : Slot)
    (notice : Feed.Notice) :
    desk.emits (.upsert slot notice.channel notice.severity notice.text) =
      desk.board.writing desk.feed.nextId slot notice := by
  unfold Board.writing
  rcases (effect_perform hlive _).write_cases with ⟨hnone, _, hevents⟩ | ⟨id, hsome, _, hevents⟩
  · rw [hnone, hevents]
  · rw [hsome, hevents]

theorem filterMap_notice?_faults (texts : List String) :
    (texts.map Action.fault).filterMap Action.notice? = texts.map Feed.Notice.fault := by
  rw [List.filterMap_map]
  exact congrFun List.filterMap_eq_map texts

theorem sum_faults_faults (takes : DataKey → Bool) (texts : List String) :
    ((texts.map Action.fault).map (Desk.faults takes)).sum = texts.length := by
  induction texts with
  | nil => rfl
  | cons text rest ih =>
      rw [List.map_cons, List.map_cons, List.sum_cons, ih, List.length_cons, Nat.add_comm]
      rfl

/-- A message that asks for faults and then for a write is reported this way. -/
theorem Reported.decode {desk : Desk} {sent : Message} {faults : List String} {slot : Slot}
    {notice : Feed.Notice}
    (hasks : Reading.message desk.profile sent =
      faults.map .fault ++ [.upsert slot notice.channel notice.severity notice.text]) :
    Reported desk faults slot notice (desk.decode sent) := by
  let counted := { desk with counters := desk.counters.countMessage sent.address.function? }
  let faulted := (faults.map Action.fault).foldl Desk.perform counted
  have hposts : ∀ action ∈ faults.map Action.fault, action.notice? ≠ none := by
    intro action hmem
    obtain ⟨text, _, rfl⟩ := List.mem_map.mp hmem
    exact Option.some_ne_none _
  have posted := Posted.foldl_perform hposts counted
  rw [filterMap_notice?_faults] at posted
  have hnext : faulted.feed.nextId = desk.feed.nextId + faults.length := by
    rw [posted.nextId, List.length_map]
  have hdecode : desk.decode sent =
      faulted.perform (.upsert slot notice.channel notice.severity notice.text) := by
    unfold Desk.decode
    dsimp only
    rw [hasks, List.foldl_append]
    rfl
  have hboard : faulted.board = desk.board := posted.board
  constructor
  · rw [hdecode, board_perform, ← hboard]
    exact Board.signals_upsert _ _ _ _ _ _
  · intro other hother
    have hslot : (Action.upsert slot notice.channel notice.severity notice.text).slot? ≠
        some other := fun heq => hother (Option.some.inj heq)
    rw [hdecode, Board.slot?, faulted.get?_slots_perform hslot, hboard]
    rfl
  · rw [hdecode, ← hnext, ← hboard]
    exact faulted.slot?_upsert slot notice
  · rw [counters_decode, hasks, List.map_append, List.sum_append, sum_faults_faults]
    rfl
  · intro hlive
    have hfaulted : faulted.feed.live = true := (counted.live_foldl_perform _).trans hlive
    rw [hdecode, toList_perform hfaulted, posted.events hlive, emits_upsert hfaulted, hnext, hboard,
      List.append_assoc]

end Desk

end GroundStation
