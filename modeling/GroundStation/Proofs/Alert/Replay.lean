import GroundStation.Alert.Feed
import GroundStation.Table

/-!
What the operator sees. The events of the feed, taken one after the other, post notices by handle and
change their texts and severities. The operator sees exactly the notices that were posted, and an
event leaves every notice alone that it does not name.
-/

namespace GroundStation

namespace Feed

namespace Event

def posted? : Event → Option Nat
  | .post id _ _ _ => some id
  | .text _ _ | .severity _ _ | .sample _ _ => none

def changed? : Event → Option Nat
  | .text id _ | .severity id _ => some id
  | .post _ _ _ _ | .sample _ _ => none

end Event

def posted (events : List Event) : List Nat :=
  events.filterMap Event.posted?

/-- Every change is of a notice that was posted before it. -/
def ChangesFollowPosts (events : List Event) : Prop :=
  ∀ (before later : List Event) (event : Event) (id : Nat),
    events = before ++ event :: later → event.changed? = some id → id ∈ posted before

/-- A notice as the operator sees it. -/
structure Notice where
  channel : Channel
  severity : Severity
  text : String
deriving DecidableEq, Repr

def Notice.content (notice : Notice) : Severity × String :=
  (notice.severity, notice.text)

/-- The notices with the one of the given handle changed, if there is one. -/
def revise (notices : Table Nat Notice) (id : Nat) (change : Notice → Notice) : Table Nat Notice :=
  match notices.get? id with
  | some notice => notices.insert id (change notice)
  | none => notices

/-- The notices by handle, after one more event. -/
def reflect (notices : Table Nat Notice) : Event → Table Nat Notice
  | .post id channel severity text => notices.insert id { channel, severity, text }
  | .text id text => revise notices id fun notice => { notice with text }
  | .severity id severity => revise notices id fun notice => { notice with severity }
  | .sample _ _ => notices

def replay (events : List Event) : Table Nat Notice :=
  events.foldl reflect {}

theorem posted_append (earlier later : List Event) :
    posted (earlier ++ later) = posted earlier ++ posted later :=
  List.filterMap_append

theorem replay_append (earlier later : List Event) :
    replay (earlier ++ later) = later.foldl reflect (replay earlier) :=
  List.foldl_append

/-- Later events may change what earlier ones posted. -/
theorem ChangesFollowPosts.append {earlier later : List Event}
    (hearlier : ChangesFollowPosts earlier)
    (hlater : ∀ event ∈ later, ∀ id, event.changed? = some id → id ∈ posted earlier) :
    ChangesFollowPosts (earlier ++ later) := by
  intro before rest event id hsplit hchanged
  rcases List.append_eq_append_iff.mp hsplit with ⟨passed, rfl, hrest⟩ | ⟨left, hleft, hrest⟩
  · rw [posted_append]
    apply List.mem_append_left
    apply hlater event _ id hchanged
    rw [hrest]
    exact List.mem_append_right _ List.mem_cons_self
  · cases left with
    | nil =>
        rw [List.append_nil] at hleft
        subst hleft
        apply hlater event _ id hchanged
        rw [← List.nil_append later, ← hrest]
        exact List.mem_cons_self
    | cons head tail =>
        obtain ⟨rfl, -⟩ := List.cons.inj hrest
        exact hearlier before tail event id hleft hchanged

/-- A revision reaches the notice with its handle and no other. -/
theorem get?_revise (notices : Table Nat Notice) (id other : Nat) (change : Notice → Notice) :
    (revise notices id change).get? other =
      if id = other then (notices.get? other).map change else notices.get? other := by
  unfold revise
  by_cases hid : id = other
  · subst hid
    cases hnotice : notices.get? id with
    | none => simp [hnotice]
    | some notice => simp [Table.get?_insert]
  · cases notices.get? id with
    | none => simp [hid]
    | some notice => simp [Table.get?_insert, hid]

/-- An event that is about another notice leaves this one as it is. -/
theorem get?_reflect_of_ne (notices : Table Nat Notice) {event : Event} {id : Nat}
    (hposted : event.posted? ≠ some id) (hchanged : event.changed? ≠ some id) :
    (reflect notices event).get? id = notices.get? id := by
  cases event with
  | post other channel severity text =>
      have hother : other ≠ id := fun heq => hposted (congrArg some heq)
      rw [reflect, Table.get?_insert, if_neg hother]
  | text other text =>
      have hother : other ≠ id := fun heq => hchanged (congrArg some heq)
      rw [reflect, get?_revise, if_neg hother]
  | severity other severity =>
      have hother : other ≠ id := fun heq => hchanged (congrArg some heq)
      rw [reflect, get?_revise, if_neg hother]
  | sample key value => rfl

/-- Events that are all about other notices leave this one as it is. -/
theorem get?_foldl_reflect_of_ne (notices : Table Nat Notice) {events : List Event} {id : Nat}
    (hother : ∀ event ∈ events, event.posted? ≠ some id ∧ event.changed? ≠ some id) :
    (events.foldl reflect notices).get? id = notices.get? id := by
  induction events generalizing notices with
  | nil => rfl
  | cons event rest ih =>
      obtain ⟨⟨hposted, hchanged⟩, hrest⟩ := List.forall_mem_cons.mp hother
      rw [List.foldl_cons, ih _ hrest, get?_reflect_of_ne notices hposted hchanged]

/-- A notice is seen after an event if it was seen before or the event posts it. -/
theorem isSome_get?_reflect (notices : Table Nat Notice) (event : Event) (id : Nat) :
    ((reflect notices event).get? id).isSome =
      ((notices.get? id).isSome || event.posted? == some id) := by
  cases event with
  | post other channel severity text =>
      rw [reflect, Table.get?_insert]
      by_cases hother : other = id <;> simp [Event.posted?, hother]
  | text other text =>
      rw [reflect, get?_revise]
      by_cases hother : other = id <;> simp [Event.posted?, hother]
  | severity other severity =>
      rw [reflect, get?_revise]
      by_cases hother : other = id <;> simp [Event.posted?, hother]
  | sample key value => simp [reflect, Event.posted?]

/-- The operator sees exactly the notices that were posted. -/
theorem isSome_get?_replay (events : List Event) (id : Nat) :
    ((replay events).get? id).isSome ↔ id ∈ posted events := by
  suffices hall : ∀ notices : Table Nat Notice,
      ((events.foldl reflect notices).get? id).isSome ↔
        (notices.get? id).isSome ∨ id ∈ posted events by
    refine (hall .empty).trans ?_
    rw [Table.get?_empty]
    simp
  induction events with
  | nil => simp [posted]
  | cons event rest ih =>
      intro notices
      rw [List.foldl_cons, ih, isSome_get?_reflect]
      simp only [posted, List.filterMap_cons, Bool.or_eq_true, beq_iff_eq]
      cases event.posted? with
      | none => simp
      | some other => rw [Option.some.injEq, List.mem_cons, or_assoc, @eq_comm _ other id]

end Feed

end GroundStation
