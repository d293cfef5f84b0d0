import GroundStation.Bridge
import Mathlib.Logic.Function.Basic

/-!
Calls on one bridge that overlap. Starting the reader loop and closing the bridge take several steps
each, and between two steps of a call any other call or the loop may act. What the calls share is the
bridge, with the flags they set and the reading end they hand over, and the note of a loop that a
closing call waits for. Each call has come to some stage. A schedule says who takes the next step, so
that every list of moves is an interleaving.

A call whose steps follow one another without interruption does what the bridge alone does, by
`run_start_alone` and `run_close_alone`. `Sound` is what holds at any time.
-/

namespace GroundStation

namespace Bridge

@[simp]
theorem parked_poll (bridge : Bridge) : bridge.poll.2.parked = bridge.parked := by
  unfold poll
  dsimp only
  split <;> rfl

@[simp]
theorem running_poll (bridge : Bridge) : bridge.poll.2.running = bridge.running := by
  unfold poll
  dsimp only
  split <;> rfl

@[simp]
theorem closed_poll (bridge : Bridge) : bridge.poll.2.closed = bridge.closed := by
  unfold poll
  dsimp only
  split <;> rfl

end Bridge

/-- How far a call has come that starts the reader loop. -/
inductive StartStage where
  | entered
  /-- It found the bridge open. -/
  | admitted
  /-- It found no loop allowed to run and allowed its own to. -/
  | claimed
  /-- It found the reading end gone and is about to take its claim back. -/
  | turnedAway
  /-- It has the reading end. -/
  | holding
  /-- It has the reading end, but there is no loop to use it. It is about to take its claim back. -/
  | stranded (fault : IoFault)
  /-- Its loop is there, but not noted yet. -/
  | spawned
  /-- It has returned, and its loop is there. -/
  | started
  /-- It has returned an error. -/
  | failed (error : LinkError)
deriving DecidableEq

def StartStage.ofResult : Except LinkError Unit → StartStage
  | .ok () => started
  | .error error => failed error

/-- How far a call has come that closes the bridge. -/
inductive CloseStage where
  | entered
  /-- It was the first to mark the bridge as closed. -/
  | marked
  /-- It disallowed any loop. -/
  | stopped
  /-- It took the reading end away, if it was there. -/
  | released
  /-- It waits for the loop that was noted. -/
  | waiting
  | returned
deriving DecidableEq

inductive Caller where
  | starts (stage : StartStage)
  | closes (stage : CloseStage)
deriving DecidableEq

inductive Turn where
  | checking
  | polling
  | ended
deriving DecidableEq, Repr

/-- What the calls on a bridge share. -/
structure Shared where
  bridge : Bridge
  /-- Whether a reader loop is noted that a closing call can wait for. -/
  noted : Bool := false
  /-- All reader loops so far. -/
  loops : List Turn := []

namespace Shared

@[simp]
def setRunning (shared : Shared) (running : Bool) : Shared :=
  { shared with bridge := { shared.bridge with running } }

@[simp]
def markClosed (shared : Shared) : Shared :=
  { shared with bridge := { shared.bridge with closed := true } }

/-- Takes the reading end away. -/
@[simp]
def release (shared : Shared) : Shared :=
  { shared with bridge := { shared.bridge with parked := false } }

def turn (shared : Shared) (place : Nat) : Shared :=
  match shared.loops[place]? with
  | some .checking =>
      let next := if shared.bridge.running then .polling else .ended
      { shared with loops := shared.loops.set place next }
  | some .polling =>
      { shared with bridge := shared.bridge.poll.2, loops := shared.loops.set place .checking }
  | some .ended | none => shared

/-- The bridge stays closed, the reading end stays away, and loops are only added. -/
structure Later (before after : Shared) : Prop where
  closed : before.bridge.closed = true → after.bridge.closed = true
  parked : before.bridge.parked = false → after.bridge.parked = false
  loops : before.loops.length ≤ after.loops.length

theorem Later.parked_of_parked {before after : Shared} (hlater : before.Later after)
    (hparked : after.bridge.parked = true) : before.bridge.parked = true := by
  apply eq_true_of_ne_false
  intro hgone
  exact Bool.false_ne_true ((hlater.parked hgone).symm.trans hparked)

variable (shared : Shared) (place : Nat)

@[simp]
theorem parked_turn : (shared.turn place).bridge.parked = shared.bridge.parked := by
  fun_cases turn shared place <;> simp

@[simp]
theorem running_turn : (shared.turn place).bridge.running = shared.bridge.running := by
  fun_cases turn shared place <;> simp

@[simp]
theorem closed_turn : (shared.turn place).bridge.closed = shared.bridge.closed := by
  fun_cases turn shared place <;> simp

@[simp]
theorem length_loops_turn : (shared.turn place).loops.length = shared.loops.length := by
  fun_cases turn shared place <;> simp

theorem later_turn : shared.Later (shared.turn place) where
  closed := by simp
  parked := by simp
  loops := by simp

end Shared

namespace Caller

/-- The next step of a call. The fault is what keeps a reader loop from coming up, if this is the step
to bring it up. A closing call waits no longer than to its next step. -/
def step (fault? : Option IoFault) (shared : Shared) : Caller → Caller × Shared
  | starts .entered =>
      if shared.bridge.closed then (starts (.failed .closed), shared)
      else (starts .admitted, shared)
  | starts .admitted =>
      if shared.bridge.running then (starts (.failed .alreadyRunning), shared)
      else (starts .claimed, shared.setRunning true)
  | starts .claimed =>
      if shared.bridge.parked then (starts .holding, shared.release)
      else (starts .turnedAway, shared)
  | starts .turnedAway => (starts (.failed .closed), shared.setRunning false)
  | starts .holding =>
      match fault? with
      | none => (starts .spawned, { shared with loops := shared.loops ++ [.checking] })
      | some fault => (starts (.stranded fault), shared)
  | starts (.stranded fault) => (starts (.failed (.io fault)), shared.setRunning false)
  | starts .spawned => (starts .started, { shared with noted := true })
  | starts .started => (starts .started, shared)
  | starts (.failed error) => (starts (.failed error), shared)
  | closes .entered =>
      if shared.bridge.closed then (closes .returned, shared)
      else (closes .marked, shared.markClosed)
  | closes .marked => (closes .stopped, shared.setRunning false)
  | closes .stopped => (closes .released, shared.release)
  | closes .released =>
      if shared.noted then (closes .waiting, { shared with noted := false })
      else (closes .returned, shared)
  | closes .waiting => (closes .returned, shared)
  | closes .returned => (closes .returned, shared)

/-- The call has the reading end, or its loop has it. -/
def holds : Caller → Bool
  | starts .holding | starts .spawned | starts .started => true
  | _ => false

def hasLoop : Caller → Bool
  | starts .spawned | starts .started => true
  | _ => false

/-- The call allowed its loop to run and may yet take that back. -/
def mayWithdraw : Caller → Bool
  | starts .claimed | starts .turnedAway | starts (.stranded _) => true
  | _ => false

def hasAsked (caller : Caller) : Bool :=
  caller.holds || caller.mayWithdraw && caller ≠ starts .claimed

/-- The call closes the bridge and has not taken the reading end away yet. -/
def isClosing : Caller → Bool
  | closes .marked | closes .stopped => true
  | _ => false

def hasClosed : Caller → Bool
  | closes .entered | starts _ => false
  | closes _ => true

/-- The shared state bears the marks of what the call has done. -/
structure Fits (shared : Shared) (caller : Caller) : Prop where
  parked : caller.hasAsked = true → shared.bridge.parked = false
  loops : caller.hasLoop = true → 0 < shared.loops.length
  closed : caller.hasClosed = true → shared.bridge.closed = true

variable {fault? : Option IoFault} {shared after : Shared} {caller : Caller}

theorem hasAsked_of_holds (hholds : caller.holds = true) : caller.hasAsked = true := by
  rw [hasAsked, hholds, Bool.true_or]

theorem hasClosed_of_isClosing : caller.isClosing = true → caller.hasClosed = true := by
  fun_cases isClosing caller <;> simp [hasClosed]

theorem holds_of_hasLoop : caller.hasLoop = true → caller.holds = true := by
  fun_cases hasLoop caller <;> simp [holds]

/-- No call opens the bridge again, brings the reading end back or removes a loop. -/
theorem later_step (fault? : Option IoFault) (shared : Shared) (caller : Caller) :
    shared.Later (caller.step fault? shared).2 := by
  fun_cases step fault? shared caller <;> constructor <;> simp

theorem Fits.later (hfits : caller.Fits shared) (hlater : shared.Later after) :
    caller.Fits after where
  parked := hlater.parked ∘ hfits.parked
  loops hloop := Nat.lt_of_lt_of_le (hfits.loops hloop) hlater.loops
  closed := hlater.closed ∘ hfits.closed

/-- A step of a call keeps what the call has got in line with the bridge. -/
theorem Fits.step (hfits : caller.Fits shared) :
    (caller.step fault? shared).1.Fits (caller.step fault? shared).2 := by
  obtain ⟨hparked, hloops, hclosed⟩ := hfits
  constructor <;> revert hparked hloops hclosed <;> fun_cases Caller.step fault? shared caller <;>
    simp_all [hasAsked, holds, mayWithdraw, hasLoop, hasClosed]

/-- A call gets hold of the reading end only by taking it. -/
theorem holds_of_step :
    (caller.step fault? shared).1.holds = true →
      caller.holds = true ∨ caller = starts .claimed ∧ shared.bridge.parked = true := by
  fun_cases step fault? shared caller <;> simp_all [holds]

/-- A call begins to close the bridge only while the bridge is open. -/
theorem isClosing_of_step :
    (caller.step fault? shared).1.isClosing = true →
      caller.isClosing = true ∨ shared.bridge.closed = false := by
  fun_cases step fault? shared caller <;> simp_all [isClosing]

/-- As long as the reading end is there, the call that closes the bridge is not done. -/
theorem isClosing_step (hcloses : shared.bridge.closed = false ∨ caller.isClosing = true)
    (hclosed : (caller.step fault? shared).2.bridge.closed = true)
    (hparked : (caller.step fault? shared).2.bridge.parked = true) :
    (caller.step fault? shared).1.isClosing = true := by
  revert hcloses hclosed hparked
  fun_cases step fault? shared caller <;> simp_all [isClosing]

theorem hasLoop_step (hloop : caller.hasLoop = true) :
    (caller.step fault? shared).1.hasLoop = true := by
  revert hloop
  fun_cases step fault? shared caller <;> simp_all [hasLoop]

/-- A loop comes up only by a call that holds the reading end. -/
theorem loops_step (fault? : Option IoFault) (shared : Shared) (caller : Caller) :
    (caller.step fault? shared).2.loops = shared.loops ∨
      caller = starts .holding ∧ (caller.step fault? shared).1.hasLoop = true ∧
        (caller.step fault? shared).2.loops = shared.loops ++ [.checking] := by
  fun_cases step fault? shared caller <;> simp_all [hasLoop]

end Caller

structure Traffic (ι : Type) extends Shared where
  callers : ι → Caller

/-- Who takes the next step: a call or a reader loop. -/
inductive Move (ι : Type) where
  | call (caller : ι) (fault? : Option IoFault)
  | loop (place : Nat)
deriving DecidableEq

namespace Traffic

variable {ι : Type}

/-- The bridge was just opened, and no call on it has done anything yet. -/
structure Fresh (traffic : Traffic ι) : Prop where
  parked : traffic.bridge.parked = true
  running : traffic.bridge.running = false
  closed : traffic.bridge.closed = false
  noted : traffic.noted = false
  loops : traffic.loops = []
  entered : ∀ caller,
    traffic.callers caller = .starts .entered ∨ traffic.callers caller = .closes .entered

/-- What holds of the traffic at any time. -/
structure Sound (traffic : Traffic ι) : Prop where
  fits : ∀ caller, (traffic.callers caller).Fits traffic.toShared
  holder : ∀ first second, (traffic.callers first).holds = true →
    (traffic.callers second).holds = true → first = second
  closer : ∀ first second, (traffic.callers first).isClosing = true →
    (traffic.callers second).isClosing = true → first = second
  parked : traffic.bridge.closed = true → traffic.bridge.parked = true →
    ∃ caller, (traffic.callers caller).isClosing = true
  loops : traffic.loops = [] ∨
    traffic.loops.length = 1 ∧ ∃ caller, (traffic.callers caller).hasLoop = true

section

variable {traffic : Traffic ι}

theorem Fresh.eq_false (hfresh : traffic.Fresh) (has : Caller → Bool)
    (hstarts : has (.starts .entered) = false) (hcloses : has (.closes .entered) = false)
    (caller : ι) : has (traffic.callers caller) = false := by
  obtain hentered | hentered := hfresh.entered caller
  · rw [hentered, hstarts]
  · rw [hentered, hcloses]

namespace Sound

/-- A fresh start is sound. -/
theorem start (hfresh : traffic.Fresh) : traffic.Sound where
  fits caller :=
    { parked := by simp [hfresh.eq_false Caller.hasAsked rfl rfl]
      loops := by simp [hfresh.eq_false Caller.hasLoop rfl rfl]
      closed := by simp [hfresh.eq_false Caller.hasClosed rfl rfl] }
  holder := by simp [hfresh.eq_false Caller.holds rfl rfl]
  closer := by simp [hfresh.eq_false Caller.isClosing rfl rfl]
  parked := by simp [hfresh.closed]
  loops := .inl hfresh.loops

/-- Nobody has a reading end that is still there. -/
theorem holds_eq_false (sound : traffic.Sound) (hparked : traffic.bridge.parked = true)
    (caller : ι) : (traffic.callers caller).holds = false := by
  apply eq_false_of_ne_true
  intro hholds
  have hgone := (sound.fits caller).parked (Caller.hasAsked_of_holds hholds)
  exact Bool.false_ne_true (hgone.symm.trans hparked)

theorem isClosing_eq_false (sound : traffic.Sound) (hopen : traffic.bridge.closed = false)
    (caller : ι) : (traffic.callers caller).isClosing = false := by
  apply eq_false_of_ne_true
  intro hcloses
  have hclosed := (sound.fits caller).closed (Caller.hasClosed_of_isClosing hcloses)
  exact Bool.false_ne_true (hopen.symm.trans hclosed)

/-- A call that has the reading end and no loop is the first to bring one up. -/
theorem loops_eq_nil (sound : traffic.Sound) {caller : ι}
    (hholding : traffic.callers caller = .starts .holding) : traffic.loops = [] := by
  obtain hnone | ⟨-, other, hother⟩ := sound.loops
  · exact hnone
  · have hholds : (traffic.callers caller).holds = true := congrArg Caller.holds hholding
    obtain rfl := sound.holder _ _ hholds (Caller.holds_of_hasLoop hother)
    rw [hholding] at hother
    cases hother

/-- As long as the reading end is there, no loop has come up. -/
theorem loops_eq_nil_of_parked (sound : traffic.Sound) (hparked : traffic.bridge.parked = true) :
    traffic.loops = [] := by
  refine sound.loops.resolve_right ?_
  rintro ⟨-, caller, hloop⟩
  have hholds := Caller.holds_of_hasLoop hloop
  exact Bool.false_ne_true ((sound.holds_eq_false hparked caller).symm.trans hholds)

/-- There is never more than one loop. -/
theorem length_loops_le (sound : traffic.Sound) : traffic.loops.length ≤ 1 := by
  obtain hnone | ⟨hone, -⟩ := sound.loops
  · simp [hnone]
  · exact Nat.le_of_eq hone

end Sound

end

variable [DecidableEq ι]

def move (traffic : Traffic ι) : Move ι → Traffic ι
  | .call caller fault? =>
      let (next, shared) := (traffic.callers caller).step fault? traffic.toShared
      { toShared := shared, callers := Function.update traffic.callers caller next }
  | .loop place => { traffic with toShared := traffic.toShared.turn place }

/-- Every schedule keeps the traffic sound. -/
def run (traffic : Traffic ι) (schedule : List (Move ι)) : Traffic ι :=
  schedule.foldl move traffic

section

variable {traffic : Traffic ι} {caller other : ι} {fault? : Option IoFault}

theorem run_append (traffic : Traffic ι) (first second : List (Move ι)) :
    traffic.run (first ++ second) = (traffic.run first).run second :=
  List.foldl_append

/-- Without other calls in between, starting is what it is on the bridge alone. -/
theorem run_start_alone (hentered : traffic.callers caller = .starts .entered) :
    let after := traffic.run (List.replicate 5 (.call caller none))
    after.callers caller = .starts (.ofResult traffic.bridge.start.1) ∧
      after.bridge = traffic.bridge.start.2 := by
  obtain ⟨⟨⟨device, line, receiver, parked, running, closed, counters⟩, noted, loops⟩, callers⟩ :=
    traffic
  cases closed <;> cases running <;> cases parked <;>
    simp_all [run, List.replicate, move, Caller.step, Bridge.start, StartStage.ofResult]

/-- Without other calls in between, closing is what it is on the bridge alone. -/
theorem run_close_alone (hentered : traffic.callers caller = .closes .entered) :
    let after := traffic.run (List.replicate 5 (.call caller none))
    after.callers caller = .closes .returned ∧ after.bridge = traffic.bridge.close := by
  obtain ⟨⟨⟨device, line, receiver, parked, running, closed, counters⟩, noted, loops⟩, callers⟩ :=
    traffic
  cases closed <;> cases noted <;>
    simp_all [run, List.replicate, move, Caller.step, Bridge.close]

theorem callers_move_self :
    (traffic.move (.call caller fault?)).callers caller =
      ((traffic.callers caller).step fault? traffic.toShared).1 :=
  Function.update_self ..

theorem callers_move_of_ne (hne : other ≠ caller) :
    (traffic.move (.call caller fault?)).callers other = traffic.callers other :=
  Function.update_of_ne hne ..

/-- What the step of a call keeps for the call itself, it keeps for every call. -/
theorem callers_move_of_imp {has : Caller → Bool} (hhas : has (traffic.callers other) = true)
    (hkeeps : has (traffic.callers caller) = true →
      has ((traffic.callers caller).step fault? traffic.toShared).1 = true) :
    has ((traffic.move (.call caller fault?)).callers other) = true := by
  obtain rfl | hne := eq_or_ne other caller
  · rw [callers_move_self]
    exact hkeeps hhas
  · rw [callers_move_of_ne hne]
    exact hhas

/-- What at most one call has, at most one has after a step, if the step gives it to a call only where
no call has it. -/
theorem unique_move {has : Caller → Bool}
    (hunique : ∀ first second, has (traffic.callers first) = true →
      has (traffic.callers second) = true → first = second)
    (hgain : has ((traffic.callers caller).step fault? traffic.toShared).1 = true →
      has (traffic.callers caller) = true ∨ ∀ other, has (traffic.callers other) = false)
    (first second : ι) (hfirst : has ((traffic.move (.call caller fault?)).callers first) = true)
    (hsecond : has ((traffic.move (.call caller fault?)).callers second) = true) :
    first = second := by
  have hapart : ∀ other, other ≠ caller → has (traffic.callers other) = true →
      ¬ has ((traffic.move (.call caller fault?)).callers caller) = true := by
    intro other hne hother hnext
    rw [callers_move_self] at hnext
    obtain hbefore | hnone := hgain hnext
    · exact hne (hunique _ _ hother hbefore)
    · exact Bool.false_ne_true ((hnone other).symm.trans hother)
  obtain rfl | hfirstne := eq_or_ne first caller
  · obtain rfl | hsecondne := eq_or_ne second first
    · rfl
    · rw [callers_move_of_ne hsecondne] at hsecond
      exact absurd hfirst (hapart second hsecondne hsecond)
  · rw [callers_move_of_ne hfirstne] at hfirst
    obtain rfl | hsecondne := eq_or_ne second caller
    · exact absurd hsecond (hapart first hfirstne hfirst)
    · rw [callers_move_of_ne hsecondne] at hsecond
      exact hunique _ _ hfirst hsecond

end

namespace Sound

variable {traffic : Traffic ι}

/-- The step of a call keeps the traffic sound. -/
theorem call (sound : traffic.Sound) (caller : ι) (fault? : Option IoFault) :
    (traffic.move (.call caller fault?)).Sound where
  fits other := by
    obtain rfl | hne := eq_or_ne other caller
    · rw [callers_move_self]
      exact (sound.fits other).step
    · rw [callers_move_of_ne hne]
      exact (sound.fits other).later (Caller.later_step ..)
  holder := by
    apply unique_move sound.holder
    intro hgain
    exact (Caller.holds_of_step hgain).imp_right fun htakes => sound.holds_eq_false htakes.2
  closer := by
    apply unique_move sound.closer
    intro hgain
    exact (Caller.isClosing_of_step hgain).imp_right sound.isClosing_eq_false
  parked := by
    intro hclosed hparked
    cases hopen : traffic.bridge.closed with
    | false =>
        refine ⟨caller, ?_⟩
        rw [callers_move_self]
        exact Caller.isClosing_step (.inl hopen) hclosed hparked
    | true =>
        have hbefore := (Caller.later_step fault? traffic.toShared
          (traffic.callers caller)).parked_of_parked hparked
        obtain ⟨other, hother⟩ := sound.parked hopen hbefore
        exact ⟨other, callers_move_of_imp hother fun hcloses =>
          Caller.isClosing_step (.inr hcloses) hclosed hparked⟩
  loops := by
    obtain hsame | ⟨hholding, hloop, hmore⟩ :=
      Caller.loops_step fault? traffic.toShared (traffic.callers caller)
    · refine (sound.loops.imp hsame.trans ?_)
      rintro ⟨hone, other, hother⟩
      exact ⟨(congrArg List.length hsame).trans hone, other,
        callers_move_of_imp hother Caller.hasLoop_step⟩
    · right
      rw [sound.loops_eq_nil hholding] at hmore
      refine ⟨congrArg List.length hmore, caller, ?_⟩
      rw [callers_move_self]
      exact hloop

/-- The turn of a loop keeps the traffic sound. -/
theorem loop (sound : traffic.Sound) (place : Nat) : (traffic.move (.loop place)).Sound where
  fits caller := (sound.fits caller).later (traffic.toShared.later_turn place)
  holder := sound.holder
  closer := sound.closer
  parked hclosed hparked :=
    sound.parked ((traffic.toShared.closed_turn place).symm.trans hclosed)
      ((traffic.toShared.parked_turn place).symm.trans hparked)
  loops := by
    have hlength := traffic.toShared.length_loops_turn place
    obtain hnone | ⟨hone, hloop⟩ := sound.loops
    · rw [hnone] at hlength
      exact .inl (List.eq_nil_of_length_eq_zero hlength)
    · exact .inr ⟨hlength.trans hone, hloop⟩

theorem move (sound : traffic.Sound) (next : Move ι) : (traffic.move next).Sound := by
  cases next with
  | call caller fault? => exact sound.call caller fault?
  | loop place => exact sound.loop place

theorem run (sound : traffic.Sound) (schedule : List (Move ι)) : (traffic.run schedule).Sound := by
  induction schedule generalizing traffic with
  | nil => exact sound
  | cons first rest ih => exact ih (sound.move first)

end Sound

end Traffic

end GroundStation
