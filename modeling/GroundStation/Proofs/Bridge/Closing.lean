import GroundStation.Proofs.Bridge.Traffic
import Mathlib.Data.List.Induction

/-!
What closing does to a reader loop when calls overlap. The flag that closes the bridge and the flag
that lets loops run are set in different orders: a call that starts the loop reads the first and then
sets the second, a call that closes the bridge sets the first and then clears the second. So a claim
of the starting call can come after the closing call has disallowed loops. It comes to nothing if the
reading end is gone by then, or if another claim is on the way: one of the two calls is turned away
and disallows loops again. Otherwise the loop comes up on a closed bridge, and nothing stops it.

`Trail` traces loops that may run on a closed bridge back to such a claim. `Lone` follows the claim to
its loop.
-/

namespace GroundStation

namespace Turn

/-- How many turns are left to a loop that may not run any more. -/
def rest : Turn → Nat
  | polling => 2
  | checking => 1
  | ended => 0

theorem rest_le (turn : Turn) : turn.rest ≤ 2 := by
  cases turn <;> decide

theorem eq_ended_of_rest {turn : Turn} : turn.rest = 0 → turn = ended := by
  cases turn <;> simp [rest]

end Turn

namespace Shared

/-- A loop that may not run ends at its next check. -/
theorem rest_turn {shared : Shared} (hrunning : shared.bridge.running = false) {place : Nat}
    {now : Turn} (hnow : shared.loops[place]? = some now) (other : Nat) :
    ∃ next, (shared.turn other).loops[place]? = some next ∧
      next.rest = now.rest - if other = place then 1 else 0 := by
  obtain rfl | hother := eq_or_ne other place
  · have hplace := (List.getElem?_eq_some_iff.mp hnow).1
    cases now with
    | checking =>
        refine ⟨.ended, ?_, by simp [Turn.rest]⟩
        rw [turn, hnow]
        simp [hrunning, hplace]
    | polling =>
        refine ⟨.checking, ?_, by simp [Turn.rest]⟩
        rw [turn, hnow]
        simp [hplace]
    | ended =>
        refine ⟨.ended, ?_, by simp [Turn.rest]⟩
        rw [turn, hnow]
        exact hnow
  · refine ⟨now, ?_, by simp [hother]⟩
    rw [← hnow]
    fun_cases turn shared other <;> simp [List.getElem?_set_ne hother]

/-- A loop does not end as long as loops may run. -/
theorem ended_not_mem_turn {shared : Shared} (hrunning : shared.bridge.running = true)
    (hliving : .ended ∉ shared.loops) (place : Nat) : .ended ∉ (shared.turn place).loops := by
  fun_cases turn shared place with
  | case1 hchecking next =>
      intro hended
      obtain hended | hended := List.mem_or_eq_of_mem_set hended
      · exact hliving hended
      · rw [show next = .polling from if_pos hrunning] at hended
        cases hended
  | case2 hpolling =>
      intro hended
      obtain hended | hended := List.mem_or_eq_of_mem_set hended
      · exact hliving hended
      · cases hended
  | case3 => exact hliving
  | case4 => exact hliving

end Shared

namespace Caller

def isIdle : Caller → Bool
  | starts .entered | starts .started | starts (.failed _) => true
  | closes .entered | closes .returned => true
  | _ => false

/-- The call will not end with a reader loop. -/
def Fails (shared : Shared) : Caller → Prop
  | starts .claimed => shared.bridge.parked = false
  | starts .turnedAway | starts (.stranded _) | starts (.failed _) => True
  | _ => False

variable {fault? : Option IoFault} {shared after : Shared} {caller : Caller}

/-- Once a call is bound to fail, it fails. -/
theorem Fails.later (hfails : caller.Fails shared) (hlater : shared.Later after) :
    caller.Fails after := by
  have hparked := hlater.parked
  revert hfails
  fun_cases Fails shared caller <;> simp_all [Fails]

/-- A call that is bound to fail stays so. -/
theorem Fails.step (hfails : caller.Fails shared) :
    (caller.step fault? shared).1.Fails (caller.step fault? shared).2 := by
  revert hfails
  fun_cases Caller.step fault? shared caller <;> simp_all [Fails]

/-- Only a call that closes the bridge marks it as closed. -/
theorem closed_of_step :
    (caller.step fault? shared).2.bridge.closed = true →
      shared.bridge.closed = true ∨ (caller.step fault? shared).1 = closes .marked := by
  fun_cases step fault? shared caller <;> simp_all

/-- A call that closes the bridge found it open. -/
theorem open_of_step :
    (caller.step fault? shared).1 = closes .marked → shared.bridge.closed = false := by
  fun_cases step fault? shared caller <;> simp_all

/-- Loops are allowed by an admitted call on a bridge where none was allowed. -/
theorem running_of_step :
    (caller.step fault? shared).2.bridge.running = true →
      shared.bridge.running = true ∨ caller = starts .admitted ∧ shared.bridge.running = false := by
  fun_cases step fault? shared caller <;> simp_all

/-- Only a call that takes its claim back and a closing call disallow loops. -/
theorem running_step (fault? : Option IoFault) (caller : Caller)
    (hrunning : shared.bridge.running = true) :
    (caller.step fault? shared).2.bridge.running = true ∨
      caller.mayWithdraw = true ∨ caller = closes .marked := by
  fun_cases step fault? shared caller <;> simp_all [mayWithdraw]

/-- The claim of a call is taken back or leads to the reading end. -/
theorem mayWithdraw_step (fault? : Option IoFault) (shared : Shared)
    (hmay : caller.mayWithdraw = true) :
    (caller.step fault? shared).1.mayWithdraw = true ∨
      (caller.step fault? shared).2.bridge.running = false ∨
      caller = starts .claimed ∧ shared.bridge.parked = true ∧
        (caller.step fault? shared).1.holds = true := by
  revert hmay
  fun_cases step fault? shared caller <;> simp_all [mayWithdraw, holds]

theorem mayWithdraw_of_step :
    (caller.step fault? shared).1.mayWithdraw = true →
      caller.mayWithdraw = true ∨ shared.bridge.running = false ∨ caller.holds = true := by
  fun_cases step fault? shared caller <;> simp_all [mayWithdraw, holds]

/-- A call whose way to the reading end is free goes on to its loop, if the loop comes up. -/
theorem secure_step (fault? : Option IoFault) (hrunning : shared.bridge.running = true)
    (hsecure : caller.holds = true ∨ caller = starts .claimed ∧ shared.bridge.parked = true) :
    ((caller.step fault? shared).1.holds = true ∧
        (caller.step fault? shared).2.bridge.running = true) ∨
      ∃ fault, (caller.step fault? shared).1 = starts (.stranded fault) := by
  revert hsecure
  fun_cases step fault? shared caller <;> simp_all [holds]

theorem ended_not_mem_step (fault? : Option IoFault) (caller : Caller)
    (hliving : .ended ∉ shared.loops) : .ended ∉ (caller.step fault? shared).2.loops := by
  obtain hsame | ⟨-, -, hmore⟩ := loops_step fault? shared caller
  · rw [hsame]
    exact hliving
  · simp [hmore, hliving]

/-- On a closed bridge, a call that begins returns at once. -/
theorem step_of_isIdle (fault? : Option IoFault) (hidle : caller.isIdle = true)
    (hclosed : shared.bridge.closed = true) :
    (caller.step fault? shared).1.isIdle = true ∧ (caller.step fault? shared).2 = shared := by
  revert hidle
  fun_cases step fault? shared caller <;> simp_all [isIdle]

theorem mayWithdraw_eq_false_of_isIdle : caller.isIdle = true → caller.mayWithdraw = false := by
  fun_cases isIdle caller <;> simp [mayWithdraw]

theorem eq_started_of_isIdle (hholds : caller.holds = true) :
    caller.isIdle = true → caller = starts .started := by
  revert hholds
  fun_cases isIdle caller <;> simp [holds]

theorem eq_stopped_of_isClosing (hmarked : caller ≠ closes .marked) :
    caller.isClosing = true → caller = closes .stopped := by
  fun_cases isClosing caller <;> simp_all

theorem hasAsked_of_mayWithdraw (hclaimed : caller ≠ starts .claimed)
    (hmay : caller.mayWithdraw = true) : caller.hasAsked = true := by
  simp [hasAsked, hmay, hclaimed]

end Caller

namespace Traffic

variable {ι : Type}

/-- Some call has closed the bridge, and every call that has begun has returned. -/
structure Settled (traffic : Traffic ι) : Prop where
  closed : ∃ caller, traffic.callers caller = .closes .returned
  idle : ∀ caller, (traffic.callers caller).isIdle = true

/-- The bridge is closed, and the call that closed it has disallowed loops. -/
structure Stopped (traffic : Traffic ι) : Prop where
  closed : traffic.bridge.closed = true
  stored : ∀ caller, traffic.callers caller ≠ .closes .marked

/-- A call that found the bridge open is about to allow its loop to run, after the closing call has
disallowed loops and before it takes the reading end away. No other call is on its way to the reading
end. -/
structure Slips (traffic : Traffic ι) (caller : ι) : Prop where
  admitted : traffic.callers caller = .starts .admitted
  running : traffic.bridge.running = false
  closing : ∃ other, traffic.callers other = .closes .stopped
  alone : ∀ other, traffic.callers other ≠ .starts .claimed

/-- Where a closed bridge on which loops may still run got that from. As long as the reading end is
there, it is from a claim, and if that claim is the only one, its call slipped in. Later it is from a
call that may take its claim back, or from one that slipped in and has the reading end. -/
structure Trail (slipped : ι → Prop) (traffic : Traffic ι) : Prop where
  claim : traffic.Stopped → traffic.bridge.running = true → traffic.bridge.parked = true →
    ∃ caller, traffic.callers caller = .starts .claimed ∧
      ((∀ other ≠ caller, traffic.callers other ≠ .starts .claimed) → slipped caller)
  loop : traffic.Stopped → traffic.bridge.running = true →
    (∃ caller, (traffic.callers caller).mayWithdraw = true) ∨
      ∃ caller, (traffic.callers caller).holds = true ∧ slipped caller

variable [DecidableEq ι]

/-- The call slips in at some step of the schedule. -/
def SlipsIn (traffic : Traffic ι) (schedule : List (Move ι)) (caller : ι) : Prop :=
  ∃ place fault?, schedule[place]? = some (.call caller fault?) ∧
    (traffic.run (schedule.take place)).Slips caller

section

variable {traffic : Traffic ι} {caller : ι} {fault? : Option IoFault}

/-- No step of a call makes a stopped bridge any less so. -/
theorem Stopped.call (hstopped : traffic.Stopped) :
    (traffic.move (.call caller fault?)).Stopped := by
  refine ⟨(Caller.later_step ..).closed hstopped.closed, ?_⟩
  intro other hmarked
  obtain rfl | hne := eq_or_ne other caller
  · rw [callers_move_self] at hmarked
    have hopen := Caller.open_of_step hmarked
    exact Bool.false_ne_true (hopen.symm.trans hstopped.closed)
  · rw [callers_move_of_ne hne] at hmarked
    exact hstopped.stored other hmarked

/-- If loops may run after the step of a call on a closed bridge, they might before, or the step is a
claim. -/
theorem Stopped.of_call (hstopped : (traffic.move (.call caller fault?)).Stopped)
    (hrunning : (traffic.move (.call caller fault?)).bridge.running = true) :
    traffic.Stopped ∧ (traffic.bridge.running = true ∨
      traffic.callers caller = .starts .admitted ∧ traffic.bridge.running = false) := by
  have hself := hstopped.stored caller
  rw [callers_move_self] at hself
  refine ⟨⟨?_, ?_⟩, Caller.running_of_step hrunning⟩
  · exact (Caller.closed_of_step hstopped.closed).resolve_right hself
  · intro other hmarked
    obtain rfl | hne := eq_or_ne other caller
    · have hstores : ((traffic.callers other).step fault? traffic.toShared).2.bridge.running =
          false := by rw [hmarked]; rfl
      exact Bool.false_ne_true (hstores.symm.trans hrunning)
    · exact hstopped.stored other ((callers_move_of_ne hne).trans hmarked)

/-- A claim asks for the reading end. -/
theorem ne_claimed_of_parked_move
    (hparked : (traffic.move (.call caller fault?)).bridge.parked = true) :
    traffic.callers caller ≠ .starts .claimed := by
  intro hclaimed
  have hgone : ((traffic.callers caller).step fault? traffic.toShared).2.bridge.parked = false := by
    rw [hclaimed, Caller.step]
    split <;> simp_all
  exact Bool.false_ne_true (hgone.symm.trans hparked)

theorem callers_move_of_admitted (fault? : Option IoFault)
    (hadmitted : traffic.callers caller = .starts .admitted)
    (hrunning : traffic.bridge.running = false) :
    (traffic.move (.call caller fault?)).callers caller = .starts .claimed := by
  rw [callers_move_self, hadmitted, Caller.step, if_neg (by simp [hrunning])]

namespace SlipsIn

theorem append {schedule : List (Move ι)} (hslips : traffic.SlipsIn schedule caller)
    (later : List (Move ι)) : traffic.SlipsIn (schedule ++ later) caller := by
  obtain ⟨place, fault?, hmove, hslips⟩ := hslips
  have hplace : place < schedule.length := (List.getElem?_eq_some_iff.mp hmove).1
  refine ⟨place, fault?, ?_, ?_⟩
  · rw [List.getElem?_append_left hplace, hmove]
  · rw [List.take_append_of_le_length (Nat.le_of_lt hplace)]
    exact hslips

theorem concat {schedule : List (Move ι)} (hslips : (traffic.run schedule).Slips caller)
    (fault? : Option IoFault) : traffic.SlipsIn (schedule ++ [.call caller fault?]) caller := by
  refine ⟨schedule.length, fault?, List.getElem?_concat_length, ?_⟩
  rw [List.take_left]
  exact hslips

end SlipsIn

end

namespace Trail

variable {traffic : Traffic ι} {slipped : ι → Prop}

omit [DecidableEq ι] in
theorem mono {after : ι → Prop} (trail : Trail slipped traffic)
    (hafter : ∀ caller, slipped caller → after caller) : Trail after traffic where
  claim hstopped hrunning hparked := by
    obtain ⟨caller, hclaimed, honly⟩ := trail.claim hstopped hrunning hparked
    exact ⟨caller, hclaimed, fun halone => hafter caller (honly halone)⟩
  loop hstopped hrunning := by
    refine (trail.loop hstopped hrunning).imp_right ?_
    rintro ⟨caller, hholds, hslipped⟩
    exact ⟨caller, hholds, hafter caller hslipped⟩

theorem claim_call (sound : traffic.Sound) (trail : Trail slipped traffic) {caller : ι}
    {fault? : Option IoFault} (hslips : traffic.Slips caller → slipped caller)
    (hstopped : (traffic.move (.call caller fault?)).Stopped)
    (hrunning : (traffic.move (.call caller fault?)).bridge.running = true)
    (hparked : (traffic.move (.call caller fault?)).bridge.parked = true) :
    ∃ first, (traffic.move (.call caller fault?)).callers first = .starts .claimed ∧
      ((∀ other ≠ first, (traffic.move (.call caller fault?)).callers other ≠ .starts .claimed) →
        slipped first) := by
  have hbefore := (Caller.later_step fault? traffic.toShared
    (traffic.callers caller)).parked_of_parked hparked
  have hself := ne_claimed_of_parked_move hparked
  have hothers : ∀ first, (∀ other ≠ first,
      (traffic.move (.call caller fault?)).callers other ≠ .starts .claimed) →
      ∀ other ≠ first, traffic.callers other ≠ .starts .claimed := by
    intro first halone other hne hclaimed
    obtain rfl | hcaller := eq_or_ne other caller
    · exact hself hclaimed
    · exact halone other hne ((callers_move_of_ne hcaller).trans hclaimed)
  obtain ⟨hstill, hran | ⟨hadmitted, hidle⟩⟩ := hstopped.of_call hrunning
  · obtain ⟨first, hclaimed, honly⟩ := trail.claim hstill hran hbefore
    have hne : first ≠ caller := by
      rintro rfl
      exact hself hclaimed
    exact ⟨first, (callers_move_of_ne hne).trans hclaimed,
      fun halone => honly (hothers first halone)⟩
  · refine ⟨caller, callers_move_of_admitted fault? hadmitted hidle, fun halone => hslips ?_⟩
    obtain ⟨closer, hcloser⟩ := sound.parked hstill.closed hbefore
    refine ⟨hadmitted, hidle, ?_, ?_⟩
    · exact ⟨closer, Caller.eq_stopped_of_isClosing (hstill.stored closer) hcloser⟩
    · intro other
      obtain rfl | hne := eq_or_ne other caller
      · exact hself
      · exact hothers caller halone other hne

/-- A claim that leads to the reading end slipped in, unless another claim is left behind. -/
theorem loop_of_taking (trail : Trail slipped traffic) {caller : ι} {fault? : Option IoFault}
    (hstopped : traffic.Stopped) (hrunning : traffic.bridge.running = true)
    (hclaimed : traffic.callers caller = .starts .claimed)
    (hparked : traffic.bridge.parked = true)
    (htook : ((traffic.move (.call caller fault?)).callers caller).holds = true) :
    (∃ first, ((traffic.move (.call caller fault?)).callers first).mayWithdraw = true) ∨
      ∃ first, ((traffic.move (.call caller fault?)).callers first).holds = true ∧
        slipped first := by
  by_cases hothers : ∃ other ≠ caller, traffic.callers other = .starts .claimed
  · obtain ⟨other, hne, hother⟩ := hothers
    refine .inl ⟨other, ?_⟩
    rw [callers_move_of_ne hne, hother]
    rfl
  · have halone : ∀ other ≠ caller, traffic.callers other ≠ .starts .claimed :=
      fun other hne hother => hothers ⟨other, hne, hother⟩
    obtain ⟨first, hfirst, honly⟩ := trail.claim hstopped hrunning hparked
    obtain rfl : first = caller := by
      by_contra hne
      exact halone first hne hfirst
    exact .inr ⟨first, htook, honly halone⟩

theorem loop_call (trail : Trail slipped traffic) {caller : ι} {fault? : Option IoFault}
    (hstopped : (traffic.move (.call caller fault?)).Stopped)
    (hrunning : (traffic.move (.call caller fault?)).bridge.running = true) :
    (∃ first, ((traffic.move (.call caller fault?)).callers first).mayWithdraw = true) ∨
      ∃ first, ((traffic.move (.call caller fault?)).callers first).holds = true ∧
        slipped first := by
  obtain ⟨hstill, hran | ⟨hadmitted, hidle⟩⟩ := hstopped.of_call hrunning
  · obtain ⟨first, hmay⟩ | ⟨first, hholds, hslipped⟩ := trail.loop hstill hran
    · obtain rfl | hne := eq_or_ne first caller
      · have hcases := Caller.mayWithdraw_step fault? traffic.toShared hmay
        rw [← callers_move_self] at hcases
        obtain hkept | hstored | ⟨hclaimed, hparked, htook⟩ := hcases
        · exact .inl ⟨first, hkept⟩
        · exact absurd (hstored.symm.trans hrunning) Bool.false_ne_true
        · exact trail.loop_of_taking hstill hran hclaimed hparked htook
      · refine .inl ⟨first, ?_⟩
        rw [callers_move_of_ne hne]
        exact hmay
    · obtain rfl | hne := eq_or_ne first caller
      · obtain ⟨hkept, -⟩ | ⟨fault, hstranded⟩ := Caller.secure_step fault? hran (.inl hholds)
        · refine .inr ⟨first, ?_, hslipped⟩
          rw [callers_move_self]
          exact hkept
        · refine .inl ⟨first, ?_⟩
          rw [callers_move_self, hstranded]
          rfl
      · refine .inr ⟨first, ?_, hslipped⟩
        rw [callers_move_of_ne hne]
        exact hholds
  · refine .inl ⟨caller, ?_⟩
    rw [callers_move_of_admitted fault? hadmitted hidle]
    rfl

theorem loop_turn (trail : Trail slipped traffic) (place : Nat) :
    Trail slipped (traffic.move (.loop place)) := by
  have hclosed := traffic.toShared.closed_turn place
  have hrunning := traffic.toShared.running_turn place
  have hparked := traffic.toShared.parked_turn place
  constructor
  · intro hstopped hran hthere
    exact trail.claim ⟨hclosed.symm.trans hstopped.closed, hstopped.stored⟩
      (hrunning.symm.trans hran) (hparked.symm.trans hthere)
  · intro hstopped hran
    exact trail.loop ⟨hclosed.symm.trans hstopped.closed, hstopped.stored⟩
      (hrunning.symm.trans hran)

/-- In every run from a fresh start, loops that may run on a stopped bridge lead back to a call that
slipped in or may yet take its claim back. -/
theorem run (hfresh : traffic.Fresh) (schedule : List (Move ι)) :
    Trail (traffic.SlipsIn schedule) (traffic.run schedule) := by
  induction schedule using List.reverseRecOn with
  | nil =>
      have hopen : ¬ traffic.Stopped := by
        intro hstopped
        exact Bool.false_ne_true (hfresh.closed.symm.trans hstopped.closed)
      exact ⟨fun hstopped => absurd hstopped hopen, fun hstopped => absurd hstopped hopen⟩
  | append_singleton schedule last ih =>
      have sound := (Sound.start hfresh).run schedule
      have trail := ih.mono fun caller hslips => hslips.append [last]
      rw [run_append]
      cases last with
      | call caller fault? =>
          constructor
          · exact trail.claim_call sound fun hslips => .concat hslips fault?
          · exact trail.loop_call
      | loop place => exact trail.loop_turn place

end Trail

/-- A call has slipped in and is on its way to a reader loop, or has brought it up. No other call
stands in its way any more. -/
structure Lone (traffic : Traffic ι) (caller : ι) : Prop where
  stopped : traffic.Stopped
  running : traffic.bridge.running = true
  secure : (traffic.callers caller).holds = true ∨
    traffic.callers caller = .starts .claimed ∧ traffic.bridge.parked = true
  others : ∀ other ≠ caller, (traffic.callers other).mayWithdraw = false
  living : .ended ∉ traffic.loops

/-- What is to become of a call that slipped in: it keeps its way free, or it fails. -/
def Decided (traffic : Traffic ι) (caller : ι) : Prop :=
  traffic.Lone caller ∨ (traffic.callers caller).Fails traffic.toShared

namespace Slips

variable {traffic : Traffic ι} {caller : ι}

omit [DecidableEq ι] in
theorem stopped (sound : traffic.Sound) (hslips : traffic.Slips caller) : traffic.Stopped := by
  obtain ⟨closer, hcloser⟩ := hslips.closing
  have hcloses : (traffic.callers closer).isClosing = true := congrArg Caller.isClosing hcloser
  refine ⟨(sound.fits closer).closed (Caller.hasClosed_of_isClosing hcloses), ?_⟩
  intro other hmarked
  obtain rfl := sound.closer other closer (congrArg Caller.isClosing hmarked) hcloses
  rw [hcloser] at hmarked
  cases hmarked

omit [DecidableEq ι] in
theorem mayWithdraw_eq_false (sound : traffic.Sound) (hslips : traffic.Slips caller)
    (hparked : traffic.bridge.parked = true) (other : ι) :
    (traffic.callers other).mayWithdraw = false := by
  apply eq_false_of_ne_true
  intro hmay
  have hasked := Caller.hasAsked_of_mayWithdraw (hslips.alone other) hmay
  exact Bool.false_ne_true (((sound.fits other).parked hasked).symm.trans hparked)

/-- The call that slips in has its way free, unless the reading end is gone already. -/
theorem call (sound : traffic.Sound) (hslips : traffic.Slips caller) (fault? : Option IoFault) :
    (traffic.move (.call caller fault?)).Decided caller := by
  have hclaimed := callers_move_of_admitted fault? hslips.admitted hslips.running
  have hshared : (traffic.move (.call caller fault?)).toShared =
      traffic.toShared.setRunning true := by
    simp [move, hslips.admitted, Caller.step, hslips.running]
  cases hparked : traffic.bridge.parked with
  | false =>
      right
      rw [hclaimed, hshared]
      exact hparked
  | true =>
      left
      refine ⟨(hslips.stopped sound).call, ?_, .inr ⟨hclaimed, ?_⟩, ?_, ?_⟩
      · rw [hshared]
        rfl
      · rw [hshared]
        exact hparked
      · intro other hne
        rw [callers_move_of_ne hne]
        exact hslips.mayWithdraw_eq_false sound hparked other
      · apply Caller.ended_not_mem_step
        simp [sound.loops_eq_nil_of_parked hparked]

end Slips

namespace Lone

variable {traffic : Traffic ι} {caller : ι}

theorem call_self (lone : traffic.Lone caller) (fault? : Option IoFault) :
    (traffic.move (.call caller fault?)).Decided caller := by
  have hcases := Caller.secure_step fault? lone.running lone.secure
  rw [← callers_move_self] at hcases
  obtain ⟨hholds, hrunning⟩ | ⟨fault, hstranded⟩ := hcases
  · left
    refine ⟨lone.stopped.call, hrunning, .inl hholds, ?_, ?_⟩
    · intro other hne
      rw [callers_move_of_ne hne]
      exact lone.others other hne
    · exact Caller.ended_not_mem_step _ _ lone.living
  · right
    rw [hstranded]
    trivial

/-- A call that takes a step while another has its way free cannot disallow loops. -/
theorem call_of_ne (sound : traffic.Sound) (lone : traffic.Lone caller) {other : ι}
    (hne : other ≠ caller) (fault? : Option IoFault) :
    (traffic.move (.call other fault?)).Decided caller := by
  have hholds : (traffic.callers other).holds = false := by
    apply eq_false_of_ne_true
    intro hother
    obtain hcaller | ⟨-, hparked⟩ := lone.secure
    · exact hne (sound.holder _ _ hother hcaller)
    · exact Bool.false_ne_true ((sound.holds_eq_false hparked other).symm.trans hother)
  have hrunning : (traffic.move (.call other fault?)).bridge.running = true := by
    refine (Caller.running_step fault? (traffic.callers other) lone.running).resolve_right ?_
    rintro (hmay | hmarked)
    · exact Bool.false_ne_true ((lone.others other hne).symm.trans hmay)
    · exact lone.stopped.stored other hmarked
  have hothers : ∀ third ≠ caller,
      ((traffic.move (.call other fault?)).callers third).mayWithdraw = false := by
    intro third hthird
    obtain rfl | hapart := eq_or_ne third other
    · rw [callers_move_self]
      apply eq_false_of_ne_true
      intro hmay
      obtain hbefore | hidle | hhad := Caller.mayWithdraw_of_step hmay
      · exact Bool.false_ne_true ((lone.others third hne).symm.trans hbefore)
      · exact Bool.false_ne_true (hidle.symm.trans lone.running)
      · exact Bool.false_ne_true (hholds.symm.trans hhad)
    · rw [callers_move_of_ne hapart]
      exact lone.others third hthird
  have hliving := Caller.ended_not_mem_step fault? (traffic.callers other) lone.living
  obtain hcaller | ⟨hclaimed, -⟩ := lone.secure
  · refine .inl ⟨lone.stopped.call, hrunning, .inl ?_, hothers, hliving⟩
    rw [callers_move_of_ne hne.symm]
    exact hcaller
  · rw [← callers_move_of_ne hne.symm] at hclaimed
    cases hparked : (traffic.move (.call other fault?)).bridge.parked with
    | false =>
        right
        rw [hclaimed]
        exact hparked
    | true =>
        exact .inl ⟨lone.stopped.call, hrunning, .inr ⟨hclaimed, hparked⟩, hothers, hliving⟩

theorem loop (lone : traffic.Lone caller) (place : Nat) :
    (traffic.move (.loop place)).Lone caller where
  stopped := ⟨(traffic.toShared.closed_turn place).trans lone.stopped.closed, lone.stopped.stored⟩
  running := (traffic.toShared.running_turn place).trans lone.running
  secure := lone.secure.imp_right fun hclaimed =>
    ⟨hclaimed.1, (traffic.toShared.parked_turn place).trans hclaimed.2⟩
  others := lone.others
  living := Shared.ended_not_mem_turn lone.running lone.living place

end Lone

namespace Decided

variable {traffic : Traffic ι} {caller : ι}

/-- A decision is final. -/
theorem move (sound : traffic.Sound) (hdecided : traffic.Decided caller) (next : Move ι) :
    (traffic.move next).Decided caller := by
  obtain lone | hfails := hdecided
  · cases next with
    | call other fault? =>
        obtain rfl | hne := eq_or_ne other caller
        · exact lone.call_self fault?
        · exact lone.call_of_ne sound hne fault?
    | loop place => exact .inl (lone.loop place)
  · right
    cases next with
    | call other fault? =>
        obtain rfl | hne := eq_or_ne caller other
        · rw [callers_move_self]
          exact hfails.step
        · rw [callers_move_of_ne hne]
          exact hfails.later (Caller.later_step ..)
    | loop place => exact hfails.later (traffic.toShared.later_turn place)

theorem run (sound : traffic.Sound) (hdecided : traffic.Decided caller)
    (schedule : List (Move ι)) : (traffic.run schedule).Decided caller := by
  induction schedule generalizing traffic with
  | nil => exact hdecided
  | cons first rest ih => exact ih (sound.move first) (hdecided.move sound first)

end Decided

/-- Once a call has slipped in, what becomes of it is decided. -/
theorem SlipsIn.decided {traffic : Traffic ι} (hfresh : traffic.Fresh) {schedule : List (Move ι)}
    {caller : ι} (hslips : traffic.SlipsIn schedule caller) :
    (traffic.run schedule).Decided caller := by
  obtain ⟨place, fault?, hmove, hslips⟩ := hslips
  obtain ⟨hplace, hmove⟩ := List.getElem?_eq_some_iff.mp hmove
  have sound := (Sound.start hfresh).run (schedule.take place)
  have hsplit : schedule =
      schedule.take place ++ .call caller fault? :: schedule.drop (place + 1) := by
    rw [← hmove, List.getElem_cons_drop, List.take_append_drop]
  rw [hsplit, run_append]
  exact (hslips.call sound fault?).run (sound.move _) _

namespace Settled

variable {traffic : Traffic ι}

omit [DecidableEq ι] in
/-- A settled bridge is closed. -/
theorem closed_eq_true (sound : traffic.Sound) (settled : traffic.Settled) :
    traffic.bridge.closed = true := by
  obtain ⟨closer, hreturned⟩ := settled.closed
  apply (sound.fits closer).closed
  rw [hreturned]
  rfl

/-- On a settled bridge a call changes nothing that is shared. -/
theorem call (sound : traffic.Sound) (settled : traffic.Settled) (caller : ι)
    (fault? : Option IoFault) :
    (traffic.move (.call caller fault?)).Settled ∧
      (traffic.move (.call caller fault?)).toShared = traffic.toShared := by
  obtain ⟨hidle, hsame⟩ :=
    Caller.step_of_isIdle fault? (settled.idle caller) (settled.closed_eq_true sound)
  refine ⟨⟨?_, ?_⟩, hsame⟩
  · obtain ⟨closer, hreturned⟩ := settled.closed
    refine ⟨closer, ?_⟩
    obtain rfl | hne := eq_or_ne closer caller
    · rw [callers_move_self, hreturned]
      rfl
    · rw [callers_move_of_ne hne, hreturned]
  · intro other
    exact callers_move_of_imp (settled.idle other) fun _ => hidle

/-- A settled bridge stays settled, and loops stay allowed or disallowed. -/
theorem move (sound : traffic.Sound) (settled : traffic.Settled) (next : Move ι) :
    (traffic.move next).Settled ∧
      (traffic.move next).bridge.running = traffic.bridge.running := by
  cases next with
  | call caller fault? =>
      obtain ⟨hafter, hsame⟩ := settled.call sound caller fault?
      exact ⟨hafter, congrArg (·.bridge.running) hsame⟩
  | loop place =>
      exact ⟨⟨settled.closed, settled.idle⟩, traffic.toShared.running_turn place⟩

theorem running_run (sound : traffic.Sound) (settled : traffic.Settled)
    (later : List (Move ι)) :
    (traffic.run later).bridge.running = traffic.bridge.running := by
  induction later generalizing traffic with
  | nil => rfl
  | cons first rest ih =>
      obtain ⟨hafter, hsame⟩ := settled.move sound first
      exact (ih (sound.move first) hafter).trans hsame

theorem rest_move (sound : traffic.Sound) (settled : traffic.Settled)
    (hrunning : traffic.bridge.running = false) {place : Nat} {now : Turn}
    (hnow : traffic.loops[place]? = some now) (next : Move ι) :
    ∃ after, (traffic.move next).loops[place]? = some after ∧
      after.rest = now.rest - [next].count (.loop place) := by
  cases next with
  | call caller fault? =>
      obtain ⟨-, hsame⟩ := settled.call sound caller fault?
      refine ⟨now, ?_, ?_⟩
      · rw [hsame, hnow]
      · simp
  | loop other =>
      obtain ⟨after, hafter, hrest⟩ := Shared.rest_turn hrunning hnow other
      refine ⟨after, hafter, ?_⟩
      rw [hrest]
      simp [List.count_singleton]

/-- Where loops may not run, each loop has as many turns less to go as it was given. -/
theorem rest_run (sound : traffic.Sound) (settled : traffic.Settled)
    (hrunning : traffic.bridge.running = false) {place : Nat} {now : Turn}
    (hnow : traffic.loops[place]? = some now) (later : List (Move ι)) :
    ∃ after, (traffic.run later).loops[place]? = some after ∧
      after.rest = now.rest - later.count (.loop place) := by
  induction later generalizing traffic now with
  | nil => exact ⟨now, hnow, rfl⟩
  | cons first rest ih =>
      obtain ⟨hsettled, hsame⟩ := settled.move sound first
      obtain ⟨next, hnext, hfirst⟩ := settled.rest_move sound hrunning hnow first
      obtain ⟨after, hafter, hrest⟩ :=
        ih (sound.move first) hsettled (hsame.trans hrunning) hnext
      refine ⟨after, hafter, ?_⟩
      rw [hrest, hfirst, Nat.sub_sub, ← List.count_append, List.singleton_append]

omit [DecidableEq ι] in
/-- If loops may run although everything is over, some call slipped in and brought up a loop. -/
theorem exists_slipped (sound : traffic.Sound) (settled : traffic.Settled) {slipped : ι → Prop}
    (trail : Trail slipped traffic) (hrunning : traffic.bridge.running = true) :
    ∃ caller, slipped caller ∧ traffic.callers caller = .starts .started := by
  have hstopped : traffic.Stopped := by
    refine ⟨settled.closed_eq_true sound, ?_⟩
    intro caller hmarked
    have hidle := settled.idle caller
    rw [hmarked] at hidle
    cases hidle
  obtain ⟨caller, hmay⟩ | ⟨caller, hholds, hslipped⟩ := trail.loop hstopped hrunning
  · have hdone := Caller.mayWithdraw_eq_false_of_isIdle (settled.idle caller)
    exact absurd (hdone.symm.trans hmay) Bool.false_ne_true
  · exact ⟨caller, hslipped, Caller.eq_started_of_isIdle hholds (settled.idle caller)⟩

end Settled

/-- A call that has returned stays as it is. -/
theorem callers_run_of_started {traffic : Traffic ι} {caller : ι}
    (hstarted : traffic.callers caller = .starts .started) (later : List (Move ι)) :
    (traffic.run later).callers caller = .starts .started := by
  induction later generalizing traffic with
  | nil => exact hstarted
  | cons first rest ih =>
      apply ih
      cases first with
      | call other fault? =>
          obtain rfl | hne := eq_or_ne caller other
          · rw [callers_move_self, hstarted]
            rfl
          · rw [callers_move_of_ne hne, hstarted]
      | loop place => exact hstarted

/-- Any number of calls that start the reader loop or close the bridge, in any interleaving of their
steps and of the turns of the loops. There is never more than one loop. Once some call has closed the
bridge and every call that has begun has returned, it is decided for ever whether loops may run. They
may not, and a loop that is there ends at its next check, unless the call that brought it up slipped
in: it found the bridge open, and its claim came after the closing call had disallowed loops and
before that took the reading end away, with no other claim on the way. Then the loop goes on for
ever. -/
theorem close_stops_reader_unless_slipped {traffic : Traffic ι} (hfresh : traffic.Fresh)
    (schedule : List (Move ι)) :
    (traffic.run schedule).loops.length ≤ 1 ∧
      ((traffic.run schedule).Settled → ∀ later,
        ((∃ caller, traffic.SlipsIn schedule caller ∧
            (traffic.run schedule).callers caller = .starts .started) →
          (traffic.run (schedule ++ later)).bridge.running = true ∧
            ∃ now, (traffic.run (schedule ++ later)).loops = [now] ∧ now ≠ .ended) ∧
        ((¬ ∃ caller, traffic.SlipsIn schedule caller ∧
            (traffic.run schedule).callers caller = .starts .started) →
          (traffic.run (schedule ++ later)).bridge.running = false ∧
            ∀ place < (traffic.run schedule).loops.length, 2 ≤ later.count (.loop place) →
              (traffic.run (schedule ++ later)).loops[place]? = some .ended)) := by
  have sound := (Sound.start hfresh).run schedule
  refine ⟨sound.length_loops_le, ?_⟩
  intro settled later
  constructor
  · rintro ⟨caller, hslips, hstarted⟩
    have hend : (traffic.run (schedule ++ later)).callers caller = .starts .started := by
      rw [run_append]
      exact callers_run_of_started hstarted later
    have hsound := (Sound.start hfresh).run (schedule ++ later)
    obtain lone | hfails := (hslips.append later).decided hfresh
    · refine ⟨lone.running, ?_⟩
      have hloop : 0 < (traffic.run (schedule ++ later)).loops.length := by
        apply (hsound.fits caller).loops
        rw [hend]
        rfl
      obtain ⟨now, hnow⟩ := List.length_eq_one_iff.mp (Nat.le_antisymm hsound.length_loops_le hloop)
      refine ⟨now, hnow, ?_⟩
      rintro rfl
      apply lone.living
      rw [hnow]
      exact List.mem_singleton_self _
    · rw [hend] at hfails
      cases hfails
  · intro hnone
    have hrunning : (traffic.run schedule).bridge.running = false := by
      apply eq_false_of_ne_true
      intro hran
      exact hnone (settled.exists_slipped sound (Trail.run hfresh schedule) hran)
    rw [run_append]
    refine ⟨(settled.running_run sound later).trans hrunning, ?_⟩
    intro place hplace hturns
    obtain ⟨after, hafter, hrest⟩ :=
      settled.rest_run sound hrunning (List.getElem?_eq_getElem hplace) later
    have hdone : after.rest = 0 := by
      rw [hrest]
      exact Nat.sub_eq_zero_of_le (Nat.le_trans (Turn.rest_le _) hturns)
    rw [hafter, Turn.eq_ended_of_rest hdone]

/-- Two calls on a new bridge: `true` closes it, `false` starts the reader loop. -/
def pair : Traffic Bool :=
  { bridge := { device := "mem" }
    callers := fun closing => if closing then .closes .entered else .starts .entered }

theorem fresh_pair : pair.Fresh where
  parked := rfl
  running := rfl
  closed := rfl
  noted := rfl
  loops := rfl
  entered closing := by cases closing <;> simp [pair]

/-- The claim comes before the closing call disallows loops. The loop comes up after everything else
is over, and ends at its first check. -/
theorem close_stops_reader_unless_slipped_early_claim :
    let start : Move Bool := .call false none
    let close : Move Bool := .call true none
    let schedule := [start, start, close, start, close, close, close, start, start]
    let later : List (Move Bool) := [.loop 0, .loop 0]
    pair.Fresh ∧ (pair.run schedule).Settled ∧ (pair.run schedule).loops = [.checking] ∧
      (pair.run (schedule ++ later)).bridge.running = false ∧
      (pair.run (schedule ++ later)).loops[0]? = some .ended := by
  intro start close schedule later
  have settled : (pair.run schedule).Settled := ⟨⟨true, by decide⟩, by decide⟩
  have hapart : ∀ place < 9, ∀ caller other,
      (pair.run (schedule.take place)).callers caller = .starts .admitted →
        (pair.run (schedule.take place)).callers other ≠ .closes .stopped := by decide
  have hnone : ¬ ∃ caller, pair.SlipsIn schedule caller ∧
      (pair.run schedule).callers caller = .starts .started := by
    rintro ⟨caller, ⟨place, fault?, hmove, hslips⟩, -⟩
    have hplace : place < 9 := (List.getElem?_eq_some_iff.mp hmove).1
    obtain ⟨other, hother⟩ := hslips.closing
    exact hapart place hplace caller other hslips.admitted hother
  obtain ⟨hrunning, hended⟩ :=
    ((close_stops_reader_unless_slipped fresh_pair schedule).2 settled later).2 hnone
  exact ⟨fresh_pair, settled, rfl, hrunning, hended 0 (by decide) (by decide)⟩

/-- The starting call finds the bridge open, the closing call marks it as closed and disallows loops,
and the starting call claims the loop and takes the reading end. Both return without an error, and the
loop goes on for ever on the closed bridge. -/
theorem slipped_start_outlives_close :
    let start : Move Bool := .call false none
    let close : Move Bool := .call true none
    let schedule := [start, close, close, start, start, close, close, start, start]
    pair.Fresh ∧ (pair.run schedule).Settled ∧
      (pair.run schedule).callers false = .starts .started ∧
      (pair.run schedule).loops = [.checking] ∧
      ∀ later, (pair.run (schedule ++ later)).bridge.running = true ∧
        .ended ∉ (pair.run (schedule ++ later)).loops := by
  intro start close schedule
  have hstarted : (pair.run schedule).callers false = .starts .started := by decide
  have hslips : pair.SlipsIn schedule false :=
    ⟨3, none, rfl, by decide, rfl, ⟨true, by decide⟩, by decide⟩
  refine ⟨fresh_pair, ⟨⟨true, by decide⟩, by decide⟩, hstarted, rfl, ?_⟩
  intro later
  obtain lone | hfails := (hslips.append later).decided fresh_pair
  · exact ⟨lone.running, lone.living⟩
  · rw [run_append, callers_run_of_started hstarted] at hfails
    cases hfails

end Traffic

end GroundStation
