import GroundStation.Proofs.Desk.Footprint
import GroundStation.Proofs.Desk.Isolation
import GroundStation.Settings.Basic

/-!
What becomes of a watched frame that falls silent. The policy of the countdowns is taken from the
settings in whole milliseconds. If a tick is at least one millisecond long, every silent frame is
reported: by the tick whose number is the whole number of ticks in what is left on its countdown and
in the threshold, plus one, and so again and again as long as the silence lasts. A shorter tick
becomes zero milliseconds. Then no countdown ever moves, and nothing is ever reported.

A silence is a run of the desk in which no message brings the frame's sensor data; whatever else
happens in it, and whatever happened before, does not matter.
-/

namespace GroundStation

namespace Duration

def totalNanos (duration : Duration) : Nat :=
  duration.secs * 1000000000 + duration.nanos

theorem millis_pos_iff (duration : Duration) :
    0 < duration.millis.toNat ↔ 1000000 ≤ duration.totalNanos := by
  have hwhole : duration.millis.toNat =
      min (duration.secs * 1000 + duration.nanos / 1000000) 0xFFFFFFFF := by
    apply UInt32.toNat_ofNat_of_lt
    apply Nat.lt_of_le_of_lt (Nat.min_le_right _ _)
    decide
  rw [hwhole, totalNanos]
  omega

end Duration

namespace Countdown

/-- The countdown is within the limits of a policy: it has not run past the threshold unreported, and
there is no more on it than a restart or a report puts there. -/
structure Within (policy : TickPolicy) (countdown : Countdown) : Prop where
  least : -(policy.threshold.toNat : Int) ≤ countdown.remaining
  most : countdown.remaining ≤ (max countdown.timeout.toNat policy.backoff.toNat : Nat)

/-- How many ticks a countdown gets through without a report. -/
def patience (policy : TickPolicy) (countdown : Countdown) : Nat :=
  (countdown.remaining + policy.threshold.toNat).toNat / policy.tick.toNat

variable {policy : TickPolicy} {countdown : Countdown}

theorem within_start (policy : TickPolicy) (timeout : UInt32) : Within policy (start timeout) where
  least := by
    dsimp only [start]
    omega
  most := by
    dsimp only [start]
    omega

/-- A countdown reports when the tick takes it below the threshold. -/
theorem isSome_step_iff :
    (countdown.step policy).1.isSome = true ↔
      countdown.remaining - policy.tick.toNat < -(policy.threshold.toNat : Int) := by
  unfold step
  dsimp only
  split
  · rename_i hlate
    exact iff_of_true rfl hlate
  · rename_i hearly
    exact iff_of_false Bool.false_ne_true hearly

namespace Within

/-- A tick keeps the countdown within its range. -/
theorem step (within : Within policy countdown) : Within policy (countdown.step policy).2 := by
  have hmost := within.most
  unfold Countdown.step
  dsimp only
  split
  · constructor
    · dsimp only
      omega
    · exact le_rfl
  · constructor
    · dsimp only
      omega
    · dsimp only
      omega

/-- With a tick of zero there is never a report. -/
theorem step_of_tick_zero (within : Within policy countdown) (htick : policy.tick.toNat = 0) :
    (countdown.step policy).1 = none := by
  have hleast := within.least
  rw [← Option.not_isSome_iff_eq_none, isSome_step_iff, htick]
  omega

/-- The next tick reports exactly if there is no patience left. -/
theorem isSome_step_iff_patience (within : Within policy countdown)
    (htick : 0 < policy.tick.toNat) :
    (countdown.step policy).1.isSome = true ↔ countdown.patience policy = 0 := by
  have hleast := within.least
  rw [isSome_step_iff, patience, Nat.div_eq_zero_iff]
  omega

/-- A tick without a report costs one tick of patience. -/
theorem patience_step (within : Within policy countdown) (htick : 0 < policy.tick.toNat)
    (hquiet : (countdown.step policy).1.isSome = false) :
    countdown.patience policy = (countdown.step policy).2.patience policy + 1 := by
  have hleast := within.least
  have hearly : ¬ countdown.remaining - policy.tick.toNat < -(policy.threshold.toNat : Int) := by
    intro hlate
    rw [isSome_step_iff.mpr hlate] at hquiet
    cases hquiet
  have hafter : (countdown.step policy).2.remaining = countdown.remaining - policy.tick.toNat := by
    unfold Countdown.step
    dsimp only
    rw [if_neg hearly]
  have hleft : (countdown.remaining - policy.tick.toNat + policy.threshold.toNat).toNat =
      (countdown.remaining + policy.threshold.toNat).toNat - policy.tick.toNat := by omega
  rw [patience, patience, hafter, hleft]
  exact Nat.div_eq_sub_div htick (by omega)

end Within

end Countdown

namespace Desk

def late (desk : Desk) : Step → List Overdue
  | .tick policy => (desk.tick policy).1
  | .decode _ | .evaluate | .command _ => []

def latecomers (desk : Desk) : List Step → List Overdue
  | [] => []
  | step :: rest => desk.late step ++ (desk.step step).latecomers rest

namespace Step

def isTick : Step → Bool
  | .tick _ => true
  | .decode _ | .evaluate | .command _ => false

def follows (policy : TickPolicy) : Step → Bool
  | .tick other => other = policy
  | .decode _ | .evaluate | .command _ => true

end Step

/-- What a step does to the countdown of a frame: a tick counts it down, sensor data of the frame may
start it anew, and all else leaves it alone. -/
theorem countdown_step_cases (desk : Desk) (step : Step) (key : FrameKey) :
    let before := desk.countdowns.table.get? key
    let after := (desk.step step).countdowns.table.get? key
    (∃ policy, step = .tick policy ∧
        after = before.map fun countdown => (countdown.step policy).2) ∨
      (step.carries key = true ∧ ∃ timeout, after = some (.start timeout)) ∨
      step.isTick = false ∧ after = before := by
  intro before after
  cases step with
  | tick policy =>
      refine .inl ⟨policy, rfl, ?_⟩
      have hticked : (desk.step (.tick policy)).countdowns = (desk.countdowns.tick policy).2 := by
        simp only [Desk.step, tick]
        rw [foldl_reportOverdue_eq]
      dsimp only [after]
      rw [hticked]
      exact Countdowns.get?_call policy desk.countdowns .tick key
  | decode message =>
      have hdecode := desk.get?_countdowns_decode message key
      cases hrenewal : message.renewal? desk.profile.registry key with
      | none =>
          rw [hrenewal] at hdecode
          exact .inr (.inr ⟨rfl, hdecode⟩)
      | some timeout =>
          rw [hrenewal] at hdecode
          exact .inr (.inl ⟨(Option.ite_none_right_eq_some.mp hrenewal).1, timeout, hdecode⟩)
  | evaluate => exact .inr (.inr ⟨rfl, rfl⟩)
  | command text =>
      refine .inr (.inr ⟨rfl, ?_⟩)
      dsimp only [after, Desk.step, command]
      cases Command.parse text <;> rfl

/-- The countdowns are those of the watched frames, and all are within the limits of the policy. -/
structure Counts (policy : TickPolicy) (desk : Desk) : Prop where
  watches : desk.countdowns.Watches desk.profile.registry
  within : ∀ key countdown, desk.countdowns.table.get? key = some countdown →
    countdown.Within policy

namespace Counts

variable {policy : TickPolicy} {desk : Desk}

/-- A step of the desk keeps its countdowns within their ranges. -/
theorem step (counts : Counts policy desk) {step : Step} (hpolicy : step.follows policy = true) :
    Counts policy (desk.step step) where
  watches := by
    rw [profile_step]
    exact watches_step counts.watches step
  within := by
    intro key countdown hafter
    rcases desk.countdown_step_cases step key with
      ⟨other, rfl, htick⟩ | ⟨_, timeout, hstart⟩ | ⟨_, hsame⟩
    · obtain rfl : other = policy := of_decide_eq_true hpolicy
      rw [htick, Option.map_eq_some_iff] at hafter
      obtain ⟨before, hbefore, rfl⟩ := hafter
      exact (counts.within key before hbefore).step
    · cases hstart.symm.trans hafter
      exact Countdown.within_start policy timeout
    · exact counts.within key countdown (hsame.symm.trans hafter)

/-- So does every run that ticks by the policy. -/
theorem run (counts : Counts policy desk) {steps : List Step}
    (hpolicy : ∀ step ∈ steps, step.follows policy = true) : Counts policy (desk.run steps) := by
  induction steps generalizing desk with
  | nil => exact counts
  | cons first rest ih =>
      have hfirst := hpolicy first List.mem_cons_self
      exact ih (counts.step hfirst) fun step hmem => hpolicy step (List.mem_cons_of_mem _ hmem)

theorem start {profile : Profile} {displays : DataKey → Bool} {desk : Desk}
    (hframes : profile.registry.frames.keys.Nodup)
    (hstart : Desk.start profile displays = .ok desk) (policy : TickPolicy) :
    Counts policy desk := by
  rw [eq_of_start hstart]
  refine ⟨.seeded hframes, ?_⟩
  intro key countdown hget
  rw [Countdowns.get?_seeded_monitored hframes, Option.map_eq_some_iff] at hget
  obtain ⟨timeout, _, rfl⟩ := hget
  exact Countdown.within_start policy timeout

/-- A tick reports a frame exactly if the countdown of the frame says so. -/
theorem exists_mem_tick_iff (counts : Counts policy desk) {key : FrameKey} {countdown : Countdown}
    (hget : desk.countdowns.table.get? key = some countdown) :
    (∃ row ∈ (desk.tick policy).1, row.key = key) ↔ (countdown.step policy).1.isSome = true := by
  have hrow : ∀ row : Overdue, row.key = key →
      (row ∈ (desk.tick policy).1 ↔ Countdowns.overdue? policy key countdown = some row) := by
    rintro row rfl
    exact (Countdowns.mem_tick_iff counts.watches.keys).trans (by rw [hget]; rfl)
  have hsome : (Countdowns.overdue? policy key countdown).isSome =
      (countdown.step policy).1.isSome := Option.isSome_map
  rw [← hsome]
  constructor
  · rintro ⟨row, hmem, hkey⟩
    exact Option.isSome_iff_exists.mpr ⟨row, (hrow row hkey).mp hmem⟩
  · intro hlate
    obtain ⟨row, hreported⟩ := Option.isSome_iff_exists.mp hlate
    have hkey : row.key = key := Countdowns.key_of_overdue? hreported
    exact ⟨row, (hrow row hkey).mpr hreported, hkey⟩

/-- In a silence a frame is reported exactly once the ticks are more than its countdown gets
through. The induction is on the steps, with the countdown as it stands at each of them. -/
theorem exists_latecomer_iff (counts : Counts policy desk) (htick : 0 < policy.tick.toNat)
    {key : FrameKey} {countdown : Countdown}
    (hget : desk.countdowns.table.get? key = some countdown) {quiet : List Step}
    (hpolicy : ∀ step ∈ quiet, step.follows policy = true)
    (hsilent : ∀ step ∈ quiet, step.carries key = false) :
    (∃ row ∈ desk.latecomers quiet, row.key = key) ↔
      countdown.patience policy < quiet.countP Step.isTick := by
  induction quiet generalizing desk countdown with
  | nil => simp [latecomers]
  | cons first rest ih =>
      have hfirst := hpolicy first List.mem_cons_self
      have hrest := fun step hmem => hpolicy step (List.mem_cons_of_mem first hmem)
      have hstill := fun step hmem => hsilent step (List.mem_cons_of_mem first hmem)
      have within := counts.within key countdown hget
      simp only [latecomers, List.mem_append, or_and_right, exists_or]
      rcases desk.countdown_step_cases first key with
        ⟨other, rfl, hafter⟩ | ⟨hcarries, _⟩ | ⟨hother, hafter⟩
      · obtain rfl : other = policy := of_decide_eq_true hfirst
        rw [hget, Option.map_some] at hafter
        have hlate : (∃ row ∈ desk.late (.tick other), row.key = key) ↔ _ :=
          counts.exists_mem_tick_iff hget
        rw [hlate, ih (counts.step hfirst) hafter hrest hstill, List.countP_cons_of_pos rfl]
        cases hreport : (countdown.step other).1.isSome with
        | true =>
            have hpatience := (within.isSome_step_iff_patience htick).mp hreport
            exact iff_of_true (.inl rfl) (by omega)
        | false =>
            have hpatience := within.patience_step htick hreport
            simp only [Bool.false_eq_true, false_or]
            omega
      · rw [hsilent first List.mem_cons_self] at hcarries
        cases hcarries
      · rw [hget] at hafter
        have hnone : desk.late first = [] := by
          cases first with
          | tick other => cases hother
          | decode message => rfl
          | evaluate => rfl
          | command text => rfl
        rw [hnone, ih (counts.step hfirst) hafter hrest hstill,
          List.countP_cons_of_neg (by simp [hother])]
        simp

/-- With a tick of zero nothing is ever reported. -/
theorem latecomers_of_tick_zero (counts : Counts policy desk) (htick : policy.tick.toNat = 0)
    {steps : List Step} (hpolicy : ∀ step ∈ steps, step.follows policy = true) :
    desk.latecomers steps = [] := by
  induction steps generalizing desk with
  | nil => rfl
  | cons first rest ih =>
      have hfirst := hpolicy first List.mem_cons_self
      have hrest := ih (counts.step hfirst) fun step hmem =>
        hpolicy step (List.mem_cons_of_mem first hmem)
      rw [latecomers, hrest, List.append_nil]
      cases first with
      | tick other =>
          obtain rfl : other = policy := of_decide_eq_true hfirst
          apply List.eq_nil_iff_forall_not_mem.mpr
          intro row hmem
          have hrow := (Countdowns.mem_tick_iff counts.watches.keys).mp hmem
          obtain ⟨countdown, hget, hreported⟩ := Option.bind_eq_some_iff.mp hrow
          have hquiet := (counts.within row.key countdown hget).step_of_tick_zero htick
          rw [Countdowns.overdue?, hquiet] at hreported
          cases hreported
      | decode message => rfl
      | evaluate => rfl
      | command text => rfl

end Counts

/-- A desk whose registry is built of entries, a monitor with any settings, and a watched frame. If
the tick is at least one millisecond long, then after any run there is a number of ticks, at most the
whole number in the longer of timeout and backoff with the threshold added, that the frame gets
through in silence; the next one reports it. If the tick is shorter, no run ever reports anything. All
ticks of the runs follow the policy of the monitor. -/
theorem silence_is_reported_iff_tick_counts {entries : List Registry.Entry} {profile : Profile}
    {displays : DataKey → Bool} {desk : Desk} (hregistry : profile.registry = .ofEntries entries)
    (hstart : start profile displays = .ok desk) (monitor : Settings.Monitor) {key : FrameKey}
    {info : FrameInfo} (hframe : profile.registry.frame? key = some info)
    (hwatched : 0 < info.timeout) :
    let policy := monitor.policy
    let longest := (max info.timeout.toNat policy.backoff.toNat + policy.threshold.toNat) /
      policy.tick.toNat
    (1000000 ≤ monitor.frameTick.totalNanos →
      ∀ past, (∀ step ∈ past, step.follows policy = true) →
        ∃ through ≤ longest, ∀ quiet, (∀ step ∈ quiet, step.follows policy = true) →
          (∀ step ∈ quiet, step.carries key = false) →
          ((∃ row ∈ (desk.run past).latecomers quiet, row.key = key) ↔
            through < quiet.countP Step.isTick)) ∧
      (monitor.frameTick.totalNanos < 1000000 →
        ∀ steps, (∀ step ∈ steps, step.follows policy = true) → desk.latecomers steps = []) := by
  intro policy longest
  have hframes : profile.registry.frames.keys.Nodup := by
    rw [hregistry]
    exact Registry.nodup_frames_ofEntries entries
  have counts : Counts policy desk := .start hframes hstart policy
  constructor
  · intro hlong past hpast
    have htick : 0 < policy.tick.toNat := monitor.frameTick.millis_pos_iff.mpr hlong
    have counts := counts.run hpast
    have hprofile : (desk.run past).profile = profile := by
      rw [profile_run, eq_of_start hstart]
    have htimeout := counts.watches.timeouts key
    rw [hprofile, Registry.watch?_eq_some_iff.mpr ⟨info, hframe, hwatched, rfl⟩,
      Option.map_eq_some_iff] at htimeout
    obtain ⟨countdown, hget, hsame⟩ := htimeout
    have hmost := (counts.within key countdown hget).most
    rw [hsame] at hmost
    refine ⟨countdown.patience policy, ?_, ?_⟩
    · apply Nat.div_le_div_right
      omega
    · intro quiet hquiet hsilent
      exact counts.exists_latecomer_iff htick hget hquiet hsilent
  · intro hshort steps hsteps
    have htick : ¬ 0 < policy.tick.toNat :=
      mt monitor.frameTick.millis_pos_iff.mp (Nat.not_le_of_lt hshort)
    exact counts.latecomers_of_tick_zero (Nat.eq_zero_of_not_pos htick) hsteps

/-- A tick of one and a half milliseconds counts as one. After two ticks and a message of frame 0 of
node 3, five more ticks bring a report of the frame, although sensor data of another frame arrives
among them. -/
theorem silence_is_reported_iff_tick_counts_cut_tick :
    let monitor : Settings.Monitor :=
      { frameTick := { nanos := 1500000 }, overdueThreshold := .ofMillis 1
        backoffMin := .ofMillis 3 }
    let entries : List Registry.Entry := [.frame ⟨3, 0⟩ 2, .frame ⟨3, 1⟩ 9]
    let profile : Profile := { registry := .ofEntries entries }
    let desk : Desk :=
      { profile, displays := fun _ => true, countdowns := .seeded profile.registry.monitored }
    let tick : Step := .tick monitor.policy
    let past : List Step := [tick, tick, .decode ⟨0x303, 0⟩]
    let quiet : List Step := [tick, tick, .decode ⟨0xB03, 0⟩, tick, tick, tick]
    start profile (fun _ => true) = .ok desk ∧ 1000000 ≤ monitor.frameTick.totalNanos ∧
      (∀ step ∈ past ++ quiet, step.follows monitor.policy = true) ∧
      (∀ step ∈ quiet, step.carries ⟨3, 0⟩ = false) ∧
      ∃ row ∈ (desk.run past).latecomers quiet, row.key = ⟨3, 0⟩ := by
  intro monitor entries profile desk tick past quiet
  have hcheck : profile.layout.check = .ok () := Layout.check_default
  have hstart : start profile (fun _ => true) = .ok desk := start_of_check hcheck _
  have hsilent : ∀ step ∈ quiet, step.carries ⟨3, 0⟩ = false := by decide
  have hframe : profile.registry.frame? ⟨3, 0⟩ = some { timeout := 2, points := 0 } := by decide
  obtain ⟨through, hthrough, hreport⟩ :=
    (silence_is_reported_iff_tick_counts rfl hstart monitor hframe (by decide)).1 (by decide) past
      (by decide)
  refine ⟨hstart, by decide, by decide, hsilent, (hreport quiet (by decide) hsilent).mpr ?_⟩
  exact Nat.lt_of_le_of_lt hthrough (by decide)

/-- A tick of half a millisecond is no time at all for the countdowns: frame 0 of node 3 is expected
every 200 milliseconds, nothing ever arrives, and no number of ticks brings a report. -/
theorem short_tick_never_reports :
    let monitor : Settings.Monitor := { frameTick := { nanos := 500000 } }
    let profile : Profile := { registry := .ofEntries [.frame ⟨3, 0⟩ 200] }
    let desk : Desk :=
      { profile, displays := fun _ => true, countdowns := .seeded profile.registry.monitored }
    start profile (fun _ => true) = .ok desk ∧ monitor.frameTick.totalNanos ≠ 0 ∧
      profile.registry.frame? ⟨3, 0⟩ = some { timeout := 200, points := 0 } ∧
      ∀ ticks, desk.latecomers (List.replicate ticks (.tick monitor.policy)) = [] := by
  intro monitor profile desk
  have hcheck : profile.layout.check = .ok () := Layout.check_default
  have hstart : start profile (fun _ => true) = .ok desk := start_of_check hcheck _
  refine ⟨hstart, by decide, by decide, ?_⟩
  intro ticks
  have counts : Counts monitor.policy desk :=
    .start (Registry.nodup_frames_ofEntries _) hstart monitor.policy
  apply counts.latecomers_of_tick_zero
  · decide
  · intro step hmem
    rw [List.eq_of_mem_replicate hmem]
    exact decide_eq_true rfl

end Desk

end GroundStation
