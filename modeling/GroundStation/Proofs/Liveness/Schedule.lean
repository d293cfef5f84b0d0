import GroundStation.Liveness.Countdowns
import Mathlib.Data.List.DropRight
import Mathlib.Data.List.Nodup

/-!
When the countdowns report a frame. Ticks of one policy and restarts of any frames come in any order.
A frame is renewed when it is restarted and when it is reported. It is reported again exactly at the
first tick that takes its countdown below zero by more than the threshold, counted from the frame's
timeout after a restart and from the longer of timeout and backoff after a report. Other frames have
no say in it.
-/

namespace GroundStation

namespace Countdowns

inductive Call where
  | tick
  | restart (key : FrameKey) (timeout : UInt32)
deriving DecidableEq, Repr

def Call.concerns (key : FrameKey) : Call → Bool
  | .tick => true
  | .restart other _ => other = key

structure Record where
  call : Call
  rows : List Overdue
deriving DecidableEq, Repr

def call (policy : TickPolicy) (countdowns : Countdowns) : Call → List Overdue × Countdowns
  | .tick => countdowns.tick policy
  | .restart key timeout => ([], countdowns.restart key timeout)

def after (policy : TickPolicy) (countdowns : Countdowns) (calls : List Call) : Countdowns :=
  calls.foldl (fun countdowns call => (countdowns.call policy call).2) countdowns

def records (policy : TickPolicy) (countdowns : Countdowns) : List Call → List Record
  | [] => []
  | call :: rest =>
    ⟨call, (countdowns.call policy call).1⟩ :: (countdowns.call policy call).2.records policy rest

/-- The records of a run of countdowns that were started for the given frames. Being started counts
as a restart. -/
def history (policy : TickPolicy) (frames : List (FrameKey × UInt32)) (calls : List Call) :
    List Record :=
  (frames.map fun (key, timeout) => ⟨.restart key timeout, []⟩) ++
    (seeded frames).records policy calls

namespace Record

def timeout? (key : FrameKey) (record : Record) : Option UInt32 :=
  match record.call with
  | .tick => none
  | .restart other timeout => if other = key ∧ timeout ≠ 0 then some timeout else none

def renews (key : FrameKey) (record : Record) : Bool :=
  (record.timeout? key).isSome || record.rows.any fun row => row.key = key

end Record

def timeout? (key : FrameKey) (past : List Record) : Option UInt32 :=
  (past.filterMap (Record.timeout? key)).getLast?

def ticksSince (key : FrameKey) (past : List Record) : Nat :=
  (past.rtakeWhile fun record => !record.renews key).countP fun record => record.call = .tick

/-- The frame was last renewed by being reported. -/
def reportedLast (key : FrameKey) (past : List Record) : Bool :=
  ((past.filter (Record.renews key)).getLast?).any fun record => record.call = .tick

/-- Where a frame is between two renewals. -/
structure Phase where
  timeout : UInt32
  /-- The time that is counted down. -/
  base : Nat
  /-- The ticks since the last renewal. -/
  ticks : Nat
deriving DecidableEq, Repr

/-- The phase of a frame after the given records. The countdown of a frame that was reported starts
from the backoff time if that is longer than the timeout. -/
def phase? (policy : TickPolicy) (key : FrameKey) (past : List Record) : Option Phase :=
  (timeout? key past).map fun timeout =>
    { timeout
      base :=
        if reportedLast key past then Nat.max timeout.toNat policy.backoff.toNat
        else timeout.toNat
      ticks := ticksSince key past }

def reportsOf (key : FrameKey) (past : List Record) : List (List Overdue) :=
  (past.filter fun record => record.call = .tick).map fun record =>
    record.rows.filter fun row => row.key = key

theorem timeout?_concat (key : FrameKey) (past : List Record) (record : Record) :
    timeout? key (past ++ [record]) = (record.timeout? key).or (timeout? key past) := by
  cases htimeout : record.timeout? key <;>
    simp [timeout?, List.filterMap_append, htimeout]

theorem ticksSince_concat (key : FrameKey) (past : List Record) (record : Record) :
    ticksSince key (past ++ [record]) =
      if record.renews key then 0
      else ticksSince key past + if record.call = .tick then 1 else 0 := by
  unfold ticksSince
  rw [List.rtakeWhile_concat]
  cases hrenews : record.renews key <;> simp [List.countP_append]

theorem reportedLast_concat (key : FrameKey) (past : List Record) (record : Record) :
    reportedLast key (past ++ [record]) =
      if record.renews key then decide (record.call = .tick) else reportedLast key past := by
  unfold reportedLast
  cases hrenews : record.renews key <;> simp [List.filter_append, hrenews]

def Call.act (policy : TickPolicy) (key : FrameKey) :
    Call → Option Countdown → Option Countdown
  | .tick, countdown => countdown.map fun countdown => (countdown.step policy).2
  | .restart other timeout, countdown =>
    if other = key ∧ timeout ≠ 0 then some (.start timeout) else countdown

def Call.row? (policy : TickPolicy) (key : FrameKey) : Call → Option Countdown → Option Overdue
  | .tick, countdown => countdown.bind (overdue? policy key)
  | .restart _ _, _ => none

theorem get?_restart (countdowns : Countdowns) (key other : FrameKey) (timeout : UInt32) :
    (countdowns.restart other timeout).table.get? key =
      if other = key ∧ timeout ≠ 0 then some (.start timeout) else countdowns.table.get? key := by
  unfold restart
  by_cases hzero : timeout = 0
  · rw [if_pos hzero, if_neg (by simp [hzero])]
  · rw [if_neg hzero, Table.get?_insert]
    simp [hzero]

/-- A call acts on the countdown of each frame by itself. -/
theorem get?_call (policy : TickPolicy) (countdowns : Countdowns) (call : Call) (key : FrameKey) :
    (countdowns.call policy call).2.table.get? key =
      call.act policy key (countdowns.table.get? key) := by
  cases call with
  | tick => exact Table.lookup_map (fun countdown : Countdown => (countdown.step policy).2) key _
  | restart other timeout => exact countdowns.get?_restart key other timeout

theorem seeded_concat (frames : List (FrameKey × UInt32)) (frame : FrameKey × UInt32) :
    seeded (frames ++ [frame]) = (seeded frames).restart frame.1 frame.2 :=
  List.foldl_append

theorem nodup_keys_call {countdowns : Countdowns} (hkeys : countdowns.table.keys.Nodup)
    (policy : TickPolicy) (call : Call) :
    (countdowns.call policy call).2.table.keys.Nodup := by
  cases call with
  | tick => simpa [Countdowns.call, tick, Table.keys, Function.comp_def] using hkeys
  | restart key timeout =>
      simp only [Countdowns.call, restart]
      split
      · exact hkeys
      · exact Table.nodup_keys_insert hkeys key _

theorem key_of_overdue? {policy : TickPolicy} {key : FrameKey} {countdown : Countdown}
    {row : Overdue} (hrow : overdue? policy key countdown = some row) : row.key = key := by
  obtain ⟨late, _, hlate⟩ := Option.map_eq_some_iff.mp hrow
  rw [← hlate]

/-- A call reports a frame at most once, by the frame's own countdown. -/
theorem filter_rows_call {countdowns : Countdowns} (hkeys : countdowns.table.keys.Nodup)
    (policy : TickPolicy) (call : Call) (key : FrameKey) :
    ((countdowns.call policy call).1.filter fun row => row.key = key) =
      (call.row? policy key (countdowns.table.get? key)).toList := by
  cases call with
  | restart other timeout => rfl
  | tick =>
      let late := fun (row : FrameKey × Countdown) => overdue? policy row.1 row.2
      have howner : ∀ {row found}, late row = some found → found.key = row.1 := key_of_overdue?
      exact Table.filter_mergeSort hkeys howner (fun a b => a.key.le b.key) key

/-- A tick has a row for each frame that is late by its own countdown, and no other rows. -/
theorem mem_tick_iff {countdowns : Countdowns} (hkeys : countdowns.table.keys.Nodup)
    {policy : TickPolicy} {row : Overdue} :
    row ∈ (countdowns.tick policy).1 ↔
      Call.row? policy row.key .tick (countdowns.table.get? row.key) = some row := by
  have hrows : ((countdowns.tick policy).1.filter fun other => other.key = row.key) = _ :=
    filter_rows_call hkeys policy .tick row.key
  calc row ∈ (countdowns.tick policy).1
      ↔ row ∈ (countdowns.tick policy).1.filter fun other => other.key = row.key := by
        simp [List.mem_filter]
    _ ↔ _ := by rw [hrows, Option.mem_toList]

/-- The rows of a tick are in the order of frames, and no frame has two. -/
theorem pairwise_rows_tick {countdowns : Countdowns} (hkeys : countdowns.table.keys.Nodup)
    (policy : TickPolicy) :
    (countdowns.tick policy).1.Pairwise fun a b => a.key.lt b.key := by
  let late := fun (row : FrameKey × Countdown) => overdue? policy row.1 row.2
  have howner : ∀ {row found}, late row = some found → found.key = row.1 := key_of_overdue?
  exact Table.pairwise_mergeSort hkeys howner FrameKey.le_trans FrameKey.le_total
    FrameKey.lt_of_le_of_ne

namespace Phase

/-- The time since the last renewal, as of the next tick. -/
def elapsed (policy : TickPolicy) (phase : Phase) : Nat :=
  (phase.ticks + 1) * policy.tick.toNat

def isDue (policy : TickPolicy) (phase : Phase) : Bool :=
  phase.base + policy.threshold.toNat < phase.elapsed policy

/-- No tick of the phase should have reported the frame. -/
def Early (policy : TickPolicy) (phase : Phase) : Prop :=
  phase.ticks * policy.tick.toNat ≤ phase.base + policy.threshold.toNat

def next (policy : TickPolicy) (phase : Phase) : Phase :=
  if phase.isDue policy then
    { phase with base := Nat.max phase.timeout.toNat policy.backoff.toNat, ticks := 0 }
  else { phase with ticks := phase.ticks + 1 }

def countdown (policy : TickPolicy) (phase : Phase) : Countdown where
  timeout := phase.timeout
  remaining := (phase.base : Int) - (phase.ticks * policy.tick.toNat : Nat)

def row? (policy : TickPolicy) (key : FrameKey) (phase : Phase) : Option Overdue :=
  if phase.isDue policy then
    some { key, expected := phase.timeout, late := (phase.elapsed policy : Int) - phase.base }
  else none

variable {policy : TickPolicy} {phase : Phase}

theorem row?_eq_some_iff {key : FrameKey} {row : Overdue} :
    phase.row? policy key = some row ↔
      phase.isDue policy = true ∧
        row = { key, expected := phase.timeout,
                late := (phase.elapsed policy : Int) - phase.base } := by
  unfold row?
  split
  · rename_i hdue
    rw [Option.some_inj, eq_comm]
    exact (and_iff_right hdue).symm
  · rename_i hearly
    exact iff_of_false (fun hnone => nomatch hnone) fun hrow => hearly hrow.1

theorem isDue_iff :
    phase.isDue policy = true ↔ phase.base + policy.threshold.toNat < phase.elapsed policy :=
  decide_eq_true_iff

theorem elapsed_eq (policy : TickPolicy) (phase : Phase) :
    phase.elapsed policy = phase.ticks * policy.tick.toNat + policy.tick.toNat :=
  Nat.succ_mul _ _

/-- A countdown goes through its phases tick by tick. -/
theorem step_countdown (policy : TickPolicy) (phase : Phase) :
    (phase.countdown policy).step policy =
      (if phase.isDue policy then some ((phase.elapsed policy : Int) - phase.base) else none,
        (phase.next policy).countdown policy) := by
  have hremaining : (phase.countdown policy).remaining - policy.tick.toNat =
      phase.base - (phase.elapsed policy : Int) := by
    rw [elapsed_eq]
    dsimp only [countdown]
    omega
  unfold Countdown.step next
  simp only [hremaining]
  by_cases hdue : phase.isDue policy = true
  · have hlate := isDue_iff.mp hdue
    rw [if_pos (by omega), if_pos hdue, if_pos hdue, Int.neg_sub]
    simp [countdown]
  · have hearly := mt isDue_iff.mpr hdue
    rw [if_neg (by omega), if_neg hdue, if_neg hdue]
    rfl

theorem early_next : (phase.next policy).Early policy := by
  unfold next Early
  by_cases hdue : phase.isDue policy = true
  · rw [if_pos hdue]
    simp
  · rw [if_neg hdue]
    exact Nat.le_of_not_lt fun hlate => hdue (isDue_iff.mpr hlate)

/-- The tick at which a frame is due is the one whose number is the whole number of ticks in the base
and the threshold, plus one. -/
theorem Early.isDue_iff_eq (early : phase.Early policy) (htick : 0 < policy.tick.toNat) :
    phase.isDue policy = true ↔
      phase.ticks + 1 = (phase.base + policy.threshold.toNat) / policy.tick.toNat + 1 := by
  rw [isDue_iff, elapsed, ← Nat.div_lt_iff_lt_mul htick]
  have hleast := (Nat.le_div_iff_mul_le htick).mpr early
  omega

/-- The tick before was not late enough, so this one exceeds the threshold by at most one tick. -/
theorem Early.late_le (early : phase.Early policy) :
    (phase.elapsed policy : Int) - phase.base ≤
      policy.threshold.toNat + policy.tick.toNat := by
  have htime := phase.elapsed_eq policy
  unfold Early at early
  omega

end Phase

/-- A restart begins a new phase of its own frame, unless it has no timeout. -/
theorem phase?_concat_restart (policy : TickPolicy) (key other : FrameKey) (past : List Record)
    (timeout : UInt32) :
    phase? policy key (past ++ [⟨.restart other timeout, []⟩]) =
      if other = key ∧ timeout ≠ 0 then some { timeout, base := timeout.toNat, ticks := 0 }
      else phase? policy key past := by
  have hrenews : (⟨.restart other timeout, []⟩ : Record).renews key =
      decide (other = key ∧ timeout ≠ 0) := by
    by_cases hkey : other = key ∧ timeout ≠ 0 <;> simp [Record.renews, Record.timeout?, hkey]
  unfold phase?
  rw [timeout?_concat, reportedLast_concat, ticksSince_concat, hrenews]
  by_cases hkey : other = key ∧ timeout ≠ 0 <;> simp [Record.timeout?, hkey]

theorem phase?_concat_tick {policy : TickPolicy} {key : FrameKey} {past : List Record}
    {rows : List Overdue}
    (hrows : (rows.any fun row => row.key = key) =
      (phase? policy key past).any (Phase.isDue policy)) :
    phase? policy key (past ++ [⟨.tick, rows⟩]) =
      (phase? policy key past).map (Phase.next policy) := by
  have hrenews : (⟨.tick, rows⟩ : Record).renews key =
      (phase? policy key past).any (Phase.isDue policy) := by
    rw [← hrows]
    rfl
  have htimeout : timeout? key (past ++ [⟨.tick, rows⟩]) = timeout? key past := by
    rw [timeout?_concat]
    rfl
  cases hphase : phase? policy key past with
  | none =>
      have hnone := Option.map_eq_none_iff.mp hphase
      rw [phase?, htimeout, hnone]
      rfl
  | some phase =>
      obtain ⟨timeout, hsome, rfl⟩ := Option.map_eq_some_iff.mp hphase
      rw [hphase, Option.any_some] at hrenews
      rw [phase?, htimeout, hsome, Option.map_some, Option.map_some, Phase.next, ← hrenews,
        reportedLast_concat, ticksSince_concat]
      cases (⟨.tick, rows⟩ : Record).renews key <;> simp

/-- The countdown of a frame stands where the phase of the frame says, and no report of the frame was
missed. -/
structure OnTime (policy : TickPolicy) (key : FrameKey) (past : List Record)
    (countdown : Option Countdown) : Prop where
  standing : countdown = (phase? policy key past).map (Phase.countdown policy)
  early : ∀ phase, phase? policy key past = some phase → phase.Early policy

namespace OnTime

variable {policy : TickPolicy} {key : FrameKey} {past : List Record} {countdown : Option Countdown}

/-- A tick reports a frame exactly if its phase is due. -/
theorem row?_tick (ontime : OnTime policy key past countdown) :
    Call.row? policy key .tick countdown =
      (phase? policy key past).bind (Phase.row? policy key) := by
  rw [ontime.standing, Call.row?]
  cases phase? policy key past with
  | none => rfl
  | some phase =>
      simp only [Option.map_some, Option.bind_some, overdue?, Phase.step_countdown, Phase.row?]
      split <;> rfl

/-- A restart keeps the countdown in line with the past. -/
theorem restart (ontime : OnTime policy key past countdown) (other : FrameKey)
    (timeout : UInt32) :
    OnTime policy key (past ++ [⟨.restart other timeout, []⟩])
      (Call.act policy key (.restart other timeout) countdown) := by
  constructor
  · rw [phase?_concat_restart, Call.act]
    split
    · simp [Countdown.start, Phase.countdown]
    · exact ontime.standing
  · rw [phase?_concat_restart]
    split
    · rintro phase ⟨⟩
      simp [Phase.Early]
    · exact ontime.early

/-- A tick keeps the countdown in line with the past. -/
theorem tick (ontime : OnTime policy key past countdown) {rows : List Overdue}
    (hrows : (rows.any fun row => row.key = key) =
      (Call.row? policy key .tick countdown).isSome) :
    OnTime policy key (past ++ [⟨.tick, rows⟩]) (Call.act policy key .tick countdown) := by
  have hdue : (rows.any fun row => row.key = key) =
      (phase? policy key past).any (Phase.isDue policy) := by
    rw [hrows, ontime.row?_tick]
    cases phase? policy key past with
    | none => rfl
    | some phase => cases hdue : phase.isDue policy <;> simp [Phase.row?, hdue]
  constructor
  · rw [phase?_concat_tick hdue, ontime.standing, Call.act, Option.map_map, Option.map_map]
    congr 1
    funext phase
    exact congrArg Prod.snd (phase.step_countdown policy)
  · rw [phase?_concat_tick hdue]
    intro phase hphase
    obtain ⟨before, _, rfl⟩ := Option.map_eq_some_iff.mp hphase
    exact Phase.early_next

end OnTime

/-- The countdowns of all frames stand where the records say. -/
structure Tracks (policy : TickPolicy) (past : List Record) (countdowns : Countdowns) : Prop where
  keys : countdowns.table.keys.Nodup
  frames : ∀ key, OnTime policy key past (countdowns.table.get? key)

namespace Tracks

variable {policy : TickPolicy} {past : List Record} {countdowns : Countdowns}

theorem start (policy : TickPolicy) : Tracks policy [] {} where
  keys := List.nodup_nil
  frames := fun _ => ⟨rfl, fun _ hphase => nomatch hphase⟩

theorem call (tracks : Tracks policy past countdowns) (call : Call) :
    Tracks policy (past ++ [⟨call, (countdowns.call policy call).1⟩])
      (countdowns.call policy call).2 where
  keys := nodup_keys_call tracks.keys policy call
  frames := by
    intro key
    rw [get?_call]
    cases call with
    | restart other timeout => exact (tracks.frames key).restart other timeout
    | tick =>
        apply (tracks.frames key).tick
        have hrows := congrArg (List.any · fun _ => true)
          (filter_rows_call tracks.keys policy .tick key)
        rw [List.any_filter] at hrows
        simp only [Bool.and_true] at hrows
        rw [hrows]
        cases Call.row? policy key .tick (countdowns.table.get? key) <;> rfl

/-- Every run of calls keeps the countdowns in line with the past. -/
theorem run (tracks : Tracks policy past countdowns) (calls : List Call) :
    Tracks policy (past ++ countdowns.records policy calls) (countdowns.after policy calls) := by
  induction calls generalizing past countdowns with
  | nil =>
      rw [records, List.append_nil]
      exact tracks
  | cons first rest ih =>
      have hrest := ih (tracks.call first)
      rw [List.append_assoc] at hrest
      exact hrest

theorem seeded (policy : TickPolicy) (frames : List (FrameKey × UInt32)) :
    Tracks policy (frames.map fun (key, timeout) => ⟨.restart key timeout, []⟩)
      (Countdowns.seeded frames) := by
  induction frames using List.reverseRecOn with
  | nil => exact start policy
  | append_singleton frames frame ih =>
      rw [List.map_append, seeded_concat]
      exact ih.call (.restart frame.1 frame.2)

theorem history (policy : TickPolicy) (frames : List (FrameKey × UInt32)) (calls : List Call) :
    Tracks policy (Countdowns.history policy frames calls)
      ((Countdowns.seeded frames).after policy calls) :=
  (seeded policy frames).run calls

/-- The next tick has a row for each frame that is due in its phase, and no other rows. -/
theorem mem_rows_tick_iff (tracks : Tracks policy past countdowns) (row : Overdue) :
    row ∈ (countdowns.tick policy).1 ↔
      ∃ phase, phase? policy row.key past = some phase ∧
        phase.row? policy row.key = some row := by
  rw [mem_tick_iff tracks.keys, (tracks.frames row.key).row?_tick]
  exact Option.bind_eq_some_iff

end Tracks

theorem reportsOf_cons (key : FrameKey) (record : Record) (past : List Record) :
    reportsOf key (record :: past) =
      (if record.call = .tick then [record.rows.filter fun row => row.key = key] else []) ++
        reportsOf key past := by
  by_cases htick : record.call = .tick <;> simp [reportsOf, htick]

/-- A call leaves every countdown alone that it does not concern. -/
theorem act_of_not_concerns {call : Call} {key : FrameKey} (hcall : call.concerns key = false)
    (policy : TickPolicy) (countdown : Option Countdown) :
    call.act policy key countdown = countdown := by
  cases call with
  | tick => cases hcall
  | restart other timeout => exact if_neg fun hkey => of_decide_eq_false hcall hkey.1

/-- What is reported of a frame, tick by tick, stays the same if the restarts of other frames are
left out. -/
theorem reportsOf_records {countdowns other : Countdowns} (hkeys : countdowns.table.keys.Nodup)
    (hother : other.table.keys.Nodup) {key : FrameKey}
    (hsame : countdowns.table.get? key = other.table.get? key) (policy : TickPolicy)
    (calls : List Call) :
    reportsOf key (countdowns.records policy calls) =
      reportsOf key (other.records policy (calls.filter (Call.concerns key))) := by
  induction calls generalizing countdowns other with
  | nil => rfl
  | cons call rest ih =>
      have hafter := nodup_keys_call hkeys policy call
      cases hcall : call.concerns key with
      | true =>
          have hrest := ih hafter (nodup_keys_call hother policy call)
            (by rw [get?_call, get?_call, hsame])
          rw [List.filter_cons_of_pos hcall, records, records, reportsOf_cons, reportsOf_cons,
            hrest, filter_rows_call hkeys, filter_rows_call hother, hsame]
      | false =>
          have hrest := ih hafter hother
            (by rw [get?_call, act_of_not_concerns hcall, hsame])
          have hquiet : call ≠ .tick := by
            rintro rfl
            cases hcall
          rw [List.filter_cons_of_neg (by simp [hcall]), records, reportsOf_cons, hrest,
            if_neg hquiet, List.nil_append]

theorem get?_seeded (key : FrameKey) (frames : List (FrameKey × UInt32)) :
    (seeded frames).table.get? key =
      (seeded (frames.filter fun frame => frame.1 = key)).table.get? key := by
  induction frames using List.reverseRecOn with
  | nil => rfl
  | append_singleton frames frame ih =>
      rw [List.filter_append, seeded_concat, get?_restart]
      by_cases hkey : frame.1 = key
      · rw [List.filter_cons_of_pos (by simp [hkey]), List.filter_nil, seeded_concat, get?_restart,
          ih]
      · rw [List.filter_cons_of_neg (by simp [hkey]), List.filter_nil, List.append_nil,
          if_neg (mt And.left hkey), ih]

/-- After any ticks and restarts, the next tick reports a frame exactly if it is tick number
`(base + threshold) / tick + 1` of the frame's phase. The row has the frame's timeout and says by how
much the ticks of the phase exceed the base, which is more than the threshold and by at most one tick.
Rows are in the order of frames, and what a run reports of a frame has nothing to do with the restarts
of other frames. -/
theorem reports_on_schedule {policy : TickPolicy} (htick : 0 < policy.tick)
    (frames : List (FrameKey × UInt32)) (calls : List Call) :
    let past := history policy frames calls
    let rows := (((seeded frames).after policy calls).tick policy).1
    (∀ key, (∃ row ∈ rows, row.key = key) ↔
        ∃ phase, phase? policy key past = some phase ∧
          phase.ticks + 1 =
            (phase.base + policy.threshold.toNat) / policy.tick.toNat + 1) ∧
      (∀ row ∈ rows, ∃ phase, phase? policy row.key past = some phase ∧
        row.expected = phase.timeout ∧
        row.late = ((phase.ticks + 1) * policy.tick.toNat : Nat) - (phase.base : Int) ∧
        policy.threshold.toNat < row.late ∧
        row.late ≤ policy.threshold.toNat + policy.tick.toNat) ∧
      (rows.Pairwise fun a b => a.key.lt b.key) ∧
      ∀ key, reportsOf key ((seeded frames).records policy calls) =
        reportsOf key ((seeded (frames.filter fun frame => frame.1 = key)).records policy
          (calls.filter (Call.concerns key))) := by
  intro past rows
  have hpositive : 0 < policy.tick.toNat := UInt32.lt_iff_toNat_lt.mp htick
  have tracks : Tracks policy past ((seeded frames).after policy calls) :=
    .history policy frames calls
  refine ⟨?_, ?_, pairwise_rows_tick tracks.keys policy, ?_⟩
  · intro key
    constructor
    · rintro ⟨row, hmem, rfl⟩
      obtain ⟨phase, hphase, hrow⟩ := (tracks.mem_rows_tick_iff row).mp hmem
      have early := (tracks.frames row.key).early phase hphase
      exact ⟨phase, hphase, (early.isDue_iff_eq hpositive).mp (Phase.row?_eq_some_iff.mp hrow).1⟩
    · rintro ⟨phase, hphase, hnumber⟩
      have early := (tracks.frames key).early phase hphase
      have hdue := (early.isDue_iff_eq hpositive).mpr hnumber
      let row : Overdue :=
        { key, expected := phase.timeout, late := (phase.elapsed policy : Int) - phase.base }
      have hrow : phase.row? policy row.key = some row := Phase.row?_eq_some_iff.mpr ⟨hdue, rfl⟩
      exact ⟨row, (tracks.mem_rows_tick_iff row).mpr ⟨phase, hphase, hrow⟩, rfl⟩
  · intro row hmem
    obtain ⟨phase, hphase, hrow⟩ := (tracks.mem_rows_tick_iff row).mp hmem
    obtain ⟨hdue, hfields⟩ := Phase.row?_eq_some_iff.mp hrow
    have hlate : row.late = (phase.elapsed policy : Int) - phase.base := by rw [hfields]
    have hexceeds := Phase.isDue_iff.mp hdue
    have hbound := ((tracks.frames row.key).early phase hphase).late_le
    refine ⟨phase, hphase, by rw [hfields], hlate, ?_, ?_⟩
    · rw [hlate]
      omega
    · rw [hlate]
      exact hbound
  · intro key
    exact reportsOf_records (Tracks.seeded policy frames).keys (Tracks.seeded policy _).keys
      (get?_seeded key frames) policy calls

/-- Frame 0 of node 3 is reported by the fourth tick and then by the sixth after it, which is the
number of whole ticks in the backoff time and the threshold, plus one. Frame 1 of node 2 is restarted
before its first report. -/
theorem reports_on_schedule_after_backoff :
    let policy : TickPolicy := { tick := 5, threshold := 5, backoff := 20 }
    let frames : List (FrameKey × UInt32) := [(⟨3, 0⟩, 10), (⟨2, 1⟩, 10)]
    let calls : List Call :=
      [.tick, .tick, .tick, .restart ⟨2, 1⟩ 100, .tick, .tick, .tick, .tick, .tick, .tick]
    let rows := (((seeded frames).after policy calls).tick policy).1
    0 < policy.tick ∧
      phase? policy ⟨3, 0⟩ (history policy frames calls) =
        some { timeout := 10, base := 20, ticks := 5 } ∧
      (∃ row ∈ rows, row.key = ⟨3, 0⟩) ∧
      rows = [{ key := ⟨3, 0⟩, expected := 10, late := 10 }] :=
  ⟨by decide, by decide +kernel,
    ((reports_on_schedule (by decide) _ _).1 ⟨3, 0⟩).mpr
      ⟨{ timeout := 10, base := 20, ticks := 5 }, by decide +kernel, by decide⟩,
    by decide +kernel⟩

end Countdowns

end GroundStation
