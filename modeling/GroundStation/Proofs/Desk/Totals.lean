import GroundStation.Proofs.Desk.Footprint
import Mathlib.Algebra.BigOperators.Group.List.Basic
import Mathlib.Algebra.GroupWithZero.Nat
import Mathlib.Data.UInt

/-!
What the counters of a desk show about the messages that it read. A message is counted once, by the
function that its code names or as unknown, whoever listens. A fault is counted once and posts one
warning on the telemetry channel. Messages give rise to two other kinds of warnings on that channel:
the opening of a signal, and a code that the table of its kind calls a warning. As long as somebody
listens to the feed, what the counter of faults gains is the number of warnings that are put on it
without these. When nobody listens, faults are still counted and nothing is put on the feed.
-/

namespace GroundStation

namespace Function

def all : List Function :=
  [networkManagement, synchronization, warningCode, telemetryCommand, heartbeatPing, heartbeatPong,
    transmitData, heartbeatResponseUpdate, busStatusUpdate, statusUpdate, errorControl]

theorem mem_all (function : Function) : function ∈ all := by
  cases function <;> simp [all]

/-- A code stands for at most one function. -/
theorem ofCode?_eq_some_iff {code : UInt8} {function : Function} :
    ofCode? code = some function ↔ function.code = code := by
  constructor
  · intro hsome
    unfold ofCode? at hsome
    split at hsome <;> cases hsome <;>
      exact (UInt8.toNat_inj.mp (by assumption)).symm
  · rintro rfl
    exact ofCode?_code function

end Function

/-- How serious the code in a data word is, if it fits into 32 bits and the table names it. -/
def CodeTable.wordSeverity? (table : CodeTable) (data : UInt64) : Option Severity :=
  let code := data.toInt64.toInt
  if Int32.minValue.toInt ≤ code ∧ code ≤ Int32.maxValue.toInt ∧ (table.name? code).isSome then
    some (table.severity code)
  else none

namespace Message

def isFor (function : Function) (message : Message) : Bool :=
  message.address.functionCode = function.code

def isUnassigned (message : Message) : Bool :=
  Function.all.all fun function => message.address.functionCode ≠ function.code

/-- How serious the code in the message is, if the message is of a kind that carries a code and the
table of the kind names it. -/
def codeSeverity? (codebook : Codebook) (message : Message) : Option Severity :=
  match message.address.function? with
  | some .telemetryCommand => codebook.telemetryCommand.wordSeverity? message.data
  | some .statusUpdate => codebook.statusUpdate.wordSeverity? message.data
  | _ => none

theorem isFor_iff {function : Function} {message : Message} :
    message.isFor function = true ↔ message.address.function? = some function := by
  rw [isFor, decide_eq_true_iff, Address.function?, Function.ofCode?_eq_some_iff, eq_comm]

theorem isUnassigned_iff {message : Message} :
    message.isUnassigned = true ↔ message.address.function? = none := by
  rw [isUnassigned, List.all_eq_true, Option.eq_none_iff_forall_ne_some]
  constructor
  · intro hall function hfunction
    have hcode := hall function function.mem_all
    rw [Address.function?, Function.ofCode?_eq_some_iff] at hfunction
    simp [hfunction] at hcode
  · intro hnone function _
    have hcode := hnone function
    rw [Address.function?, ne_eq, Function.ofCode?_eq_some_iff] at hcode
    exact decide_eq_true (Ne.symm hcode)

/-- Every message has the code of one function or an unassigned one. -/
theorem sum_countP_isFor (messages : List Message) :
    (Function.all.map fun function => messages.countP (isFor function)).sum +
        messages.countP isUnassigned = messages.length := by
  induction messages with
  | nil => rfl
  | cons message rest ih =>
      have hone : (Function.all.map fun function => if message.isFor function then 1 else 0).sum +
          (if message.isUnassigned then 1 else 0) = 1 := by
        simp only [isFor_iff, isUnassigned_iff]
        cases message.address.function? with
        | none => rfl
        | some function => cases function <;> rfl
      simp only [List.countP_cons, List.sum_map_add, List.length_cons]
      omega

end Message

namespace Counters

/-- The three ways to name a counter by a function agree: the counter that a message of one function
moves is the one that is shown for this function, and no other moves. -/
theorem messages_countMessage (counters : Counters) (found : Option Function)
    (function : Function) :
    (counters.countMessage found).totals.messages function =
      counters.totals.messages function + UInt64.ofNat (if found = some function then 1 else 0) := by
  cases found with
  | none => cases function <;> exact (UInt64.add_zero _).symm
  | some other =>
      cases other <;> cases function <;>
        first | exact UInt64.ofNat_add _ _ | exact (UInt64.add_zero _).symm

theorem unknownFunctions_countMessage (counters : Counters) (found : Option Function) :
    (counters.countMessage found).totals.unknownFunctions =
      counters.totals.unknownFunctions + UInt64.ofNat (if found = none then 1 else 0) := by
  cases found with
  | none => exact UInt64.ofNat_add _ _
  | some other => exact (UInt64.add_zero _).symm

theorem protocolWarnings_countMessage (counters : Counters) (found : Option Function) :
    (counters.countMessage found).protocolWarnings = counters.protocolWarnings := by
  cases found <;> rfl

end Counters

def Feed.Event.isWarning : Feed.Event → Bool
  | .post _ .telemetry .warning _ => true
  | _ => false

/-- The action writes a warning on the telemetry channel and is not a fault. -/
def Action.warns : Action → Bool
  | .post .telemetry .warning _ | .upsert _ .telemetry .warning _ => true
  | _ => false

/-- A warning of the action is no fault: the action opens a signal, or it tells a code that the table
of its kind calls a warning. -/
def Action.isExpected (code? : Option Severity) : Action → Bool
  | .grade _ _ _ => true
  | .post _ _ _ => code? = some .warning
  | .fault _ | .upsert _ _ _ _ | .present _ | .restart _ _ | .sample _ _ => false

namespace Reading

/-- The only warning that a code asks for is the code itself. -/
theorem isExpected_of_mem_code {registry : Registry} {table : CodeTable} {node : UInt8}
    {data : UInt64} {action : Action} (hmem : action ∈ code registry table node data)
    (hwarns : action.warns = true) : action.isExpected (table.wordSeverity? data) = true := by
  unfold code at hmem
  dsimp only at hmem
  split at hmem
  · rw [List.mem_singleton.mp hmem] at hwarns
    cases hwarns
  · rename_i hrange
    split at hmem
    · rw [List.mem_singleton.mp hmem] at hwarns
      cases hwarns
    · rename_i flag hname
      rw [List.mem_singleton.mp hmem] at hwarns ⊢
      have hsevere : table.severity data.toInt64.toInt = .warning := by
        revert hwarns
        cases table.severity data.toInt64.toInt <;> simp [Action.warns]
      have hnamed : (table.name? data.toInt64.toInt).isSome = true := by
        rw [hname, Option.isSome_some]
      unfold CodeTable.wordSeverity?
      dsimp only
      rw [if_pos ⟨by omega, by omega, hnamed⟩, hsevere]
      rfl

/-- Of what a message asks for, only the telling of a code that its table calls a warning is a
warning on the telemetry channel without being a fault. -/
theorem isExpected_of_mem_message {profile : Profile} {sent : Message} {action : Action}
    (hmem : action ∈ message profile sent) (hwarns : action.warns = true) :
    action.isExpected (sent.codeSeverity? profile.codebook) = true := by
  unfold Message.codeSeverity?
  cases hfunction : sent.address.function? with
  | none =>
      simp only [message, hfunction] at hmem
      rw [List.mem_singleton.mp hmem] at hwarns
      cases hwarns
  | some function =>
      cases function with
      | telemetryCommand =>
          simp only [message, hfunction] at hmem
          exact isExpected_of_mem_code hmem hwarns
      | statusUpdate =>
          simp only [message, hfunction] at hmem
          exact isExpected_of_mem_code hmem hwarns
      | transmitData =>
          rw [message_of_transmitData hfunction] at hmem
          have habout := List.all_eq_true.mp (all_isAbout_sensor _ _ _) action hmem
          cases action <;> first | cases hwarns | cases habout
      | heartbeatPong =>
          rw [message_of_heartbeatPong hfunction, pong] at hmem
          split at hmem <;> rw [List.mem_singleton.mp hmem] at hwarns <;> cases hwarns
      | heartbeatResponseUpdate =>
          simp only [message, hfunction] at hmem
          rcases mem_heartbeat hmem with ⟨text, rfl⟩ | ⟨slot, severity, text, rfl⟩ <;> cases hwarns
      | warningCode =>
          simp only [message, hfunction, warning, Warning.actions, Warning.typeNotice] at hmem
          rcases List.mem_append.mp hmem with htype | hnotice
          · split at htype
            · rw [List.mem_singleton.mp htype] at hwarns
              cases hwarns
            · rw [List.mem_singleton.mp htype] at hwarns
              cases hwarns
            · cases htype
          · rw [List.mem_singleton.mp hnotice] at hwarns
            cases hwarns
      | _ =>
          simp only [message, hfunction, bus] at hmem
          rw [List.mem_singleton.mp hmem] at hwarns
          cases hwarns

end Reading

namespace Desk

/-- The display takes samples of the data point. It takes none when nobody listens. -/
def takes (desk : Desk) (key : DataKey) : Bool :=
  desk.displays key && desk.feed.live

theorem takes_of_live {desk : Desk} (hlive : desk.feed.live = true) :
    desk.takes = desk.displays := by
  funext key
  rw [takes, hlive, Bool.and_true]

theorem sample_eq (desk : Desk) (key : DataKey) (value : Int) :
    desk.sample key value =
      if desk.takes key then { desk with feed := desk.feed.emit (.sample key value) }
      else desk.fault (refusalText key value) := by
  unfold sample Feed.sample takes
  cases hshown : desk.displays key with
  | false => simp
  | true =>
      cases hlive : desk.feed.live with
      | true => simp
      | false => simp [Feed.emit, hlive]

def faults (takes : DataKey → Bool) : Action → Nat
  | .fault _ => 1
  | .sample key _ => if takes key then 0 else 1
  | .post _ _ _ | .upsert _ _ _ _ | .present _ | .restart _ _ | .grade _ _ _ => 0

/-- An action counts its faults and nothing else. -/
theorem counters_perform (desk : Desk) (action : Action) :
    (desk.perform action).counters =
      { desk.counters with
        protocolWarnings := desk.counters.protocolWarnings + faults desk.takes action } := by
  cases action with
  | sample key value =>
      rw [perform, sample_eq, faults]
      split <;> rfl
  | _ => rfl

theorem live_perform_eq (desk : Desk) (action : Action) :
    (desk.perform action).feed.live = desk.feed.live := by
  cases action with
  | post channel severity text => exact Feed.live_post _ _ _ _
  | fault text => exact Feed.live_post _ _ _ _
  | present node => rfl
  | restart key timeout => rfl
  | grade key severity title =>
      simp only [perform, grade, Board.grade]
      split
      · split
        · rfl
        · exact Feed.live_emit _ _
      · split
        · rfl
        · exact Feed.live_post _ _ _ _
  | sample key value =>
      rw [perform, sample_eq]
      split
      · exact Feed.live_emit _ _
      · exact Feed.live_post _ _ _ _
  | upsert slot channel severity text =>
      simp only [perform, upsert, Board.upsert]
      split
      · simp [Feed.setText, Feed.setSeverity]
      · exact Feed.live_post _ _ _ _

theorem takes_perform (desk : Desk) (action : Action) :
    (desk.perform action).takes = desk.takes := by
  funext key
  rw [takes, takes, displays_perform, live_perform_eq]

theorem counters_foldl_perform (desk : Desk) (actions : List Action) :
    (actions.foldl perform desk).counters =
      { desk.counters with
        protocolWarnings :=
          desk.counters.protocolWarnings + (actions.map (faults desk.takes)).sum } := by
  induction actions generalizing desk with
  | nil => rfl
  | cons action rest ih =>
      rw [List.foldl_cons, ih, counters_perform, takes_perform, List.map_cons, List.sum_cons,
        Nat.add_assoc]

/-- A message is counted once by its function, and then each of its faults. -/
theorem counters_decode (desk : Desk) (message : Message) :
    (desk.decode message).counters =
      { desk.counters.countMessage message.address.function? with
        protocolWarnings := desk.counters.protocolWarnings +
          ((Reading.message desk.profile message).map (faults desk.takes)).sum } := by
  unfold decode
  dsimp only
  rw [counters_foldl_perform]
  dsimp only
  rw [Counters.protocolWarnings_countMessage]
  rfl

theorem takes_decode (desk : Desk) (message : Message) :
    (desk.decode message).takes = desk.takes :=
  foldl_perform_of_kept takes (fun action _ desk => desk.takes_perform action) _

theorem live_foldl_perform (desk : Desk) (actions : List Action) :
    (actions.foldl perform desk).feed.live = desk.feed.live :=
  foldl_perform_of_kept (fun desk => desk.feed.live)
    (fun action _ desk => desk.live_perform_eq action) desk

theorem live_decode {desk : Desk} (hlive : desk.feed.live = true) (message : Message) :
    (desk.decode message).feed.live = true :=
  (live_foldl_perform _ _).trans hlive

section Messages

variable (desk : Desk) (messages : List Message)

/-- Over a run of messages, the count of a function gains those with its code. -/
theorem messages_run_decode (function : Function) :
    (desk.run (messages.map .decode)).counters.totals.messages function =
      desk.counters.totals.messages function +
        UInt64.ofNat (messages.countP (Message.isFor function)) := by
  induction messages generalizing desk with
  | nil => exact (UInt64.add_zero _).symm
  | cons message rest ih =>
      have hcount : (desk.decode message).counters.totals.messages function =
          (desk.counters.countMessage message.address.function?).totals.messages function := by
        rw [counters_decode]
        cases function <;> rfl
      have hrest := ih (desk.decode message)
      rw [hcount, Counters.messages_countMessage, UInt64.add_assoc, ← UInt64.ofNat_add] at hrest
      rw [List.countP_cons, Nat.add_comm]
      simp only [Message.isFor_iff]
      exact hrest

/-- Over a run of messages, the count of unknown functions gains those without one. -/
theorem unknownFunctions_run_decode :
    (desk.run (messages.map .decode)).counters.totals.unknownFunctions =
      desk.counters.totals.unknownFunctions +
        UInt64.ofNat (messages.countP Message.isUnassigned) := by
  induction messages generalizing desk with
  | nil => exact (UInt64.add_zero _).symm
  | cons message rest ih =>
      have hcount : (desk.decode message).counters.totals.unknownFunctions =
          (desk.counters.countMessage message.address.function?).totals.unknownFunctions := by
        rw [counters_decode]
        rfl
      have hrest := ih (desk.decode message)
      rw [hcount, Counters.unknownFunctions_countMessage, UInt64.add_assoc, ← UInt64.ofNat_add]
        at hrest
      rw [List.countP_cons, Nat.add_comm]
      simp only [Message.isUnassigned_iff]
      exact hrest

/-- The counter of faults gains what the actions of the messages add. -/
theorem protocolWarnings_run_decode :
    (desk.run (messages.map .decode)).counters.protocolWarnings =
      desk.counters.protocolWarnings +
        ((messages.flatMap (Reading.message desk.profile)).map (faults desk.takes)).sum := by
  induction messages generalizing desk with
  | nil => rfl
  | cons message rest ih =>
      have hrest := ih (desk.decode message)
      have hprofile : (desk.decode message).profile = desk.profile := profile_foldl_perform _ _
      rw [counters_decode, takes_decode, hprofile] at hrest
      rw [List.flatMap_cons, List.map_append, List.sum_append, ← Nat.add_assoc]
      exact hrest

end Messages

def warnings (entries : List Entry) : Nat :=
  (entries.flatMap Entry.events).countP Feed.Event.isWarning

def Step.codeSeverity? (codebook : Codebook) : Step → Option Severity
  | .decode message => message.codeSeverity? codebook
  | .evaluate | .tick _ | .command _ => none

def Entry.isExpected (codebook : Codebook) (entry : Entry) : Bool :=
  entry.action.isExpected (entry.step.codeSeverity? codebook)

theorem warnings_append (earlier later : List Entry) :
    warnings (earlier ++ later) = warnings earlier + warnings later := by
  rw [warnings, List.flatMap_append, List.countP_append]
  rfl

theorem warnings_cons (entry : Entry) (rest : List Entry) :
    warnings (entry :: rest) = entry.events.countP Feed.Event.isWarning + warnings rest := by
  rw [warnings, List.flatMap_cons, List.countP_append]
  rfl

/-- A fault posts one warning, and apart from signals and from actions that are warnings themselves
nothing else does. -/
theorem Effect.countP_isWarning {displays : DataKey → Bool} {board after : Board}
    {next final : Nat} {action : Action} {events : List Feed.Event}
    (effect : Effect displays board next action events after final)
    (hquiet : action.warns = false) (hsignal : action.graded? = none) :
    events.countP Feed.Event.isWarning = faults displays action := by
  cases effect with
  | posted channel severity text =>
      cases channel <;> cases severity <;> first | rfl | cases hquiet
  | opened channel severity text hnone =>
      cases channel <;> cases severity <;> first | rfl | cases hquiet
  | shown value hshown => simp [faults, hshown, Feed.Event.isWarning]
  | refused value hrefused => simp [faults, hrefused, Feed.Event.isWarning]
  | normal | steady | raised | changed => cases hsignal
  | _ => rfl

/-- The warnings of an action that are not expected are its faults. -/
theorem countP_isWarning_emits {desk : Desk} (hlive : desk.feed.live = true)
    {code? : Option Severity} {action : Action}
    (hcode : action.warns = true → action.isExpected code? = true) :
    (desk.emits action).countP Feed.Event.isWarning =
      faults desk.displays action +
        if action.isExpected code? then (desk.emits action).countP Feed.Event.isWarning else 0 := by
  have hcount := (effect_perform hlive action).countP_isWarning
  cases action with
  | grade key severity title => simp [Action.isExpected, faults]
  | post channel severity text =>
      cases hwarns : (Action.post channel severity text).warns with
      | true => rw [if_pos (hcode hwarns), faults, Nat.zero_add]
      | false => simp [hcount hwarns rfl, faults]
  | upsert slot channel severity text =>
      have hquiet : (Action.upsert slot channel severity text).warns = false :=
        Bool.eq_false_iff.mpr fun hwarns => nomatch hcode hwarns
      exact hcount hquiet rfl
  | _ => exact hcount rfl rfl

/-- The warnings of a step are its faults and the expected ones. -/
theorem warnings_trace {desk : Desk} (hlive : desk.feed.live = true) {codebook : Codebook}
    {step : Step} {actions : List Action}
    (hcode : ∀ action ∈ actions, action.warns = true →
      action.isExpected (step.codeSeverity? codebook) = true) :
    warnings (desk.trace step actions) =
      (actions.map (faults desk.displays)).sum +
        warnings ((desk.trace step actions).filter (Entry.isExpected codebook)) := by
  induction actions generalizing desk with
  | nil => rfl
  | cons action rest ih =>
      obtain ⟨hfirst, hlater⟩ := List.forall_mem_cons.mp hcode
      have hrest := ih (live_perform hlive action) hlater
      have hentry := countP_isWarning_emits hlive hfirst
      rw [displays_perform] at hrest
      rw [trace, warnings_cons, hrest, List.map_cons, List.sum_cons, List.filter_cons]
      cases hexpected : action.isExpected (step.codeSeverity? codebook) with
      | true =>
          simp only [Entry.isExpected, hexpected, if_true, warnings_cons] at hentry ⊢
          omega
      | false =>
          simp only [Entry.isExpected, hexpected, Bool.false_eq_true, if_false] at hentry ⊢
          omega

/-- The warnings of a run of messages are their faults and the expected ones. -/
theorem warnings_journal {desk : Desk} (hlive : desk.feed.live = true) (messages : List Message) :
    warnings (desk.journal (messages.map .decode)) =
      ((messages.flatMap (Reading.message desk.profile)).map (faults desk.displays)).sum +
        warnings ((desk.journal (messages.map .decode)).filter
          (Entry.isExpected desk.profile.codebook)) := by
  induction messages generalizing desk with
  | nil => rfl
  | cons message rest ih =>
      have hcode : ∀ action ∈ Reading.message desk.profile message, action.warns = true →
          action.isExpected ((Step.decode message).codeSeverity? desk.profile.codebook) = true :=
        fun _ hmem hwarns => Reading.isExpected_of_mem_message hmem hwarns
      have htrace := warnings_trace hlive hcode
      have hrest := ih (live_decode hlive message)
      have hfootprint := Footprint.decode desk message
      rw [hfootprint.profile, hfootprint.displays] at hrest
      rw [List.map_cons, journal, warnings_append, List.filter_append, warnings_append,
        List.flatMap_cons, List.map_append, List.sum_append]
      simp only [asks, step]
      omega

theorem sum_map_ofNat (count : Function → Nat) (functions : List Function) :
    (functions.map fun function => UInt64.ofNat (count function)).sum =
      UInt64.ofNat (functions.map count).sum := by
  induction functions with
  | nil => rfl
  | cons function rest ih =>
      rw [List.map_cons, List.sum_cons, ih, List.map_cons, List.sum_cons, UInt64.ofNat_add]

theorem warnings_filter_le (keep : Entry → Bool) (entries : List Entry) :
    warnings (entries.filter keep) ≤ warnings entries := by
  induction entries with
  | nil => exact Nat.le_refl _
  | cons entry rest ih =>
      rw [List.filter_cons, warnings_cons]
      split
      · rw [warnings_cons]
        omega
      · omega

/-- Whatever state the desk is in, the count that is shown for a function gains the number of messages
with the code of the function, the one of unknown functions gains the number of messages whose code
is unassigned, and together they gain one for each message. If somebody listens to the feed, the
count of faults gains the number of warnings that the messages put on the telemetry channel, without
those that open a signal and those that tell a code that its table calls a warning. All gains are
those of 64-bit numbers. -/
theorem decoding_is_counted (desk : Desk) (messages : List Message) :
    let steps := messages.map Step.decode
    let before := desk.counters.totals
    let after := (desk.run steps).counters.totals
    let entries := desk.journal steps
    let expected := entries.filter (Entry.isExpected desk.profile.codebook)
    (∀ function, after.messages function - before.messages function =
        UInt64.ofNat (messages.countP (Message.isFor function))) ∧
      after.unknownFunctions - before.unknownFunctions =
        UInt64.ofNat (messages.countP Message.isUnassigned) ∧
      (Function.all.map fun function =>
          after.messages function - before.messages function).sum +
        (after.unknownFunctions - before.unknownFunctions) = UInt64.ofNat messages.length ∧
      (desk.feed.live = true →
        (desk.run steps).feed.events.toList =
            desk.feed.events.toList ++ entries.flatMap Entry.events ∧
          warnings expected ≤ warnings entries ∧
          after.protocolWarnings - before.protocolWarnings =
            UInt64.ofNat (warnings entries - warnings expected)) := by
  intro steps before after entries expected
  have hgain {now old gain : UInt64} (hsum : now = old + gain) : now - old = gain := by
    rw [hsum, UInt64.add_comm, UInt64.add_sub_cancel]
  have hmessages (function : Function) := hgain (desk.messages_run_decode messages function)
  have hunknown := hgain (desk.unknownFunctions_run_decode messages)
  refine ⟨hmessages, hunknown, ?_, ?_⟩
  · simp only [steps, before, after, hmessages, hunknown]
    rw [sum_map_ofNat, ← UInt64.ofNat_add, Message.sum_countP_isFor]
  · intro hlive
    have hfaults := desk.protocolWarnings_run_decode messages
    have hwarnings := warnings_journal hlive messages
    have hless := warnings_filter_le (Entry.isExpected desk.profile.codebook) entries
    rw [takes_of_live hlive] at hfaults
    have htotal : (desk.run steps).counters.protocolWarnings =
        desk.counters.protocolWarnings + (warnings entries - warnings expected) := by
      simp only [steps, entries, expected] at hless ⊢
      omega
    refine ⟨toList_run hlive steps, hless, hgain ?_⟩
    exact (congrArg UInt64.ofNat htotal).trans (UInt64.ofNat_add _ _)

/-- Node 3 sends a value outside the warning range, with a second data point that the display
refuses, then a status that is a warning, a status that nobody knows, a message with an unassigned
code and one for error control. Of the five warnings two are expected. -/
theorem decoding_is_counted_five_warnings :
    let point : PointInfo :=
      { name := "rpm", bitLength := 8, min := 0, max := 255, minWarning := 0, maxWarning := 90,
        minCritical := 0, maxCritical := 200 }
    let desk : Desk :=
      { profile :=
          { registry := .ofEntries
              [.node 3 "motor", .point ⟨3, 0, 0⟩ point, .point ⟨3, 0, 1⟩ point] }
        displays := fun key => key.index = 0 }
    let messages : List Message :=
      [⟨0x303, 100⟩, ⟨0x483, 3⟩, ⟨0x483, 9⟩, ⟨0x503, 0⟩, ⟨0x703, 0⟩]
    let entries := desk.journal (messages.map .decode)
    let after := (desk.run (messages.map .decode)).counters.totals
    desk.feed.live = true ∧ warnings entries = 5 ∧
      warnings (entries.filter (Entry.isExpected desk.profile.codebook)) = 2 ∧
      after.protocolWarnings - desk.counters.totals.protocolWarnings = 3 ∧
      after.messages .statusUpdate - desk.counters.totals.messages .statusUpdate = 2 ∧
      after.unknownFunctions - desk.counters.totals.unknownFunctions = 1 := by
  intro point desk messages entries after
  have hlive : desk.feed.live = true := rfl
  have hwarnings : warnings entries = 5 := by decide +kernel
  have hexpected : warnings (entries.filter (Entry.isExpected desk.profile.codebook)) = 2 := by
    decide +kernel
  obtain ⟨hmessages, hunknown, _, hfeed⟩ := decoding_is_counted desk messages
  obtain ⟨_, _, hfaults⟩ := hfeed hlive
  have hgain : after.protocolWarnings - desk.counters.totals.protocolWarnings =
      UInt64.ofNat (warnings entries -
        warnings (entries.filter (Entry.isExpected desk.profile.codebook))) := hfaults
  rw [hwarnings, hexpected] at hgain
  exact ⟨hlive, hwarnings, hexpected, hgain, hmessages .statusUpdate, hunknown⟩

/-- Nobody listens when a message with an unassigned code arrives. The fault is counted, and no
warning is put on the feed. -/
theorem unheard_fault_is_counted :
    let desk : Desk := Desk.hangUp { profile := {} }
    let after := desk.run [.decode ⟨0x503, 0⟩]
    after.counters.totals.protocolWarnings - desk.counters.totals.protocolWarnings = 1 ∧
      after.feed.events.toList.countP Feed.Event.isWarning = 0 := by
  decide +kernel

end Desk

end GroundStation
