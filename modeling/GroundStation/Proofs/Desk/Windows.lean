import GroundStation.Proofs.Desk.Journal
import GroundStation.Proofs.Reading.Scope
import Mathlib.Data.List.DropRight

/-!
The windows of the roll call. Between two closings the roll call collects the nodes that have a name
and answered; an answer counts in the window in which it arrives and in no other. The report of a
closing splits the positions of the roster into those that answered in the window and those that are
missing, and depends on nothing but the answers of nodes with a name.
-/

namespace GroundStation

namespace RollCall

theorem mem_enroll (node other : UInt8) (nodes : List UInt8) :
    other ∈ enroll node nodes ↔ other = node ∨ other ∈ nodes := by
  induction nodes with
  | nil => simp [enroll]
  | cons first rest ih =>
      unfold enroll
      split
      · exact List.mem_cons
      · split
        · rename_i hsame
          rw [hsame]
          simp
        · rw [List.mem_cons, ih, List.mem_cons, or_left_comm]

theorem contains_record (call : RollCall) (node other : UInt8) :
    (call.record node).contains other = (decide (other = node) || call.contains other) := by
  rw [Bool.eq_iff_iff, Bool.or_eq_true, decide_eq_true_iff]
  simp only [contains, record, List.contains_iff_mem, mem_enroll]

/-- Every position of the roster is collected or missing. -/
theorem collected_add_length_missing (call : RollCall) (registry : Registry) :
    (call.report registry).collected + (call.report registry).missing.length =
      (call.report registry).total := by
  simp only [report, List.length_map, ← List.countP_eq_length_filter]
  rw [List.length_eq_countP_add_countP call.contains]
  simp

/-- A report is OK exactly if nobody is missing. -/
theorem severity_report_eq_ok_iff (call : RollCall) (registry : Registry) :
    (call.report registry).severity = .ok ↔ (call.report registry).missing = [] := by
  have hsum := call.collected_add_length_missing registry
  rw [Report.severity, ← List.length_eq_zero_iff]
  split
  · rename_i hall
    exact iff_of_true rfl (by omega)
  · rename_i hsome
    exact iff_of_false (fun heq => nomatch heq) (by omega)

end RollCall

namespace Desk

/-- The steps since the roll call was last closed. -/
def window (steps : List Step) : List Step :=
  steps.rtakeWhile fun step => step ≠ .evaluate

def Step.answersFor (node : UInt8) : Step → Bool
  | .decode message => message.isAnswer && message.address.node = node
  | .evaluate | .tick _ | .command _ => false

def answered (registry : Registry) (steps : List Step) (node : UInt8) : Bool :=
  (registry.nodeName? node).isSome && steps.any (Step.answersFor node)

def Step.counts (registry : Registry) : Step → Bool
  | .evaluate => true
  | .decode message => message.isAnswer && (registry.nodeName? message.address.node).isSome
  | .tick _ | .command _ => false

def reports (desk : Desk) : List Step → List RollCall.Report
  | [] => []
  | .evaluate :: rest => desk.evaluate.1 :: (desk.step .evaluate).reports rest
  | step :: rest => (desk.step step).reports rest

theorem rollCall_foldl_perform (desk : Desk) (actions : List Action) :
    (actions.foldl perform desk).rollCall =
      (actions.filterMap Action.marked?).foldl RollCall.record desk.rollCall := by
  induction actions generalizing desk with
  | nil => rfl
  | cons action rest ih =>
      rw [List.foldl_cons, ih, desk.perform_eq action]
      cases action <;> rfl

/-- An answer of a node with a name is recorded, and nothing else. -/
theorem rollCall_decode (desk : Desk) (message : Message) :
    (desk.decode message).rollCall =
      if message.isAnswer ∧ (desk.profile.registry.nodeName? message.address.node).isSome then
        desk.rollCall.record message.address.node
      else desk.rollCall := by
  unfold decode
  dsimp only
  rw [rollCall_foldl_perform, Reading.filterMap_marked?_message]
  split <;> rfl

/-- A step closes the roll call, records an answer or leaves it alone. -/
theorem rollCall_step (desk : Desk) (step : Step) :
    (desk.step step).rollCall =
      match step with
      | .evaluate => {}
      | .decode message =>
        if message.isAnswer ∧ (desk.profile.registry.nodeName? message.address.node).isSome then
          desk.rollCall.record message.address.node
        else desk.rollCall
      | .tick _ | .command _ => desk.rollCall := by
  cases step with
  | decode message => exact desk.rollCall_decode message
  | evaluate => rfl
  | tick policy =>
      simp only [Desk.step, tick]
      rw [foldl_reportOverdue_eq]
  | command text =>
      simp only [Desk.step, command]
      cases Command.parse text <;> rfl

theorem window_concat_evaluate (steps : List Step) : window (steps ++ [.evaluate]) = [] := by
  exact List.rtakeWhile_concat_neg _ _ _ (by simp)

theorem window_concat {step : Step} (hstep : step ≠ .evaluate) (steps : List Step) :
    window (steps ++ [step]) = window steps ++ [step] := by
  exact List.rtakeWhile_concat_pos _ _ _ (by simp [hstep])

theorem answered_concat (registry : Registry) (steps : List Step) (step : Step) (node : UInt8) :
    answered registry (steps ++ [step]) node =
      (answered registry steps node ||
        ((registry.nodeName? node).isSome && step.answersFor node)) := by
  simp [answered, Bool.and_or_distrib_left]

/-- The message adds its sender to the roll call if it is the answer of a node with a name. -/
theorem contains_of_answer (registry : Registry) (call : RollCall) (message : Message)
    (node : UInt8) :
    (if message.isAnswer ∧ (registry.nodeName? message.address.node).isSome then
        call.record message.address.node
      else call).contains node =
      (call.contains node ||
        ((registry.nodeName? node).isSome && (Step.decode message).answersFor node)) := by
  unfold Step.answersFor
  by_cases hnode : message.address.node = node
  · subst hnode
    split
    · rename_i hcounts
      simp [hcounts, RollCall.contains_record]
    · rename_i hnot
      rw [← Bool.and_eq_true, Bool.not_eq_true] at hnot
      simp [Bool.and_comm, hnot]
  · split
    · simp [RollCall.contains_record, hnode, Ne.symm hnode]
    · simp [hnode]

/-- At every point of a run the roll call holds the nodes that have a name and answered since it was
last closed. The window is an end piece of the run, so the run is taken apart from its last step. -/
theorem contains_rollCall_run {desk : Desk} (hempty : desk.rollCall = {}) (steps : List Step)
    (node : UInt8) :
    (desk.run steps).rollCall.contains node =
      answered desk.profile.registry (window steps) node := by
  induction steps using List.reverseRecOn with
  | nil =>
      rw [run, List.foldl_nil, hempty]
      simp [window, answered, RollCall.contains]
  | append_singleton steps step ih =>
      rw [run_append]
      change ((desk.run steps).step step).rollCall.contains node = _
      rw [rollCall_step, profile_run]
      cases step with
      | evaluate =>
          rw [window_concat_evaluate]
          simp [answered, RollCall.contains]
      | decode message =>
          rw [window_concat (by simp), answered_concat, ← ih]
          exact contains_of_answer _ _ message node
      | tick policy =>
          rw [window_concat (by simp), answered_concat, ← ih]
          simp [Step.answersFor]
      | command text =>
          rw [window_concat (by simp), answered_concat, ← ih]
          simp [Step.answersFor]

/-- Steps that do not count leave the roll call alone. -/
theorem rollCall_step_of_not_counts {desk : Desk} {step : Step}
    (hcounts : step.counts desk.profile.registry = false) :
    (desk.step step).rollCall = desk.rollCall := by
  rw [rollCall_step]
  cases step with
  | evaluate => cases hcounts
  | decode message =>
      rw [Step.counts] at hcounts
      exact if_neg (by rw [← Bool.and_eq_true, hcounts]; exact Bool.false_ne_true)
  | tick policy => rfl
  | command text => rfl

/-- Steps that neither close the roll call nor bring the answer of a node with a name can be left
out; the reports stay the same. -/
theorem reports_filter {desk other : Desk} (hprofile : desk.profile = other.profile)
    (hcall : desk.rollCall = other.rollCall) (steps : List Step) :
    desk.reports steps = other.reports (steps.filter (Step.counts desk.profile.registry)) := by
  induction steps generalizing desk other with
  | nil => rfl
  | cons step rest ih =>
      have hafter : (desk.step step).profile = desk.profile := desk.profile_step step
      cases hcounts : step.counts desk.profile.registry with
      | false =>
          rw [List.filter_cons_of_neg (by simp [hcounts])]
          have hrest := ih (hafter.trans hprofile) ((rollCall_step_of_not_counts hcounts).trans hcall)
          rw [hafter] at hrest
          cases step with
          | evaluate => cases hcounts
          | _ => exact hrest
      | true =>
          rw [List.filter_cons_of_pos hcounts]
          have hsame : (desk.step step).rollCall = (other.step step).rollCall := by
            rw [rollCall_step, rollCall_step, hprofile, hcall]
          have hrest := ih (hafter.trans (hprofile.trans (other.profile_step step).symm)) hsame
          rw [hafter] at hrest
          cases step with
          | evaluate =>
              have hreport : desk.evaluate.1 = other.evaluate.1 := by
                simp only [evaluate, RollCall.evaluate]
                rw [hprofile, hcall]
              rw [reports, reports, hreport, hrest]
          | _ => exact hrest

/-- Every closing of the roll call, whatever happened before it, reports the whole roster: it
collects the positions whose nodes have a name and answered since the last closing, names the other
positions in the order of the roster, and is OK exactly if there are none of these. Leaving out all
messages but the answers of nodes with a name changes no report of a run. -/
theorem reports_split_roster {profile : Profile} {displays : DataKey → Bool} {desk : Desk}
    (hstart : start profile displays = .ok desk) (steps : List Step) :
    (let report := (desk.run steps).evaluate.1
      let roster := profile.registry.roster
      let present := answered profile.registry (window steps)
      report.total = roster.length ∧
        report.collected = roster.countP present ∧
        report.missing =
          (roster.filter fun node => !present node).map (RollCall.label profile.registry) ∧
        report.collected + report.missing.length = report.total ∧
        (report.severity = .ok ↔ report.missing = [])) ∧
      desk.reports steps = desk.reports (steps.filter (Step.counts profile.registry)) := by
  have hdesk := eq_of_start hstart
  have hprofile : desk.profile = profile := by rw [hdesk]
  have hempty : desk.rollCall = {} := by rw [hdesk]
  have hreport : (desk.run steps).evaluate.1 =
      (desk.run steps).rollCall.report profile.registry := by
    simp only [evaluate, RollCall.evaluate]
    rw [profile_run, hprofile]
  have hcontains : (desk.run steps).rollCall.contains =
      answered profile.registry (window steps) := by
    funext node
    rw [contains_rollCall_run hempty, hprofile]
  constructor
  · intro report roster present
    have hreport : report = (desk.run steps).rollCall.report profile.registry := hreport
    refine ⟨?_, ?_, ?_, ?_, ?_⟩
    · rw [hreport]
      rfl
    · rw [hreport, List.countP_eq_length_filter, RollCall.report, hcontains]
    · rw [hreport, RollCall.report, hcontains]
    · rw [hreport]
      exact RollCall.collected_add_length_missing _ _
    · rw [hreport]
      exact RollCall.severity_report_eq_ok_iff _ _
  · rw [← hprofile]
    exact reports_filter rfl rfl steps

/-- A roster with a node twice and a node without a name. The second window has an answer of node 5
and one of the node without a name; the answers of node 3 are in the first. -/
theorem reports_split_roster_second_window :
    let profile : Profile :=
      { registry := .ofEntries [.node 3 "motor", .node 5 "pedals", .roster [3, 9, 3, 5]] }
    let desk : Desk :=
      { profile, displays := fun _ => true, countdowns := .seeded profile.registry.monitored }
    let steps : List Step :=
      [.decode ⟨0x283, 0⟩, .decode ⟨0x283, 0⟩, .evaluate, .decode ⟨0x289, 0⟩, .decode ⟨0x285, 0⟩,
        .decode ⟨0x303, 0⟩]
    let report := (desk.run steps).evaluate.1
    start profile (fun _ => true) = .ok desk ∧
      report.collected = profile.registry.roster.countP
        (answered profile.registry (window steps)) ∧
      report = { collected := 1, total := 4, missing := ["motor", "id=9", "motor"] } ∧
      desk.reports (steps ++ [.evaluate]) =
        desk.reports [.decode ⟨0x283, 0⟩, .decode ⟨0x283, 0⟩, .evaluate, .decode ⟨0x285, 0⟩,
          .evaluate] :=
  ⟨start_of_check rfl _, (reports_split_roster (start_of_check rfl _) _).1.2.1, by decide +kernel,
    (reports_split_roster (start_of_check rfl _) _).2⟩

end Desk

end GroundStation
