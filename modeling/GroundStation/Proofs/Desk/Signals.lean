import GroundStation.Proofs.Desk.Samples
import Mathlib.Data.List.Destutter

/-!
The signal of a data point says how serious the last value of the point is, and it says so only when
that changes. It is posted with the first value that is not normal. After that its severity is set
whenever a value is classified otherwise than the one before. So the severities that a signal
announces are the classes of the values that were read, with a normal one in front, without those that
repeat the one before them.

`Follows` relates the journal of a run to the signal on the board, and every action keeps it. The
values come in by `filter_concerns_journal`, which says what a run asks for about one data point.
-/

namespace GroundStation

namespace Severity

/-- The severities that are news to somebody who starts from a normal one. -/
def changes (severities : List Severity) : List Severity :=
  ((.ok :: severities).destutter (· ≠ ·)).tail

theorem exists_destutter'_eq_cons (first : Severity) (severities : List Severity) :
    ∃ rest, severities.destutter' (· ≠ ·) first = first :: rest := by
  induction severities with
  | nil => exact ⟨[], rfl⟩
  | cons severity rest ih =>
      by_cases hnews : first ≠ severity
      · exact ⟨_, List.destutter'_cons_pos _ hnews⟩
      · rw [List.destutter'_cons_neg _ hnews]
        exact ih

theorem destutter'_concat (first last : Severity) (severities : List Severity) :
    (severities ++ [last]).destutter' (· ≠ ·) first =
      severities.destutter' (· ≠ ·) first ++
        if severities.getLastD first = last then [] else [last] := by
  induction severities generalizing first with
  | nil =>
      rw [List.nil_append, List.destutter'_singleton, List.getLastD_nil]
      by_cases hsame : first = last <;> simp [hsame]
  | cons severity rest ih =>
      rw [List.cons_append, List.getLastD_cons]
      by_cases hnews : first ≠ severity
      · rw [List.destutter'_cons_pos _ hnews, List.destutter'_cons_pos _ hnews, ih,
          List.cons_append]
      · rw [List.destutter'_cons_neg _ hnews, List.destutter'_cons_neg _ hnews, ih,
          not_not.mp hnews]

variable (severities : List Severity)

theorem ok_cons_changes :
    .ok :: changes severities = severities.destutter' (· ≠ ·) .ok := by
  obtain ⟨rest, hrest⟩ := exists_destutter'_eq_cons .ok severities
  rw [changes, List.destutter_cons', hrest]
  rfl

/-- One more severity is news if it is not the last one. -/
theorem changes_concat (last : Severity) :
    changes (severities ++ [last]) =
      changes severities ++ if severities.getLastD .ok = last then [] else [last] := by
  have hconcat := destutter'_concat .ok last severities
  rw [← ok_cons_changes, ← ok_cons_changes, List.cons_append] at hconcat
  exact (List.cons.inj hconcat).2

/-- The last news is the last severity. -/
theorem getLastD_changes : (changes severities).getLastD .ok = severities.getLastD .ok := by
  induction severities using List.reverseRecOn with
  | nil => rfl
  | append_singleton rest last ih =>
      rw [changes_concat, List.getLastD_concat]
      split
      · rename_i hsame
        rw [List.append_nil, ih, hsame]
      · exact List.getLastD_concat

variable {severities} in
theorem getLastD_of_changes_eq_nil (hquiet : changes severities = []) :
    severities.getLastD .ok = .ok := by
  rw [← getLastD_changes, hquiet]
  rfl

/-- News differ from what was there before. -/
theorem isChain_ok_cons_changes : (.ok :: changes severities).IsChain (· ≠ ·) := by
  rw [ok_cons_changes]
  exact List.isChain_destutter' _ _ _

/-- The first news is not a normal severity. -/
theorem head?_changes_ne : (changes severities).head? ≠ some .ok := by
  intro hfirst
  have hchain := isChain_ok_cons_changes severities
  obtain ⟨rest, hrest⟩ := List.head?_eq_some_iff.mp hfirst
  rw [hrest] at hchain
  exact (List.isChain_cons_cons.mp hchain).1 rfl

end Severity

namespace Action

def concerns (key : DataKey) : Action → Bool
  | .grade other _ _ | .sample other _ => other = key
  | .post _ _ _ | .fault _ | .upsert _ _ _ _ | .present _ | .restart _ _ => false

def severityOf? (key : DataKey) : Action → Option Severity
  | .grade other severity _ => if other = key then some severity else none
  | .post _ _ _ | .fault _ | .upsert _ _ _ _ | .present _ | .restart _ _ | .sample _ _ => none

def valueOf? (key : DataKey) : Action → Option Int
  | .sample other value => if other = key then some value else none
  | .post _ _ _ | .fault _ | .upsert _ _ _ _ | .present _ | .restart _ _ | .grade _ _ _ => none

theorem concerns_of_spares {action : Action} {key : DataKey}
    (hspares : action.spares key.frameKey = true) : action.concerns key = false := by
  cases action with
  | grade other severity title =>
      have hframe : other.frameKey ≠ key.frameKey := of_decide_eq_true hspares
      exact decide_eq_false fun heq => hframe (congrArg DataKey.frameKey heq)
  | sample other value =>
      have hframe : other.frameKey ≠ key.frameKey := of_decide_eq_true hspares
      exact decide_eq_false fun heq => hframe (congrArg DataKey.frameKey heq)
  | _ => rfl

theorem severityOf?_eq_none {action : Action} {key : DataKey}
    (hother : action.graded? ≠ some key) : action.severityOf? key = none := by
  cases action with
  | grade other severity title => exact if_neg fun heq => hother (congrArg some heq)
  | _ => rfl

theorem severityOf?_of_concerns {action : Action} {key : DataKey}
    (hother : action.concerns key = false) : action.severityOf? key = none := by
  cases action <;> simp_all [concerns, severityOf?]

theorem valueOf?_of_concerns {action : Action} {key : DataKey}
    (hother : action.concerns key = false) : action.valueOf? key = none := by
  cases action <;> simp_all [concerns, valueOf?]

theorem filterMap_of_concerns {β : Type} {key : DataKey} {pick : Action → Option β}
    (hpick : ∀ action : Action, action.concerns key = false → pick action = none)
    (actions : List Action) :
    actions.filterMap pick = (actions.filter (concerns key)).filterMap pick := by
  rw [List.filterMap_filter]
  congr
  funext action
  cases hconcerns : action.concerns key with
  | true => rfl
  | false => exact hpick action hconcerns

end Action

/-- The value of a data point that the message brings: the message carries data of the point's frame,
and the frame can be read up to the point. -/
def Message.value? (registry : Registry) (key : DataKey) (message : Message) : Option Int :=
  if message.carries key.frameKey then
    (registry.frame? key.frameKey).bind fun info =>
      if key.index.toNat < registry.readable key.frameKey info.points.toNat then
        some (registry.value key.frameKey message.data key.index.toNat)
      else none
  else none

namespace Reading

variable {registry : Registry}

theorem filter_concerns_sampled (registry : Registry) (other key : DataKey) (value : Int) :
    (sampled registry other value).filter (Action.concerns key) =
      if other = key then sampled registry key value else [] := by
  by_cases hkey : other = key
  · subst hkey
    simp [sampled, Action.concerns]
  · simp [sampled, Action.concerns, hkey]

theorem filterMap_severityOf?_sampled (registry : Registry) (key : DataKey) (value : Int) :
    (sampled registry key value).filterMap (Action.severityOf? key) =
      [registry.classify key value] := by
  simp [sampled, List.filterMap_cons, Action.severityOf?]

theorem filterMap_valueOf?_sampled (registry : Registry) (key : DataKey) (value : Int) :
    (sampled registry key value).filterMap (Action.valueOf? key) = [value] := by
  simp [sampled, List.filterMap_cons, Action.valueOf?]

theorem filter_concerns_points (key : DataKey) (data : UInt64) {count : Nat}
    (hcount : count ≤ 256) :
    ((List.range count).flatMap (point registry key.frameKey data)).filter (Action.concerns key) =
      if key.index.toNat < count then
        sampled registry key (registry.value key.frameKey data key.index.toNat)
      else [] := by
  induction count with
  | zero => rfl
  | succ count ih =>
      have hindex := key.index.toNat_lt
      rw [List.range_succ, List.flatMap_append, List.filter_append, ih (by omega),
        List.flatMap_singleton, point, filter_concerns_sampled]
      by_cases hlast : key.index.toNat = count
      · have hkey : key.frameKey.point count = key := by rw [← hlast, key.point_frameKey]
        rw [if_neg (by omega), if_pos hkey, if_pos (by omega), hlast, List.nil_append]
      · have hkey : key.frameKey.point count ≠ key := by
          rw [← key.point_frameKey]
          exact FrameKey.point_ne (by omega) (by omega) (Ne.symm hlast) _
        rw [if_neg hkey, List.append_nil]
        simp only [Nat.lt_succ_iff_lt_or_eq, hlast, or_false]

/-- Data of its frame concerns a data point once if the frame can be read up to the point, and not at
all otherwise. -/
theorem filter_concerns_sensor (registry : Registry) (key : DataKey) {sent : Message}
    (hcarries : sent.carries key.frameKey = true) :
    (sensor registry key.frameKey sent.data).filter (Action.concerns key) =
      (sent.value? registry key).toList.flatMap (sampled registry key) := by
  rw [Message.value?, if_pos hcarries]
  cases hframe : registry.frame? key.frameKey with
  | none =>
      unfold sensor
      rw [hframe]
      rfl
  | some info =>
      have hcount := registry.readable_le key.frameKey info.points.toNat
      have hbyte := info.points.toNat_lt
      rw [← List.filterMap_eq_filter,
        filterMap_sensor hframe sent.data (fun _ _ => rfl) fun _ => rfl, ← List.filterMap_flatMap,
        List.filterMap_eq_filter, filter_concerns_points key sent.data (by omega),
        Option.bind_some]
      split <;> simp

end Reading

def Feed.Event.isOf (id : Nat) : Feed.Event → Bool
  | .post other _ _ _ | .text other _ | .severity other _ => other = id
  | .sample _ _ => false

theorem Feed.Event.isOf_iff {event : Feed.Event} {id : Nat} :
    event.isOf id = true ↔ event.posted? = some id ∨ event.changed? = some id := by
  cases event <;> simp [isOf, posted?, changed?]

namespace Desk

def Step.value? (registry : Registry) (key : DataKey) : Step → Option Int
  | .decode message => message.value? registry key
  | .evaluate | .tick _ | .command _ => none

theorem map_action_trace (desk : Desk) (step : Step) (actions : List Action) :
    (desk.trace step actions).map Entry.action = actions := by
  induction actions generalizing desk with
  | nil => rfl
  | cons action rest ih => exact congrArg _ (ih (desk.perform action))

/-- A step concerns a data point by the value that it brings, if it brings one. -/
theorem filter_concerns_asks (desk : Desk) (step : Step) (key : DataKey) :
    (desk.asks step).filter (Action.concerns key) =
      (step.value? desk.profile.registry key).toList.flatMap
        (Reading.sampled desk.profile.registry key) := by
  cases hstep : step.carries key.frameKey with
  | false =>
      have hnone : step.value? desk.profile.registry key = none := by
        cases step with
        | decode message =>
            have hother : message.carries key.frameKey = false := hstep
            rw [Step.value?, Message.value?, hother, if_neg Bool.false_ne_true]
        | evaluate | tick | command => rfl
      rw [hnone, Option.toList_none, List.flatMap_nil, List.filter_eq_nil_iff]
      intro action hmem
      rw [Action.concerns_of_spares (spares_of_mem_asks hstep hmem)]
      exact Bool.false_ne_true
  | true =>
      cases step with
      | decode message =>
          have hcarries : message.carries key.frameKey = true := hstep
          rw [asks, Reading.message_of_carries _ hcarries,
            Reading.filter_concerns_sensor _ key hcarries]
          rfl
      | evaluate | tick | command => cases hstep

/-- About one data point a run asks for nothing but the grading and the showing of the values that
the steps bring. -/
theorem filter_concerns_journal (desk : Desk) (steps : List Step) (key : DataKey) :
    ((desk.journal steps).map Entry.action).filter (Action.concerns key) =
      (steps.filterMap (Step.value? desk.profile.registry key)).flatMap
        (Reading.sampled desk.profile.registry key) := by
  induction steps generalizing desk with
  | nil => rfl
  | cons step rest ih =>
      rw [journal, List.map_append, List.filter_append, map_action_trace, filter_concerns_asks, ih,
        profile_step, List.filterMap_cons]
      cases step.value? desk.profile.registry key with
      | none => rfl
      | some value => simp

def grades (key : DataKey) (entries : List Entry) : List Severity :=
  (entries.map Entry.action).filterMap (Action.severityOf? key)

def announcements (key : DataKey) (entries : List Entry) : List Feed.Event :=
  (entries.filter fun entry => entry.action.graded? = some key).flatMap Entry.events

/-- The events of a signal that announces the given severities. -/
def announce (id : Nat) (title : String) : List Severity → List Feed.Event
  | [] => []
  | first :: later =>
    .post id .telemetry first s!"status of: {title}" :: later.map (Feed.Event.severity id)

theorem grades_append (key : DataKey) (entries : List Entry) (entry : Entry) :
    grades key (entries ++ [entry]) =
      grades key entries ++ (entry.action.severityOf? key).toList := by
  rw [grades, List.map_append, List.filterMap_append]
  cases hseverity : entry.action.severityOf? key <;> simp [grades, hseverity]

theorem announcements_append (key : DataKey) (entries : List Entry) (entry : Entry) :
    announcements key (entries ++ [entry]) =
      announcements key entries ++
        if entry.action.graded? = some key then entry.events else [] := by
  by_cases hgraded : entry.action.graded? = some key <;>
    simp [announcements, List.filter_append, hgraded]

theorem announce_concat (id : Nat) (title : String) {severities : List Severity}
    (hsome : severities ≠ []) (last : Severity) :
    announce id title (severities ++ [last]) =
      announce id title severities ++ [.severity id last] := by
  cases severities with
  | nil => exact absurd rfl hsome
  | cons first later => simp [announce]

/-- The journal so far and the signal of a data point agree: without a signal there was no news, and
the signal announced all news under its handle and shows the last. -/
def Follows (key : DataKey) (title : String) (entries : List Entry) : Option Signal → Prop
  | none => Severity.changes (grades key entries) = [] ∧ announcements key entries = []
  | some signal =>
    Severity.changes (grades key entries) ≠ [] ∧
      (grades key entries).getLastD .ok = signal.severity ∧
      announcements key entries =
        announce signal.id title (Severity.changes (grades key entries)) ∧
      (entries.flatMap Entry.events).filter (Feed.Event.isOf signal.id) =
        announcements key entries

namespace Effect

variable {displays : DataKey → Bool} {board after : Board} {next final : Nat} {action : Action}
  {events : List Feed.Event} {key : DataKey} {title : String} {entries : List Entry}

/-- Only the grading of its data point puts events of a signal on the feed. -/
theorem filter_isOf_eq_nil (effect : Effect displays board next action events after final)
    (hboard : board.Handles next) {signal : Signal}
    (hsignal : board.signals.get? key = some signal) (hother : action.graded? ≠ some key) :
    events.filter (Feed.Event.isOf signal.id) = [] := by
  have howner : board.handle? (.signal key) = some signal.id := by
    rw [Board.handle?, hsignal, Option.map_some]
  have hgiven := (hboard.given howner).2
  have hnext : next ≠ signal.id := by omega
  cases effect with
  | posted | faulted | refused | opened | raised => simp [Feed.Event.isOf, hnext]
  | marked | restarted | shown | normal | steady => rfl
  | @rewritten slot id channel severity text hsome =>
      have hid : id ≠ signal.id := by
        rintro rfl
        have hslot : board.handle? (.slot slot) = some signal.id := hsome
        cases hboard.distinct howner hslot
      simp [Feed.Event.isOf, hid]
  | @changed graded other severity title hsome hnews =>
      have hid : other.id ≠ signal.id := by
        intro hid
        have hgraded : board.handle? (.signal graded) = some signal.id := by
          rw [Board.handle?, hsome, Option.map_some, hid]
        cases hboard.distinct howner hgraded
        exact hother rfl
      simp [Feed.Event.isOf, hid]

/-- Grading the data point keeps its signal in line with the journal. -/
theorem follows_grade {severity : Severity}
    (effect : Effect displays board next (.grade key severity title) events after final)
    (hfresh : (entries.flatMap Entry.events).filter (Feed.Event.isOf next) = [])
    (follows : Follows key title entries (board.signals.get? key)) (step : Step) :
    Follows key title (entries ++ [{ step, action := .grade key severity title, events }])
      (after.signals.get? key) := by
  have hgrades : grades key (entries ++ [{ step, action := .grade key severity title, events }]) =
      grades key entries ++ [severity] := by
    rw [grades_append, Action.severityOf?, if_pos rfl, Option.toList_some]
  have hevents : announcements key
      (entries ++ [{ step, action := .grade key severity title, events }]) =
        announcements key entries ++ events := by
    rw [announcements_append, Action.graded?, if_pos rfl]
  have hnews := Severity.changes_concat (grades key entries) severity
  cases effect with
  | normal title hnone =>
      rw [hnone] at follows ⊢
      obtain ⟨hquiet, hsilent⟩ := follows
      rw [Severity.getLastD_of_changes_eq_nil hquiet, if_pos rfl, List.append_nil, hquiet] at hnews
      refine ⟨?_, ?_⟩
      · rw [hgrades, hnews]
      · rw [hevents, hsilent, List.append_nil]
  | steady title hsome =>
      rw [hsome] at follows ⊢
      obtain ⟨hopened, hshown, hannounced, hown⟩ := follows
      rw [if_pos hshown, List.append_nil] at hnews
      refine ⟨?_, ?_, ?_, ?_⟩
      · rw [hgrades, hnews]
        exact hopened
      · rw [hgrades, List.getLastD_concat]
      · rw [hgrades, hnews, hevents, List.append_nil, hannounced]
      · rw [hevents, flatMap_events_append, List.append_nil, List.append_nil, hown]
  | raised title hnone hsevere =>
      rw [hnone] at follows
      obtain ⟨hquiet, hsilent⟩ := follows
      rw [Severity.getLastD_of_changes_eq_nil hquiet, if_neg hsevere.symm, hquiet,
        List.nil_append] at hnews
      rw [Table.get?_insert, if_pos rfl]
      refine ⟨?_, ?_, ?_, ?_⟩
      · rw [hgrades, hnews]
        exact List.cons_ne_nil _ _
      · rw [hgrades, List.getLastD_concat]
      · rw [hgrades, hnews, hevents, hsilent]
        rfl
      · rw [hevents, hsilent, flatMap_events_append, List.filter_append, hfresh]
        simp [Feed.Event.isOf]
  | changed title hsome hother =>
      rw [hsome] at follows
      obtain ⟨hopened, hshown, hannounced, hown⟩ := follows
      rw [hshown, if_neg hother] at hnews
      rw [Table.get?_insert, if_pos rfl]
      refine ⟨?_, ?_, ?_, ?_⟩
      · rw [hgrades, hnews]
        exact List.append_ne_nil_of_left_ne_nil hopened _
      · rw [hgrades, List.getLastD_concat]
      · rw [hgrades, hnews, hevents, hannounced, announce_concat _ _ hopened]
      · rw [hevents, flatMap_events_append, List.filter_append, hown]
        simp [Feed.Event.isOf]

end Effect

namespace Kept

variable {entries : List Entry}

/-- Only handles that were given out are on the feed. -/
theorem handle_lt {screen : Screen} (kept : Kept entries screen) {event : Feed.Event} {id : Nat}
    (hmem : event ∈ entries.flatMap Entry.events) (hid : event.isOf id = true) :
    id < screen.feed.nextId := by
  have hposted : id ∈ Feed.posted (entries.flatMap Entry.events) := by
    rcases Feed.Event.isOf_iff.mp hid with hposted | hchanged
    · exact List.mem_filterMap.mpr ⟨event, hmem, hposted⟩
    · obtain ⟨before, later, hsplit⟩ := List.append_of_mem hmem
      rw [hsplit, Feed.posted_append]
      exact List.mem_append_left _ (kept.changes before later event id hsplit hchanged)
  rw [kept.posted, List.mem_range'_1] at hposted
  have hnext := kept.next
  omega

/-- Every action keeps the signal of a data point in line with the journal. -/
theorem follows_perform {desk : Desk} (kept : Kept entries desk.screen) {key : DataKey}
    {title : String} (follows : Follows key title entries (desk.board.signals.get? key))
    (step : Step) {action : Action}
    (htitle : ∀ severity other, action = .grade key severity other → other = title) :
    Follows key title (entries ++ [{ step, action, events := desk.emits action }])
      ((desk.perform action).board.signals.get? key) := by
  have effect := effect_perform kept.live action
  by_cases hgraded : action.graded? = some key
  · obtain ⟨severity, rfl⟩ : ∃ severity, action = .grade key severity title := by
      cases action with
      | grade other severity name =>
          cases hgraded
          exact ⟨severity, by rw [htitle severity name rfl]⟩
      | _ => cases hgraded
    apply effect.follows_grade _ follows
    rw [List.filter_eq_nil_iff]
    intro event hmem hid
    exact Nat.lt_irrefl _ (kept.handle_lt hmem hid)
  · have hgrades : grades key (entries ++ [{ step, action, events := desk.emits action }]) =
        grades key entries := by
      rw [grades_append, Action.severityOf?_eq_none hgraded, Option.toList_none, List.append_nil]
    have hevents : announcements key (entries ++ [{ step, action, events := desk.emits action }]) =
        announcements key entries := by
      rw [announcements_append, if_neg hgraded, List.append_nil]
    rw [desk.get?_signals_perform hgraded]
    cases hsignal : desk.board.signals.get? key with
    | none =>
        rw [hsignal] at follows
        simp only [Follows, hgrades, hevents]
        exact follows
    | some signal =>
        rw [hsignal] at follows
        have hothers := effect.filter_isOf_eq_nil kept.handles hsignal hgraded
        simp only [Follows, hgrades, hevents, flatMap_events_append, List.filter_append, hothers,
          List.append_nil]
        exact follows

end Kept

/-- A data point is graded under the title that the registry gives it. -/
theorem title_of_mem_journal {desk : Desk} {steps : List Step} {entry : Entry}
    (hmem : entry ∈ desk.journal steps) {key : DataKey} {severity : Severity} {title : String}
    (hgrade : entry.action = .grade key severity title) :
    title = desk.profile.registry.title key := by
  have hconcerns : entry.action ∈
      ((desk.journal steps).map Entry.action).filter (Action.concerns key) :=
    List.mem_filter.mpr ⟨List.mem_map_of_mem hmem, by simp [hgrade, Action.concerns]⟩
  rw [filter_concerns_journal, hgrade] at hconcerns
  obtain ⟨value, _, hvalue⟩ := List.mem_flatMap.mp hconcerns
  rcases List.mem_pair.mp hvalue with hsame | hsample
  · cases hsame
    rfl
  · cases hsample

/-- After any run the signal of a data point follows what the journal says about the point. Where
the titles come from is seen in the whole journal only, so on the way they are assumed. -/
theorem follows_run {profile : Profile} {displays : DataKey → Bool} {desk : Desk}
    (hstart : start profile displays = .ok desk) (steps : List Step) (key : DataKey) :
    Follows key (profile.registry.title key) (desk.journal steps)
      ((desk.run steps).board.signals.get? key) := by
  have hdesk := eq_of_start hstart
  have hprofile : desk.profile = profile := by rw [hdesk]
  suffices hrun : Kept (desk.journal steps) (desk.run steps).screen ∧
      ((∀ entry ∈ desk.journal steps, ∀ severity title, entry.action = .grade key severity title →
          title = profile.registry.title key) →
        Follows key (profile.registry.title key) (desk.journal steps)
          ((desk.run steps).screen.board.signals.get? key)) by
    apply hrun.2
    intro entry hmem severity title hgrade
    rw [← hprofile]
    exact title_of_mem_journal hmem hgrade
  apply journal_induction (motive := fun entries screen => Kept entries screen ∧
    ((∀ entry ∈ entries, ∀ severity title, entry.action = .grade key severity title →
        title = profile.registry.title key) →
      Follows key (profile.registry.title key) entries (screen.board.signals.get? key)))
  · rintro before entries step action ⟨kept, hfollows⟩
    refine ⟨kept.perform step action, ?_⟩
    intro htitles
    obtain ⟨hearlier, hlast⟩ := List.forall_mem_append.mp htitles
    exact kept.follows_perform (hfollows hearlier) step (hlast _ List.mem_cons_self)
  · subst hdesk
    exact ⟨kept_start displays, fun _ => ⟨rfl, rfl⟩⟩

/-- The severities that a run gives to a data point are the classes of the values it brings. -/
theorem grades_journal (desk : Desk) (steps : List Step) (key : DataKey) :
    grades key (desk.journal steps) =
      (steps.filterMap (Step.value? desk.profile.registry key)).map
        (desk.profile.registry.classify key) := by
  rw [grades, Action.filterMap_of_concerns fun _ => Action.severityOf?_of_concerns,
    filter_concerns_journal, List.filterMap_flatMap, List.map_eq_flatMap]
  simp only [Reading.filterMap_severityOf?_sampled]

/-- The values that a run brings are those that it sends to the display. -/
theorem filterMap_valueOf?_journal (desk : Desk) (steps : List Step) (key : DataKey) :
    ((desk.journal steps).map Entry.action).filterMap (Action.valueOf? key) =
      steps.filterMap (Step.value? desk.profile.registry key) := by
  rw [Action.filterMap_of_concerns fun _ => Action.valueOf?_of_concerns,
    filter_concerns_journal, List.filterMap_flatMap]
  simp only [Reading.filterMap_valueOf?_sampled, List.flatMap_singleton']

/-- Whatever happens at a desk and in whatever order, the signal of a data point follows the values
of the point. The values that count are those that the messages bring and that are sent to the
display. As long as all of them are normal there is no signal. The first that is not is announced by a
post on the telemetry channel, and after that only the severity of that notice is set, under the same
handle, and nothing else on the feed has the handle. The announced severities are the classes of the
values, with a normal one in front, without repetitions and without the normal one at the start. So
the first of them is not normal, each differs from the one before it, and the last is the class of the
last value. Values outside the critical range are critical, others outside the warning range are
warnings, also if a range is empty. -/
theorem signals_follow_values {profile : Profile} {displays : DataKey → Bool} {desk : Desk}
    (hstart : start profile displays = .ok desk) (steps : List Step) (key : DataKey) :
    let registry := profile.registry
    let after := desk.run steps
    let events := after.feed.events.toList
    let entries := desk.journal steps
    let values := steps.filterMap (Step.value? registry key)
    let severities :=
      ((.ok :: values.map (registry.classify key)).destutter (· ≠ ·)).tail
    events = entries.flatMap Entry.events ∧
      (entries.map Entry.action).filterMap (Action.valueOf? key) = values ∧
      (after.board.signals.get? key = none →
        severities = [] ∧ announcements key entries = []) ∧
      (∀ signal, after.board.signals.get? key = some signal →
        announcements key entries = announce signal.id (registry.title key) severities ∧
          events.filter (Feed.Event.isOf signal.id) = announcements key entries) ∧
      severities.head? ≠ some .ok ∧ severities.IsChain (· ≠ ·) ∧
      severities.getLastD .ok = (values.getLast?.map (registry.classify key)).getD .ok ∧
      ∀ info, registry.point? key = some info → ∀ value, registry.classify key value =
        if ¬ (info.minCritical.toInt ≤ value ∧ value ≤ info.maxCritical.toInt) then .critical
        else if ¬ (info.minWarning.toInt ≤ value ∧ value ≤ info.maxWarning.toInt) then .warning
        else .ok := by
  intro registry after events entries values severities
  have hdesk := eq_of_start hstart
  have hregistry : desk.profile.registry = registry := by rw [hdesk]
  have hevents : events = entries.flatMap Entry.events := by
    subst hdesk
    exact toList_run rfl steps
  have hgrades : grades key entries = values.map (registry.classify key) := by
    rw [grades_journal, hregistry]
  have hchanges : severities = Severity.changes (grades key entries) := by
    rw [hgrades]
    rfl
  have follows := follows_run hstart steps key
  refine ⟨hevents, ?_, ?_, ?_, ?_, ?_, ?_, ?_⟩
  · rw [filterMap_valueOf?_journal, hregistry]
  · intro hnone
    rw [hnone] at follows
    rw [hchanges]
    exact follows
  · intro signal hsignal
    rw [hsignal] at follows
    rw [hevents, hchanges]
    exact follows.2.2
  · rw [hchanges]
    exact Severity.head?_changes_ne _
  · rw [hchanges]
    exact (Severity.isChain_ok_cons_changes _).tail
  · rw [hchanges, Severity.getLastD_changes, hgrades, List.getLastD_eq_getLast?,
      List.getLast?_map]
  · intro info hinfo value
    rw [Registry.classify, hinfo, Option.elim_some, PointInfo.classify]
    simp only [not_and_or, Int.not_le]

/-- The values of a data point are normal, twice a warning, critical, normal and a warning again, with
a fault before and a closing of the roll call in between. Four severities are announced. -/
theorem signals_follow_values_four_changes :
    let point : PointInfo :=
      { name := "rpm", bitLength := 8, min := 0, max := 255, minWarning := 0, maxWarning := 90,
        minCritical := 0, maxCritical := 100 }
    let profile : Profile := { registry := .ofEntries [.node 3 "motor", .point ⟨3, 0, 0⟩ point] }
    let desk : Desk :=
      { profile, displays := fun _ => true, countdowns := .seeded profile.registry.monitored }
    let key : DataKey := ⟨3, 0, 0⟩
    let steps : List Step :=
      [.decode ⟨0x703, 0⟩, .decode ⟨0x303, 50⟩, .decode ⟨0x303, 95⟩, .evaluate,
        .decode ⟨0x303, 95⟩, .decode ⟨0x303, 200⟩, .decode ⟨0x303, 50⟩, .decode ⟨0x303, 95⟩]
    start profile (fun _ => true) = .ok desk ∧
      steps.filterMap (Step.value? profile.registry key) = [50, 95, 95, 200, 50, 95] ∧
      announcements key (desk.journal steps) =
        [.post 2 .telemetry .warning "status of: motor.rpm", .severity 2 .critical,
          .severity 2 .ok, .severity 2 .warning] ∧
      (desk.run steps).feed.events.toList.filter (Feed.Event.isOf 2) =
        announcements key (desk.journal steps) := by
  intro point profile desk key steps
  have hcheck : profile.layout.check = .ok () := Layout.check_default
  have hstart : start profile (fun _ => true) = .ok desk := start_of_check hcheck _
  have hvalues : steps.filterMap (Step.value? profile.registry key) = [50, 95, 95, 200, 50, 95] := by
    decide +kernel
  have hget : (desk.run steps).board.signals.get? key = some { id := 2, severity := .warning } := by
    decide +kernel
  obtain ⟨_, _, _, hsignal, _⟩ := signals_follow_values hstart steps key
  obtain ⟨hannounced, hown⟩ := hsignal _ hget
  rw [hvalues] at hannounced
  exact ⟨hstart, hvalues, hannounced.trans (by decide +kernel), hown⟩

end Desk

end GroundStation
