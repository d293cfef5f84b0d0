import GroundStation.Proofs.Liveness.Watched
import GroundStation.Reading.Sensor
import Mathlib.Data.List.Perm.Basic

/-!
What a registry that is built entry by entry answers. The name of a node and the meaning of a data
point are those of the last entry about them. A frame exists as soon as an entry names it or adds a
data point to it; its timeout is the one that was entered last, and it declares one point more than
the highest index that was added to it, but at most 255. The order of entries about different
subjects has no influence, where a frame and a data point in it count as different subjects.

Main statement: `lookups_of_entries`. The limit of 255 points leaves a data point with index 255
outside of its own frame.
-/

namespace GroundStation

namespace Registry

namespace Entry

def name? (id : UInt8) : Entry → Option String
  | .node other name => if other = id then some name else none
  | .frame _ _ | .point _ _ | .roster _ => none

def timeout? (key : FrameKey) : Entry → Option UInt32
  | .frame other timeout => if other = key then some timeout else none
  | .node _ _ | .point _ _ | .roster _ => none

def index? (key : FrameKey) : Entry → Option UInt8
  | .point other _ => if other.frameKey = key then some other.index else none
  | .node _ _ | .frame _ _ | .roster _ => none

def info? (key : DataKey) : Entry → Option PointInfo
  | .point other info => if other = key then some info else none
  | .node _ _ | .frame _ _ | .roster _ => none

end Entry

inductive Subject where
  | node (id : UInt8)
  | frame (key : FrameKey)
  | point (key : DataKey)
  | roster
deriving DecidableEq, Repr

def Entry.subject : Entry → Subject
  | .node id _ => .node id
  | .frame key _ => .frame key
  | .point key _ => .point key
  | .roster _ => .roster

def about (subject : Subject) (entries : List Entry) : List Entry :=
  entries.filter fun entry => entry.subject = subject

def namesOf (id : UInt8) (entries : List Entry) : List String :=
  entries.filterMap (Entry.name? id)

def timeoutsOf (key : FrameKey) (entries : List Entry) : List UInt32 :=
  entries.filterMap (Entry.timeout? key)

def indicesOf (key : FrameKey) (entries : List Entry) : List UInt8 :=
  entries.filterMap (Entry.index? key)

def infosOf (key : DataKey) (entries : List Entry) : List PointInfo :=
  entries.filterMap (Entry.info? key)

/-- One more than the highest of the indices; zero if there are none. -/
def extent (indices : List UInt8) : Nat :=
  (indices.map fun index => index.toNat + 1).foldl max 0

theorem extent_concat (indices : List UInt8) (index : UInt8) :
    extent (indices ++ [index]) = max (extent indices) (index.toNat + 1) := by
  simp [extent]

theorem extent_le_iff {indices : List UInt8} {bound : Nat} :
    extent indices ≤ bound ↔ ∀ index ∈ indices, index.toNat < bound := by
  induction indices using List.reverseRecOn with
  | nil => simp [extent]
  | append_singleton indices index ih =>
      simp only [extent_concat, Nat.max_le, ih, List.mem_append, List.mem_singleton, or_imp,
        forall_and, forall_eq, Nat.succ_le_iff]

theorem toNat_pointsFor (index : UInt8) : (pointsFor index).toNat = min 255 (index.toNat + 1) := by
  have hbyte := index.toNat_lt
  unfold pointsFor
  split
  · rename_i hlast
    simp [hlast]
  · rename_i hbefore
    have hne : index.toNat ≠ 255 := fun heq => hbefore (UInt8.toNat_inj.mp heq)
    rw [UInt8.toNat_add]
    change (index.toNat + 1) % 256 = _
    omega

/-! ### One entry -/

section Step

variable (registry : Registry) (entry : Entry)

theorem nodeName?_add (id : UInt8) :
    (registry.add entry).nodeName? id = (entry.name? id).or (registry.nodeName? id) := by
  cases entry with
  | node other name =>
      simp only [add, addNode, nodeName?, Table.get?_insert, Entry.name?]
      split <;> rfl
  | frame key timeout => rfl
  | point key info => rfl
  | roster nodes => rfl

theorem point?_add (key : DataKey) :
    (registry.add entry).point? key = (entry.info? key).or (registry.point? key) := by
  cases entry with
  | node id name => rfl
  | frame other timeout => rfl
  | point other info =>
      simp only [add, addPoint, point?, Table.get?_insert, Entry.info?]
      split <;> rfl
  | roster nodes => rfl

end Step

def blank : FrameInfo where
  timeout := 0
  points := 0

/-- The frame is the one that was given these timeouts and had points with these indices added, in
any order of the two. -/
structure Describes (timeouts : List UInt32) (indices : List UInt8) (frame : Option FrameInfo) :
    Prop where
  known : frame.isSome = true ↔ timeouts ≠ [] ∨ indices ≠ []
  timeout : (frame.getD blank).timeout = timeouts.getLastD 0
  points : (frame.getD blank).points.toNat = min 255 (extent indices)

namespace Describes

variable {timeouts : List UInt32} {indices : List UInt8} {frame : Option FrameInfo}

/-- An entry for the frame sets the timeout and keeps the points. -/
theorem give (describes : Describes timeouts indices frame) (timeout : UInt32) :
    Describes (timeouts ++ [timeout]) indices
      (some { timeout, points := (frame.getD blank).points }) where
  known := by simp
  timeout := List.getLastD_concat.symm
  points := describes.points

/-- An entry for a data point raises the points, if it has to, and keeps the timeout. -/
theorem hold (describes : Describes timeouts indices frame) (index : UInt8) {points : UInt8}
    (hpoints : points.toNat = max (frame.getD blank).points.toNat (pointsFor index).toNat) :
    Describes timeouts (indices ++ [index])
      (some { timeout := (frame.getD blank).timeout, points }) where
  known := by simp
  timeout := describes.timeout
  points := by
    calc points.toNat = max (min 255 (extent indices)) (min 255 (index.toNat + 1)) := by
          rw [hpoints, describes.points, toNat_pointsFor]
      _ = min 255 (extent (indices ++ [index])) := by
          rw [extent_concat]
          omega

/-- A frame is settled by its timeouts and by which indices were added to it. -/
theorem eq_of_mem_iff {others : List UInt8} {other : Option FrameInfo}
    (describes : Describes timeouts indices frame) (again : Describes timeouts others other)
    (hindices : ∀ index, index ∈ indices ↔ index ∈ others) : frame = other := by
  have hextent : extent indices = extent others := by
    apply eq_of_forall_ge_iff
    intro bound
    simp only [extent_le_iff, hindices]
  have hempty : indices ≠ [] ↔ others ≠ [] := by
    simp only [ne_eq, List.eq_nil_iff_forall_not_mem, hindices]
  have hknown : frame.isSome = true ↔ other.isSome = true :=
    describes.known.trans ((or_congr_right hempty).trans again.known.symm)
  have htimeout := describes.timeout.trans again.timeout.symm
  have hpoints : (frame.getD blank).points = (other.getD blank).points := by
    apply UInt8.toNat_inj.mp
    rw [describes.points, again.points, hextent]
  cases frame with
  | none => exact (Option.not_isSome_iff_eq_none.mp (mt hknown.mpr Bool.false_ne_true)).symm
  | some info =>
      obtain ⟨found, rfl⟩ := Option.isSome_iff_exists.mp (hknown.mp rfl)
      cases info
      cases found
      cases htimeout
      cases hpoints
      rfl

end Describes

/-- An entry adds its timeout or its index to what describes the frame. -/
theorem describes_add {registry : Registry} {key : FrameKey} {timeouts : List UInt32}
    {indices : List UInt8} (describes : Describes timeouts indices (registry.frame? key))
    (entry : Entry) :
    Describes (timeouts ++ (entry.timeout? key).toList) (indices ++ (entry.index? key).toList)
      ((registry.add entry).frame? key) := by
  have hunchanged : Describes (timeouts ++ []) (indices ++ []) (registry.frame? key) := by
    rw [List.append_nil, List.append_nil]
    exact describes
  cases entry with
  | node id name => exact hunchanged
  | roster nodes => exact hunchanged
  | frame other timeout =>
      simp only [add, addFrame, frame?, Table.get?_insert, Entry.timeout?, Entry.index?]
      split
      · rename_i hkey
        subst hkey
        have hkept : (registry.frames.get? other).elim 0 FrameInfo.points =
            ((registry.frame? other).getD blank).points := by
          unfold frame?
          cases registry.frames.get? other <;> rfl
        rw [hkept, Option.toList_none, List.append_nil]
        exact describes.give timeout
      · exact hunchanged
  | point other info =>
      simp only [add, addPoint, frame?, Table.get?_insert, Entry.timeout?, Entry.index?]
      split
      · rename_i hkey
        subst hkey
        rw [Option.toList_none, List.append_nil]
        apply describes.hold other.index
        change (if ((registry.frame? other.frameKey).getD blank).points < pointsFor other.index
          then pointsFor other.index
          else ((registry.frame? other.frameKey).getD blank).points).toNat = _
        split
        · rename_i hlt
          exact (Nat.max_eq_right (UInt8.lt_iff_toNat_lt.mp hlt).le).symm
        · rename_i hge
          exact (Nat.max_eq_left (Nat.le_of_not_lt (mt UInt8.lt_iff_toNat_lt.mpr hge))).symm
      · exact hunchanged

/-! ### All entries -/

theorem ofEntries_concat (entries : List Entry) (entry : Entry) :
    ofEntries (entries ++ [entry]) = (ofEntries entries).add entry :=
  List.foldl_append

section Run

variable {α : Type}

theorem filterMap_concat (pick : Entry → Option α) (entries : List Entry) (entry : Entry) :
    (entries ++ [entry]).filterMap pick = entries.filterMap pick ++ (pick entry).toList := by
  rw [List.filterMap_append]
  cases hentry : pick entry <;> simp [hentry]

/-- A lookup that every entry either sets or leaves alone gives what was set last. -/
theorem lookup_ofEntries (view : Registry → Option α) (pick : Entry → Option α)
    (hempty : view {} = none)
    (hadd : ∀ registry entry, view (registry.add entry) = (pick entry).or (view registry))
    (entries : List Entry) : view (ofEntries entries) = (entries.filterMap pick).getLast? := by
  induction entries using List.reverseRecOn with
  | nil => exact hempty
  | append_singleton entries entry ih =>
      rw [ofEntries_concat, hadd, ih, filterMap_concat, List.getLast?_append]
      cases pick entry <;> rfl

variable (entries : List Entry)

/-- A node has the name that it was given last. -/
theorem nodeName?_ofEntries (id : UInt8) :
    (ofEntries entries).nodeName? id = (namesOf id entries).getLast? :=
  lookup_ofEntries (nodeName? · id) (Entry.name? id) rfl
    (fun registry entry => registry.nodeName?_add entry id) entries

/-- A data point is as it was described last. -/
theorem point?_ofEntries (key : DataKey) :
    (ofEntries entries).point? key = (infosOf key entries).getLast? :=
  lookup_ofEntries (point? · key) (Entry.info? key) rfl
    (fun registry entry => registry.point?_add entry key) entries

/-- A frame is described by the timeouts and indices that the entries give it. -/
theorem describes_ofEntries (key : FrameKey) :
    Describes (timeoutsOf key entries) (indicesOf key entries)
      ((ofEntries entries).frame? key) := by
  induction entries using List.reverseRecOn with
  | nil => exact ⟨iff_of_false Bool.false_ne_true (by simp [timeoutsOf, indicesOf]), rfl, rfl⟩
  | append_singleton entries entry ih =>
      have hstep := describes_add ih entry
      rw [ofEntries_concat, timeoutsOf, indicesOf, filterMap_concat, filterMap_concat]
      exact hstep

variable {entries}

/-- Every point that was added to a frame is inside of it, except for the one with index 255. -/
theorem index_lt_points_iff {key : FrameKey} {info : FrameInfo}
    (hframe : (ofEntries entries).frame? key = some info) {index : UInt8}
    (hadded : index ∈ indicesOf key entries) : index < info.points ↔ index < 255 := by
  have hpoints := (describes_ofEntries entries key).points
  rw [hframe, Option.getD_some] at hpoints
  have hinside : index.toNat < extent (indicesOf key entries) :=
    extent_le_iff.mp le_rfl index hadded
  rw [UInt8.lt_iff_toNat_lt, UInt8.lt_iff_toNat_lt, hpoints]
  change index.toNat < min 255 _ ↔ index.toNat < 255
  omega

theorem Entry.index?_eq_some_iff {key : DataKey} {entry : Entry} :
    entry.index? key.frameKey = some key.index ↔ entry.info? key ≠ none := by
  cases entry with
  | point other info =>
      have hkey : other.frameKey = key.frameKey ∧ other.index = key.index ↔ other = key := by
        cases other
        cases key
        simp [DataKey.frameKey, and_assoc]
      simp [Entry.index?, Entry.info?, hkey]
  | node id name => simp [Entry.index?, Entry.info?]
  | frame other timeout => simp [Entry.index?, Entry.info?]
  | roster nodes => simp [Entry.index?, Entry.info?]

theorem mem_indicesOf_iff {key : DataKey} :
    key.index ∈ indicesOf key.frameKey entries ↔ infosOf key entries ≠ [] := by
  simp only [indicesOf, infosOf, List.mem_filterMap, Entry.index?_eq_some_iff, ne_eq,
    List.filterMap_eq_nil_iff, not_forall, exists_prop]

end Run

/-! ### The watched frames -/

/-- The watched frames are those with a timeout. -/
theorem mem_monitored_iff {entries : List Entry} {key : FrameKey} {timeout : UInt32} :
    (key, timeout) ∈ (ofEntries entries).monitored ↔
      ∃ info, (ofEntries entries).frame? key = some info ∧ 0 < info.timeout ∧
        info.timeout = timeout := by
  calc (key, timeout) ∈ (ofEntries entries).monitored
      ↔ (key, timeout) ∈ (ofEntries entries).monitored.filter fun frame => frame.1 = key := by
        simp [List.mem_filter]
    _ ↔ (ofEntries entries).watch? key = some timeout := by
        rw [filter_monitored (nodup_frames_ofEntries entries)]
        simp
    _ ↔ _ := watch?_eq_some_iff

/-! ### Other orders of the entries -/

/-- The two lists have the same entries about each node, frame and data point, in the same order.
Whatever is about different subjects may have changed places. -/
def Rearranged (entries others : List Entry) : Prop :=
  ∀ subject, subject ≠ .roster → about subject entries = about subject others

namespace Rearranged

variable {entries others : List Entry}

/-- Neighbours about different subjects may change places. -/
theorem swap {first second : Entry} (hsubjects : first.subject ≠ second.subject)
    (before after : List Entry) :
    Rearranged (before ++ first :: second :: after) (before ++ second :: first :: after) := by
  intro subject _
  simp only [about, List.filter_append, List.filter_cons, decide_eq_true_eq]
  congr 1
  split
  · rename_i hfirst
    have hsecond : second.subject ≠ subject := fun hsecond => hsubjects (hfirst.trans hsecond.symm)
    rw [if_neg hsecond, if_neg hsecond]
  · rfl

section Same

variable (rearranged : Rearranged entries others)

include rearranged

/-- What only entries about one subject give is given in the same order. -/
theorem filterMap_eq {α : Type} {pick : Entry → Option α} (subject : Subject)
    (hroster : subject ≠ .roster) (hpick : ∀ entry, entry.subject ≠ subject → pick entry = none) :
    entries.filterMap pick = others.filterMap pick := by
  have hown : ∀ list : List Entry, list.filterMap pick = (about subject list).filterMap pick := by
    intro list
    rw [about, List.filterMap_filter]
    apply List.filterMap_congr
    intro entry _
    split
    · rfl
    · rename_i hother
      exact hpick entry fun hsubject => hother (decide_eq_true hsubject)
  calc entries.filterMap pick = (about subject entries).filterMap pick := hown entries
    _ = (about subject others).filterMap pick := by rw [rearranged subject hroster]
    _ = others.filterMap pick := (hown others).symm

theorem namesOf_eq (id : UInt8) : namesOf id entries = namesOf id others := by
  apply rearranged.filterMap_eq (.node id) Subject.noConfusion
  intro entry hsubject
  cases entry with
  | node other name => exact if_neg fun hid => hsubject (congrArg Subject.node hid)
  | frame key timeout => rfl
  | point key info => rfl
  | roster nodes => rfl

theorem timeoutsOf_eq (key : FrameKey) : timeoutsOf key entries = timeoutsOf key others := by
  apply rearranged.filterMap_eq (.frame key) Subject.noConfusion
  intro entry hsubject
  cases entry with
  | node id name => rfl
  | frame other timeout => exact if_neg fun hkey => hsubject (congrArg Subject.frame hkey)
  | point other info => rfl
  | roster nodes => rfl

theorem infosOf_eq (key : DataKey) : infosOf key entries = infosOf key others := by
  apply rearranged.filterMap_eq (.point key) Subject.noConfusion
  intro entry hsubject
  cases entry with
  | node id name => rfl
  | frame other timeout => rfl
  | point other info => exact if_neg fun hkey => hsubject (congrArg Subject.point hkey)
  | roster nodes => rfl

theorem nodeName?_eq (id : UInt8) :
    (ofEntries entries).nodeName? id = (ofEntries others).nodeName? id := by
  rw [nodeName?_ofEntries, nodeName?_ofEntries, rearranged.namesOf_eq]

theorem point?_eq (key : DataKey) :
    (ofEntries entries).point? key = (ofEntries others).point? key := by
  rw [point?_ofEntries, point?_ofEntries, rearranged.infosOf_eq]

/-- The points of a frame may have been added in another order, but they are the same. -/
theorem mem_indicesOf (key : FrameKey) (index : UInt8) :
    index ∈ indicesOf key entries ↔ index ∈ indicesOf key others := by
  have hpoint := @mem_indicesOf_iff entries ⟨key.node, key.frame, index⟩
  rw [rearranged.infosOf_eq] at hpoint
  exact hpoint.trans mem_indicesOf_iff.symm

theorem frame?_eq (key : FrameKey) :
    (ofEntries entries).frame? key = (ofEntries others).frame? key := by
  have describes := describes_ofEntries entries key
  rw [rearranged.timeoutsOf_eq key] at describes
  exact describes.eq_of_mem_iff (describes_ofEntries others key) (rearranged.mem_indicesOf key)

theorem monitored_eq : (ofEntries entries).monitored = (ofEntries others).monitored := by
  have hpairwise := pairwise_monitored (nodup_frames_ofEntries entries)
  have hothers := pairwise_monitored (nodup_frames_ofEntries others)
  have hne : ∀ {a b : FrameKey × UInt32}, a.1.lt b.1 → a ≠ b := by
    rintro a _ hlt rfl
    exact FrameKey.lt_irrefl a.1 hlt
  apply List.Perm.eq_of_pairwise _ hpairwise hothers
  · apply (List.perm_ext_iff_of_nodup (hpairwise.imp hne) (hothers.imp hne)).mpr
    rintro ⟨key, timeout⟩
    rw [mem_monitored_iff, mem_monitored_iff, rearranged.frame?_eq]
  · intro a b _ _ hab hba
    exact absurd (FrameKey.lt_trans hab hba) (FrameKey.lt_irrefl a.1)

end Same

end Rearranged

/-- A registry built of any entries answers as follows. A node has the name of the last entry for it,
and a data point the meaning. A frame exists if an entry names it or adds a data point to it; its
timeout is the last one that it was given, zero if there was none, and it declares one point more than
the highest index that was added to it, at most 255, or none. The watched frames are those with a
timeout, each once, in the order of frames. None of this changes if entries about different subjects
change places. The indices that are read of a frame's sensor data include every point that was added
to the frame, except for the one with index 255. -/
theorem lookups_of_entries (entries : List Entry) :
    let registry := ofEntries entries
    (∀ id, registry.nodeName? id = (namesOf id entries).getLast?) ∧
      (∀ key, (∃ info, registry.frame? key = some info) ↔
        timeoutsOf key entries ≠ [] ∨ indicesOf key entries ≠ []) ∧
      (∀ key info, registry.frame? key = some info →
        info.timeout = (timeoutsOf key entries).getLastD 0 ∧
          info.points.toNat = min 255 (extent (indicesOf key entries))) ∧
      (∀ key, registry.point? key = (infosOf key entries).getLast?) ∧
      (∀ key timeout, (key, timeout) ∈ registry.monitored ↔
        ∃ info, registry.frame? key = some info ∧ 0 < info.timeout ∧ info.timeout = timeout) ∧
      (registry.monitored.Pairwise fun a b => a.1.lt b.1) ∧
      (∀ others, Rearranged entries others →
        (∀ id, registry.nodeName? id = (ofEntries others).nodeName? id) ∧
          (∀ key, registry.frame? key = (ofEntries others).frame? key) ∧
          (∀ key, registry.point? key = (ofEntries others).point? key) ∧
          registry.monitored = (ofEntries others).monitored) ∧
      ∀ key info, registry.point? key = some info →
        ∃ frame, registry.frame? key.frameKey = some frame ∧
          (key.index ∈ Reading.indices frame ↔ key.index < 255) := by
  intro registry
  have hframes : registry.frames.keys.Nodup := nodup_frames_ofEntries entries
  have describes := describes_ofEntries entries
  refine ⟨nodeName?_ofEntries entries, ?_, ?_, point?_ofEntries entries, ?_,
    pairwise_monitored hframes, ?_, ?_⟩
  · intro key
    exact Option.isSome_iff_exists.symm.trans (describes key).known
  · intro key info hframe
    have htimeout := (describes key).timeout
    have hpoints := (describes key).points
    rw [hframe] at htimeout hpoints
    exact ⟨htimeout, hpoints⟩
  · intro key timeout
    exact mem_monitored_iff
  · intro others rearranged
    exact ⟨rearranged.nodeName?_eq, rearranged.frame?_eq, rearranged.point?_eq,
      rearranged.monitored_eq⟩
  · intro key info hinfo
    have hadded : key.index ∈ indicesOf key.frameKey entries := by
      apply mem_indicesOf_iff.mpr
      intro hnone
      rw [point?_ofEntries, hnone] at hinfo
      cases hinfo
    have hknown := (describes key.frameKey).known.mpr (.inr (List.ne_nil_of_mem hadded))
    obtain ⟨frame, hframe⟩ := Option.isSome_iff_exists.mp hknown
    refine ⟨frame, hframe, ?_⟩
    exact Reading.mem_indices_iff.trans (index_lt_points_iff hframe hadded)

/-- Frame 0 of node 3 gets its timeout after its first data point, and then the data point with the
highest index of all. Moved to the front, the entry with the timeout changes nothing. -/
theorem lookups_of_entries_late_timeout :
    let info : PointInfo :=
      { name := "speed", bitLength := 8, min := 0, max := 255, minWarning := 0, maxWarning := 100,
        minCritical := 0, maxCritical := 200 }
    let entries : List Entry := [.point ⟨3, 0, 7⟩ info, .frame ⟨3, 0⟩ 100, .point ⟨3, 0, 255⟩ info]
    let others : List Entry := [.frame ⟨3, 0⟩ 100, .point ⟨3, 0, 7⟩ info, .point ⟨3, 0, 255⟩ info]
    Rearranged entries others ∧
      (ofEntries entries).frame? ⟨3, 0⟩ = some { timeout := 100, points := 255 } ∧
      (ofEntries entries).frame? ⟨3, 0⟩ = (ofEntries others).frame? ⟨3, 0⟩ ∧
      (ofEntries entries).monitored = (ofEntries others).monitored ∧
      7 ∈ Reading.indices { timeout := 100, points := 255 } ∧
      255 ∉ Reading.indices { timeout := 100, points := 255 } := by
  intro info entries others
  have hrearranged : Rearranged entries others := .swap (by decide) [] _
  have hframe : (ofEntries entries).frame? ⟨3, 0⟩ = some { timeout := 100, points := 255 } := by
    decide
  obtain ⟨_, _, _, _, _, _, hsame, hread⟩ := lookups_of_entries entries
  obtain ⟨_, hframes, _, hmonitored⟩ := hsame others hrearranged
  obtain ⟨frame, hseven, hinside⟩ := hread ⟨3, 0, 7⟩ info (by decide)
  obtain ⟨frame', hlast, houtside⟩ := hread ⟨3, 0, 255⟩ info (by decide)
  cases hframe.symm.trans hseven
  cases hframe.symm.trans hlast
  exact ⟨hrearranged, hframe, hframes _, hmonitored, hinside.mpr (by decide),
    mt houtside.mp (by decide)⟩

end Registry

end GroundStation
