import GroundStation.Proofs.Liveness.Schedule
import GroundStation.Vehicle.Registry

/-!
The frames that are watched. A registry that is built from entries has one row per frame, so a frame
is watched with the timeout that the registry gives it, or not at all. Countdowns that are started for
the watched frames keep being the countdowns of these frames and no others, each with the frame's
timeout, as long as a restart uses the timeout of the registry.
-/

namespace GroundStation

namespace Registry

def watch? (registry : Registry) (key : FrameKey) : Option UInt32 :=
  (registry.frame? key).bind fun info => if 0 < info.timeout then some info.timeout else none

theorem watch?_eq_some_iff {registry : Registry} {key : FrameKey} {timeout : UInt32} :
    registry.watch? key = some timeout ↔
      ∃ info, registry.frame? key = some info ∧ 0 < info.timeout ∧ info.timeout = timeout := by
  simp only [watch?, Option.bind_eq_some_iff, Option.ite_none_right_eq_some, Option.some_inj]

theorem nodup_frames_add {registry : Registry} (hframes : registry.frames.keys.Nodup)
    (entry : Entry) : (registry.add entry).frames.keys.Nodup := by
  cases entry with
  | node id name => exact hframes
  | frame key timeout => exact Table.nodup_keys_insert hframes _ _
  | point key info => exact Table.nodup_keys_insert hframes _ _
  | roster nodes => exact hframes

/-- No frame has two rows. -/
theorem nodup_frames_ofEntries (entries : List Entry) :
    (ofEntries entries).frames.keys.Nodup := by
  induction entries using List.reverseRecOn with
  | nil => exact List.nodup_nil
  | append_singleton entries entry ih =>
      rw [ofEntries, List.foldl_append]
      exact nodup_frames_add ih entry

def watched? (row : FrameKey × FrameInfo) : Option (FrameKey × UInt32) :=
  if 0 < row.2.timeout then some (row.1, row.2.timeout) else none

theorem key_of_watched? {row : FrameKey × FrameInfo} {frame : FrameKey × UInt32}
    (hrow : watched? row = some frame) : frame.1 = row.1 := by
  obtain ⟨_, hframe⟩ := Option.ite_none_right_eq_some.mp hrow
  rw [← Option.some_inj.mp hframe]

/-- A watched frame stands once in the list of watched frames, with its timeout. -/
theorem filter_monitored {registry : Registry} (hframes : registry.frames.keys.Nodup)
    (key : FrameKey) :
    (registry.monitored.filter fun frame => frame.1 = key) =
      ((registry.watch? key).map (Prod.mk key)).toList := by
  have hfilter : (registry.monitored.filter fun frame => frame.1 = key) =
      ((registry.frame? key).bind fun info => watched? (key, info)).toList :=
    Table.filter_mergeSort hframes key_of_watched? (fun a b => a.1.le b.1) key
  rw [hfilter, watch?]
  cases registry.frame? key with
  | none => rfl
  | some info =>
      rw [Option.bind_some, Option.bind_some]
      dsimp only [watched?]
      split <;> rfl

/-- The watched frames are in the order of frames, and none is there twice. -/
theorem pairwise_monitored {registry : Registry} (hframes : registry.frames.keys.Nodup) :
    registry.monitored.Pairwise fun a b => a.1.lt b.1 :=
  Table.pairwise_mergeSort hframes key_of_watched? FrameKey.le_trans FrameKey.le_total
    FrameKey.lt_of_le_of_ne

end Registry

namespace Countdowns

theorem timeout_step (policy : TickPolicy) (countdown : Countdown) :
    (countdown.step policy).2.timeout = countdown.timeout := by
  unfold Countdown.step
  dsimp only
  split <;> rfl

/-- The countdowns start with the watched frames and their timeouts. -/
theorem get?_seeded_monitored {registry : Registry} (hframes : registry.frames.keys.Nodup)
    (key : FrameKey) :
    (seeded registry.monitored).table.get? key = (registry.watch? key).map .start := by
  rw [get?_seeded, Registry.filter_monitored hframes]
  cases hwatch : registry.watch? key with
  | none => rfl
  | some timeout =>
      obtain ⟨info, _, hpositive, rfl⟩ := Registry.watch?_eq_some_iff.mp hwatch
      change (restart {} key info.timeout).table.get? key = some (.start info.timeout)
      rw [get?_restart, if_pos ⟨rfl, (UInt32.pos_iff_ne_zero).mp hpositive⟩]

/-- The countdowns are those of the watched frames, one for each, with the frame's timeout. -/
structure Watches (registry : Registry) (countdowns : Countdowns) : Prop where
  keys : countdowns.table.keys.Nodup
  timeouts : ∀ key, (countdowns.table.get? key).map Countdown.timeout = registry.watch? key

namespace Watches

variable {registry : Registry} {countdowns : Countdowns}

/-- Seeded countdowns watch what the registry says. -/
theorem seeded (hframes : registry.frames.keys.Nodup) :
    Watches registry (Countdowns.seeded registry.monitored) where
  keys := (Tracks.seeded {} registry.monitored).keys
  timeouts := by
    intro key
    rw [get?_seeded_monitored hframes, Option.map_map]
    exact Option.map_id'

theorem tick (watches : Watches registry countdowns) (policy : TickPolicy) :
    Watches registry (countdowns.tick policy).2 where
  keys := nodup_keys_call watches.keys policy .tick
  timeouts := by
    intro key
    have hget : (countdowns.tick policy).2.table.get? key = _ :=
      countdowns.get?_call policy .tick key
    rw [hget, ← watches.timeouts key, Call.act, Option.map_map]
    congr 1
    funext countdown
    exact timeout_step policy countdown

theorem restart (watches : Watches registry countdowns) {frame : FrameKey} {timeout : UInt32}
    (hwatch : registry.watch? frame = some timeout) :
    Watches registry (countdowns.restart frame timeout) where
  keys := nodup_keys_call watches.keys {} (.restart frame timeout)
  timeouts := by
    intro key
    rw [get?_restart]
    split
    · rename_i hrenewed
      rw [← hrenewed.1, hwatch]
      rfl
    · exact watches.timeouts key

/-- A frame has a countdown exactly if the registry gives it a timeout. -/
theorem mem_keys_iff (watches : Watches registry countdowns) (key : FrameKey) :
    key ∈ countdowns.table.keys ↔
      ∃ info, registry.frame? key = some info ∧ 0 < info.timeout := by
  rw [Table.mem_keys_iff, ← Option.isSome_map, watches.timeouts key, Option.isSome_iff_exists]
  simp only [Registry.watch?_eq_some_iff]
  constructor
  · rintro ⟨timeout, info, hinfo, hpositive, _⟩
    exact ⟨info, hinfo, hpositive⟩
  · rintro ⟨info, hinfo, hpositive⟩
    exact ⟨info.timeout, info, hinfo, hpositive, rfl⟩

end Watches

end Countdowns

end GroundStation
