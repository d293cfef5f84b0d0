/-!
Names of frames and data points on the vehicle's bus. Frames are ordered by node and then by index.
-/

namespace GroundStation

/-- A frame of sensor data that a node sends. -/
structure FrameKey where
  node : UInt8
  frame : UInt32
deriving DecidableEq, Repr

namespace FrameKey

/-- Whether one frame stands before another or is the same. -/
def le (a b : FrameKey) : Bool :=
  a.node < b.node || (a.node == b.node && a.frame ≤ b.frame)

/-- Whether one frame stands before another. -/
def lt (a b : FrameKey) : Prop :=
  a.node < b.node ∨ a.node = b.node ∧ a.frame < b.frame

instance (a b : FrameKey) : Decidable (a.lt b) :=
  inferInstanceAs (Decidable (_ ∨ _))

theorem le_iff (a b : FrameKey) :
    a.le b = true ↔ a.node < b.node ∨ a.node = b.node ∧ a.frame ≤ b.frame := by
  simp [le]

theorem le_trans {a b c : FrameKey} (hab : a.le b = true) (hbc : b.le c = true) :
    a.le c = true := by
  rw [le_iff, UInt8.lt_iff_toNat_lt, ← UInt8.toNat_inj, UInt32.le_iff_toNat_le] at *
  omega

theorem le_total (a b : FrameKey) : (a.le b || b.le a) = true := by
  rw [Bool.or_eq_true]
  simp only [le_iff, UInt8.lt_iff_toNat_lt, ← UInt8.toNat_inj, UInt32.le_iff_toNat_le]
  omega

theorem lt_irrefl (a : FrameKey) : ¬ a.lt a := by
  rintro (hnode | ⟨_, hframe⟩)
  · exact UInt8.lt_irrefl _ hnode
  · exact UInt32.lt_irrefl _ hframe

theorem lt_trans {a b c : FrameKey} (hab : a.lt b) (hbc : b.lt c) : a.lt c := by
  simp only [lt, UInt8.lt_iff_toNat_lt, ← UInt8.toNat_inj, UInt32.lt_iff_toNat_lt] at *
  omega

theorem lt_of_le_of_ne {a b : FrameKey} (hle : a.le b = true) (hne : a ≠ b) : a.lt b := by
  obtain ⟨node, frame⟩ := a
  obtain ⟨node', frame'⟩ := b
  rcases (le_iff _ _).mp hle with hnode | ⟨hnode, hframe⟩
  · exact .inl hnode
  · refine .inr ⟨hnode, ?_⟩
    apply UInt32.lt_of_le_of_ne hframe
    rintro rfl
    subst hnode
    exact hne rfl

end FrameKey

/-- A data point inside a frame. -/
structure DataKey where
  node : UInt8
  frame : UInt32
  index : UInt8
deriving DecidableEq, Repr

namespace DataKey

/-- The frame that holds the data point. -/
def frameKey (key : DataKey) : FrameKey :=
  ⟨key.node, key.frame⟩

def text (key : DataKey) : String :=
  s!"node={key.node} frame={key.frame} data={key.index}"

end DataKey

end GroundStation
