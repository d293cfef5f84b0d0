import GroundStation.Slice

/-!
The receive buffer of the line: a bounded first-in first-out queue of bytes in a circular store.
The bytes held are the `size` cells from `head` on, wrapping at the end of the store; `toList` is
that sequence, oldest byte first. A push takes as many bytes as there is room for and reports the
number; nothing that is held is ever overwritten.

Bytes go into the store and out of it in two copies, one up to the end of the store and one from its
beginning. The copies of a push always stay inside the store. Copying out stops the program if it
asks for more than is held.
-/

namespace GroundStation

namespace ByteQueue

/-- The number of bytes that a queue can hold. -/
def capacity : Nat := 256

theorem capacity_pos : 0 < capacity := by decide

end ByteQueue

structure ByteQueue where
  cells : Vector UInt8 ByteQueue.capacity
  head : Fin ByteQueue.capacity
  size : Nat
  size_le : size ≤ ByteQueue.capacity
deriving DecidableEq, Repr

namespace ByteQueue

def empty : ByteQueue where
  cells := Vector.replicate capacity 0
  head := ⟨0, capacity_pos⟩
  size := 0
  size_le := Nat.zero_le _

def isEmpty (queue : ByteQueue) : Bool :=
  queue.size == 0

/-- How many more bytes the queue can take. -/
def free (queue : ByteQueue) : Nat :=
  capacity - queue.size

/-- The cell that lies `offset` places after the oldest byte. -/
def cell (queue : ByteQueue) (offset : Nat) : Fin capacity :=
  ⟨(queue.head.val + offset) % capacity, Nat.mod_lt _ capacity_pos⟩

/-- The byte `offset` places after the oldest one. -/
def get (queue : ByteQueue) (offset : Nat) : UInt8 :=
  queue.cells.get (queue.cell offset)

/-- The bytes held, oldest first. -/
def toList (queue : ByteQueue) : List UInt8 :=
  (List.range queue.size).map queue.get

theorem size_add_le (queue : ByteQueue) (count : Nat) :
    queue.size + min count queue.free ≤ capacity := by
  have := queue.size_le
  unfold free
  omega

/-- Adds as many of the bytes as there is room for; the number is how many were taken. -/
def pushChecked (queue : ByteQueue) (bytes : List UInt8) : Except Halt (Nat × ByteQueue) := do
  let accepted := min bytes.length queue.free
  let tail := (queue.cell queue.size).val
  let first := min accepted (capacity - tail)
  let cells ← Slice.copy queue.cells tail (tail + first) (← Slice.range bytes 0 first)
  let rest := accepted - first
  let cells ← Slice.copy cells 0 rest (← Slice.range bytes first accepted)
  return (accepted,
    { queue with
      cells
      size := queue.size + accepted
      size_le := queue.size_add_le bytes.length })

/-- Both copies of a push stay inside the bytes and inside the store. -/
theorem pushChecked_eq (queue : ByteQueue) (bytes : List UInt8) :
    let accepted := min bytes.length queue.free
    let tail := (queue.cell queue.size).val
    let first := min accepted (capacity - tail)
    queue.pushChecked bytes = .ok (accepted,
      { queue with
        cells := Slice.write (Slice.write queue.cells tail (bytes.take first)) 0
          ((bytes.drop first).take (accepted - first))
        size := queue.size + accepted
        size_le := queue.size_add_le bytes.length }) := by
  intro accepted tail first
  have htail : tail < capacity := (queue.cell queue.size).isLt
  have haccepted : accepted ≤ bytes.length := Nat.min_le_left _ _
  have hfree : accepted ≤ capacity := Nat.le_trans (Nat.min_le_right _ _) (Nat.sub_le _ _)
  have hfirst : first ≤ accepted := Nat.min_le_left _ _
  have hlower : tail + (bytes.take first).length = tail + first := by
    rw [List.length_take]
    omega
  have hupper : 0 + ((bytes.drop first).take (accepted - first)).length = accepted - first := by
    rw [List.length_take, List.length_drop]
    omega
  have hrange : Slice.range bytes 0 first = .ok (bytes.take first) :=
    Slice.range_eq_ok (Nat.zero_le _) (by omega)
  have hrest : Slice.range bytes first accepted = .ok ((bytes.drop first).take (accepted - first)) :=
    Slice.range_eq_ok hfirst haccepted
  have hcells := Slice.copy_eq_ok queue.cells (by omega) hlower
  have hstore := Slice.copy_eq_ok (Slice.write queue.cells tail (bytes.take first)) (by omega)
    hupper
  unfold pushChecked
  dsimp only
  rw [Halt.bind_of_eq_ok hrange, Halt.bind_of_eq_ok hcells, Halt.bind_of_eq_ok hrest,
    Halt.bind_of_eq_ok hstore]
  rfl

theorem isOk_pushChecked (queue : ByteQueue) (bytes : List UInt8) :
    (queue.pushChecked bytes).isOk = true := by
  rw [pushChecked_eq]
  rfl

def push (queue : ByteQueue) (bytes : List UInt8) : Nat × ByteQueue :=
  Halt.result (queue.pushChecked bytes) (queue.isOk_pushChecked bytes)

/-- The first offset from `start` on, at most `count` places on, that holds `byte`. -/
def find? (queue : ByteQueue) (byte : UInt8) (start count : Nat) : Option Nat :=
  (List.range' start (min (start + count) queue.size - start)).find? (queue.get · == byte)

/-- Fills `target` with the bytes from `offset` on. -/
def copyInto {count : Nat} (queue : ByteQueue) (offset : Nat) (target : Vector UInt8 count) :
    Except Halt (Vector UInt8 count) := do
  let stop ← Halt.sum UInt64.size offset count
  if queue.size < stop then
    throw .copyPastEnd
  let start := (queue.cell offset).val
  let first := min count (capacity - start)
  let target ← Slice.copy target 0 first
    (← Slice.range queue.cells.toList start (start + first))
  let rest := count - first
  Slice.copy target first count (← Slice.range queue.cells.toList 0 rest)

/-- A copy of `count` bytes from `offset` on. -/
def copy (queue : ByteQueue) (offset count : Nat) : Except Halt (List UInt8) :=
  (queue.copyInto offset (Vector.replicate count 0)).map Vector.toList

def clear (queue : ByteQueue) : ByteQueue :=
  { queue with head := ⟨0, capacity_pos⟩, size := 0, size_le := Nat.zero_le _ }

/-- Removes the `count` oldest bytes, or all of them if fewer are held. -/
def drop (queue : ByteQueue) (count : Nat) : ByteQueue :=
  if queue.size ≤ count then
    queue.clear
  else
    { queue with
      head := queue.cell count
      size := queue.size - count
      size_le := Nat.le_trans (Nat.sub_le _ _) queue.size_le }

@[simp] theorem size_empty : empty.size = 0 := rfl

@[simp] theorem size_clear (queue : ByteQueue) : queue.clear.size = 0 := rfl

@[simp] theorem size_drop (queue : ByteQueue) (count : Nat) :
    (queue.drop count).size = queue.size - count := by
  unfold drop
  split
  · simp only [size_clear]
    omega
  · rfl

@[simp] theorem length_toList (queue : ByteQueue) : queue.toList.length = queue.size := by
  simp [toList]

/-- A copy that asks for more than is held halts: at the sum, if that leaves its word. -/
theorem copyInto_eq_error {count : Nat} {queue : ByteQueue} {offset : Nat}
    (hpast : queue.size < offset + count) (target : Vector UInt8 count) :
    queue.copyInto offset target =
      .error (if offset + count < UInt64.size then .copyPastEnd else .sumOverflow) := by
  unfold copyInto
  by_cases hsum : offset + count < UInt64.size
  · rw [if_pos hsum, Halt.sum_of_lt hsum]
    simp only [bind, Except.bind, if_pos hpast]
    rfl
  · rw [if_neg hsum, Halt.sum_of_le (Nat.not_lt.mp hsum)]
    rfl

/-- Both copies out of the store stay inside it and inside the target. -/
theorem copyInto_eq_ok {count : Nat} {queue : ByteQueue} {offset : Nat}
    (hheld : offset + count ≤ queue.size) (target : Vector UInt8 count) :
    let start := (queue.cell offset).val
    let first := min count (capacity - start)
    queue.copyInto offset target =
      .ok (Slice.write (Slice.write target 0 ((queue.cells.toList.drop start).take first)) first
        (queue.cells.toList.take (count - first))) := by
  intro start first
  have hsize : queue.size ≤ capacity := queue.size_le
  have hword : capacity < UInt64.size := by decide
  have hstart : start < capacity := (queue.cell offset).isLt
  have hlength : queue.cells.toList.length = capacity := Vector.length_toList
  have hfirst : first ≤ count := Nat.min_le_left _ _
  have hsum : Halt.sum UInt64.size offset count = .ok (offset + count) := Halt.sum_of_lt (by omega)
  have hlower : Slice.range queue.cells.toList start (start + first) =
      .ok ((queue.cells.toList.drop start).take first) := by
    rw [Slice.range_eq_ok (Nat.le_add_right start first) (by omega), Nat.add_sub_cancel_left]
  have hupper : Slice.range queue.cells.toList 0 (count - first) =
      .ok (queue.cells.toList.take (count - first)) :=
    Slice.range_eq_ok (Nat.zero_le _) (by omega)
  have hlowerLength : 0 + ((queue.cells.toList.drop start).take first).length = first := by
    rw [List.length_take, List.length_drop]
    omega
  have hupperLength : first + (queue.cells.toList.take (count - first)).length = count := by
    rw [List.length_take]
    omega
  have hhead := Slice.copy_eq_ok target hfirst hlowerLength
  have hrest := Slice.copy_eq_ok
    (Slice.write target 0 ((queue.cells.toList.drop start).take first)) (Nat.le_refl count)
    hupperLength
  unfold copyInto
  rw [Halt.bind_of_eq_ok hsum, if_neg (Nat.not_lt.mpr hheld)]
  dsimp only
  rw [Halt.bind_of_eq_ok hlower, Halt.bind_of_eq_ok hhead, Halt.bind_of_eq_ok hupper]
  exact hrest

theorem isOk_copy {queue : ByteQueue} {offset count : Nat} (hheld : offset + count ≤ queue.size) :
    (queue.copy offset count).isOk = true := by
  rw [copy, copyInto_eq_ok hheld]
  rfl

end ByteQueue

end GroundStation
