import Mathlib.Data.List.Basic
import GroundStation.Frame.ByteQueue

/-!
The queue seen from outside: `toList` is all that matters about it. Every operation is described by
what it does to that list, so that nothing that is built on the queue has to look at the cells, the
head or the wrap at the end of the store.
-/

namespace GroundStation.ByteQueue

theorem getElem_toList (queue : ByteQueue) (i : Nat) (hi : i < queue.toList.length) :
    queue.toList[i] = queue.get i := by
  simp [toList]

/-- The bytes of the queue by their offsets from the oldest. -/
theorem getElem?_toList (queue : ByteQueue) (i : Nat) :
    queue.toList[i]? = if i < queue.size then some (queue.get i) else none := by
  split
  · rename_i hheld
    rw [List.getElem?_eq_getElem (by simpa using hheld), getElem_toList]
  · rename_i hpast
    exact List.getElem?_eq_none (by simpa using hpast)

@[simp] theorem toList_clear (queue : ByteQueue) : queue.clear.toList = [] := rfl

/-! ### The two copies into the store -/

/-- After the two copies, a cell that lies fewer than `accepted` places behind `tail`, counted around
the end of the store, has the byte of that place, and any other cell has what it had. -/
theorem getElem_write_around (cells : Vector UInt8 capacity) (bytes : List UInt8)
    {tail accepted place : Nat} (htail : tail < capacity) (hplace : place < capacity)
    (haccepted : accepted ≤ capacity) :
    let first := min accepted (capacity - tail)
    (Slice.write (Slice.write cells tail (bytes.take first)) 0
        ((bytes.drop first).take (accepted - first)))[place] =
      (bytes.take accepted)[(place + capacity - tail) % capacity]?.getD cells[place] := by
  intro first
  have hcapacity : capacity = 256 := rfl
  rw [Slice.getElem_write, Slice.getElem_write, if_pos (Nat.zero_le place), Nat.sub_zero,
    List.getElem?_take, List.getElem?_take, List.getElem?_take, List.getElem?_drop]
  rcases Nat.lt_or_ge place tail with hbefore | hbehind
  · have hdistance : (place + capacity - tail) % capacity = place + capacity - tail :=
      Nat.mod_eq_of_lt (by omega)
    rw [hdistance, if_neg (Nat.not_le.mpr hbefore)]
    by_cases htaken : place + capacity - tail < accepted
    · have hsecond : place + capacity - tail = first + place := by omega
      rw [if_pos htaken, if_pos (by omega), hsecond]
    · rw [if_neg htaken, if_neg (by omega)]
  · have hdistance : (place + capacity - tail) % capacity = place - tail := by
      simp only [hcapacity] at hplace htail ⊢
      omega
    have hfirst : ¬ place < accepted - first := by omega
    rw [hdistance, if_pos hbehind, if_neg hfirst, Option.getD_none]
    by_cases htaken : place - tail < accepted
    · rw [if_pos htaken, if_pos (by omega)]
    · rw [if_neg htaken, if_neg (by omega)]

theorem cell_add (queue : ByteQueue) (i j : Nat) :
    (queue.cell (i + j)).val = ((queue.cell i).val + j) % capacity := by
  simp only [cell, Nat.mod_add_mod, Nat.add_assoc]

/-- How far one cell lies behind another, counted around the end of the store. -/
theorem cell_distance (queue : ByteQueue) {i j : Nat} (hj : j ≤ capacity) :
    ((queue.cell i).val + capacity - (queue.cell j).val) % capacity =
      (i + capacity - j) % capacity := by
  simp only [cell, capacity] at hj ⊢
  omega

section Push

variable (queue : ByteQueue) (bytes : List UInt8)

theorem push_fst : (queue.push bytes).1 = min bytes.length queue.free := by
  rw [push, Halt.result_eq (queue.pushChecked_eq bytes)]

theorem size_push : (queue.push bytes).2.size = queue.size + min bytes.length queue.free := by
  rw [push, Halt.result_eq (queue.pushChecked_eq bytes)]

/-- The bytes held stay where they are, and the bytes that were taken lie behind them. -/
theorem get_push {i : Nat} (hi : i < queue.size + min bytes.length queue.free) :
    (queue.push bytes).2.get i =
      if i < queue.size then queue.get i
      else bytes[i - queue.size]?.getD (queue.get i) := by
  have hroom := queue.size_add_le bytes.length
  have hcapacity : capacity = 256 := rfl
  have hcells := getElem_write_around queue.cells bytes (queue.cell queue.size).isLt
    (queue.cell i).isLt (Nat.le_trans (Nat.le_add_left _ _) hroom)
  have hget : (queue.push bytes).2.get i =
      (bytes.take (min bytes.length queue.free))[
        ((queue.cell i).val + capacity - (queue.cell queue.size).val) % capacity]?.getD
          (queue.get i) := by
    rw [push, Halt.result_eq (queue.pushChecked_eq bytes)]
    exact hcells
  rw [hget, List.getElem?_take, queue.cell_distance queue.size_le]
  by_cases hheld : i < queue.size
  · have hdistance : (i + capacity - queue.size) % capacity = i + capacity - queue.size :=
      Nat.mod_eq_of_lt (by omega)
    rw [if_pos hheld, hdistance, if_neg (by omega), Option.getD_none]
  · have hdistance : (i + capacity - queue.size) % capacity = i - queue.size := by
      simp only [hcapacity] at hroom ⊢
      omega
    rw [if_neg hheld, hdistance, if_pos (by omega)]

/-- A push appends the bytes for which there is room. -/
theorem toList_push :
    (queue.push bytes).2.toList = queue.toList ++ bytes.take queue.free := by
  apply List.ext_getElem?
  intro i
  rw [getElem?_toList, size_push, List.getElem?_append, length_toList, getElem?_toList,
    List.getElem?_take]
  by_cases hheld : i < queue.size
  · have hi : i < queue.size + min bytes.length queue.free := by omega
    rw [if_pos hi, if_pos hheld, if_pos hheld, get_push queue bytes hi, if_pos hheld]
  · rw [if_neg hheld]
    by_cases hi : i < queue.size + min bytes.length queue.free
    · have hbyte : i - queue.size < bytes.length := by omega
      rw [if_pos hi, if_pos (by omega), get_push queue bytes hi, if_neg hheld,
        List.getElem?_eq_getElem hbyte, Option.getD_some]
    · rw [if_neg hi]
      split
      · exact (List.getElem?_eq_none (by omega)).symm
      · rfl

theorem toList_push_take :
    (queue.push bytes).2.toList = queue.toList ++ bytes.take (queue.push bytes).1 := by
  rw [toList_push, push_fst, List.append_cancel_left_eq, List.take_eq_take_iff]
  omega

theorem push_nil : queue.push [] = (0, queue) := by
  rw [push, Halt.result_eq (queue.pushChecked_eq [])]
  simp [Slice.write]

end Push

@[simp] theorem toList_drop (queue : ByteQueue) (count : Nat) :
    (queue.drop count).toList = queue.toList.drop count := by
  unfold drop
  split
  case isTrue hall =>
    rw [toList_clear, List.drop_eq_nil_of_le (by simpa using hall)]
  case isFalse hsome =>
    apply List.ext_getElem
    · simp
    · intro i hi hi'
      rw [List.getElem_drop, getElem_toList, getElem_toList]
      simp only [get, cell, Nat.mod_add_mod, Nat.add_assoc]

theorem map_get_range' (queue : ByteQueue) (start count : Nat) :
    (List.range' start (min (start + count) queue.size - start)).map queue.get =
      (queue.toList.drop start).take count := by
  apply List.ext_getElem
  · simp
    omega
  · intro i hi hi'
    simp [getElem_toList]

/-! ### The two copies out of the store -/

/-- The two copies put the byte of place `i`, counted around the end of the store from `start` on,
into place `i` of the target. -/
theorem getElem_read_around (cells : Vector UInt8 capacity) {count start i : Nat}
    (target : Vector UInt8 count) (hstart : start < capacity) (hcount : count ≤ capacity)
    (hi : i < count) :
    let first := min count (capacity - start)
    (Slice.write (Slice.write target 0 ((cells.toList.drop start).take first)) first
        (cells.toList.take (count - first)))[i] =
      cells.get ⟨(start + i) % capacity, Nat.mod_lt _ capacity_pos⟩ := by
  intro first
  have hcapacity : capacity = 256 := rfl
  have hlength : cells.toList.length = capacity := Vector.length_toList
  rw [Slice.getElem_write, Slice.getElem_write, if_pos (Nat.zero_le i), Nat.sub_zero,
    List.getElem?_take, List.getElem?_take, List.getElem?_drop]
  by_cases hsecond : first ≤ i
  · have hplace : (start + i) % capacity = i - first := by
      simp only [hcapacity] at hstart hcount ⊢
      omega
    rw [if_pos hsecond, if_pos (by omega), List.getElem?_eq_getElem (by omega), Option.getD_some]
    simp only [hplace]
    rfl
  · have hplace : (start + i) % capacity = start + i := Nat.mod_eq_of_lt (by omega)
    rw [if_neg hsecond, if_pos (by omega), List.getElem?_eq_getElem (by omega), Option.getD_some]
    simp only [hplace]
    rfl

/-- A copy gives the bytes at its offsets, or halts if they are not all there. -/
theorem copyInto_eq {count : Nat} (queue : ByteQueue) (offset : Nat)
    (target : Vector UInt8 count) :
    (queue.copyInto offset target).map Vector.toList =
      if offset + count ≤ queue.size then .ok ((queue.toList.drop offset).take count)
      else .error (if offset + count < UInt64.size then .copyPastEnd else .sumOverflow) := by
  by_cases hheld : offset + count ≤ queue.size
  · have hsize := queue.size_le
    rw [if_pos hheld, copyInto_eq_ok hheld, Except.map]
    congr 1
    apply List.ext_getElem
    · rw [Vector.length_toList, List.length_take, List.length_drop, length_toList]
      omega
    · intro i hi _
      have hcount : i < count := by simpa using hi
      rw [Vector.getElem_toList, List.getElem_take, List.getElem_drop, getElem_toList,
        getElem_read_around _ _ (queue.cell offset).isLt (by omega) hcount, get]
      congr 2
      exact (queue.cell_add offset i).symm
  · rw [if_neg hheld, copyInto_eq_error (Nat.not_le.mp hheld)]
    rfl

/-- A part of the queue is copied as it is. -/
theorem copy_of_toList_eq {queue : ByteQueue} {before part after : List UInt8}
    (hbytes : queue.toList = before ++ (part ++ after)) {offset count : Nat}
    (hoffset : before.length = offset) (hcount : part.length = count) :
    queue.copy offset count = .ok part := by
  subst hoffset hcount
  have hheld : before.length + part.length ≤ queue.size := by
    rw [← length_toList, hbytes]
    simp only [List.length_append]
    omega
  rw [copy, copyInto_eq, if_pos hheld, hbytes, List.drop_left, List.take_left]

private theorem find?_range'_eq_findIdx? (f : Nat → UInt8) (byte : UInt8) (start count : Nat) :
    (List.range' start count).find? (f · == byte) =
      (((List.range' start count).map f).findIdx? (· == byte)).map (start + ·) := by
  induction count generalizing start with
  | zero => rfl
  | succ count ih =>
      rw [List.range'_succ, List.map_cons, List.find?_cons, List.findIdx?_cons]
      cases hbyte : f start == byte with
      | true => simp
      | false =>
          simp only [ih, Bool.false_eq_true, if_false, Option.map_map]
          congr 1
          funext i
          simp only [Function.comp_apply]
          omega

theorem find?_eq (queue : ByteQueue) (byte : UInt8) (start count : Nat) :
    queue.find? byte start count =
      (((queue.toList.drop start).take count).findIdx? (· == byte)).map (start + ·) := by
  rw [find?, find?_range'_eq_findIdx?, map_get_range']

private theorem find?_whole (queue : ByteQueue) (byte : UInt8) :
    queue.find? byte 0 queue.size = queue.toList.findIdx? (· == byte) := by
  rw [find?_eq, List.drop_zero, List.take_of_length_le (by simp)]
  simp

/-- A search of the whole queue fails if the byte is not in it. -/
theorem find?_whole_eq_none_iff (queue : ByteQueue) (byte : UInt8) :
    queue.find? byte 0 queue.size = none ↔ byte ∉ queue.toList := by
  rw [find?_whole, List.findIdx?_eq_none_iff]
  constructor
  · intro hnone hmem
    simpa using hnone byte hmem
  · intro hmem other hother
    rw [beq_eq_false_iff_ne]
    rintro rfl
    exact hmem hother

/-- A search through the whole queue cuts its bytes at the first hit. -/
theorem exists_of_find?_whole {queue : ByteQueue} {byte : UInt8} {start : Nat}
    (hfind : queue.find? byte 0 queue.size = some start) :
    ∃ before after, queue.toList = before ++ byte :: after ∧ byte ∉ before ∧
      before.length = start := by
  rw [find?_whole, List.findIdx?_eq_some_iff_getElem] at hfind
  obtain ⟨hstart, hbyte, hbefore⟩ := hfind
  refine ⟨queue.toList.take start, queue.toList.drop (start + 1), ?_, ?_, ?_⟩
  · rw [← eq_of_beq hbyte, List.getElem_cons_drop, List.take_append_drop]
  · intro hmem
    obtain ⟨i, hi, heq⟩ := List.mem_take_iff_getElem.mp hmem
    have hhit := hbefore i (by omega)
    rw [heq] at hhit
    simp at hhit
  · exact List.length_take_of_le (Nat.le_of_lt hstart)

end GroundStation.ByteQueue
