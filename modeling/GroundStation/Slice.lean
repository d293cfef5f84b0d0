import GroundStation.Halt

/-!
Copies between parts of byte stores. A part is named by its first place and by the place behind its
last one. A part that does not lie inside its store stops the program, and so does a copy between
parts of different lengths.
-/

namespace GroundStation.Slice

variable {α : Type} {size : Nat}

/-- The items from place `start` up to place `stop`. -/
def range (items : List α) (start stop : Nat) : Except Halt (List α) :=
  if stop < start then .error (.rangeReversed start stop)
  else if items.length < stop then .error (.rangePastEnd stop items.length)
  else .ok ((items.drop start).take (stop - start))

/-- Writes items one behind the other from place `start` on. -/
def write (cells : Vector α size) (start : Nat) : List α → Vector α size
  | [] => cells
  | item :: rest => write (cells.setIfInBounds start item) (start + 1) rest

/-- Copies items over the cells from place `start` up to place `stop`. -/
def copy (cells : Vector α size) (start stop : Nat) (items : List α) :
    Except Halt (Vector α size) :=
  if stop < start then .error (.rangeReversed start stop)
  else if size < stop then .error (.rangePastEnd stop size)
  else if items.length ≠ stop - start then .error (.lengthMismatch items.length (stop - start))
  else .ok (write cells start items)

theorem range_eq_ok {items : List α} {start stop : Nat} (hstart : start ≤ stop)
    (hstop : stop ≤ items.length) :
    range items start stop = .ok ((items.drop start).take (stop - start)) := by
  rw [range, if_neg (Nat.not_lt.mpr hstart), if_neg (Nat.not_lt.mpr hstop)]

theorem copy_eq_ok (cells : Vector α size) {start stop : Nat} {items : List α}
    (hstop : stop ≤ size) (hlength : start + items.length = stop) :
    copy cells start stop items = .ok (write cells start items) := by
  have hstart : ¬ stop < start := by omega
  have hsame : ¬ items.length ≠ stop - start := by omega
  rw [copy, if_neg hstart, if_neg (Nat.not_lt.mpr hstop), if_neg hsame]

theorem getElem_write (cells : Vector α size) (start : Nat) (items : List α) (i : Nat)
    (hi : i < size) :
    (write cells start items)[i] =
      if start ≤ i then items[i - start]?.getD cells[i] else cells[i] := by
  induction items generalizing cells start with
  | nil => simp [write]
  | cons item rest ih =>
      rw [write, ih]
      rcases Nat.lt_trichotomy i start with hbefore | rfl | hbehind
      · rw [if_neg (by omega), if_neg (by omega), Vector.getElem_setIfInBounds_ne hi (by omega)]
      · rw [if_neg (by omega), if_pos (Nat.le_refl i), Vector.getElem_setIfInBounds_self,
          Nat.sub_self]
        rfl
      · have hplace : i - start = i - (start + 1) + 1 := by omega
        rw [if_pos (by omega), if_pos (by omega), Vector.getElem_setIfInBounds_ne hi (by omega),
          hplace, List.getElem?_cons_succ]

end GroundStation.Slice
