/-!
What stops the program in the middle of a computation. A sum that leaves its word, a range that
leaves its sequence and a copy between sequences of different lengths have no result; nothing is
reported then and nothing goes on. A computation in which this may happen comes out as `.error` of a
halt, and one that may also report an error of its own as `.error` of a `Stop`.
-/

namespace GroundStation

inductive Halt where
  | sumOverflow
  | copyPastEnd
  | rangeReversed (start stop : Nat)
  | rangePastEnd (stop length : Nat)
  | lengthMismatch (source target : Nat)
deriving DecidableEq, Repr

/-- How a computation ends without its result: with an error that it reports, or with a halt. -/
inductive Stop (ε : Type) where
  | refused (cause : ε)
  | halted (halt : Halt)
deriving DecidableEq, Repr

namespace Halt

def message : Halt → String
  | sumOverflow => "attempt to add with overflow"
  | copyPastEnd => "copy past buffered data"
  | rangeReversed start stop => s!"slice index starts at {start} but ends at {stop}"
  | rangePastEnd stop length => s!"range end index {stop} out of range for slice of length {length}"
  | lengthMismatch source target =>
      s!"source slice length ({source}) does not match destination slice length ({target})"

/-- The sum of two numbers of a type with `size` values, which must be of the type itself. -/
def sum (size a b : Nat) : Except Halt Nat :=
  if a + b < size then .ok (a + b) else .error .sumOverflow

def sum32 (a b : UInt32) : Except Halt UInt32 :=
  (sum UInt32.size a.toNat b.toNat).map UInt32.ofNat

theorem sum_of_lt {size a b : Nat} (hfits : a + b < size) : sum size a b = .ok (a + b) :=
  if_pos hfits

theorem sum_of_le {size a b : Nat} (hlarge : size ≤ a + b) :
    sum size a b = .error .sumOverflow :=
  if_neg (Nat.not_lt.mpr hlarge)

theorem sum32_of_lt {a b : UInt32} (hfits : a.toNat + b.toNat < UInt32.size) :
    sum32 a b = .ok (a + b) := by
  rw [sum32, sum_of_lt hfits, Except.map, UInt32.ofNat_add, UInt32.ofNat_toNat,
    UInt32.ofNat_toNat]

theorem bind_of_eq_ok {α β : Type} {outcome : Except Halt α} {value : α}
    (hvalue : outcome = .ok value) (next : α → Except Halt β) :
    (outcome >>= next) = next value := by
  rw [hvalue]
  rfl

/-- The result of a computation that does not halt. -/
def result {α : Type} : (outcome : Except Halt α) → outcome.isOk = true → α
  | .ok value, _ => value
  | .error _, hok => nomatch hok

theorem eq_ok_result {α : Type} (outcome : Except Halt α) (hok : outcome.isOk = true) :
    outcome = .ok (result outcome hok) := by
  cases outcome with
  | ok value => rfl
  | error halt => cases hok

theorem result_eq {α : Type} {outcome : Except Halt α} {value : α} (hvalue : outcome = .ok value)
    (hok : outcome.isOk = true) : result outcome hok = value := by
  subst hvalue
  rfl

end Halt

end GroundStation
