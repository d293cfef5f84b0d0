import GroundStation.Proofs.Reading.Fields
import GroundStation.Reading.Bus
import Mathlib.Algebra.BigOperators.Fin
import Mathlib.Data.Fin.VecNotation
import Mathlib.Data.Set.Function
import Mathlib.Tactic.FinCases

/-!
A word cut into fields. Fields that stand one behind the other from the lowest bit of a word on have
no bit in common and leave none out, so the word below their last bit and the numbers in them say
the same: the numbers, each at its place, add up to the word, and every choice of numbers that fit
their fields is read from exactly one word. The eight fields of a bus status fill the word, so no two
words have the same status and every status whose numbers fit is the status of a word.
-/

namespace GroundStation

namespace Bits

/-- The widths of fields that stand one behind the other inside a word, the lowest one first. -/
structure Partition where
  widths : List UInt32
  fits : (widths.map UInt32.toNat).sum ≤ 64

namespace Partition

section Definitions

variable (fields : Partition)

abbrev count : Nat :=
  fields.widths.length

def total : Nat :=
  (fields.widths.map UInt32.toNat).sum

/-- The lowest bit of a field: the sum of the widths before its own. -/
def offset (index : Nat) : UInt32 :=
  UInt32.ofNat ((fields.widths.take index).map UInt32.toNat).sum

def read (word : UInt64) (index : Fin fields.count) : UInt64 :=
  field word (fields.offset index) (fields.widths.get index)

def InRange (numbers : Fin fields.count → UInt64) : Prop :=
  ∀ index, (numbers index).toNat < 2 ^ (fields.widths.get index).toNat

instance (numbers : Fin fields.count → UInt64) : Decidable (fields.InRange numbers) :=
  inferInstanceAs
    (Decidable (∀ index, (numbers index).toNat < 2 ^ (fields.widths.get index).toNat))

/-- The numbers, each at the place of its field, added up. -/
def join (numbers : Fin fields.count → UInt64) : Nat :=
  ∑ index, (numbers index).toNat * 2 ^ (fields.offset index).toNat

def bits (index : Nat) : Nat :=
  (fields.widths.getD index 0).toNat

def number (numbers : Fin fields.count → UInt64) (index : Nat) : Nat :=
  if hindex : index < fields.count then (numbers ⟨index, hindex⟩).toNat else 0

end Definitions

/-! ### Places -/

variable {fields : Partition}

theorem bits_fin (index : Fin fields.count) :
    fields.bits index = (fields.widths.get index).toNat := by
  rw [bits, List.getD_eq_getElem?_getD, List.getElem?_eq_getElem index.isLt]
  rfl

theorem place_bits (fields : Partition) (index : Nat) :
    place fields.bits index = ((fields.widths.take index).map UInt32.toNat).sum := by
  induction index with
  | zero => rfl
  | succ index ih =>
      rw [place_succ, ih, List.take_add_one, List.map_append, List.sum_append, bits,
        List.getD_eq_getElem?_getD]
      cases fields.widths[index]? <;> rfl

theorem place_bits_count (fields : Partition) : place fields.bits fields.count = fields.total := by
  rw [place_bits, List.take_length]
  rfl

theorem toNat_offset (index : Fin fields.count) :
    (fields.offset index).toNat = place fields.bits index := by
  have hplace : place fields.bits index ≤ 64 :=
    calc place fields.bits index
        ≤ place fields.bits fields.count := place_mono _ index.isLt.le
      _ = fields.total := fields.place_bits_count
      _ ≤ 64 := fields.fits
  rw [offset, ← place_bits]
  exact UInt32.toNat_ofNat_of_lt' (hplace.trans_lt (by decide))

/-- A number below the end of the last field is a word. -/
theorem toNat_word {number : Nat} (hnumber : number < 2 ^ fields.total) :
    (UInt64.ofNat number).toNat = number :=
  UInt64.toNat_ofNat_of_lt' (hnumber.trans_le (Nat.pow_le_pow_right Nat.two_pos fields.fits))

/-! ### Words and numbers -/

theorem toNat_read (word : UInt64) (index : Fin fields.count) :
    (fields.read word index).toNat =
      word.toNat / 2 ^ place fields.bits index % 2 ^ fields.bits index := by
  rw [read, toNat_field, toNat_offset, bits_fin]

theorem inRange_read (fields : Partition) (word : UInt64) : fields.InRange (fields.read word) :=
  fun _ => field_lt word _ _

/-- Joining numbers is packing them. -/
theorem join_eq_pack {numbers : Fin fields.count → UInt64} (given : Nat → Nat)
    (hgiven : ∀ index : Fin fields.count, given index = (numbers index).toNat) :
    fields.join numbers = pack fields.bits given fields.count := by
  rw [join, pack, Finset.sum_range]
  refine Finset.sum_congr rfl fun index _ => ?_
  rw [hgiven, toNat_offset]

/-- The fields of a word add up to its low bits. -/
theorem join_read (fields : Partition) (word : UInt64) :
    fields.join (fields.read word) = word.toNat % 2 ^ fields.total := by
  rw [← place_bits_count, ← pack_fields]
  exact join_eq_pack _ fun index => (toNat_read word index).symm

theorem number_fin (numbers : Fin fields.count → UInt64) (index : Fin fields.count) :
    fields.number numbers index = (numbers index).toNat :=
  dif_pos index.isLt

section Fitting

variable {numbers : Fin fields.count → UInt64} (hnumbers : fields.InRange numbers)

include hnumbers

theorem number_lt :
    ∀ index < fields.count, fields.number numbers index < 2 ^ fields.bits index := by
  intro index hindex
  rw [number_fin numbers ⟨index, hindex⟩, bits_fin ⟨index, hindex⟩]
  exact hnumbers ⟨index, hindex⟩

theorem join_lt : fields.join numbers < 2 ^ fields.total := by
  rw [join_eq_pack _ (number_fin numbers), ← place_bits_count]
  exact pack_lt (number_lt hnumbers)

/-- Numbers that fit are read back from the word that they add up to. -/
theorem read_join : fields.read (UInt64.ofNat (fields.join numbers)) = numbers := by
  funext index
  apply UInt64.toNat_inj.mp
  have hread := pack_div_mod (number_lt hnumbers) 0 index.isLt
  rw [Nat.zero_mul, Nat.add_zero, ← join_eq_pack _ (number_fin numbers), number_fin] at hread
  rw [toNat_read, toNat_word (join_lt hnumbers), hread]

/-- Numbers that fit are read from exactly one word below the end of the last field. -/
theorem existsUnique_read :
    ∃! word : UInt64, word.toNat < 2 ^ fields.total ∧ fields.read word = numbers := by
  have hword := toNat_word (join_lt hnumbers)
  refine ⟨UInt64.ofNat (fields.join numbers), ⟨?_, read_join hnumbers⟩, ?_⟩
  · rw [hword]
    exact join_lt hnumbers
  · -- A word is the sum of its fields, so its numbers leave no choice.
    rintro word ⟨hbelow, rfl⟩
    apply UInt64.toNat_inj.mp
    rw [hword, join_read, Nat.mod_eq_of_lt hbelow]

end Fitting

end Partition

end Bits

namespace BusStatus

/-- The eight fields of a bus status, which fill the word. -/
def fields : Bits.Partition where
  widths := [2, 8, 8, 12, 10, 10, 10, 4]
  fits := by decide

def numbers (status : BusStatus) : Fin 8 → UInt64 :=
  ![status.state.toUInt64, status.txError.toUInt64, status.rxError.toUInt64,
    status.busErrorDelta.toUInt64, status.txFailDelta.toUInt64, status.rxOverrunDelta.toUInt64,
    status.rxMissedDelta.toUInt64, status.pendingRx.toUInt64]

/-- Different statuses have different numbers. -/
theorem numbers_injective : Function.Injective numbers := by
  intro status other hsame
  cases status
  cases other
  simpa only [numbers, Matrix.vecCons_inj, UInt8.toUInt64_inj, UInt32.toUInt64_inj, and_true,
    mk.injEq] using hsame

/-- A field of at most 32 bits is kept when it is cut to 32 bits. -/
theorem widen_field (data : UInt64) (offset : UInt32) {width : UInt32} (hwidth : width ≤ 32) :
    (Bits.field data offset width).toUInt32.toUInt64 = Bits.field data offset width := by
  have hlt : (Bits.field data offset width).toNat < 2 ^ 32 :=
    Bits.field_lt_of_width_le data offset (UInt32.le_iff_toNat_le.mp hwidth)
  apply UInt64.toNat_inj.mp
  rw [UInt32.toNat_toUInt64, UInt64.toNat_toUInt32, Nat.mod_eq_of_lt hlt]

/-- No number loses a bit on its way from the word into the status. -/
theorem numbers_ofData (data : UInt64) : (ofData data).numbers = fields.read data := by
  have hstate : (Bits.narrow8 (Bits.field data 0 2) 255).toUInt64 = Bits.field data 0 2 := by
    have hlt : (Bits.field data 0 2).toNat < 2 ^ 8 :=
      Bits.field_lt_of_width_le data 0 (by decide)
    rw [Bits.narrow8_of_lt hlt]
    apply UInt64.toNat_inj.mp
    rw [UInt8.toNat_toUInt64, UInt8.toNat_ofNat', Nat.mod_eq_of_lt hlt]
  have hnumbers : (ofData data).numbers =
      ![Bits.field data 0 2, Bits.field data 2 8, Bits.field data 10 8, Bits.field data 18 12,
        Bits.field data 30 10, Bits.field data 40 10, Bits.field data 50 10,
        Bits.field data 60 4] := by
    simp (disch := decide) only [numbers, ofData, widen_field, hstate]
  rw [hnumbers]
  funext index
  fin_cases index <;> rfl

/-- The words and the statuses whose numbers fit their fields correspond to each other. -/
theorem bijOn_ofData :
    Set.BijOn ofData Set.univ {status | fields.InRange status.numbers} := by
  have hword (data : UInt64) : data.toNat < 2 ^ fields.total := data.toNat_lt
  refine ⟨?_, ?_, ?_⟩
  · intro data _
    change fields.InRange (ofData data).numbers
    rw [numbers_ofData]
    exact fields.inRange_read data
  · intro data _ other _ hsame
    have hread : fields.read data = fields.read other := by
      rw [← numbers_ofData, ← numbers_ofData, hsame]
    exact (Bits.Partition.existsUnique_read (fields.inRange_read other)).unique
      ⟨hword data, hread⟩ ⟨hword other, rfl⟩
  · intro status hstatus
    obtain ⟨data, ⟨_, hread⟩, _⟩ := Bits.Partition.existsUnique_read hstatus
    refine ⟨data, Set.mem_univ data, numbers_injective ?_⟩
    rw [numbers_ofData, hread]

end BusStatus

namespace Bits

/-- A field is the quotient of the word by the bits below it, cut to its width, wherever it stands
and however wide it is. Fields one behind the other add up to the word below their end, and numbers
that fit them are read from exactly one such word. So the words and the bus statuses whose numbers
fit their fields correspond to each other, and the status holds each of its fields whole. -/
theorem fields_correspond_to_words :
    (∀ (word : UInt64) (offset width : UInt32),
      (field word offset width).toNat = word.toNat / 2 ^ offset.toNat % 2 ^ width.toNat) ∧
    (∀ fields : Partition,
      (∀ word, fields.join (fields.read word) = word.toNat % 2 ^ fields.total) ∧
      ∀ numbers, fields.InRange numbers →
        ∃! word : UInt64, word.toNat < 2 ^ fields.total ∧ fields.read word = numbers) ∧
    Set.BijOn BusStatus.ofData Set.univ {status | BusStatus.fields.InRange status.numbers} ∧
    ∀ data, (BusStatus.ofData data).numbers = BusStatus.fields.read data := by
  refine ⟨toNat_field, fun fields => ⟨fields.join_read, ?_⟩, BusStatus.bijOn_ofData,
    BusStatus.numbers_ofData⟩
  intro numbers hnumbers
  exact Partition.existsUnique_read hnumbers

/-- A field without bits, in the middle of the word or behind its last bit, reads as zero and takes
nothing from the others: the numbers 5, 0, 7 and 0 are those of the one word 61. -/
theorem fields_correspond_to_words_empty_fields :
    let fields : Partition := ⟨[3, 0, 61, 0], by decide⟩
    let numbers : Fin 4 → UInt64 := ![5, 0, 7, 0]
    fields.InRange numbers ∧ fields.join numbers = 61 ∧ fields.read 61 = numbers ∧
      ∃! word : UInt64, word.toNat < 2 ^ 64 ∧ fields.read word = numbers := by
  intro fields numbers
  have hnumbers : fields.InRange numbers := by decide
  exact ⟨hnumbers, by decide, by decide,
    (fields_correspond_to_words.2.1 fields).2 numbers hnumbers⟩

end Bits

end GroundStation
