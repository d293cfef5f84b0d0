import GroundStation.Proofs.Reading.Fields

/-!
What the check of a layout promises, in plain arithmetic. A layout passes its check exactly if it is
in order: its fields lie one above the other inside their word. No sum of widths leaves 32 bits then,
so the measures of a heartbeat layout are reached without a halt.
-/

namespace GroundStation

namespace Bits

/-- A word has no bit outside the low ones exactly if it is smaller than their power of two. -/
theorem and_not_low_eq_zero_iff {width bits : Nat} {word mask : BitVec width}
    (hmask : mask.toNat = 2 ^ min bits width - 1) :
    word &&& ~~~mask = 0 ↔ word.toNat < 2 ^ bits := by
  have hkept : word &&& ~~~mask = 0 ↔ word &&& mask = word := by
    constructor
    · intro hnone
      ext index hindex
      have hbit := congrArg (fun word => word.getLsbD index) hnone
      simp only [BitVec.getLsbD_and, BitVec.getLsbD_not, BitVec.ofNat_eq_ofNat, BitVec.getLsbD_zero,
        hindex] at hbit
      simp only [BitVec.getElem_and]
      grind
    · intro hall
      rw [← hall]
      ext index hindex
      simp
  have hbelow : word.toNat < 2 ^ min bits width ↔ word.toNat < 2 ^ bits := by
    rcases Nat.le_total bits width with hbits | hbits
    · rw [Nat.min_eq_left hbits]
    · rw [Nat.min_eq_right hbits]
      refine iff_of_true word.isLt (Nat.lt_of_lt_of_le word.isLt ?_)
      exact Nat.pow_le_pow_right (by decide) hbits
  rw [hkept, ← hbelow, ← BitVec.toNat_inj, BitVec.toNat_and, hmask, Nat.and_two_pow_sub_one_eq_mod]
  exact Nat.mod_eq_iff_lt (Nat.two_pow_pos _).ne'

theorem and_not_lowMask64_eq_zero_iff (word : UInt64) (bits : UInt32) :
    word &&& ~~~lowMask64 bits = 0 ↔ word.toNat < 2 ^ bits.toNat := by
  have hmask : (lowMask64 bits).toBitVec.toNat = 2 ^ min bits.toNat 64 - 1 := by
    unfold lowMask64
    split
    · rename_i hwide
      have hbits : 64 ≤ bits.toNat := UInt32.le_iff_toNat_le.mp hwide
      rw [Nat.min_eq_right hbits]
      rfl
    · rename_i hnarrow
      have hbits : bits.toNat < 64 := UInt32.lt_iff_toNat_lt.mp (UInt32.not_le.mp hnarrow)
      rw [Nat.min_eq_left (Nat.le_of_lt hbits)]
      exact toNat_low_bits (UInt32.not_le.mp hnarrow)
  rw [← UInt64.toBitVec_inj, UInt64.toBitVec_and, UInt64.toBitVec_not]
  exact and_not_low_eq_zero_iff hmask

theorem and_not_lowMask32_eq_zero_iff (word bits : UInt32) :
    word &&& ~~~lowMask32 bits = 0 ↔ word.toNat < 2 ^ bits.toNat := by
  have hmask : (lowMask32 bits).toBitVec.toNat = 2 ^ min bits.toNat 32 - 1 := by
    unfold lowMask32
    split
    · rename_i hwide
      have hbits : 32 ≤ bits.toNat := UInt32.le_iff_toNat_le.mp hwide
      rw [Nat.min_eq_right hbits]
      rfl
    · rename_i hnarrow
      have hbits : bits.toNat < 32 := UInt32.lt_iff_toNat_lt.mp (UInt32.not_le.mp hnarrow)
      have hpow : 2 ^ bits.toNat < 2 ^ 32 := Nat.pow_lt_pow_right (by decide) hbits
      have hshift : ((1 : UInt32) <<< bits).toNat = 2 ^ bits.toNat := by
        rw [UInt32.toNat_shiftLeft, Nat.mod_eq_of_lt hbits]
        simpa [Nat.shiftLeft_eq] using hpow
      have hone : (1 : UInt32) ≤ 1 <<< bits := by
        rw [UInt32.le_iff_toNat_le, hshift]
        exact Nat.two_pow_pos _
      rw [Nat.min_eq_left (Nat.le_of_lt hbits)]
      exact (UInt32.toNat_sub_of_le _ _ hone).trans (congrArg (· - 1) hshift)
  rw [← UInt32.toBitVec_inj, UInt32.toBitVec_and, UInt32.toBitVec_not]
  exact and_not_low_eq_zero_iff hmask

end Bits

namespace Layout

theorem toNat_monus (a b : UInt32) : (monus a b).toNat = a.toNat - b.toNat := by
  unfold monus
  split
  · rename_i hless
    have hnat := UInt32.lt_iff_toNat_lt.mp hless
    exact (Nat.sub_eq_zero_of_le (Nat.le_of_lt hnat)).symm
  · rename_i hmore
    exact UInt32.toNat_sub_of_le _ _ (UInt32.not_lt.mp hmore)

theorem toNat_add_of_lt {a b : UInt32} (hfits : a.toNat + b.toNat < 2 ^ 32) :
    (a + b).toNat = a.toNat + b.toNat := by
  rw [UInt32.toNat_add, Nat.mod_eq_of_lt hfits]

theorem rule_eq_ok_iff {broken : Prop} [Decidable broken] {problem : LayoutProblem} :
    rule broken problem = .ok () ↔ ¬ broken := by
  unfold rule
  split <;> simp [*]

/-- A check passes if its first rules hold and the rules after them do. -/
theorem seq_eq_ok_iff {first later : Except (Stop LayoutProblem) Unit} :
    (do first; later) = .ok () ↔ first = .ok () ∧ later = .ok () := by
  cases first with
  | error stop => exact iff_of_false nofun nofun
  | ok => exact (and_iff_right rfl).symm

/-- A check goes on behind a sum only if the sum has 32 bits. -/
theorem sum_bind_eq_ok_iff {a b : UInt32} {later : Nat → Except (Stop LayoutProblem) Unit} :
    (Addition.sum (Halt.sum UInt32.size) a b >>= later) = .ok () ↔
      a.toNat + b.toNat < 2 ^ 32 ∧ later (a.toNat + b.toNat) = .ok () := by
  by_cases hfits : a.toNat + b.toNat < 2 ^ 32
  · have hsum : Halt.sum UInt32.size a.toNat b.toNat = .ok (a.toNat + b.toNat) :=
      Halt.sum_of_lt hfits
    rw [Addition.sum, hsum]
    exact (and_iff_right hfits).symm
  · have hsum : Halt.sum UInt32.size a.toNat b.toNat = .error .sumOverflow :=
      Halt.sum_of_le (Nat.not_lt.mp hfits)
    rw [Addition.sum, hsum]
    exact iff_of_false nofun fun hlater => hfits hlater.1

theorem check_eq_ok_iff_parts {layout : Layout} :
    layout.check = .ok () ↔ layout.warning.check = .ok () ∧ layout.heartbeat.check = .ok () :=
  seq_eq_ok_iff

/-- The parts of a heartbeat word fit. -/
structure Heartbeat.InOrder (layout : Heartbeat) : Prop where
  typeBits_pos : 1 ≤ layout.typeBits.toNat
  typeBits_le : layout.typeBits.toNat ≤ 32
  timingType_lt : layout.timingType.toNat < 2 ^ layout.typeBits.toNat
  statusType_lt : layout.statusType.toNat < 2 ^ layout.typeBits.toNat
  types_ne : layout.timingType ≠ layout.statusType
  pageBits_le : layout.pageBits.toNat ≤ 32
  statusHeader_le : layout.typeBits.toNat + layout.pageBits.toNat ≤ 33
  timerBits_pos : 1 ≤ layout.timerBits.toNat
  timerBits_le : layout.timerBits.toNat ≤ 32
  nodeBits_pos : 1 ≤ layout.nodeBits.toNat
  nodeBits_le : layout.nodeBits.toNat ≤ 8
  timingHeader_le : layout.typeBits.toNat + layout.timerBits.toNat ≤ 64

/-- The parts of a warning word fit, and its two type masks share no bit. -/
structure Warning.InOrder (layout : Warning) : Prop where
  criticalBit_lt : layout.criticalBit.toNat < 2 ^ layout.typeBits.toNat
  nonCriticalBit_lt : layout.nonCriticalBit.toNat < 2 ^ layout.typeBits.toNat
  criticalBit_ne : layout.criticalBit ≠ 0
  nonCriticalBit_ne : layout.nonCriticalBit ≠ 0
  disjoint : layout.criticalBit &&& layout.nonCriticalBit = 0
  typeBits_le : layout.typeBits.toNat ≤ layout.nodeOffset.toNat
  nodeOffset_lt : layout.nodeOffset.toNat < layout.frameOffset.toNat
  frameOffset_le : layout.frameOffset.toNat ≤ layout.nodeOffset.toNat + 8
  frameEnd_le : layout.frameOffset.toNat + layout.frameBits.toNat ≤ layout.dataOffset.toNat
  dataBits_le : layout.dataBits.toNat ≤ 8
  dataEnd_le : layout.dataOffset.toNat + layout.dataBits.toNat ≤ 32

namespace Heartbeat

variable {layout : Heartbeat}

theorem toNat_statusHeaderBits (htype : layout.typeBits.toNat ≤ 32)
    (hpage : layout.pageBits.toNat ≤ 32) :
    layout.statusHeaderBits.toNat = layout.typeBits.toNat + layout.pageBits.toNat :=
  toNat_add_of_lt (by omega)

theorem toNat_nodeSlotsPerPage (htype : layout.typeBits.toNat ≤ 32)
    (hpage : layout.pageBits.toNat ≤ 32) :
    layout.nodeSlotsPerPage.toNat = 64 - (layout.typeBits.toNat + layout.pageBits.toNat) := by
  rw [nodeSlotsPerPage, toNat_monus, toNat_statusHeaderBits htype hpage]
  rfl

/-- The check passes exactly the heartbeat layouts in order. -/
theorem check_eq_ok_iff : layout.check = .ok () ↔ layout.InOrder := by
  simp only [check, checkWith, seq_eq_ok_iff, sum_bind_eq_ok_iff, rule_eq_ok_iff, not_or,
    ne_eq, Bits.and_not_lowMask64_eq_zero_iff, UInt32.lt_iff_toNat_lt, Nat.not_lt, Nat.not_le,
    minNodeSlots, UInt32.toNat_ofNat, Nat.reducePow, Nat.reduceMod]
  constructor
  · rintro ⟨⟨htypePos, htype⟩, ⟨htiming, hstatus, htypes⟩, hpage, -, hslots,
      ⟨htimerPos, htimer, hnodePos, hnode⟩, -, hheader⟩
    exact ⟨htypePos, htype, htiming, hstatus, htypes, hpage, by omega, htimerPos, htimer, hnodePos,
      hnode, hheader⟩
  · rintro ⟨htypePos, htype, htiming, hstatus, htypes, hpage, hslots, htimerPos, htimer, hnodePos,
      hnode, hheader⟩
    exact ⟨⟨htypePos, htype⟩, ⟨htiming, hstatus, htypes⟩, hpage, by omega, by omega,
      ⟨htimerPos, htimer, hnodePos, hnode⟩, by omega, hheader⟩

namespace InOrder

variable (order : layout.InOrder)

include order

/-- A status word consists of its header and the presence bits. -/
theorem header_add_slots : layout.statusHeaderBits.toNat + layout.nodeSlotsPerPage.toNat = 64 := by
  have hheader := order.statusHeader_le
  rw [toNat_statusHeaderBits order.typeBits_le order.pageBits_le,
    toNat_nodeSlotsPerPage order.typeBits_le order.pageBits_le]
  omega

theorem nodeSlotsPerPage_pos : 0 < layout.nodeSlotsPerPage.toNat := by
  have hheader := order.statusHeader_le
  rw [toNat_nodeSlotsPerPage order.typeBits_le order.pageBits_le]
  omega

end InOrder

end Heartbeat

namespace Warning

variable {layout : Warning}

theorem toNat_nodeBits (layout : Warning) :
    layout.nodeBits.toNat = layout.frameOffset.toNat - layout.nodeOffset.toNat :=
  toNat_monus _ _

/-- The check passes exactly the warning layouts in order. -/
theorem check_eq_ok_iff : layout.check = .ok () ↔ layout.InOrder := by
  simp only [check, checkWith, opening, closing, seq_eq_ok_iff, sum_bind_eq_ok_iff,
    rule_eq_ok_iff, not_or, ne_eq, not_not, Bits.and_not_lowMask32_eq_zero_iff,
    UInt32.lt_iff_toNat_lt, Nat.not_lt, Nat.not_le, toNat_nodeBits, UInt32.toNat_ofNat, Nat.reducePow,
    Nat.reduceMod]
  constructor
  · rintro ⟨⟨⟨hcritical, hnonCritical⟩, ⟨hsome, hsome', hdisjoint⟩, htype, hnodePos, hnode⟩, -,
      hframe, hdataBits, -, hdata⟩
    exact ⟨hcritical, hnonCritical, hsome, hsome', hdisjoint, htype, by omega, by omega, hframe,
      hdataBits, hdata⟩
  · rintro ⟨hcritical, hnonCritical, hsome, hsome', hdisjoint, htype, hnodePos, hnode, hframe,
      hdataBits, hdata⟩
    have hoffset := layout.dataOffset.toNat_lt
    exact ⟨⟨⟨hcritical, hnonCritical⟩, ⟨hsome, hsome', hdisjoint⟩, htype, by omega, by omega⟩,
      by omega, hframe, hdataBits, by omega, hdata⟩

end Warning

/-- The page number of a heartbeat report is the whole page field. -/
theorem toNat_page {layout : Layout} (hcheck : layout.check = .ok ()) (data : UInt64)
    (fallback : UInt32) :
    (Bits.narrow32 (Bits.field data layout.heartbeat.typeBits layout.heartbeat.pageBits)
        fallback).toNat =
      (Bits.field data layout.heartbeat.typeBits layout.heartbeat.pageBits).toNat := by
  have order := Heartbeat.check_eq_ok_iff.mp (check_eq_ok_iff_parts.mp hcheck).2
  exact Bits.toNat_narrow32_field data _ (UInt32.le_iff_toNat_le.mpr order.pageBits_le) _

end Layout

end GroundStation
