import GroundStation.Proofs.Vehicle.Geometry

/-!
The check of a layout beside the same rules with exact sums and with sums that wrap around. All three
agree on every heartbeat layout: its widths are bounded before they are added. Nothing bounds the
offsets and widths of a warning layout in the same way. When the end of its frame field or of its data
field reaches 2^32, the check halts where the exact rules report the overlap, and with sums that wrap
around the layout may even pass. These are the only layouts on which the verdicts differ, so the check
lets exactly the layouts in order pass.
-/

namespace GroundStation

namespace LayoutProblem

def ofHeartbeat : LayoutProblem → Bool
  | heartbeatTypeWidth _ | heartbeatTypeValues | heartbeatPageWidth _ | tooFewNodeSlots _
  | heartbeatFieldWidths | timingHeaderTooLong => true
  | _ => false

end LayoutProblem

namespace Layout

namespace Addition

def exact : Addition :=
  fun a b => .ok (a + b)

def wrapping : Addition :=
  fun a b => .ok ((a + b) % 2 ^ 32)

/-- The addition is right as long as the sum has 32 bits. -/
def Right (add : Addition) : Prop :=
  ∀ a b, a + b < 2 ^ 32 → add a b = .ok (a + b)

theorem right_exact : Right exact :=
  fun _ _ _ => rfl

theorem right_wrapping : Right wrapping :=
  fun _ _ hfits => congrArg Except.ok (Nat.mod_eq_of_lt hfits)

theorem right_halting : Right (Halt.sum UInt32.size) :=
  fun _ _ hfits => Halt.sum_of_lt hfits

theorem Right.sum_eq {add : Addition} (hright : Right add) {a b : UInt32}
    (hfits : a.toNat + b.toNat < 2 ^ 32) : add.sum a b = .ok (a.toNat + b.toNat) := by
  rw [sum, hright _ _ hfits]
  rfl

theorem sum_eq_halted {a b : UInt32} (hlarge : 2 ^ 32 ≤ a.toNat + b.toNat) :
    sum (Halt.sum UInt32.size) a b = .error (.halted .sumOverflow) := by
  have hsum : Halt.sum UInt32.size a.toNat b.toNat = .error .sumOverflow := Halt.sum_of_le hlarge
  rw [sum, hsum]
  rfl

end Addition

/-! ### How a check can stop -/

/-- The check stops only in ways that are allowed. -/
def StopsOnly {α : Type} (allowed : Stop LayoutProblem → Prop)
    (check : Except (Stop LayoutProblem) α) : Prop :=
  ∀ stop, check = .error stop → allowed stop

def reports (heartbeat : Bool) : Stop LayoutProblem → Prop
  | .refused problem => problem.ofHeartbeat = heartbeat
  | .halted _ => False

namespace StopsOnly

variable {allowed : Stop LayoutProblem → Prop} {α β : Type}

theorem ok (value : α) : StopsOnly allowed (.ok value) :=
  nofun

theorem rule {broken : Prop} [Decidable broken] {problem : LayoutProblem}
    (hproblem : allowed (.refused problem)) : StopsOnly allowed (rule broken problem) := by
  unfold Layout.rule
  split
  · rintro _ ⟨⟩
    exact hproblem
  · exact ok ()

theorem sum (hhalt : ∀ halt, allowed (.halted halt)) (add : Addition) (a b : UInt32) :
    StopsOnly allowed (add.sum a b) := by
  unfold Addition.sum
  cases add a.toNat b.toNat with
  | error halt =>
      rintro _ ⟨⟩
      exact hhalt halt
  | ok value => exact ok value

theorem bind {first : Except (Stop LayoutProblem) α} {later : α → Except (Stop LayoutProblem) β}
    (hfirst : StopsOnly allowed first) (hlater : ∀ value, StopsOnly allowed (later value)) :
    StopsOnly allowed (first >>= later) := by
  cases first with
  | error stop =>
      rintro _ ⟨⟩
      exact hfirst stop rfl
  | ok value => exact hlater value

end StopsOnly

section Sequence

variable {first other later : Except (Stop LayoutProblem) Unit}

/-- Two ways to go on behind the same rules give the same verdict unless the rules hold and the ways
differ. -/
theorem seq_eq_seq_iff {another : Except (Stop LayoutProblem) Unit} :
    (do first; later) = (do first; another) ↔ (first = .ok () → later = another) := by
  cases first with
  | error stop => exact iff_of_true rfl nofun
  | ok =>
      refine ⟨fun hsame _ => hsame, fun hsame => hsame rfl⟩

/-- Rules that only report problems are not what halts. -/
theorem seq_eq_halted_iff {word : Bool} (hfirst : StopsOnly (reports word) first) {halt : Halt} :
    (do first; later) = .error (.halted halt) ↔ first = .ok () ∧ later = .error (.halted halt) := by
  cases first with
  | error stop =>
      refine iff_of_false (fun hhalted => ?_) nofun
      cases hhalted
      exact hfirst _ rfl
  | ok => exact (and_iff_right rfl).symm

/-- What the later rules do not stop at comes from the first ones. -/
theorem seq_eq_error_iff (hlater : StopsOnly (reports true) later) {stop : Stop LayoutProblem}
    (hstop : ¬ reports true stop) : (do first; later) = .error stop ↔ first = .error stop := by
  cases first with
  | error other => exact Iff.rfl
  | ok => exact iff_of_false (fun herror => hstop (hlater stop herror)) nofun

theorem seq_right_inj (hfirst : StopsOnly (¬ reports true ·) first)
    (hother : StopsOnly (¬ reports true ·) other) (hlater : StopsOnly (reports true) later) :
    (do first; later) = (do other; later) ↔ first = other := by
  refine ⟨fun hsame => ?_, fun hsame => by rw [hsame]⟩
  cases first with
  | error stop => exact ((seq_eq_error_iff hlater (hfirst stop rfl)).mp hsame.symm).symm
  | ok =>
      cases other with
      | error stop => exact (seq_eq_error_iff hlater (hother stop rfl)).mp hsame
      | ok => rfl

theorem rule_seq_of_not {broken : Prop} [Decidable broken] {problem : LayoutProblem}
    (hholds : ¬ broken) : (do rule broken problem; later) = later := by
  rw [rule, if_neg hholds]
  rfl

/-- Behind a rule, two checks that agree when the rule holds are the same. -/
theorem rule_seq_congr {broken : Prop} [Decidable broken] {problem : LayoutProblem}
    (hlater : ¬ broken → first = other) :
    (do rule broken problem; first) = (do rule broken problem; other) := by
  rw [seq_eq_seq_iff, rule_eq_ok_iff]
  exact hlater

end Sequence

namespace Heartbeat

variable (layout : Heartbeat)

def exactCheck : Except (Stop LayoutProblem) Unit :=
  layout.checkWith .exact

/-- The widths are bounded before they are added, so any right addition gives the exact verdict. -/
theorem checkWith_eq_exactCheck {add : Addition} (hright : add.Right) :
    layout.checkWith add = layout.exactCheck := by
  unfold exactCheck checkWith
  refine rule_seq_congr fun htype => rule_seq_congr fun _ => rule_seq_congr fun hpage => ?_
  have htypeBits : layout.typeBits.toNat ≤ 32 :=
    UInt32.le_iff_toNat_le.mp (UInt32.not_lt.mp (not_or.mp htype).2)
  have hpageBits : layout.pageBits.toNat ≤ 32 := UInt32.le_iff_toNat_le.mp (UInt32.not_lt.mp hpage)
  rw [hright.sum_eq (by omega), Addition.right_exact.sum_eq (by omega)]
  refine rule_seq_congr fun _ => rule_seq_congr fun hfields => ?_
  have htimerBits : layout.timerBits.toNat ≤ 32 :=
    UInt32.le_iff_toNat_le.mp (UInt32.not_lt.mp (not_or.mp (not_or.mp hfields).2).1)
  rw [hright.sum_eq (by omega), Addition.right_exact.sum_eq (by omega)]

/-- With exact sums the check stops only at problems of its own word. -/
theorem stopsOnly_exactCheck : StopsOnly (reports true) layout.exactCheck := by
  unfold exactCheck checkWith
  refine .bind (.rule rfl) fun _ => .bind (.rule rfl) fun _ => .bind (.rule rfl) fun _ => ?_
  refine .bind (.ok _) fun _ => .bind (.rule rfl) fun _ => .bind (.rule rfl) fun _ => ?_
  exact .bind (.ok _) fun _ => .rule rfl

/-- No measure of a layout in order halts. -/
theorem InOrder.measures_eq {layout : Heartbeat} (order : layout.InOrder) :
    layout.statusHeaderBitsChecked = .ok layout.statusHeaderBits ∧
      layout.nodeSlotsPerPageChecked = .ok layout.nodeSlotsPerPage ∧
      layout.pairBitsChecked = .ok layout.pairBits ∧
      layout.timingPairsChecked = .ok layout.timingPairs := by
  have htype := order.typeBits_le
  have hpage := order.pageBits_le
  have hnode := order.nodeBits_le
  have htimer := order.timerBits_le
  have hsize : 64 < UInt32.size := by decide
  have hstatus : layout.statusHeaderBitsChecked = .ok layout.statusHeaderBits :=
    Halt.sum32_of_lt (by omega)
  have hpair : layout.pairBitsChecked = .ok layout.pairBits :=
    Halt.sum32_of_lt (by omega)
  refine ⟨hstatus, ?_, hpair, ?_⟩
  · rw [nodeSlotsPerPageChecked, hstatus]
    rfl
  · rw [timingPairsChecked, Halt.sum32_of_lt (by omega), hpair]
    rfl

end Heartbeat

namespace Warning

variable (layout : Warning)

def exactCheck : Except (Stop LayoutProblem) Unit :=
  layout.checkWith .exact

def frameEnd : Nat :=
  layout.frameOffset.toNat + layout.frameBits.toNat

def dataEnd : Nat :=
  layout.dataOffset.toNat + layout.dataBits.toNat

/-- The check gets to a sum that does not fit into 32 bits: the end of the frame field, or that of
the data field when the rules before it hold. -/
def Overflows : Prop :=
  2 ^ 32 ≤ layout.frameEnd ∨
    layout.frameEnd ≤ layout.dataOffset.toNat ∧ layout.dataBits.toNat ≤ 8 ∧
      2 ^ 32 ≤ layout.dataEnd

/-- The end of the frame field passes only because its sum comes out small, or the end of the data
field does. -/
def Wraps : Prop :=
  2 ^ 32 ≤ layout.frameEnd ∧ layout.frameEnd ≤ layout.dataOffset.toNat + 2 ^ 32 ∨
    layout.frameEnd ≤ layout.dataOffset.toNat ∧ layout.dataBits.toNat ≤ 8 ∧
      2 ^ 32 ≤ layout.dataEnd

theorem stopsOnly_opening {allowed : Stop LayoutProblem → Prop}
    (hallowed : ∀ problem : LayoutProblem, problem.ofHeartbeat = false → allowed (.refused problem)) :
    StopsOnly allowed layout.opening := by
  unfold opening
  refine .bind (.rule (hallowed _ rfl)) fun _ => .bind (.rule (hallowed _ rfl)) fun _ => ?_
  exact .bind (.rule (hallowed _ rfl)) fun _ => .rule (hallowed _ rfl)

theorem stopsOnly_checkWith (add : Addition) :
    StopsOnly (¬ reports true ·) (layout.checkWith add) := by
  have hallowed (problem : LayoutProblem) (hproblem : problem.ofHeartbeat = false) :
      ¬ reports true (.refused problem) := by
    intro hreports
    rw [reports, hproblem] at hreports
    cases hreports
  unfold checkWith closing
  refine .bind (layout.stopsOnly_opening hallowed) fun _ => .bind (.sum (fun _ => id) _ _ _)
    fun _ => .bind (.rule (hallowed _ rfl)) fun _ => ?_
  exact .bind (.rule (hallowed _ rfl)) fun _ => .bind (.sum (fun _ => id) _ _ _) fun _ =>
    .rule (hallowed _ rfl)

/-- The last rules, given what their sums come out as. -/
theorem closing_eq {add : Addition} {frameSum dataSum : Nat}
    (hframe : add layout.frameOffset.toNat layout.frameBits.toNat = .ok frameSum)
    (hdata : add layout.dataOffset.toNat layout.dataBits.toNat = .ok dataSum) :
    layout.closing add = (do
      rule (layout.dataOffset.toNat < frameSum) .frameOverlapsData
      rule (8 < layout.dataBits.toNat ∨ 32 < dataSum) .dataOutsideWord) := by
  unfold closing Addition.sum
  rw [hframe, hdata]
  refine rule_seq_congr fun _ => ?_
  unfold rule
  by_cases hwide : 8 < layout.dataBits.toNat
  · rw [if_pos hwide, if_pos (Or.inl hwide)]
    rfl
  · rw [if_neg hwide]
    exact if_congr (or_iff_right hwide).symm rfl rfl

theorem closing_exact :
    layout.closing .exact = (do
      rule (layout.dataOffset.toNat < layout.frameEnd) .frameOverlapsData
      rule (8 < layout.dataBits.toNat ∨ 32 < layout.dataEnd) .dataOutsideWord) :=
  layout.closing_eq rfl rfl

theorem closing_wrapping :
    layout.closing .wrapping = (do
      rule (layout.dataOffset.toNat < layout.frameEnd % 2 ^ 32) .frameOverlapsData
      rule (8 < layout.dataBits.toNat ∨ 32 < layout.dataEnd % 2 ^ 32) .dataOutsideWord) :=
  layout.closing_eq rfl rfl

/-- With sums that wrap around, the last rules miss a problem exactly if a sum wraps around to a
value that passes. -/
theorem closing_wrapping_eq_iff :
    layout.closing .wrapping = layout.closing .exact ↔ ¬ layout.Wraps := by
  have hoffset := layout.dataOffset.toNat_lt
  have hbits := layout.dataBits.toNat_lt
  have hframe : layout.frameEnd < 2 ^ 33 := by
    have hframeOffset := layout.frameOffset.toNat_lt
    have hframeBits := layout.frameBits.toNat_lt
    unfold frameEnd
    omega
  have hdata : layout.dataEnd = layout.dataOffset.toNat + layout.dataBits.toNat := rfl
  rw [closing_wrapping, closing_exact]
  unfold rule Wraps
  split_ifs <;> simp [bind, Except.bind] <;> omega

/-- The last rules halt if they get to a sum that does not fit. -/
theorem closing_of_overflows (hoverflows : layout.Overflows) :
    layout.closing (Halt.sum UInt32.size) = .error (.halted .sumOverflow) := by
  unfold closing
  rcases hoverflows with hframe | ⟨hframe, hbits, hdata⟩
  · rw [Addition.sum_eq_halted hframe]
    rfl
  · have hoffset := layout.dataOffset.toNat_lt
    rw [Addition.right_halting.sum_eq (Nat.lt_of_le_of_lt hframe hoffset),
      Addition.sum_eq_halted hdata]
    exact (rule_seq_of_not (Nat.not_lt.mpr hframe)).trans (rule_seq_of_not (Nat.not_lt.mpr hbits))

/-- Otherwise they are the exact rules. -/
theorem closing_of_not_overflows (hfits : ¬ layout.Overflows) :
    layout.closing (Halt.sum UInt32.size) = layout.closing .exact := by
  have hframe : layout.frameEnd < 2 ^ 32 := Nat.not_le.mp fun hlarge => hfits (.inl hlarge)
  unfold closing
  rw [Addition.right_halting.sum_eq hframe, Addition.right_exact.sum_eq hframe]
  refine rule_seq_congr fun hapart => rule_seq_congr fun hbits => ?_
  have hdata : layout.dataEnd < 2 ^ 32 := Nat.not_le.mp fun hlarge =>
    hfits (.inr ⟨Nat.not_lt.mp hapart, Nat.not_lt.mp hbits, hlarge⟩)
  rw [Addition.right_halting.sum_eq hdata, Addition.right_exact.sum_eq hdata]

theorem closing_exact_ne_halted (halt : Halt) : layout.closing .exact ≠ .error (.halted halt) := by
  rw [closing_exact]
  have hreports : StopsOnly (reports false) (do
      rule (layout.dataOffset.toNat < layout.frameEnd) .frameOverlapsData
      rule (8 < layout.dataBits.toNat ∨ 32 < layout.dataEnd) .dataOutsideWord) :=
    .bind (.rule rfl) fun _ => .rule rfl
  exact fun hhalted => hreports _ hhalted

/-- The last rules halt exactly if they get to a sum that does not fit. -/
theorem closing_eq_halted_iff :
    layout.closing (Halt.sum UInt32.size) = .error (.halted .sumOverflow) ↔ layout.Overflows := by
  refine ⟨fun hhalted => ?_, layout.closing_of_overflows⟩
  by_contra hfits
  rw [layout.closing_of_not_overflows hfits] at hhalted
  exact layout.closing_exact_ne_halted _ hhalted

/-- In all other cases they are the exact rules. -/
theorem closing_eq_exact_iff :
    layout.closing (Halt.sum UInt32.size) = layout.closing .exact ↔ ¬ layout.Overflows := by
  refine ⟨fun hexact hoverflows => ?_, layout.closing_of_not_overflows⟩
  rw [layout.closing_of_overflows hoverflows] at hexact
  exact layout.closing_exact_ne_halted _ hexact.symm

/-- The check differs from the exact one where its last rules do and the rules before them hold. -/
theorem checkWith_eq_iff {add : Addition} {differs : Prop}
    (hclosing : layout.closing add = layout.closing .exact ↔ ¬ differs) :
    layout.checkWith add = layout.exactCheck ↔ ¬ (layout.opening = .ok () ∧ differs) := by
  rw [exactCheck, checkWith, checkWith, seq_eq_seq_iff, hclosing, not_and]

theorem check_eq_halted_iff :
    layout.check = .error (.halted .sumOverflow) ↔ layout.opening = .ok () ∧ layout.Overflows := by
  have hopening : StopsOnly (reports false) layout.opening :=
    layout.stopsOnly_opening fun _ hproblem => hproblem
  rw [check, checkWith, seq_eq_halted_iff hopening, closing_eq_halted_iff]

/-- A layout whose sums do not fit passes in neither way. -/
theorem closing_eq_ok_iff :
    layout.closing (Halt.sum UInt32.size) = .ok () ↔ layout.closing .exact = .ok () := by
  by_cases hoverflows : layout.Overflows
  · rw [layout.closing_of_overflows hoverflows, closing_exact, seq_eq_ok_iff, rule_eq_ok_iff,
      rule_eq_ok_iff]
    refine iff_of_false nofun ?_
    rintro ⟨hframe, hdata⟩
    have hoffset := layout.dataOffset.toNat_lt
    unfold Overflows at hoverflows
    omega
  · rw [layout.closing_of_not_overflows hoverflows]

/-- With exact sums, exactly the warning layouts in order pass. -/
theorem exactCheck_eq_ok_iff : layout.exactCheck = .ok () ↔ layout.InOrder := by
  rw [← check_eq_ok_iff, exactCheck, check, checkWith, checkWith, seq_eq_ok_iff, seq_eq_ok_iff,
    closing_eq_ok_iff]

end Warning

/-- The check of both words with exact sums. -/
def exactCheck (layout : Layout) : Except (Stop LayoutProblem) Unit :=
  layout.checkWith .exact

section Verdict

variable (layout : Layout)

/-- Exactly the layouts in order pass. -/
theorem check_eq_ok_iff :
    layout.check = .ok () ↔ layout.warning.InOrder ∧ layout.heartbeat.InOrder := by
  rw [check_eq_ok_iff_parts, Warning.check_eq_ok_iff, Heartbeat.check_eq_ok_iff]

theorem exactCheck_eq_ok_iff :
    layout.exactCheck = .ok () ↔ layout.warning.InOrder ∧ layout.heartbeat.InOrder := by
  rw [← Warning.exactCheck_eq_ok_iff, ← Heartbeat.check_eq_ok_iff, Heartbeat.check,
    Heartbeat.checkWith_eq_exactCheck _ Addition.right_halting]
  exact seq_eq_ok_iff

/-- However sums are added, only the warning word can make a difference. -/
theorem checkWith_eq_exactCheck_iff {add : Addition} (hright : add.Right) :
    layout.checkWith add = layout.exactCheck ↔
      layout.warning.checkWith add = layout.warning.exactCheck := by
  rw [checkWith, exactCheck, checkWith, layout.heartbeat.checkWith_eq_exactCheck hright]
  exact seq_right_inj (layout.warning.stopsOnly_checkWith _) (layout.warning.stopsOnly_checkWith _)
    layout.heartbeat.stopsOnly_exactCheck

theorem check_eq_halted_iff :
    layout.check = .error (.halted .sumOverflow) ↔
      layout.warning.opening = .ok () ∧ layout.warning.Overflows := by
  rw [← Warning.check_eq_halted_iff, check, checkWith,
    layout.heartbeat.checkWith_eq_exactCheck Addition.right_halting]
  exact seq_eq_error_iff layout.heartbeat.stopsOnly_exactCheck id

/-- The check halts exactly if the rules before the sums hold and it gets to a sum that does not fit
into 32 bits; in all other cases it gives the verdict of the same rules with exact sums. Both let
exactly the layouts in order pass. With sums that wrap around, the verdict is another one exactly if
the rules before them hold and a sum wraps around to a value that passes. The heartbeat word has no
part in this: the three checks of it agree, and no measure of a layout that passed halts. -/
theorem check_is_exact_unless_overflow :
    (layout.check = .error (.halted .sumOverflow) ↔
        layout.warning.opening = .ok () ∧ layout.warning.Overflows) ∧
      (layout.check = layout.exactCheck ↔
        ¬ (layout.warning.opening = .ok () ∧ layout.warning.Overflows)) ∧
      (layout.check = .ok () ↔ layout.warning.InOrder ∧ layout.heartbeat.InOrder) ∧
      (layout.exactCheck = .ok () ↔ layout.warning.InOrder ∧ layout.heartbeat.InOrder) ∧
      (layout.checkWith .wrapping = layout.exactCheck ↔
        ¬ (layout.warning.opening = .ok () ∧ layout.warning.Wraps)) ∧
      layout.heartbeat.check = layout.heartbeat.exactCheck ∧
      layout.heartbeat.checkWith .wrapping = layout.heartbeat.exactCheck ∧
      (layout.check = .ok () →
        layout.heartbeat.statusHeaderBitsChecked = .ok layout.heartbeat.statusHeaderBits ∧
          layout.heartbeat.nodeSlotsPerPageChecked = .ok layout.heartbeat.nodeSlotsPerPage ∧
          layout.heartbeat.pairBitsChecked = .ok layout.heartbeat.pairBits ∧
          layout.heartbeat.timingPairsChecked = .ok layout.heartbeat.timingPairs) := by
  refine ⟨layout.check_eq_halted_iff, ?_, layout.check_eq_ok_iff, layout.exactCheck_eq_ok_iff, ?_,
    layout.heartbeat.checkWith_eq_exactCheck Addition.right_halting,
    layout.heartbeat.checkWith_eq_exactCheck Addition.right_wrapping, ?_⟩
  · rw [check, layout.checkWith_eq_exactCheck_iff Addition.right_halting]
    exact layout.warning.checkWith_eq_iff layout.warning.closing_eq_exact_iff
  · rw [layout.checkWith_eq_exactCheck_iff Addition.right_wrapping]
    exact layout.warning.checkWith_eq_iff layout.warning.closing_wrapping_eq_iff
  · intro hcheck
    exact (layout.check_eq_ok_iff.mp hcheck).2.measures_eq

end Verdict

/-- The default layout passes, and its measures are reached. -/
theorem check_is_exact_unless_overflow_default :
    let layout : Layout := {}
    layout.check = .ok () ∧ layout.heartbeat.nodeSlotsPerPageChecked = .ok 59 ∧
      layout.heartbeat.timingPairsChecked = .ok 3 := by
  intro layout
  have hcheck : layout.check = .ok () := check_default
  obtain ⟨-, -, -, -, -, -, -, hmeasures⟩ := layout.check_is_exact_unless_overflow
  obtain ⟨-, hslots, -, hpairs⟩ := hmeasures hcheck
  exact ⟨hcheck, hslots.trans (by decide), hpairs.trans (by decide)⟩

/-- A frame field that covers the data field halts the check, and so does a data field far outside
the word, where exact sums show the problem. With sums that wrap around both would pass. -/
theorem overflowing_layouts_halt :
    let wide : Layout := { warning := { frameBits := 0xFFFFFFED } }
    let far : Layout := { warning := { dataOffset := 0xFFFFFFFB } }
    wide.check = .error (.halted .sumOverflow) ∧
      wide.exactCheck = .error (.refused .frameOverlapsData) ∧
      wide.checkWith .wrapping = .ok () ∧ far.check = .error (.halted .sumOverflow) ∧
      far.exactCheck = .error (.refused .dataOutsideWord) ∧ far.checkWith .wrapping = .ok () := by
  decide

end Layout

end GroundStation
