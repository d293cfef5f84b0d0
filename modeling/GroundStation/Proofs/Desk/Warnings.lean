import GroundStation.Proofs.Desk.Postings
import GroundStation.Proofs.Vehicle.Geometry

/-!
Warnings from their parts. The parts of a warning word are the flags from the lowest bit up, the
node, the frame and the data index; only between the frame and the data index there may be bits that
belong to no part. A layout that is in order keeps the parts apart and below bit 32, so each is read
back whatever the bits between and above them are, and none is too large for the type that holds it.
-/

namespace GroundStation

namespace Bits

/-- A field below bit 32 can be read from the low half of the word. -/
theorem toNat_field_low_half (data : UInt64) {offset width : UInt32}
    (hend : offset.toNat + width.toNat ≤ 32) :
    (field (field data 0 32) offset width).toNat =
      data.toNat / 2 ^ offset.toNat % 2 ^ width.toNat := by
  have hhalf : (field data 0 32).toNat =
      data.toNat % (2 ^ offset.toNat * 2 ^ (32 - offset.toNat)) := by
    rw [← Nat.pow_add, Nat.add_sub_cancel' (by omega), toNat_field]
    exact congrArg (· % 2 ^ 32) (Nat.div_one _)
  have hdvd : 2 ^ width.toNat ∣ 2 ^ (32 - offset.toNat) := Nat.pow_dvd_pow 2 (by omega)
  rw [toNat_field, hhalf, Nat.mod_mul_right_div_self, Nat.mod_mod_of_dvd _ hdvd]

/-- A mask of low bits meets a number where it meets the number's low bits. -/
theorem mod_two_pow_and {mask bits : Nat} (hmask : mask < 2 ^ bits) (number : Nat) :
    number % 2 ^ bits &&& mask = number &&& mask := by
  rw [← Nat.and_two_pow_sub_one_eq_mod, Nat.and_assoc, Nat.and_comm (2 ^ bits - 1),
    Nat.and_two_pow_sub_one_eq_mod, Nat.mod_eq_of_lt hmask]

end Bits

namespace Layout.Warning

/-- The parts of a warning word, as the layout has room for them; `gap` stands for the bits between
the frame and the data index. -/
structure Parts (layout : Warning) where
  flags : Nat
  node : Nat
  frame : Nat
  gap : Nat
  index : Nat
  flags_lt : flags < 2 ^ layout.nodeOffset.toNat
  node_lt : node < 2 ^ layout.nodeBits.toNat
  frame_lt : frame < 2 ^ layout.frameBits.toNat
  gap_lt : gap < 2 ^ (layout.dataOffset.toNat - (layout.frameOffset.toNat + layout.frameBits.toNat))
  index_lt : index < 2 ^ layout.dataBits.toNat

/-- The number that holds the parts at their places, with `high` above the data index. -/
def Parts.word {layout : Warning} (parts : layout.Parts) (high : Nat) : Nat :=
  parts.flags + parts.node * 2 ^ layout.nodeOffset.toNat +
    parts.frame * 2 ^ layout.frameOffset.toNat +
    parts.gap * 2 ^ (layout.frameOffset.toNat + layout.frameBits.toNat) +
    parts.index * 2 ^ layout.dataOffset.toNat +
    high * 2 ^ (layout.dataOffset.toNat + layout.dataBits.toNat)

/-- The widths of the parts, from the lowest bit up. -/
def width (layout : Warning) : Nat → Nat
  | 0 => layout.nodeOffset.toNat
  | 1 => layout.nodeBits.toNat
  | 2 => layout.frameBits.toNat
  | 3 => layout.dataOffset.toNat - (layout.frameOffset.toNat + layout.frameBits.toNat)
  | _ => layout.dataBits.toNat

/-- The lowest bits of the parts, and at last the bit above them. -/
def start (layout : Warning) : Nat → Nat
  | 0 => 0
  | 1 => layout.nodeOffset.toNat
  | 2 => layout.frameOffset.toNat
  | 3 => layout.frameOffset.toNat + layout.frameBits.toNat
  | 4 => layout.dataOffset.toNat
  | _ => layout.dataOffset.toNat + layout.dataBits.toNat

def Parts.number {layout : Warning} (parts : layout.Parts) : Nat → Nat
  | 0 => parts.flags
  | 1 => parts.node
  | 2 => parts.frame
  | 3 => parts.gap
  | _ => parts.index

def Parts.critical {layout : Warning} (parts : layout.Parts) : Bool :=
  parts.flags &&& layout.criticalBit.toNat ≠ 0

def Parts.nonCritical {layout : Warning} (parts : layout.Parts) : Bool :=
  parts.flags &&& layout.nonCriticalBit.toNat ≠ 0

variable {layout : Warning}

theorem Parts.number_lt (parts : layout.Parts) (index : Nat) :
    parts.number index < 2 ^ layout.width index :=
  match index with
  | 0 => parts.flags_lt
  | 1 => parts.node_lt
  | 2 => parts.frame_lt
  | 3 => parts.gap_lt
  | _ + 4 => parts.index_lt

/-- The parts of a layout in order stand one behind the other. Each ends where the next one starts;
only the gap gets its width from this. -/
theorem place_width (order : layout.InOrder) :
    ∀ index ≤ 5, Bits.place layout.width index = layout.start index := by
  have hnode := order.nodeOffset_lt
  have hwidth := layout.toNat_nodeBits
  intro index
  induction index with
  | zero => exact fun _ => Finset.sum_range_zero _
  | succ index ih =>
      intro hindex
      rw [Bits.place_succ, ih (by omega)]
      match index, hindex with
      | 0, _ => exact Nat.zero_add _
      | 1, _ =>
          change layout.nodeOffset.toNat + layout.nodeBits.toNat = layout.frameOffset.toNat
          omega
      | 2, _ => rfl
      | 3, _ => exact Nat.add_sub_cancel' order.frameEnd_le
      | 4, _ => rfl

/-- In a layout in order, the word of the parts is the packing of their numbers. -/
theorem Parts.word_eq_pack (order : layout.InOrder) (parts : layout.Parts) (high : Nat) :
    parts.word high =
      Bits.pack layout.width parts.number 5 + high * 2 ^ Bits.place layout.width 5 := by
  have hplace := place_width order
  have hnone : Bits.pack layout.width parts.number 0 = 0 := Finset.sum_range_zero _
  simp only [Bits.pack_succ, hnone, hplace 0 (by decide), hplace 1 (by decide),
    hplace 2 (by decide), hplace 3 (by decide), hplace 4 (by decide), hplace 5 (by decide), start,
    number, Nat.pow_zero, Nat.mul_one, Nat.zero_add]
  rfl

/-- Each part can be read off the word at its place. -/
theorem Parts.word_div_mod (order : layout.InOrder) (parts : layout.Parts) (high : Nat)
    {index : Nat} (hindex : index < 5) :
    parts.word high / 2 ^ layout.start index % 2 ^ layout.width index = parts.number index := by
  rw [parts.word_eq_pack order, ← place_width order index (Nat.le_of_lt hindex)]
  exact Bits.pack_div_mod (fun index _ => parts.number_lt index) high hindex

end Layout.Warning

namespace Reading

theorem message_of_warning {profile : Profile} {sent : Message}
    (hwarning : sent.address.function? = some .warningCode) :
    message profile sent = warning profile sent.data := by
  simp only [message, hwarning]

def Warning.ofParts {layout : Layout.Warning} (parts : layout.Parts) : Warning where
  critical := parts.critical
  nonCritical := parts.nonCritical
  flags := UInt32.ofNat parts.flags
  node := UInt8.ofNat parts.node
  frame := UInt32.ofNat parts.frame
  index := UInt8.ofNat parts.index

section Parts

variable {layout : Layout.Warning} (order : layout.InOrder) {parts : layout.Parts} {high : Nat}
  {data : UInt64} (hword : data.toNat = parts.word high)

include order hword

/-- The part of the given number, read from the low half of the word. -/
theorem toNat_part {index : Nat} (hindex : index < 5) {offset width : UInt32}
    (hoffset : offset.toNat = layout.start index) (hwidth : width.toNat = layout.width index)
    (hend : offset.toNat + width.toNat ≤ 32) :
    (Bits.field (Bits.field data 0 32) offset width).toNat = parts.number index := by
  rw [Bits.toNat_field_low_half data hend, hoffset, hwidth, hword,
    parts.word_div_mod order high hindex]

theorem toNat_narrow32_part {index : Nat} (hindex : index < 5) {offset width : UInt32}
    (hoffset : offset.toNat = layout.start index) (hwidth : width.toNat = layout.width index)
    (hend : offset.toNat + width.toNat ≤ 32) (fallback : UInt32) :
    (Bits.narrow32 (Bits.field (Bits.field data 0 32) offset width) fallback).toNat =
      parts.number index := by
  have hfits : width ≤ 32 := UInt32.le_iff_toNat_le.mpr (Nat.le_trans (Nat.le_add_left _ _) hend)
  rw [Bits.toNat_narrow32_field _ _ hfits]
  exact toNat_part order hword hindex hoffset hwidth hend

theorem toNat_narrow8_part {index : Nat} (hindex : index < 5) {offset width : UInt32}
    (hoffset : offset.toNat = layout.start index) (hwidth : width.toNat = layout.width index)
    (hend : offset.toNat + width.toNat ≤ 32) (hbyte : width.toNat ≤ 8) (fallback : UInt32)
    (fallbackByte : UInt8) :
    (Bits.narrow8 (Bits.narrow32 (Bits.field (Bits.field data 0 32) offset width)
      fallback).toUInt64 fallbackByte).toNat = parts.number index := by
  have hpart := toNat_narrow32_part order hword hindex hoffset hwidth hend fallback
  have hlt : parts.number index < 2 ^ 8 :=
    Nat.lt_of_lt_of_le (parts.number_lt index)
      (Nat.pow_le_pow_right (by decide) (hwidth ▸ hbyte))
  rw [Bits.narrow8_of_lt, UInt32.toNat_toUInt64, hpart, UInt8.toNat_ofNat_of_lt' hlt]
  rwa [UInt32.toNat_toUInt64, hpart]

/-- Every part is read as it was packed, whatever would stand in for a part that is too large. -/
theorem toNat_parts (fallback : UInt32) (fallbackByte : UInt8) :
    let part (offset width : UInt32) : UInt32 :=
      Bits.narrow32 (Bits.field (Bits.field data 0 32) offset width) fallback
    (part 0 layout.nodeOffset).toNat = parts.flags ∧
      (Bits.narrow8 (part layout.nodeOffset layout.nodeBits).toUInt64 fallbackByte).toNat =
        parts.node ∧
      (part layout.frameOffset layout.frameBits).toNat = parts.frame ∧
      (Bits.narrow8 (part layout.dataOffset layout.dataBits).toUInt64 fallbackByte).toNat =
        parts.index := by
  intro part
  have hnodeWidth := layout.toNat_nodeBits
  have hnode := order.nodeOffset_lt
  have hframe := order.frameOffset_le
  have hframeEnd := order.frameEnd_le
  have hdataEnd := order.dataEnd_le
  refine ⟨?_, ?_, ?_, ?_⟩
  · apply toNat_narrow32_part order hword (show 0 < 5 by decide) rfl rfl
    change 0 + layout.nodeOffset.toNat ≤ 32
    omega
  · apply toNat_narrow8_part order hword (show 1 < 5 by decide) rfl rfl <;> omega
  · apply toNat_narrow32_part order hword (show 2 < 5 by decide) rfl rfl
    omega
  · apply toNat_narrow8_part order hword (show 4 < 5 by decide) rfl rfl hdataEnd
    exact order.dataBits_le

/-- The type field meets a type mask where the flags do. -/
theorem toNat_kind_and {mask : UInt32} (hmask : mask.toNat < 2 ^ layout.typeBits.toNat) :
    (Bits.field (Bits.field data 0 32) 0 layout.typeBits &&& mask.toUInt64).toNat =
      parts.flags &&& mask.toNat := by
  have htype := order.typeBits_le
  have hnode := order.nodeOffset_lt
  have hframe := order.frameEnd_le
  have hdata := order.dataEnd_le
  have hend : (0 : UInt32).toNat + layout.typeBits.toNat ≤ 32 := by
    change 0 + layout.typeBits.toNat ≤ 32
    omega
  have hflags : parts.word high / 2 ^ 0 % 2 ^ layout.nodeOffset.toNat = parts.flags :=
    parts.word_div_mod order high (show 0 < 5 by decide)
  have hdvd : 2 ^ layout.typeBits.toNat ∣ 2 ^ layout.nodeOffset.toNat := Nat.pow_dvd_pow 2 htype
  rw [UInt64.toNat_and, UInt32.toNat_toUInt64, Bits.toNat_field_low_half data hend, hword,
    ← Nat.mod_mod_of_dvd _ hdvd]
  exact (congrArg (· % 2 ^ layout.typeBits.toNat &&& mask.toNat) hflags).trans
    (Bits.mod_two_pow_and hmask _)

theorem kind_and_ne_zero {mask : UInt32} (hmask : mask.toNat < 2 ^ layout.typeBits.toNat) :
    Bits.field (Bits.field data 0 32) 0 layout.typeBits &&& mask.toUInt64 ≠ 0 ↔
      parts.flags &&& mask.toNat ≠ 0 := by
  rw [ne_eq, ← UInt64.toNat_inj, toNat_kind_and order hword hmask]
  rfl

/-- A word of parts is read as the parts. -/
theorem ofData_of_word : Warning.ofData layout data = .ofParts parts := by
  obtain ⟨hflags, _⟩ := toNat_parts order hword 0xFFFFFFFF 0
  obtain ⟨_, hnode, hframe, hindex⟩ := toNat_parts order hword 0 0
  unfold Warning.ofData Warning.ofParts Layout.Warning.Parts.critical
    Layout.Warning.Parts.nonCritical
  simp only [kind_and_ne_zero order hword order.criticalBit_lt,
    kind_and_ne_zero order hword order.nonCriticalBit_lt, ← hflags, ← hnode, ← hframe, ← hindex,
    UInt32.ofNat_toNat, UInt8.ofNat_toNat]

end Parts

def warningText (profile : Profile) (parts : profile.layout.warning.Parts) : String :=
  let node := UInt8.ofNat parts.node
  let name := (profile.registry.nodeName? node).getD s!"Unrecognized nodeID: {parts.node}"
  let key : DataKey := ⟨node, UInt32.ofNat parts.frame, UInt8.ofNat parts.index⟩
  let point := (profile.registry.point? key).elim "unknown dataName" PointInfo.name
  let kind :=
    if parts.critical then "CRITICAL" else if parts.nonCritical then "WARNING" else "NONE"
  let flags := profile.codebook.warningFlags.describe (UInt32.ofNat parts.flags)
  s!"warning for node: {name} (id={parts.node}). type={kind}. flags={flags}. " ++
    s!"Other fields: frame={parts.frame}, data={point}"

def noTypeText : String :=
  "Warning msg with no critical/non-critical type bit set."

def bothTypesText : String :=
  "Warning msg with BOTH critical and non-critical bits set."

/-- What a warning with the given parts asks for before its notice. -/
def typeComplaint {layout : Layout.Warning} (parts : layout.Parts) : List Action :=
  if !parts.critical && !parts.nonCritical then [.fault noTypeText]
  else if parts.critical && parts.nonCritical then [.post .telemetry .critical bothTypesText]
  else []

theorem typeNotice_ofParts {layout : Layout.Warning} (parts : layout.Parts) :
    (Warning.ofParts parts).typeNotice = typeComplaint parts := by
  unfold Warning.typeNotice Warning.ofParts typeComplaint
  cases parts.critical <;> cases parts.nonCritical <;> rfl

theorem notice?_of_mem_typeComplaint {layout : Layout.Warning} {parts : layout.Parts}
    {action : Action} (hmem : action ∈ typeComplaint parts) : action.notice? ≠ none := by
  unfold typeComplaint at hmem
  split at hmem
  · cases List.mem_singleton.mp hmem
    exact Option.some_ne_none _
  · split at hmem
    · cases List.mem_singleton.mp hmem
      exact Option.some_ne_none _
    · cases hmem

/-- A word of parts asks for a complaint unless it has one type, and for one notice on the vitals. -/
theorem warning_of_word {profile : Profile} (order : profile.layout.warning.InOrder)
    {parts : profile.layout.warning.Parts} {high : Nat} {data : UInt64}
    (hword : data.toNat = parts.word high) :
    warning profile data =
      typeComplaint parts ++
        [.post .vitals (if parts.critical then .critical else .warning)
          (warningText profile parts)] := by
  obtain ⟨_, hnode, hframe, _⟩ := toNat_parts order hword 0 0
  have hnodeText : toString (UInt8.ofNat parts.node) = toString parts.node := by
    rw [← hnode, UInt8.ofNat_toNat]
    rfl
  have hframeText : toString (UInt32.ofNat parts.frame) = toString parts.frame := by
    rw [← hframe, UInt32.ofNat_toNat]
    rfl
  have htext : (Warning.ofParts parts).text profile = warningText profile parts := by
    unfold Warning.text Warning.typeLabel Warning.ofParts warningText
    simp only [hnodeText, hframeText]
  unfold warning Warning.actions
  rw [ofData_of_word order hword, typeNotice_ofParts, htext]
  rfl

end Reading

namespace Desk

theorem sum_faults_typeComplaint (takes : DataKey → Bool) {layout : Layout.Warning}
    (parts : layout.Parts) :
    ((Reading.typeComplaint parts).map (Desk.faults takes)).sum =
      if !parts.critical && !parts.nonCritical then 1 else 0 := by
  unfold Reading.typeComplaint
  cases parts.critical <;> cases parts.nonCritical <;> rfl

/-- A warning word that packs its parts at their places, with anything between the frame and the
data index and above the data index. The desk gets one notice about the warning: it names the node,
the frame, the data point and the flags as they were packed, and it is critical exactly if the flags
meet the critical mask. Before it comes a fault if the flags meet neither mask, and a critical
notice if they meet both. No part is too large for the type that holds it. -/
theorem packed_warning_reads_back {desk : Desk} {sent : Message} {high : Nat}
    {parts : desk.profile.layout.warning.Parts}
    (hcheck : desk.profile.layout.warning.check = .ok ())
    (hwarning : sent.address.function? = some .warningCode)
    (hword : sent.data.toNat = parts.word high) :
    let layout := desk.profile.layout.warning
    let severity : Severity := if parts.critical then .critical else .warning
    let text := Reading.warningText desk.profile parts
    let complaint := Reading.typeComplaint parts
    let neither := !parts.critical && !parts.nonCritical
    Reading.message desk.profile sent = complaint ++ [.post .vitals severity text] ∧
      Posted desk
        (complaint.filterMap Action.notice? ++ [{ channel := .vitals, severity, text }])
        (if neither then 1 else 0) (desk.decode sent) ∧
      ∀ (fallback : UInt32) (fallbackByte : UInt8),
        let part (offset width : UInt32) : UInt32 :=
          Bits.narrow32 (Bits.field (Bits.field sent.data 0 32) offset width) fallback
        (part 0 layout.nodeOffset).toNat = parts.flags ∧
          (Bits.narrow8 (part layout.nodeOffset layout.nodeBits).toUInt64 fallbackByte).toNat =
            parts.node ∧
          (part layout.frameOffset layout.frameBits).toNat = parts.frame ∧
          (Bits.narrow8 (part layout.dataOffset layout.dataBits).toUInt64 fallbackByte).toNat =
            parts.index := by
  intro layout severity text complaint neither
  have order : layout.InOrder := Layout.Warning.check_eq_ok_iff.mp hcheck
  have hread : Reading.message desk.profile sent = complaint ++ [.post .vitals severity text] :=
    (Reading.message_of_warning hwarning).trans (Reading.warning_of_word order hword)
  refine ⟨hread, ?_, Reading.toNat_parts order hword⟩
  have hposts : ∀ action ∈ Reading.message desk.profile sent, action.notice? ≠ none := by
    intro action hmem
    rw [hread, List.mem_append] at hmem
    rcases hmem with hcomplaint | hnotice
    · exact Reading.notice?_of_mem_typeComplaint hcomplaint
    · cases List.mem_singleton.mp hnotice
      exact Option.some_ne_none _
  have posted := Posted.decode hposts
  rw [hread, List.filterMap_append, List.map_append, List.sum_append, sum_faults_typeComplaint]
    at posted
  exact posted

/-- Both masks have two bits, two bits stand between the frame and the data index, and these and the
bits above the data index are set. The flags meet both masks. -/
theorem packed_warning_reads_back_both_masks :
    let layout : Layout.Warning :=
      { typeBits := 4, criticalBit := 5, nonCriticalBit := 10, nodeOffset := 6, frameOffset := 10,
        frameBits := 3, dataOffset := 15, dataBits := 4 }
    let point : PointInfo :=
      { name := "speed", bitLength := 8, min := 0, max := 0, minWarning := 0, maxWarning := 0,
        minCritical := 0, maxCritical := 0 }
    let registry := Registry.ofEntries [.node 9 "motor", .point ⟨9, 5, 11⟩ point]
    let desk : Desk := { profile := { registry, layout := { warning := layout } } }
    let parts : layout.Parts :=
      ⟨0x2C, 9, 5, 3, 11, by decide, by decide, by decide, by decide, by decide⟩
    let sent : Message := ⟨0x102, 0xFFFFFFFFFFFDF66C⟩
    layout.check = .ok () ∧
      sent.data.toNat = parts.word (2 ^ 45 - 1) ∧
      Posted desk
        [{ channel := .telemetry
           severity := .critical
           text := "Warning msg with BOTH critical and non-critical bits set." },
          { channel := .vitals
            severity := .critical
            text := "warning for node: motor (id=9). type=CRITICAL. " ++
              "flags=latched, valueAboveMax, frameMissing. Other fields: frame=5, data=speed" }]
        0 (desk.decode sent) := by
  intro layout point registry desk parts sent
  have hcheck : layout.check = .ok () := by decide
  have hword : sent.data.toNat = parts.word (2 ^ 45 - 1) := by decide +kernel
  have hread := @packed_warning_reads_back desk sent (2 ^ 45 - 1) parts hcheck (by decide) hword
  refine ⟨hcheck, hword, ?_⟩
  convert hread.2.1 using 1 <;> decide +kernel

end Desk

end GroundStation
