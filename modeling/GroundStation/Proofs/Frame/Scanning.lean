import Mathlib.Data.List.Basic
import GroundStation.Frame.Event
import GroundStation.Proofs.Message.Codec

/-!
The laws of the reference scanner. `Scans bytes events rest` says that the scanner, started on
`bytes`, delivers `events` and then stands before `rest`. Whether it gets that far does not depend
on anything behind `rest`, so such a stretch of scanning can be continued by another one and is the
same when more bytes follow. A receiver that works piece by piece is compared with the scanner
through this relation.
-/

namespace GroundStation.Frame

def Matches (field payload : List UInt8) : Prop :=
  checksum payload = UInt16.ofNat (Bytes.value field)

instance (field payload : List UInt8) : Decidable (Matches field payload) :=
  inferInstanceAs (Decidable (_ = _))

theorem judge_of_matches {field payload : List UInt8} (h : Matches field payload) :
    judge field payload = .valid payload :=
  if_pos h

theorem judge_of_not_matches {field payload : List UInt8} (h : ¬ Matches field payload) :
    judge field payload =
      .invalid payload (checksum payload) (UInt16.ofNat (Bytes.value field)) :=
  if_neg h

/-- A checksum field matches if it is the checksum of the payload in little-endian bytes. -/
theorem matches_iff {field payload : List UInt8} (hfield : field.length = checksumSize) :
    Matches field payload ↔ field = Bytes.ofNat checksumSize (checksum payload).toNat := by
  have hsmall : Bytes.value field < 65536 := by
    have hbound := Bytes.value_lt field
    rwa [hfield] at hbound
  constructor
  · intro hmatch
    have hvalue : (checksum payload).toNat = Bytes.value field := by
      rw [hmatch, UInt16.toNat_ofNat', Nat.mod_eq_of_lt hsmall]
    rw [hvalue, ← hfield, Bytes.ofNat_value]
  · intro hwritten
    have hvalue : Bytes.value field = (checksum payload).toNat := by
      rw [hwritten, Bytes.value_ofNat]
      exact Nat.mod_eq_of_lt (checksum payload).toNat_lt
    rw [Matches, hvalue, UInt16.ofNat_toNat]

/-- The bytes behind the start byte of a window that are scanned again after it was judged. -/
def unread (field payload : List UInt8) : List UInt8 :=
  if Matches field payload then [] else (field ++ payload).dropWhile (· ≠ startByte)

theorem unread_suffix (field payload : List UInt8) : unread field payload <:+ field ++ payload := by
  unfold unread
  split
  · exact List.nil_suffix
  · exact List.dropWhile_suffix _

theorem unread_of_judge_valid {field payload other : List UInt8}
    (hvalid : judge field payload = .valid other) : unread field payload = [] := by
  by_cases hmatch : Matches field payload
  · rw [unread, if_pos hmatch]
  · rw [judge_of_not_matches hmatch] at hvalid
    cases hvalid

/-- Enough bytes hold a window. -/
theorem exists_window {bytes : List UInt8} (hlong : inboundSize ≤ bytes.length + 1) :
    ∃ field payload rest, bytes = field ++ payload ++ rest ∧ field.length = checksumSize ∧
      payload.length = inboundPayloadSize := by
  simp only [inboundSize] at hlong
  refine ⟨bytes.take checksumSize, (bytes.drop checksumSize).take inboundPayloadSize,
    (bytes.drop checksumSize).drop inboundPayloadSize, ?_, ?_, ?_⟩
  · rw [List.append_assoc, List.take_append_drop, List.take_append_drop]
  · rw [List.length_take]
    omega
  · rw [List.length_take, List.length_drop]
    omega

/-! ### Windows -/

def windowAt (bytes : List UInt8) (offset : Nat) : List UInt8 :=
  (bytes.drop offset).take inboundSize

def windowField (window : List UInt8) : List UInt8 :=
  (window.drop 1).take checksumSize

def windowPayload (window : List UInt8) : List UInt8 :=
  window.drop (1 + checksumSize)

theorem windowAt_append_left (before bytes : List UInt8) (offset : Nat) :
    windowAt (before ++ bytes) (before.length + offset) = windowAt bytes offset := by
  rw [windowAt, ← List.drop_drop, List.drop_left, windowAt]

section

variable {field payload : List UInt8} (hfield : field.length = checksumSize)
  (hpayload : payload.length = inboundPayloadSize)

include hfield hpayload

theorem length_window : (startByte :: (field ++ payload)).length = inboundSize := by
  simp only [List.length_cons, List.length_append, hfield, hpayload, inboundSize]
  omega

theorem windowAt_zero (rest : List UInt8) :
    windowAt (startByte :: (field ++ payload ++ rest)) 0 = startByte :: (field ++ payload) := by
  rw [windowAt, List.drop_zero, ← List.cons_append, ← length_window hfield hpayload, List.take_left]

omit hpayload

theorem windowField_cons : windowField (startByte :: (field ++ payload)) = field := by
  rw [windowField, List.drop_succ_cons, List.drop_zero, ← hfield, List.take_left]

theorem windowPayload_cons : windowPayload (startByte :: (field ++ payload)) = payload := by
  rw [windowPayload, Nat.add_comm, List.drop_succ_cons, ← hfield, List.drop_left]

end

/-! ### The scanner, case by case -/

theorem scan_of_ne {byte : UInt8} (hbyte : byte ≠ startByte) (rest : List UInt8) :
    scan (byte :: rest) = scan rest := by
  rw [scan, if_pos hbyte]

/-- There is no frame in fewer bytes than a frame has. -/
theorem scan_of_short {bytes : List UInt8} (hshort : bytes.length < inboundSize) :
    scan bytes = [] := by
  induction bytes with
  | nil => rw [scan]
  | cons byte rest ih =>
      by_cases hbyte : byte = startByte
      · have hrest : rest.length < inboundSize - 1 := by
          simp only [List.length_cons] at hshort
          omega
        rw [scan, if_neg (not_not.mpr hbyte), if_pos hrest]
      · rw [scan_of_ne hbyte]
        exact ih (Nat.lt_of_succ_lt hshort)

/-- A full window behind a start byte is judged, and scanning goes on with what it leaves. -/
theorem scan_window {field payload : List UInt8} (hfield : field.length = checksumSize)
    (hpayload : payload.length = inboundPayloadSize) (rest : List UInt8) :
    scan (startByte :: (field ++ payload ++ rest)) =
      judge field payload :: scan (unread field payload ++ rest) := by
  have hwindow : (field ++ payload).length = inboundSize - 1 := by
    simp only [List.length_append, hfield, hpayload, inboundSize]
    omega
  have hlong : ¬ (field ++ payload ++ rest).length < inboundSize - 1 := by
    simp only [List.length_append] at hwindow ⊢
    omega
  have htakeField : (field ++ payload ++ rest).take checksumSize = field := by
    rw [List.append_assoc, ← hfield, List.take_left]
  have htakePayload :
      ((field ++ payload ++ rest).drop checksumSize).take inboundPayloadSize = payload := by
    rw [List.append_assoc, ← hfield, List.drop_left, ← hpayload, List.take_left]
  have htake : (field ++ payload ++ rest).take (inboundSize - 1) = field ++ payload := by
    rw [← hwindow, List.take_left]
  have hdrop : (field ++ payload ++ rest).drop (inboundSize - 1) = rest := by
    rw [← hwindow, List.drop_left]
  rw [scan, if_neg (not_not.mpr rfl), if_neg hlong]
  simp only [htakeField, htakePayload, htake, hdrop]
  by_cases hmatch : Matches field payload
  · simp [judge_of_matches hmatch, unread, hmatch]
  · simp [judge_of_not_matches hmatch, unread, hmatch]

/-- A message that was sent is found, and the scan goes on behind it. -/
theorem scan_inbound (message : Message) (rest : List UInt8) :
    scan (inbound message ++ rest) = .valid message.payload :: scan rest := by
  let field := Bytes.ofNat checksumSize (checksum message.payload).toNat
  have hfield : field.length = checksumSize := Bytes.length_ofNat _ _
  have hmatch : Matches field message.payload := (matches_iff hfield).mpr rfl
  have hscan := scan_window hfield message.length_payload rest
  rw [judge_of_matches hmatch, unread, if_pos hmatch, List.nil_append] at hscan
  exact hscan

/-! ### Stretches of scanning -/

/-- Scanning `bytes` delivers `events` and comes to stand before `rest`. -/
inductive Scans : List UInt8 → List FrameEvent → List UInt8 → Prop where
  | stop (bytes : List UInt8) : Scans bytes [] bytes
  | skip {byte : UInt8} {bytes rest : List UInt8} {events : List FrameEvent}
      (hbyte : byte ≠ startByte) (later : Scans bytes events rest) :
      Scans (byte :: bytes) events rest
  | window {field payload bytes rest : List UInt8} {events : List FrameEvent}
      (hfield : field.length = checksumSize) (hpayload : payload.length = inboundPayloadSize)
      (later : Scans (unread field payload ++ bytes) events rest) :
      Scans (startByte :: (field ++ payload ++ bytes)) (judge field payload :: events) rest

namespace Scans

theorem trans {bytes middle rest : List UInt8} {first second : List FrameEvent}
    (hfirst : Scans bytes first middle) (hsecond : Scans middle second rest) :
    Scans bytes (first ++ second) rest := by
  induction hfirst with
  | stop => exact hsecond
  | skip hbyte _ ih => exact .skip hbyte (ih hsecond)
  | window hfield hpayload _ ih => exact .window hfield hpayload (ih hsecond)

/-- Bytes that arrive later stay unread and change nothing. -/
theorem append_right {bytes rest : List UInt8} {events : List FrameEvent}
    (h : Scans bytes events rest) (later : List UInt8) :
    Scans (bytes ++ later) events (rest ++ later) := by
  induction h with
  | stop => exact .stop _
  | skip hbyte _ ih => exact .skip hbyte ih
  | window hfield hpayload _ ih =>
      rw [List.cons_append, List.append_assoc]
      rw [List.append_assoc] at ih
      exact .window hfield hpayload ih

theorem noise {noise : List UInt8} (hnoise : startByte ∉ noise) (rest : List UInt8) :
    Scans (noise ++ rest) [] rest := by
  induction noise with
  | nil => exact .stop rest
  | cons byte more ih =>
      rw [List.mem_cons, not_or] at hnoise
      exact .skip (Ne.symm hnoise.1) (ih hnoise.2)

theorem scan_eq {bytes rest : List UInt8} {events : List FrameEvent}
    (h : Scans bytes events rest) : scan bytes = events ++ scan rest := by
  induction h with
  | stop => rfl
  | skip hbyte _ ih => rw [scan_of_ne hbyte, ih]
  | window hfield hpayload _ ih => rw [scan_window hfield hpayload, ih, List.cons_append]

theorem rest_suffix {bytes rest : List UInt8} {events : List FrameEvent}
    (h : Scans bytes events rest) : rest <:+ bytes := by
  induction h with
  | stop => exact List.suffix_refl _
  | @skip byte bytes _ _ _ _ ih => exact ih.trans (List.suffix_cons byte bytes)
  | @window field payload bytes _ _ _ _ _ ih =>
      obtain ⟨before, hbefore⟩ := unread_suffix field payload
      refine ih.trans ⟨startByte :: before, ?_⟩
      rw [List.cons_append, ← List.append_assoc, hbefore]

end Scans

theorem scan_noise_append {noise : List UInt8} (hnoise : startByte ∉ noise) (rest : List UInt8) :
    scan (noise ++ rest) = scan rest :=
  (Scans.noise hnoise rest).scan_eq

theorem scan_of_noise {noise : List UInt8} (hnoise : startByte ∉ noise) : scan noise = [] := by
  have hpassed := scan_noise_append hnoise []
  have hempty : ([] : List UInt8).length < inboundSize := by decide
  rw [List.append_nil, scan_of_short hempty] at hpassed
  exact hpassed

theorem scan_late {noise rest : List UInt8} (hnoise : startByte ∉ noise)
    (hshort : rest.length < inboundSize) : scan (noise ++ rest) = [] := by
  rw [scan_noise_append hnoise, scan_of_short hshort]

end GroundStation.Frame
