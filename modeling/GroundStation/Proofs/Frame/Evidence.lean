import GroundStation.Proofs.Frame.Session

/-!
Where events come from. Every event that a receiver delivers stands for fifteen bytes that were
accepted one behind the other, the first of them a start byte; later events stand for later bytes,
and nothing starts inside a valid frame. So no frame is put together from bytes that were apart,
none is delivered twice, and valid frames have no byte in common.
-/

namespace GroundStation

namespace Frame

/-- The window of `bytes` at `start` says what the event says. -/
def Evidence (bytes : List UInt8) (start : Nat) (event : FrameEvent) : Prop :=
  (windowAt bytes start).length = inboundSize ∧
    (windowAt bytes start).head? = some startByte ∧
    match event with
    | .valid payload =>
      payload = windowPayload (windowAt bytes start) ∧
        windowAt bytes start = inbound (.ofPayload payload)
    | .invalid payload expected found =>
      payload = windowPayload (windowAt bytes start) ∧
        found.toNat = Bytes.value (windowField (windowAt bytes start)) ∧
        expected = checksum payload ∧ expected ≠ found

/-- How the places of two events lie when `first` is delivered before `second`. -/
def Apart (first second : Nat × FrameEvent) : Prop :=
  first.1 < second.1 ∧
    ∀ payload, first.2 = .valid payload → first.1 + inboundSize ≤ second.1

/-- A judged frame is evidence for its event. -/
theorem evidence_judge {field payload : List UInt8} (hfield : field.length = checksumSize)
    (hpayload : payload.length = inboundPayloadSize) (before rest : List UInt8) :
    Evidence (before ++ startByte :: (field ++ payload ++ rest)) before.length
      (judge field payload) := by
  have hwindow : windowAt (before ++ startByte :: (field ++ payload ++ rest)) before.length =
      startByte :: (field ++ payload) := by
    have hshift := windowAt_append_left before (startByte :: (field ++ payload ++ rest)) 0
    rwa [Nat.add_zero, windowAt_zero hfield hpayload] at hshift
  unfold Evidence
  rw [hwindow, windowField_cons hfield, windowPayload_cons hfield]
  refine ⟨length_window hfield hpayload, rfl, ?_⟩
  by_cases hmatch : Matches field payload
  · rw [judge_of_matches hmatch]
    refine ⟨rfl, ?_⟩
    rw [inbound, enclose, Message.payload_ofPayload hpayload, ← (matches_iff hfield).mp hmatch]
  · rw [judge_of_not_matches hmatch]
    refine ⟨rfl, ?_, rfl, hmatch⟩
    have hbound := Bytes.value_lt field
    rw [hfield] at hbound
    exact UInt16.toNat_ofNat_of_lt' hbound

/-- The events of a stretch of scanning have their places in the bytes it passes. -/
theorem Scans.exists_evidence {bytes rest : List UInt8} {events : List FrameEvent}
    (h : Scans bytes events rest) (before : List UInt8) :
    ∃ placed : List (Nat × FrameEvent), placed.map Prod.snd = events ∧ placed.Pairwise Apart ∧
      ∀ entry ∈ placed, before.length ≤ entry.1 ∧ Evidence (before ++ bytes) entry.1 entry.2 := by
  induction h generalizing before with
  | stop bytes => exact ⟨[], rfl, List.Pairwise.nil, fun entry hmem => nomatch hmem⟩
  | @skip byte bytes rest events hbyte _ ih =>
      obtain ⟨placed, hevents, hapart, hplaced⟩ := ih (before ++ [byte])
      refine ⟨placed, hevents, hapart, ?_⟩
      intro entry hmem
      obtain ⟨hstart, hevidence⟩ := hplaced entry hmem
      rw [List.length_append] at hstart
      rw [List.append_assoc] at hevidence
      exact ⟨Nat.le_of_add_right_le hstart, hevidence⟩
  | @window field payload bytes rest events hfield hpayload _ ih =>
      obtain ⟨passed, hpassed⟩ := unread_suffix field payload
      obtain ⟨placed, hevents, hapart, hplaced⟩ := ih (before ++ startByte :: passed)
      have hsplit : (before ++ startByte :: passed) ++ (unread field payload ++ bytes) =
          before ++ startByte :: (field ++ payload ++ bytes) := by
        rw [← hpassed]
        simp
      have hlength : (before ++ startByte :: passed).length =
          before.length + (passed.length + 1) := by
        rw [List.length_append, List.length_cons]
      rw [hsplit, hlength] at hplaced
      refine ⟨(before.length, judge field payload) :: placed, ?_, ?_, ?_⟩
      · rw [List.map_cons, hevents]
      · refine List.Pairwise.cons ?_ hapart
        intro entry hmem
        obtain ⟨hstart, _⟩ := hplaced entry hmem
        refine ⟨by omega, ?_⟩
        intro other hvalid
        rw [unread_of_judge_valid hvalid, List.append_nil] at hpassed
        have hwindow := length_window hfield hpayload
        rw [List.length_cons, ← hpassed] at hwindow
        omega
      · intro entry hmem
        rcases List.mem_cons.mp hmem with rfl | hlater
        · exact ⟨Nat.le_refl _, evidence_judge hfield hpayload before bytes⟩
        · obtain ⟨hstart, hevidence⟩ := hplaced entry hlater
          exact ⟨by omega, hevidence⟩

end Frame

namespace Receiver.Session

open GroundStation.Frame

variable {σ ε : Type} [ByteSource σ ε]

/-- Whatever the configuration and the calls, each event has its place in the accepted bytes: a full
window that opens with a start byte and says what the event says. The places increase in the order
of delivery, and none lies inside the window of an earlier valid event. -/
theorem emitted_has_evidence (config : Config) (calls : List (Call σ)) :
    let session := (start config).run calls
    ∃ placed : List (Nat × FrameEvent), placed.map Prod.snd = session.emitted ∧
      placed.Pairwise Apart ∧
      ∀ entry ∈ placed, Evidence session.accepted entry.1 entry.2 := by
  intro session
  have hconsistent : session.Consistent := run_consistent (start_consistent config) calls
  obtain ⟨placed, hevents, hapart, hplaced⟩ := hconsistent.exists_evidence []
  exact ⟨placed, hevents, hapart, fun entry hmem => (hplaced entry hmem).2⟩

end Receiver.Session

end GroundStation
