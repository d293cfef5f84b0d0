import GroundStation.Proofs.Frame.Session

/-!
Where the bytes went. Every byte that a receiver accepts ends in one of three places: it is part of a
valid frame, it is counted as thrown away, or it still waits in the queue. The counters of valid and
invalid frames agree with the events. Each event costs at least one byte, so a drain without a limit
comes to its end by itself, and any limit from the number of bytes held on is as good as none.

`Settles` is the balance of a stretch in which no byte comes in. A look settles, stretches that
follow each other settle together, and a session adds the bytes that were accepted.
-/

namespace GroundStation

def FrameEvent.isValid : FrameEvent → Bool
  | .valid _ => true
  | .invalid _ _ _ => false

namespace Frame

theorem isValid_judge_of_matches {field payload : List UInt8} (hmatch : Matches field payload) :
    (judge field payload).isValid = true := by
  rw [judge_of_matches hmatch]
  rfl

theorem isValid_judge_of_not_matches {field payload : List UInt8}
    (hmatch : ¬ Matches field payload) : (judge field payload).isValid = false := by
  rw [judge_of_not_matches hmatch]
  rfl

end Frame

namespace Receiver

open GroundStation.Frame

/-- The bytes that the receiver has counted or still holds. -/
def accounted (receiver : Receiver) : Nat :=
  inboundSize * receiver.counters.validFrames + receiver.counters.discardedBytes +
    receiver.buffered

/-- No byte gets lost between two points with the given events in between, and the events are
counted. -/
structure Settles (before : Receiver) (events : List FrameEvent) (after : Receiver) : Prop where
  bytes : after.accounted = before.accounted
  valid : after.counters.validFrames =
    before.counters.validFrames + events.countP FrameEvent.isValid
  invalid : after.counters.invalidFrames =
    before.counters.invalidFrames + events.countP fun event => !event.isValid

namespace Settles

theorem refl (receiver : Receiver) : Settles receiver [] receiver :=
  ⟨rfl, rfl, rfl⟩

theorem trans {first second third : Receiver} {earlier later : List FrameEvent}
    (h : Settles first earlier second) (h' : Settles second later third) :
    Settles first (earlier ++ later) third where
  bytes := h'.bytes.trans h.bytes
  valid := by rw [h'.valid, h.valid, List.countP_append, Nat.add_assoc]
  invalid := by rw [h'.invalid, h.invalid, List.countP_append, Nat.add_assoc]

/-- What is thrown away is counted, as long as it was held. -/
theorem discard {receiver : Receiver} {count : Nat} (hheld : count ≤ receiver.buffered) :
    Settles receiver [] (receiver.discard count) where
  bytes := by
    simp only [accounted, buffered, Receiver.discard, ByteQueue.size_drop] at hheld ⊢
    omega
  valid := rfl
  invalid := rfl

end Settles

theorem HoldsWindow.resumeOffset_le {receiver : Receiver} {noise field payload rest : List UInt8}
    (held : HoldsWindow receiver.queue noise field payload rest) :
    receiver.resumeOffset noise.length ≤ receiver.buffered := by
  have hinside : (field ++ payload).findIdx (· == startByte) ≤ (field ++ payload).length :=
    List.findIdx_le_length
  rw [List.length_append, held.length_field, held.length_payload] at hinside
  rw [resumeOffset_eq held, buffered, held.size_eq]
  simp only [inboundSize]
  omega

/-- A look at the queue accounts for the bytes that it drops and the frame that it finds. -/
theorem Look.settles {receiver after : Receiver} {event : Option FrameEvent}
    (look : Look receiver event after) : Settles receiver event.toList after := by
  cases look with
  | few => exact .refl receiver
  | noiseKept => exact .refl receiver
  | noiseDropped => exact .discard (Nat.le_refl _)
  | lateKept => exact .refl receiver
  | @lateTrimmed noise rest hbytes =>
      apply Settles.discard
      rw [buffered, ← ByteQueue.length_toList, hbytes, List.length_append]
      exact Nat.le_add_right _ _
  | valid held hmatch =>
      have hsize := held.size_eq
      refine ⟨?_, ?_, ?_⟩
      · simp only [accounted, buffered, acceptWindow, ByteQueue.size_drop, Nat.mul_succ]
        omega
      · simp [acceptWindow, isValid_judge_of_matches hmatch]
      · simp [acceptWindow, isValid_judge_of_matches hmatch]
  | invalid held hmatch =>
      have hdiscard := Settles.discard held.resumeOffset_le
      refine ⟨hdiscard.bytes, ?_, ?_⟩
      · simp [rejectWindow, Receiver.discard, isValid_judge_of_not_matches hmatch]
      · simp [rejectWindow, Receiver.discard, isValid_judge_of_not_matches hmatch]

theorem take_settles (limit : Nat) (receiver : Receiver) :
    Settles receiver (receiver.take limit).1 (receiver.take limit).2 := by
  apply take_induction (motive := fun _ before events after => Settles before events after)
  · intro receiver
    exact .refl receiver
  · intro limit receiver after look
    exact look.settles
  · intro limit receiver event after events final look ih
    exact look.settles.trans ih

/-- An event uses up bytes. -/
theorem buffered_next_lt {receiver : Receiver} {event : FrameEvent}
    (hevent : receiver.next.1 = some event) : receiver.next.2.buffered < receiver.buffered := by
  have look := receiver.next_look
  rw [hevent] at look
  exact look.size_lt

theorem next_of_buffered_eq_zero {receiver : Receiver} (hnone : receiver.buffered = 0) :
    receiver.next = (none, receiver) := by
  have hfew : receiver.queue.size < inboundSize := by
    rw [buffered] at hnone
    rw [hnone]
    decide
  exact next_of_few hfew

/-- Limits that are not below the number of bytes held make no difference. A look that delivers
anything costs a byte, so both stay large enough. -/
theorem take_eq_take {limit other : Nat} {receiver : Receiver}
    (hlimit : receiver.buffered ≤ limit) (hother : receiver.buffered ≤ other) :
    receiver.take limit = receiver.take other := by
  induction limit generalizing other receiver with
  | zero =>
      have hnone := next_of_buffered_eq_zero (Nat.le_zero.mp hlimit)
      cases other with
      | zero => rfl
      | succ other => rw [take_succ_of_none other (by rw [hnone]), hnone, take]
  | succ limit ih =>
      cases other with
      | zero =>
          have hnone := next_of_buffered_eq_zero (Nat.le_zero.mp hother)
          rw [take_succ_of_none limit (by rw [hnone]), hnone, take]
      | succ other =>
          cases hnext : receiver.next.1 with
          | none => rw [take_succ_of_none limit hnext, take_succ_of_none other hnext]
          | some event =>
              have hless := buffered_next_lt hnext
              have hrest : receiver.next.2.take limit = receiver.next.2.take other :=
                ih (by omega) (by omega)
              rw [take_succ_of_some limit hnext, take_succ_of_some other hnext, hrest]

namespace Session

variable {σ ε : Type} [ByteSource σ ε]

/-- What was accepted is accounted for, and the counters are those of the events delivered. -/
structure Balanced (session : Session) : Prop where
  bytes : session.accepted.length = session.receiver.accounted
  valid : session.receiver.counters.validFrames = session.emitted.countP FrameEvent.isValid
  invalid : session.receiver.counters.invalidFrames =
    session.emitted.countP fun event => !event.isValid

namespace Balanced

theorem start (config : Config) : (Session.start config).Balanced :=
  ⟨rfl, rfl, rfl⟩

variable {receiver : Receiver} {accepted : List UInt8} {emitted : List FrameEvent}

/-- Bytes that come in are held, as far as they are accepted. -/
theorem push (h : Balanced ⟨receiver, accepted, emitted⟩) (bytes : List UInt8) :
    Balanced
      ⟨(receiver.push bytes).2, accepted ++ bytes.take (receiver.push bytes).1, emitted⟩ where
  bytes := by
    have hqueue := congrArg List.length (receiver.queue.toList_push_take bytes)
    have hbytes := h.bytes
    simp only [ByteQueue.length_toList, List.length_append] at hqueue
    simp only [Receiver.push, accounted, buffered, List.length_append] at hbytes ⊢
    omega
  valid := h.valid
  invalid := h.invalid

theorem settle {after : Receiver} {events : List FrameEvent}
    (h : Balanced ⟨receiver, accepted, emitted⟩) (settles : Settles receiver events after) :
    Balanced ⟨after, accepted, emitted ++ events⟩ where
  bytes := h.bytes.trans settles.bytes.symm
  valid := by rw [settles.valid, h.valid, List.countP_append]
  invalid := by rw [settles.invalid, h.invalid, List.countP_append]

/-- Every call keeps the session in balance. A poll is a push of what the source hands out, which
finds room, and a drain. -/
theorem step {session : Session} (h : session.Balanced) (call : Call σ) :
    (session.step call).Balanced := by
  cases call with
  | push bytes => exact h.push bytes
  | next => exact h.settle session.receiver.next_look.settles
  | drain => exact h.settle (take_settles _ session.receiver)
  | poll source =>
      have hpushed := h.push (session.receiver.received source)
      have hall : (session.receiver.push (session.receiver.received source)).1 =
          (session.receiver.received source).length := by
        rw [push_fst, Nat.min_eq_left (session.receiver.length_received_le source)]
      rw [hall, List.take_length, ← fill_receiver] at hpushed
      exact hpushed.settle (take_settles _ _)

/-- Every run keeps the session in balance. -/
theorem run {session : Session} (h : session.Balanced) (calls : List (Call σ)) :
    (session.run calls).Balanced := by
  induction calls generalizing session with
  | nil => exact h
  | cons call rest ih => exact ih (h.step call)

end Balanced

/-- At every point of every run, whatever the configuration and the calls, each accepted byte is part
of a valid frame, counted as thrown away, or still held, and the two counters of frames are the
numbers of valid and of invalid events. The next event costs at least one byte. So a drain delivers
at most as many events as there are bytes, and one without a limit is the same as one with any limit
that the bytes held do not exceed. -/
theorem accepted_bytes_accounted (config : Config) (calls : List (Call σ)) :
    let session := (start config).run calls
    let receiver := session.receiver
    session.accepted.length =
        15 * receiver.counters.validFrames + receiver.counters.discardedBytes +
          receiver.buffered ∧
      receiver.counters.validFrames = session.emitted.countP FrameEvent.isValid ∧
      receiver.counters.invalidFrames = (session.emitted.countP fun event => !event.isValid) ∧
      (∀ event, receiver.next.1 = some event →
        receiver.next.2.buffered < receiver.buffered) ∧
      (∀ limit,
        (receiver.take limit).1.length + (receiver.take limit).2.buffered ≤ receiver.buffered) ∧
      (config.maxFramesPerPoll = none →
        ∀ limit, receiver.buffered ≤ limit → receiver.drain = receiver.take limit) := by
  intro session receiver
  have hbalanced : session.Balanced := (Balanced.start config).run calls
  refine ⟨hbalanced.bytes, hbalanced.valid, hbalanced.invalid, ?_, ?_, ?_⟩
  · intro event hevent
    exact buffered_next_lt hevent
  · intro limit
    exact length_take_add_size_le limit receiver
  · intro hunlimited limit hlimit
    have hconfig : receiver.config = config := config_run (start config) calls
    rw [drain, hconfig, hunlimited, Option.getD_none]
    exact take_eq_take (Nat.le_refl _) hlimit

/-- Two bytes of noise, a frame, and a window of start bytes, of which all but the first are kept. -/
theorem accepted_bytes_accounted_damaged_window :
    let bytes := [0, 1] ++ inbound ⟨0x305, 42⟩ ++ List.replicate 15 startByte
    let looked := (start {}).run ([.push bytes, .next] : List (Call Line))
    let drained := (start {}).run ([.push bytes, .next, .drain] : List (Call Line))
    looked.receiver.next.1.isSome = true ∧
      looked.receiver.next.2.buffered < looked.receiver.buffered ∧
      looked.receiver.drain = looked.receiver.take 20 ∧
      drained.accepted.length =
        15 * drained.receiver.counters.validFrames + drained.receiver.counters.discardedBytes +
          drained.receiver.buffered ∧
      drained.receiver.counters.validFrames = 1 ∧
      drained.receiver.counters.discardedBytes = 3 ∧ drained.receiver.buffered = 14 := by
  intro bytes looked drained
  have hlooked := accepted_bytes_accounted {} ([.push bytes, .next] : List (Call Line))
  have hdrained := accepted_bytes_accounted {} ([.push bytes, .next, .drain] : List (Call Line))
  have hevent : looked.receiver.next.1 =
      some (.invalid (List.replicate 12 startByte) 0 0xFFFF) := by decide +kernel
  refine ⟨by rw [hevent, Option.isSome_some], hlooked.2.2.2.1 _ hevent,
    hlooked.2.2.2.2.2 rfl 20 (by decide +kernel), ?_, by decide +kernel, by decide +kernel,
    by decide +kernel⟩
  dsimp only [drained]
  exact hdrained.1

end Session

end Receiver

end GroundStation
