import GroundStation.Frame.Receiver
import GroundStation.Proofs.Frame.QueueView
import GroundStation.Proofs.Frame.Scanning

/-!
What the receiver does in one look at its queue, and in the calls that are made of looks. `Look` has
one case for each way out of a look; everything that is said about longer runs is derived from it
and never opens `next` again. The link to the reference scanner is `Look.scans`: whatever a look
throws away, the scanner passes over too.
-/

namespace GroundStation.Receiver

open GroundStation.Frame

/-- The queue holds a full window behind `noise`, cut into its checksum field and its payload, and
`rest` behind the window. -/
structure HoldsWindow (queue : ByteQueue) (noise field payload rest : List UInt8) : Prop where
  toList_eq : queue.toList = noise ++ startByte :: (field ++ payload ++ rest)
  noise_clean : startByte ∉ noise
  length_field : field.length = checksumSize
  length_payload : payload.length = inboundPayloadSize

/-- What one look can come to: the event it delivers, if any, and the receiver after it. -/
inductive Look (receiver : Receiver) : Option FrameEvent → Receiver → Prop where
  | few (hfew : receiver.queue.size < inboundSize) : Look receiver none receiver
  | noiseKept (hnoise : startByte ∉ receiver.queue.toList)
      (hlimit : receiver.queue.size ≤ receiver.config.noiseLimit) : Look receiver none receiver
  | noiseDropped (hnoise : startByte ∉ receiver.queue.toList)
      (hlimit : receiver.config.noiseLimit < receiver.queue.size) :
      Look receiver none (receiver.discard receiver.queue.size)
  | lateKept {noise rest : List UInt8} (hbytes : receiver.queue.toList = noise ++ startByte :: rest)
      (hnoise : startByte ∉ noise) (hlate : rest.length + 1 < inboundSize)
      (hroom : 0 < receiver.queue.free ∨ noise = []) : Look receiver none receiver
  | lateTrimmed {noise rest : List UInt8}
      (hbytes : receiver.queue.toList = noise ++ startByte :: rest)
      (hnoise : startByte ∉ noise) (hlate : rest.length + 1 < inboundSize)
      (hfull : receiver.queue.free = 0) (hsome : noise ≠ []) :
      Look receiver none (receiver.discard noise.length)
  | valid {noise field payload rest : List UInt8}
      (held : HoldsWindow receiver.queue noise field payload rest)
      (hmatch : Matches field payload) :
      Look receiver (some (judge field payload)) (receiver.acceptWindow noise.length)
  | invalid {noise field payload rest : List UInt8}
      (held : HoldsWindow receiver.queue noise field payload rest)
      (hmatch : ¬ Matches field payload) :
      Look receiver (some (judge field payload)) (receiver.rejectWindow noise.length)

/-! ### One look -/

namespace HoldsWindow

variable {queue : ByteQueue} {noise field payload rest : List UInt8}

theorem size_eq (held : HoldsWindow queue noise field payload rest) :
    queue.size = noise.length + inboundSize + rest.length := by
  rw [← ByteQueue.length_toList, held.toList_eq]
  simp only [List.length_append, List.length_cons, held.length_field, held.length_payload,
    inboundSize]
  omega

theorem copy_field (held : HoldsWindow queue noise field payload rest) :
    queue.copy (noise.length + 1) checksumSize = .ok field := by
  have hcut : queue.toList = (noise ++ [startByte]) ++ (field ++ (payload ++ rest)) := by
    rw [held.toList_eq]
    simp
  exact ByteQueue.copy_of_toList_eq hcut (by simp) held.length_field

theorem copy_payload (held : HoldsWindow queue noise field payload rest) :
    queue.copy (noise.length + 1 + checksumSize) inboundPayloadSize = .ok payload := by
  have hcut : queue.toList = (noise ++ startByte :: field) ++ (payload ++ rest) := by
    rw [held.toList_eq]
    simp
  have hoffset : (noise ++ startByte :: field).length = noise.length + 1 + checksumSize := by
    simp only [List.length_append, List.length_cons, held.length_field]
    omega
  exact ByteQueue.copy_of_toList_eq hcut hoffset held.length_payload

theorem drop_start (held : HoldsWindow queue noise field payload rest) :
    queue.toList.drop (noise.length + 1) = field ++ payload ++ rest := by
  rw [held.toList_eq, ← List.drop_drop, List.drop_left, List.drop_succ_cons, List.drop_zero]

end HoldsWindow

/-- Every outcome of the checked step is a look at the queue. -/
theorem look_of_nextChecked {receiver after : Receiver} {event : Option FrameEvent}
    (hnext : receiver.nextChecked = .ok (event, after)) : Look receiver event after := by
  unfold nextChecked at hnext
  by_cases hfew : receiver.queue.size < inboundSize
  · rw [if_pos hfew] at hnext
    cases hnext
    exact .few hfew
  rw [if_neg hfew] at hnext
  cases hfind : receiver.queue.find? startByte 0 receiver.queue.size with
  | none =>
      rw [hfind] at hnext
      have hnoise := (receiver.queue.find?_whole_eq_none_iff startByte).mp hfind
      by_cases hlimit : receiver.config.noiseLimit < receiver.queue.size
      · simp only [if_pos hlimit] at hnext
        cases hnext
        exact .noiseDropped hnoise hlimit
      · simp only [if_neg hlimit] at hnext
        cases hnext
        exact .noiseKept hnoise (Nat.le_of_not_lt hlimit)
  | some start =>
      rw [hfind] at hnext
      obtain ⟨noise, more, hbytes, hnoise, rfl⟩ := ByteQueue.exists_of_find?_whole hfind
      have hsize : receiver.queue.size = noise.length + (more.length + 1) := by
        rw [← ByteQueue.length_toList, hbytes, List.length_append, List.length_cons]
      by_cases hlate : receiver.queue.size - noise.length < inboundSize
      · simp only [if_pos hlate] at hnext
        have hshort : more.length + 1 < inboundSize := by omega
        by_cases htrim : receiver.queue.free = 0 ∧ 0 < noise.length
        · rw [if_pos htrim] at hnext
          cases hnext
          exact .lateTrimmed hbytes hnoise hshort htrim.1 (List.length_pos_iff.mp htrim.2)
        · rw [if_neg htrim] at hnext
          cases hnext
          refine .lateKept hbytes hnoise hshort ?_
          rw [← List.length_eq_zero_iff]
          omega
      · simp only [if_neg hlate] at hnext
        have hlong : inboundSize ≤ more.length + 1 := by omega
        obtain ⟨field, payload, rest, rfl, hfield, hpayload⟩ := exists_window hlong
        have held : HoldsWindow receiver.queue noise field payload rest :=
          ⟨hbytes, hnoise, hfield, hpayload⟩
        rw [Halt.bind_of_eq_ok held.copy_field, Halt.bind_of_eq_ok held.copy_payload] at hnext
        by_cases hmatch : Matches field payload
        · have hlook := Look.valid held hmatch
          simp only [judge_of_matches hmatch] at hlook hnext
          cases hnext
          exact hlook
        · have hlook := Look.invalid held hmatch
          simp only [judge_of_not_matches hmatch] at hlook hnext
          cases hnext
          exact hlook

theorem next_look (receiver : Receiver) : Look receiver receiver.next.1 receiver.next.2 :=
  look_of_nextChecked (Halt.eq_ok_result _ _)

theorem next_of_few {receiver : Receiver} (hfew : receiver.queue.size < inboundSize) :
    receiver.next = (none, receiver) :=
  Halt.result_eq (if_pos hfew) _

theorem push_fst (receiver : Receiver) (bytes : List UInt8) :
    (receiver.push bytes).1 = min bytes.length receiver.queue.free :=
  receiver.queue.push_fst bytes

@[simp] theorem toList_push (receiver : Receiver) (bytes : List UInt8) :
    (receiver.push bytes).2.queue.toList =
      receiver.queue.toList ++ bytes.take receiver.queue.free :=
  receiver.queue.toList_push bytes

theorem push_nil (receiver : Receiver) : (receiver.push []).2 = receiver := by
  rw [push, ByteQueue.push_nil]

@[simp] theorem toList_discard (receiver : Receiver) (count : Nat) :
    (receiver.discard count).queue.toList = receiver.queue.toList.drop count :=
  receiver.queue.toList_drop count

/-- An accepted window is used up with the noise before it. -/
theorem toList_acceptWindow {receiver : Receiver} {noise field payload rest : List UInt8}
    (held : HoldsWindow receiver.queue noise field payload rest) :
    (receiver.acceptWindow noise.length).queue.toList = rest := by
  have hcut : receiver.queue.toList = (noise ++ startByte :: (field ++ payload)) ++ rest := by
    rw [held.toList_eq]
    simp
  have hlength : (noise ++ startByte :: (field ++ payload)).length =
      noise.length + inboundSize := by
    simp only [List.length_append, List.length_cons, held.length_field, held.length_payload,
      inboundSize]
    omega
  rw [acceptWindow, ByteQueue.toList_drop, hcut, ← hlength, List.drop_left]

/-- Scanning resumes at the first start byte of the window, or behind the window. -/
theorem resumeOffset_eq {receiver : Receiver} {noise field payload rest : List UInt8}
    (held : HoldsWindow receiver.queue noise field payload rest) :
    receiver.resumeOffset noise.length =
      noise.length + 1 + (field ++ payload).findIdx (· == startByte) := by
  have hwindow : (field ++ payload).length = inboundSize - 1 := by
    simp only [List.length_append, held.length_field, held.length_payload, inboundSize]
    omega
  rw [resumeOffset, ByteQueue.find?_eq, held.drop_start, ← hwindow, List.take_left,
    List.findIdx_eq_getD_findIdx?]
  cases (field ++ payload).findIdx? (· == startByte) with
  | none =>
      simp only [Option.map_none, Option.getD_none, hwindow, inboundSize]
      omega
  | some i => rfl

/-- A rejected window is used up to the next start byte in it. -/
theorem toList_rejectWindow {receiver : Receiver} {noise field payload rest : List UInt8}
    (held : HoldsWindow receiver.queue noise field payload rest) :
    (receiver.rejectWindow noise.length).queue.toList =
      (field ++ payload).dropWhile (· ≠ startByte) ++ rest := by
  have hinside : (field ++ payload).findIdx (· == startByte) ≤ (field ++ payload).length :=
    List.findIdx_le_length
  have hresume : (field ++ payload).dropWhile (· ≠ startByte) =
      (field ++ payload).drop ((field ++ payload).findIdx (· == startByte)) := by
    rw [List.dropWhile_eq_drop_findIdx_not]
    congr 2
    funext byte
    simp [beq_eq_decide]
  change (receiver.discard (receiver.resumeOffset noise.length)).queue.toList = _
  rw [toList_discard, resumeOffset_eq held, ← List.drop_drop, held.drop_start,
    List.drop_append_of_le_length hinside, hresume]

namespace Look

variable {receiver after : Receiver} {event : Option FrameEvent}

/-- A look takes the scanner from the bytes held before it to the bytes held after it. -/
theorem scans (look : Look receiver event after) :
    Scans receiver.queue.toList event.toList after.queue.toList := by
  cases look with
  | few => exact .stop _
  | noiseKept => exact .stop _
  | noiseDropped hnoise =>
      have hnone : (receiver.discard receiver.queue.size).queue.toList = [] := by
        rw [toList_discard, List.drop_eq_nil_of_le (by simp)]
      have hpassed := Scans.noise hnoise []
      rw [List.append_nil] at hpassed
      rw [hnone]
      exact hpassed
  | lateKept => exact .stop _
  | lateTrimmed hbytes hnoise =>
      rw [toList_discard, hbytes, List.drop_left]
      exact .noise hnoise _
  | valid held hmatch =>
      rw [toList_acceptWindow held, held.toList_eq]
      refine (Scans.noise held.noise_clean _).trans ?_
      refine .window held.length_field held.length_payload ?_
      rw [unread, if_pos hmatch]
      exact .stop _
  | invalid held hmatch =>
      rw [toList_rejectWindow held, held.toList_eq]
      refine (Scans.noise held.noise_clean _).trans ?_
      refine .window held.length_field held.length_payload ?_
      rw [unread, if_neg hmatch]
      exact .stop _

/-- If a look finds nothing, then a scan of the queue finds nothing. -/
theorem scan_eq_nil (look : Look receiver none after) : scan receiver.queue.toList = [] := by
  cases look with
  | few hfew => exact scan_of_short (by simpa using hfew)
  | noiseKept hnoise => exact scan_of_noise hnoise
  | noiseDropped hnoise => exact scan_of_noise hnoise
  | lateKept hbytes hnoise hlate =>
      rw [hbytes]
      exact scan_late hnoise hlate
  | lateTrimmed hbytes hnoise hlate =>
      rw [hbytes]
      exact scan_late hnoise hlate

theorem config_eq (look : Look receiver event after) : after.config = receiver.config := by
  cases look <;> rfl

theorem size_le (look : Look receiver event after) : after.queue.size ≤ receiver.queue.size := by
  rw [← ByteQueue.length_toList, ← ByteQueue.length_toList]
  exact look.scans.rest_suffix.length_le

/-- Every event costs at least the start byte of its window. -/
theorem size_lt {event : FrameEvent} (look : Look receiver (some event) after) :
    after.queue.size < receiver.queue.size := by
  cases look with
  | valid held =>
      have hsize := held.size_eq
      rw [← ByteQueue.length_toList, toList_acceptWindow held]
      simp only [inboundSize] at hsize
      omega
  | @invalid noise field payload rest held =>
      have hsize := held.size_eq
      have hkept : ((field ++ payload).dropWhile (· ≠ startByte)).length ≤
          (field ++ payload).length := (List.dropWhile_suffix _).length_le
      rw [← ByteQueue.length_toList, toList_rejectWindow held, List.length_append]
      simp only [List.length_append, held.length_field, held.length_payload] at hkept
      simp only [inboundSize] at hsize
      omega

end Look

/-! ### Looking again and again -/

theorem take_succ_of_none {receiver : Receiver} (limit : Nat)
    (hnone : receiver.next.1 = none) : receiver.take (limit + 1) = ([], receiver.next.2) := by
  rw [take]
  split
  case h_1 after hnext => rw [hnext]
  case h_2 event after hnext =>
    rw [hnext] at hnone
    cases hnone

theorem take_succ_of_some {receiver : Receiver} {event : FrameEvent} (limit : Nat)
    (hsome : receiver.next.1 = some event) :
    receiver.take (limit + 1) =
      (event :: (receiver.next.2.take limit).1, (receiver.next.2.take limit).2) := by
  rw [take]
  split
  case h_1 after hnext =>
    rw [hnext] at hsome
    cases hsome
  case h_2 other after hnext =>
    rw [hnext] at hsome ⊢
    cases hsome
    rfl

/-- The one induction over the looks of a drain. `motive limit before events after` has to hold when
no look is left, when a look delivers nothing, and in front of the drain that follows an event. -/
theorem take_induction {motive : Nat → Receiver → List FrameEvent → Receiver → Prop}
    (stop : ∀ receiver, motive 0 receiver [] receiver)
    (last : ∀ limit receiver after, Look receiver none after → motive (limit + 1) receiver [] after)
    (more : ∀ limit receiver event after events final, Look receiver (some event) after →
      motive limit after events final → motive (limit + 1) receiver (event :: events) final)
    (limit : Nat) (receiver : Receiver) :
    motive limit receiver (receiver.take limit).1 (receiver.take limit).2 := by
  induction limit generalizing receiver with
  | zero => exact stop receiver
  | succ limit ih =>
      have look := receiver.next_look
      cases hnext : receiver.next.1 with
      | none =>
          rw [hnext] at look
          rw [take_succ_of_none limit hnext]
          exact last limit receiver _ look
      | some event =>
          rw [hnext] at look
          rw [take_succ_of_some limit hnext]
          exact more limit receiver event _ _ _ look (ih receiver.next.2)

/-- Events are taken off the queue as the scan finds them. -/
theorem take_scans (limit : Nat) (receiver : Receiver) :
    Scans receiver.queue.toList (receiver.take limit).1 (receiver.take limit).2.queue.toList := by
  apply take_induction (motive := fun _ before events after =>
    Scans before.queue.toList events after.queue.toList)
  · intro receiver
    exact .stop _
  · intro limit receiver after look
    exact look.scans
  · intro limit receiver event after events final look ih
    exact look.scans.trans ih

theorem config_take (limit : Nat) (receiver : Receiver) :
    (receiver.take limit).2.config = receiver.config := by
  apply take_induction (motive := fun _ before _ after => after.config = before.config)
  · intro receiver
    rfl
  · intro limit receiver after look
    exact look.config_eq
  · intro limit receiver event after events final look ih
    exact ih.trans look.config_eq

/-- Each event uses up at least one byte. -/
theorem length_take_add_size_le (limit : Nat) (receiver : Receiver) :
    (receiver.take limit).1.length + (receiver.take limit).2.queue.size ≤ receiver.queue.size := by
  apply take_induction (motive := fun _ before events after =>
    events.length + after.queue.size ≤ before.queue.size)
  · intro receiver
    simp
  · intro limit receiver after look
    simpa using look.size_le
  · intro limit receiver event after events final look ih
    have hless := look.size_lt
    rw [List.length_cons]
    omega

/-- A drain that stays below its limit leaves nothing to deliver. -/
theorem scan_take_of_length_lt {limit : Nat} {receiver : Receiver}
    (hbelow : (receiver.take limit).1.length < limit) :
    scan (receiver.take limit).2.queue.toList = [] := by
  revert hbelow
  apply take_induction (motive := fun limit _ events after =>
    events.length < limit → scan after.queue.toList = [])
  · intro receiver hbelow
    cases hbelow
  · intro limit receiver after look _
    have hbefore := look.scan_eq_nil
    rw [look.scans.scan_eq] at hbefore
    exact hbefore
  · intro limit receiver event after events final look ih hbelow
    exact ih (Nat.lt_of_succ_lt_succ hbelow)

theorem drain_scans (receiver : Receiver) :
    Scans receiver.queue.toList receiver.drain.1 receiver.drain.2.queue.toList :=
  take_scans _ receiver

theorem length_drain_add_size_le (receiver : Receiver) :
    receiver.drain.1.length + receiver.drain.2.queue.size ≤ receiver.queue.size :=
  length_take_add_size_le _ receiver

@[simp] theorem config_drain (receiver : Receiver) :
    receiver.drain.2.config = receiver.config :=
  config_take _ receiver

/-- The number of bytes held is limit enough: a drain without a configured limit leaves nothing. -/
theorem scan_drain_of_unlimited {receiver : Receiver}
    (hunlimited : receiver.config.maxFramesPerPoll = none) :
    scan receiver.drain.2.queue.toList = [] := by
  have hdrain : receiver.drain = receiver.take receiver.queue.size := by
    rw [drain, hunlimited, Option.getD_none]
  have hbound := length_take_add_size_le receiver.queue.size receiver
  rw [hdrain]
  by_cases hbelow : (receiver.take receiver.queue.size).1.length < receiver.queue.size
  · exact scan_take_of_length_lt hbelow
  · -- as many events as bytes: the queue is empty
    apply scan_of_short
    rw [ByteQueue.length_toList]
    simp only [inboundSize]
    omega

/-! ### Reading from a source -/

variable {σ ε : Type} [ByteSource σ ε]

/-- The bytes that a fill gets from the source: what the source hands out when it is asked for no
more than it has and the queue has room for. None come when the source fails. -/
def received (receiver : Receiver) (source : σ) : List UInt8 :=
  match ByteSource.available source with
  | (.error _, _) => []
  | (.ok available, source) =>
    let wanted := min available receiver.queue.free
    if wanted = 0 then
      []
    else
      match ByteSource.read wanted source with
      | (.error _, _) => []
      | (.ok bytes, _) => bytes.take wanted

theorem length_received_le (receiver : Receiver) (source : σ) :
    (receiver.received source).length ≤ receiver.queue.free := by
  unfold received
  rcases ByteSource.available source with ⟨fault | available, source'⟩
  · exact Nat.zero_le _
  · by_cases hwanted : min available receiver.queue.free = 0
    · simp only [if_pos hwanted]
      exact Nat.zero_le _
    · simp only [if_neg hwanted]
      rcases ByteSource.read (min available receiver.queue.free) source' with ⟨fault | bytes, _⟩
      · exact Nat.zero_le _
      · exact Nat.le_trans (List.length_take_le _ _) (Nat.min_le_right _ _)

theorem fill_receiver (receiver : Receiver) (source : σ) :
    (receiver.fill source).2.1 = (receiver.push (receiver.received source)).2 := by
  unfold fill received
  rcases ByteSource.available source with ⟨fault | available, source'⟩
  · exact receiver.push_nil.symm
  · by_cases hwanted : min available receiver.queue.free = 0
    · simp only [if_pos hwanted]
      exact receiver.push_nil.symm
    · simp only [if_neg hwanted]
      rcases ByteSource.read (min available receiver.queue.free) source' with ⟨fault | bytes, _⟩
      · exact receiver.push_nil.symm
      · rfl

/-- No byte that the source hands out is lost. -/
theorem toList_fill (receiver : Receiver) (source : σ) :
    (receiver.fill source).2.1.queue.toList =
      receiver.queue.toList ++ receiver.received source := by
  rw [fill_receiver, toList_push, List.take_of_length_le (receiver.length_received_le source)]

@[simp] theorem config_fill (receiver : Receiver) (source : σ) :
    (receiver.fill source).2.1.config = receiver.config := by
  rw [fill_receiver]
  rfl

/-- A poll delivers what a drain of the filled receiver delivers, whether or not reading failed. -/
theorem poll_events (receiver : Receiver) (source : σ) :
    (receiver.poll source).2.1 = (receiver.fill source).2.1.drain.1 := rfl

theorem poll_receiver (receiver : Receiver) (source : σ) :
    (receiver.poll source).2.2.1 = (receiver.fill source).2.1.drain.2 := rfl

@[simp] theorem config_poll (receiver : Receiver) (source : σ) :
    (receiver.poll source).2.2.1.config = receiver.config := by
  rw [poll_receiver, config_drain, config_fill]

/-- A poll takes events off the queue and the bytes that it read. -/
theorem poll_scans (receiver : Receiver) (source : σ) :
    Scans (receiver.queue.toList ++ receiver.received source) (receiver.poll source).2.1
      (receiver.poll source).2.2.1.queue.toList := by
  rw [← toList_fill, poll_events, poll_receiver]
  exact drain_scans _

end GroundStation.Receiver
