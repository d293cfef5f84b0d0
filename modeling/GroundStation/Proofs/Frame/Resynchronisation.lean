import Mathlib.Data.List.TakeWhile
import GroundStation.Proofs.Frame.Session

/-!
Frames in noise. The vehicle sends frames, and anything may stand before, between and behind them:
start bytes too, whose windows reach into the frames. As long as no window that starts in the noise
happens to carry a matching checksum, every frame is delivered, in order, and nothing else is.

The reason is `scan_noisy`: a window that starts in the noise fails and scanning resumes at the next
start byte, which lies at the frame behind the noise at the latest, because the frame itself begins
with one. Nothing in the argument needs bytes behind the frame, so each frame is delivered as soon
as its last byte is there (`messages_scan_take`).
-/

namespace GroundStation

namespace FrameEvent

def message? : FrameEvent → Option Message
  | .valid payload => some (.ofPayload payload)
  | .invalid .. => none

end FrameEvent

namespace Frame

def messages (events : List FrameEvent) : List Message :=
  events.filterMap FrameEvent.message?

/-- At `offset` there is a full window that opens with the start byte and carries the checksum of
its payload. -/
def FrameAt (bytes : List UInt8) (offset : Nat) : Prop :=
  (windowAt bytes offset).length = inboundSize ∧
    (windowAt bytes offset).head? = some startByte ∧
    Matches (windowField (windowAt bytes offset)) (windowPayload (windowAt bytes offset))

instance (bytes : List UInt8) (offset : Nat) : Decidable (FrameAt bytes offset) :=
  inferInstanceAs (Decidable (_ ∧ _ ∧ _))

/-- A window with a matching checksum is a frame. -/
theorem frameAt_zero_of_matches {field payload : List UInt8} (hfield : field.length = checksumSize)
    (hpayload : payload.length = inboundPayloadSize) (hmatch : Matches field payload)
    (rest : List UInt8) : FrameAt (startByte :: (field ++ payload ++ rest)) 0 := by
  unfold FrameAt
  rw [windowAt_zero hfield hpayload, windowField_cons hfield, windowPayload_cons hfield]
  exact ⟨length_window hfield hpayload, rfl, hmatch⟩

theorem frameAt_append_left (before bytes : List UInt8) (offset : Nat) :
    FrameAt (before ++ bytes) (before.length + offset) ↔ FrameAt bytes offset := by
  rw [FrameAt, windowAt_append_left, FrameAt]

theorem FrameAt.append_right {bytes : List UInt8} {offset : Nat} (h : FrameAt bytes offset)
    (later : List UInt8) : FrameAt (bytes ++ later) offset := by
  have hfull : inboundSize ≤ (bytes.drop offset).length := by
    have hlength := h.1
    rw [windowAt, List.length_take] at hlength
    omega
  have hinside : offset ≤ bytes.length := by
    rw [List.length_drop] at hfull
    simp only [inboundSize] at hfull
    omega
  have hwindow : windowAt (bytes ++ later) offset = windowAt bytes offset := by
    rw [windowAt, windowAt, List.drop_append_of_le_length hinside,
      List.take_append_of_le_length hfull]
  rwa [FrameAt, hwindow]

theorem FrameAt.lt_length {bytes : List UInt8} {offset : Nat} (h : FrameAt bytes offset) :
    offset < bytes.length := by
  have hlength := h.1
  simp only [windowAt, List.length_take, List.length_drop, inboundSize] at hlength
  omega

/-! ### Noise -/

/-- After a window in the noise, scanning resumes in the noise or at what is behind it. -/
private theorem exists_resume {noise rest field payload tail : List UInt8}
    (hwindow : noise ++ rest = field ++ payload ++ tail)
    (hmatch : ¬ Matches field payload) (hrest : rest = [] ∨ rest.head? = some startByte) :
    ∃ passed later, noise = passed ++ later ∧ unread field payload ++ tail = later ++ rest := by
  let passed := (field ++ payload).takeWhile (· ≠ startByte)
  have hpassed : startByte ∉ passed := by
    intro hmem
    simpa using List.mem_takeWhile_imp hmem
  have hcut : noise ++ rest = passed ++ (unread field payload ++ tail) := by
    rw [hwindow, unread, if_neg hmatch, ← List.append_assoc, List.takeWhile_append_dropWhile]
  rcases List.append_eq_append_iff.mp hcut with ⟨beyond, hbeyond, hhead⟩ | ⟨later, hlater, htail⟩
  · -- the bytes passed over would have to include the start byte behind the noise
    cases beyond with
    | nil =>
        refine ⟨noise, [], by simp, ?_⟩
        simpa using hhead.symm
    | cons byte more =>
        have hstart : byte = startByte := by
          rcases hrest with hnone | hsome
          · rw [hnone] at hhead
            cases hhead
          · rw [hhead] at hsome
            simpa using hsome
        refine absurd ?_ hpassed
        rw [hbeyond, hstart]
        simp
  · exact ⟨passed, later, hlater, htail⟩

/-- No window that starts in `noise`, with `rest` behind it, is a frame. -/
def CleanNoise (noise rest : List UInt8) : Prop :=
  ∀ offset < noise.length, ¬ FrameAt (noise ++ rest) offset

theorem CleanNoise.of_append (passed : List UInt8) {later rest : List UInt8}
    (h : CleanNoise (passed ++ later) rest) : CleanNoise later rest := by
  intro offset hoffset hframe
  refine h (passed.length + offset) ?_ ?_
  · rw [List.length_append]
    omega
  · rw [List.append_assoc, frameAt_append_left]
    exact hframe

theorem CleanNoise.take {noise rest : List UInt8} (h : CleanNoise noise rest) (count : Nat) :
    CleanNoise (noise.take count) (rest.take (count - noise.length)) := by
  intro offset hoffset hframe
  refine h offset (Nat.lt_of_lt_of_le hoffset (List.length_take_le' _ _)) ?_
  rw [← List.take_append] at hframe
  have hwhole := hframe.append_right ((noise ++ rest).drop count)
  rwa [List.take_append_drop] at hwhole

/-- Noise without a frame gives only invalid events, and scanning reaches what is behind it,
provided that this is nothing or opens with a start byte. The induction is on the length of the
noise, since an invalid window may leave any shorter end of it. -/
theorem scan_noisy {noise rest : List UInt8} (hclean : CleanNoise noise rest)
    (hrest : rest = [] ∨ rest.head? = some startByte) :
    ∃ events, scan (noise ++ rest) = events ++ scan rest ∧ messages events = [] := by
  induction hlength : noise.length using Nat.strongRecOn generalizing noise with
  | ind length ih =>
      cases noise with
      | nil => exact ⟨[], rfl, rfl⟩
      | cons byte more =>
          subst hlength
          by_cases hbyte : byte = startByte
          · subst hbyte
            by_cases hlong : inboundSize ≤ (more ++ rest).length + 1
            · obtain ⟨field, payload, tail, hwindow, hfield, hpayload⟩ := exists_window hlong
              have hmatch : ¬ Matches field payload := by
                intro hmatch
                refine hclean 0 (Nat.zero_lt_succ _) ?_
                rw [List.cons_append, hwindow]
                exact frameAt_zero_of_matches hfield hpayload hmatch tail
              obtain ⟨passed, later, rfl, hresume⟩ := exists_resume hwindow hmatch hrest
              have hcleanLater : CleanNoise later rest :=
                CleanNoise.of_append (startByte :: passed) hclean
              have hshorter : later.length < (startByte :: (passed ++ later)).length := by
                rw [List.length_cons, List.length_append]
                omega
              obtain ⟨events, hscan, hmessages⟩ := ih later.length hshorter hcleanLater rfl
              refine ⟨judge field payload :: events, ?_, ?_⟩
              · rw [List.cons_append, hwindow, scan_window hfield hpayload, hresume, hscan,
                  List.cons_append]
              · rw [judge_of_not_matches hmatch]
                exact hmessages
            · -- too few bytes for any window, from here or from `rest` on
              refine ⟨[], ?_, rfl⟩
              simp only [List.length_append] at hlong
              rw [scan_of_short, scan_of_short, List.append_nil]
              · omega
              · simp only [List.length_append, List.length_cons]
                omega
          · have hcleanMore : CleanNoise more rest := CleanNoise.of_append [byte] hclean
            obtain ⟨events, hscan, hmessages⟩ := ih more.length (by simp) hcleanMore rfl
            refine ⟨events, ?_, hmessages⟩
            rw [List.cons_append, scan_of_ne hbyte, hscan]

/-! ### Noise and frames in turn -/

structure Burst where
  noise : List UInt8
  message : Message

namespace Burst

def bytes (burst : Burst) : List UInt8 :=
  burst.noise ++ inbound burst.message

theorem length_bytes (burst : Burst) :
    burst.bytes.length = burst.noise.length + inboundSize := by
  rw [bytes, List.length_append, length_inbound]

end Burst

/-- What comes over the line: bursts, and noise behind the last frame. -/
def transmission (bursts : List Burst) (tail : List UInt8) : List UInt8 :=
  bursts.flatMap Burst.bytes ++ tail

theorem transmission_cons (burst : Burst) (bursts : List Burst) (tail : List UInt8) :
    transmission (burst :: bursts) tail = burst.bytes ++ transmission bursts tail := by
  simp [transmission]

/-- The byte of the stream at `offset` is noise. -/
def InNoise : List Burst → List UInt8 → Nat → Prop
  | [], tail, offset => offset < tail.length
  | burst :: bursts, tail, offset =>
    offset < burst.noise.length ∨
      burst.bytes.length ≤ offset ∧ InNoise bursts tail (offset - burst.bytes.length)

instance decidableInNoise : (bursts : List Burst) → (tail : List UInt8) → (offset : Nat) →
    Decidable (InNoise bursts tail offset)
  | [], tail, offset => inferInstanceAs (Decidable (offset < tail.length))
  | burst :: bursts, tail, offset =>
    have := decidableInNoise bursts tail (offset - burst.bytes.length)
    inferInstanceAs (Decidable (_ ∨ _ ∧ _))

/-- No window that starts in the noise of the stream is a frame. -/
def CleanTransmission (bursts : List Burst) (tail : List UInt8) : Prop :=
  ∀ offset, InNoise bursts tail offset → ¬ FrameAt (transmission bursts tail) offset

instance (bursts : List Burst) (tail : List UInt8) : Decidable (CleanTransmission bursts tail) :=
  decidable_of_iff
    (∀ offset < (transmission bursts tail).length,
      InNoise bursts tail offset → ¬ FrameAt (transmission bursts tail) offset)
    ⟨fun h offset hnoise hframe => h offset hframe.lt_length hnoise hframe,
      fun h offset _ => h offset⟩

theorem CleanTransmission.head {burst : Burst} {bursts : List Burst} {tail : List UInt8}
    (h : CleanTransmission (burst :: bursts) tail) :
    CleanNoise burst.noise (inbound burst.message ++ transmission bursts tail) := by
  intro offset hoffset hframe
  refine h offset (Or.inl hoffset) ?_
  rwa [transmission_cons, Burst.bytes, List.append_assoc]

theorem CleanTransmission.rest {burst : Burst} {bursts : List Burst} {tail : List UInt8}
    (h : CleanTransmission (burst :: bursts) tail) : CleanTransmission bursts tail := by
  intro offset hoffset hframe
  refine h (burst.bytes.length + offset) (Or.inr ⟨Nat.le_add_right _ _, ?_⟩) ?_
  · rwa [Nat.add_sub_cancel_left]
  · rwa [transmission_cons, frameAt_append_left]

/-- Each message with the number of bytes of the stream up to its last one. -/
def arrivals : List Burst → List (Nat × Message)
  | [] => []
  | burst :: bursts =>
    (burst.bytes.length, burst.message) ::
      (arrivals bursts).map fun arrival => (burst.bytes.length + arrival.1, arrival.2)

/-- The messages that have arrived in full with the first `count` bytes. -/
def arrivedBy (bursts : List Burst) (count : Nat) : List Message :=
  ((arrivals bursts).filter (·.1 ≤ count)).map Prod.snd

theorem arrivedBy_cons_of_lt {burst : Burst} (bursts : List Burst) {count : Nat}
    (hearly : count < burst.bytes.length) : arrivedBy (burst :: bursts) count = [] := by
  simp only [arrivedBy, arrivals, List.map_eq_nil_iff, List.filter_eq_nil_iff, List.mem_cons,
    List.mem_map, decide_eq_true_eq]
  rintro arrival (rfl | ⟨later, _, rfl⟩)
  · exact Nat.not_le_of_lt hearly
  · intro hle
    exact Nat.not_le_of_lt hearly (Nat.le_trans (Nat.le_add_right _ _) hle)

theorem arrivedBy_cons_of_le {burst : Burst} (bursts : List Burst) {count : Nat}
    (hwhole : burst.bytes.length ≤ count) :
    arrivedBy (burst :: bursts) count =
      burst.message :: arrivedBy bursts (count - burst.bytes.length) := by
  have hshift : ((fun arrival : Nat × Message => decide (arrival.1 ≤ count)) ∘
      fun arrival : Nat × Message => (burst.bytes.length + arrival.1, arrival.2)) =
      fun arrival : Nat × Message => decide (arrival.1 ≤ count - burst.bytes.length) := by
    funext arrival
    simp only [Function.comp_apply, decide_eq_decide]
    omega
  simp only [arrivedBy, arrivals, List.filter_cons, hwhole, decide_true, if_true, List.map_cons,
    List.filter_map, List.map_map, hshift]
  rfl

def arrivedWithin (bursts : List Burst) (before count : Nat) : List Message :=
  ((arrivals bursts).filter fun arrival => before < arrival.1 ∧ arrival.1 ≤ count).map Prod.snd

/-- Messages arrive in the order in which they are sent. -/
theorem sorted_arrivals (bursts : List Burst) :
    (arrivals bursts).Pairwise fun first second => first.1 ≤ second.1 := by
  induction bursts with
  | nil => exact List.Pairwise.nil
  | cons burst bursts ih =>
      refine List.Pairwise.cons ?_ ?_
      · intro arrival hmem
        obtain ⟨later, _, rfl⟩ := List.mem_map.mp hmem
        exact Nat.le_add_right _ _
      · rw [List.pairwise_map]
        exact ih.imp fun hle => Nat.add_le_add_left hle _

private theorem filter_le_eq_append {list : List (Nat × Message)}
    (hsorted : list.Pairwise fun first second => first.1 ≤ second.1) {before count : Nat}
    (hle : before ≤ count) :
    list.filter (·.1 ≤ count) =
      list.filter (·.1 ≤ before) ++
        list.filter fun arrival => before < arrival.1 ∧ arrival.1 ≤ count := by
  induction list with
  | nil => rfl
  | cons arrival later ih =>
      obtain ⟨hfirst, hlater⟩ := List.pairwise_cons.mp hsorted
      by_cases hbefore : arrival.1 ≤ before
      · have hcount : arrival.1 ≤ count := Nat.le_trans hbefore hle
        simp [hbefore, hcount, Nat.not_lt_of_le hbefore, ih hlater]
      · -- from here on everything comes behind the first `before` bytes
        have hafter : ∀ other ∈ arrival :: later, before < other.1 := by
          intro other hother
          rcases List.mem_cons.mp hother with rfl | hmem
          · exact Nat.lt_of_not_le hbefore
          · exact Nat.lt_of_lt_of_le (Nat.lt_of_not_le hbefore) (hfirst other hmem)
        have hnone : (arrival :: later).filter (·.1 ≤ before) = [] := by
          rw [List.filter_eq_nil_iff]
          intro other hother
          simpa using hafter other hother
        rw [hnone, List.nil_append]
        apply List.filter_congr
        intro other hother
        simp [hafter other hother]

/-- Messages arrive in the order in which they were sent. -/
theorem arrivedBy_eq_append (bursts : List Burst) {before count : Nat} (hle : before ≤ count) :
    arrivedBy bursts count = arrivedBy bursts before ++ arrivedWithin bursts before count := by
  rw [arrivedBy, arrivedBy, arrivedWithin, ← List.map_append,
    filter_le_eq_append (sorted_arrivals bursts) hle]

/-- At the end all messages have arrived. -/
theorem arrivedBy_length_transmission (bursts : List Burst) (tail : List UInt8) :
    arrivedBy bursts (transmission bursts tail).length = bursts.map Burst.message := by
  induction bursts with
  | nil => rfl
  | cons burst bursts ih =>
      rw [transmission_cons, List.length_append, arrivedBy_cons_of_le bursts (Nat.le_add_right _ _),
        Nat.add_sub_cancel_left, ih, List.map_cons]

@[simp] theorem messages_append (first second : List FrameEvent) :
    messages (first ++ second) = messages first ++ messages second :=
  List.filterMap_append

theorem messages_valid_cons (message : Message) (events : List FrameEvent) :
    messages (.valid message.payload :: events) = message :: messages events := by
  rw [messages, List.filterMap_cons_some (b := message)]
  · rfl
  · rw [FrameEvent.message?, Message.ofPayload_payload]

/-- Nothing is delivered before a window behind the noise is there in full. -/
theorem messages_scan_take_noise {noise rest : List UInt8} (hclean : CleanNoise noise rest)
    (hrest : rest = [] ∨ rest.head? = some startByte) (count : Nat)
    (hshort : (rest.take (count - noise.length)).length < inboundSize) :
    messages (scan ((noise ++ rest).take count)) = [] := by
  have hrestTaken : rest.take (count - noise.length) = [] ∨
      (rest.take (count - noise.length)).head? = some startByte := by
    rcases hrest with hnone | hsome
    · left
      rw [hnone, List.take_nil]
    · cases count - noise.length with
      | zero => exact Or.inl rfl
      | succ more =>
          right
          rw [List.head?_take, if_neg (Nat.succ_ne_zero more)]
          exact hsome
  obtain ⟨events, hscan, hmessages⟩ := scan_noisy (hclean.take count) hrestTaken
  rw [List.take_append, hscan, scan_of_short hshort, List.append_nil, hmessages]

/-- With the first `count` bytes of a clean stream exactly the messages are delivered that have
arrived in full. -/
theorem messages_scan_take {bursts : List Burst} {tail : List UInt8}
    (hclean : CleanTransmission bursts tail) (count : Nat) :
    messages (scan ((transmission bursts tail).take count)) = arrivedBy bursts count := by
  induction bursts generalizing count with
  | nil =>
      have hcleanTail : CleanNoise tail [] := by
        intro offset hoffset hframe
        refine hclean offset hoffset ?_
        rwa [List.append_nil] at hframe
      have hnothing : (([] : List UInt8).take (count - tail.length)).length < inboundSize := by
        rw [List.take_nil]
        decide
      have hnone := messages_scan_take_noise hcleanTail (Or.inl rfl) count hnothing
      rwa [List.append_nil] at hnone
  | cons burst bursts ih =>
      have hlength := burst.length_bytes
      have hhead : (inbound burst.message ++ transmission bursts tail).head? = some startByte := rfl
      rw [transmission_cons, Burst.bytes, List.append_assoc]
      by_cases hwhole : burst.bytes.length ≤ count
      · have hframe : (inbound burst.message ++ transmission bursts tail).take
              (count - burst.noise.length) =
            inbound burst.message ++
              (transmission bursts tail).take (count - burst.bytes.length) := by
          rw [List.take_append, length_inbound, List.take_of_length_le, hlength, Nat.sub_add_eq]
          rw [length_inbound]
          omega
        have hcleanNoise := hclean.head.take count
        rw [List.take_of_length_le (by omega), hframe] at hcleanNoise
        obtain ⟨events, hscan, hmessages⟩ := scan_noisy hcleanNoise (Or.inr rfl)
        rw [List.take_append, List.take_of_length_le (by omega), hframe, hscan, messages_append,
          hmessages, scan_inbound, messages_valid_cons, ih hclean.rest,
          arrivedBy_cons_of_le bursts hwhole, List.nil_append]
      · rw [arrivedBy_cons_of_lt bursts (Nat.lt_of_not_le hwhole)]
        apply messages_scan_take_noise hclean.head (Or.inr hhead)
        have hpositive : 0 < inboundSize := by decide
        rw [List.length_take]
        omega

/-- Among noise without start bytes, the scan finds exactly the messages. -/
theorem scan_transmission_of_quiet {bursts : List Burst} {tail : List UInt8}
    (hquiet : ∀ burst ∈ bursts, startByte ∉ burst.noise) (htail : startByte ∉ tail) :
    scan (transmission bursts tail) = bursts.map fun burst => .valid burst.message.payload := by
  induction bursts with
  | nil => exact scan_of_noise htail
  | cons burst bursts ih =>
      have hnoise := hquiet burst List.mem_cons_self
      have hrest : ∀ other ∈ bursts, startByte ∉ other.noise := by
        intro other hother
        exact hquiet other (List.mem_cons_of_mem burst hother)
      rw [transmission_cons, Burst.bytes, List.append_assoc, scan_noise_append hnoise, scan_inbound,
        ih hrest, List.map_cons]

end Frame

namespace Receiver.Session

open GroundStation.Frame

def feed (chunks : List (List UInt8)) : List (Call Line) :=
  chunks.flatMap fun chunk => [.push chunk, .drain]

/-- Every chunk finds room when it is offered. -/
def AcceptsAll (session : Session) : List (List UInt8) → Prop
  | [] => True
  | chunk :: chunks =>
    (session.receiver.push chunk).1 = chunk.length ∧
      AcceptsAll (session.run (feed [chunk])) chunks

instance decidableAcceptsAll : (session : Session) → (chunks : List (List UInt8)) →
    Decidable (session.AcceptsAll chunks)
  | _, [] => inferInstanceAs (Decidable True)
  | session, chunk :: chunks =>
    have := decidableAcceptsAll (session.run (feed [chunk])) chunks
    inferInstanceAs (Decidable (_ ∧ _))

theorem feed_append (earlier later : List (List UInt8)) :
    feed (earlier ++ later) = feed earlier ++ feed later :=
  List.flatMap_append

theorem AcceptsAll.of_append {session : Session} {earlier later : List (List UInt8)}
    (h : session.AcceptsAll (earlier ++ later)) : session.AcceptsAll earlier := by
  induction earlier generalizing session with
  | nil => exact trivial
  | cons chunk earlier ih => exact ⟨h.1, ih h.2⟩

/-- The session has accepted all bytes that it was fed. -/
theorem accepted_feed {session : Session} {chunks : List (List UInt8)}
    (h : session.AcceptsAll chunks) :
    (session.run (feed chunks)).accepted = session.accepted ++ chunks.flatten := by
  induction chunks generalizing session with
  | nil => simp [feed, run]
  | cons chunk chunks ih =>
      obtain ⟨hchunk, hchunks⟩ := h
      have hfirst : (session.run (feed [chunk])).accepted = session.accepted ++ chunk := by
        change session.accepted ++ chunk.take (session.receiver.push chunk).1 = _
        rw [hchunk, List.take_length]
      have hcut : feed (chunk :: chunks) = feed [chunk] ++ feed chunks := feed_append [chunk] chunks
      rw [hcut, run_append, ih hchunks, hfirst, List.flatten_cons, List.append_assoc]

/-- The session has emitted what a scan of all these bytes finds. -/
theorem emitted_feed {config : Config} (hunlimited : config.maxFramesPerPoll = none)
    {chunks : List (List UInt8)} (h : (start config).AcceptsAll chunks) :
    ((start config).run (feed chunks)).emitted = scan chunks.flatten := by
  have haccepted := accepted_feed h
  rcases List.eq_nil_or_concat' chunks with rfl | ⟨earlier, chunk, rfl⟩
  · exact (scan_of_noise List.not_mem_nil).symm
  · have hcut : feed (earlier ++ [chunk]) = (feed earlier ++ [.push chunk]) ++ [.drain] := by
      rw [feed_append, List.append_assoc]
      rfl
    have hdrains : (Call.drain : Call Line).drains = true := rfl
    have hscan := emitted_eq_scan hunlimited (feed earlier ++ [.push chunk]) hdrains
    rw [← hcut, haccepted] at hscan
    exact hscan

/-- At any time the session has emitted the messages that have arrived. -/
theorem messages_emitted_feed {config : Config} (hunlimited : config.maxFramesPerPoll = none)
    {bursts : List Burst} {tail : List UInt8} (hclean : CleanTransmission bursts tail)
    (earlier later : List (List UInt8))
    (hstream : (earlier ++ later).flatten = transmission bursts tail)
    (haccepts : (start config).AcceptsAll (earlier ++ later)) :
    messages ((start config).run (feed earlier)).emitted =
      arrivedBy bursts earlier.flatten.length := by
  have hprefix : earlier.flatten = (transmission bursts tail).take earlier.flatten.length := by
    rw [← hstream, List.flatten_append, List.take_left]
  rw [emitted_feed hunlimited haccepts.of_append, hprefix, messages_scan_take hclean, ← hprefix]

/-- Frames in noise are delivered. Let any messages be sent as frames with any bytes before, between
and behind them, such that no window that starts in these bytes is a frame. However the stream is
cut into chunks, as long as every chunk finds room and is followed by a drain without a limit, the
valid events carry exactly the messages in their order, each drain delivers those whose last byte
came with its chunk, and there are only valid events if no start byte stands outside the frames. -/
theorem feed_delivers_messages (config : Config) (hunlimited : config.maxFramesPerPoll = none)
    (bursts : List Burst) (tail : List UInt8) (hclean : CleanTransmission bursts tail)
    (chunks : List (List UInt8)) (hstream : chunks.flatten = transmission bursts tail)
    (haccepts : (start config).AcceptsAll chunks) :
    messages ((start config).run (feed chunks)).emitted = bursts.map Burst.message ∧
    (∀ earlier chunk later, chunks = earlier ++ chunk :: later →
      messages (((start config).run (feed earlier)).receiver.push chunk).2.drain.1 =
        arrivedWithin bursts earlier.flatten.length (earlier.flatten.length + chunk.length)) ∧
    ((∀ burst ∈ bursts, startByte ∉ burst.noise) → startByte ∉ tail →
      ∀ event ∈ ((start config).run (feed chunks)).emitted, ∃ payload, event = .valid payload) := by
  refine ⟨?_, ?_, ?_⟩
  · rw [← List.append_nil chunks] at hstream haccepts
    rw [messages_emitted_feed hunlimited hclean chunks [] hstream haccepts]
    rw [List.append_nil] at hstream
    rw [hstream, arrivedBy_length_transmission]
  · intro earlier chunk later hchunks
    have hjoin : (earlier ++ [chunk]) ++ later = chunks := by
      rw [hchunks, List.append_assoc, List.singleton_append]
    have hbefore := messages_emitted_feed hunlimited hclean earlier (chunk :: later)
      (by rw [← hchunks, hstream]) (by rwa [← hchunks])
    have hafter := messages_emitted_feed hunlimited hclean (earlier ++ [chunk]) later
      (by rw [hjoin, hstream]) (by rwa [hjoin])
    have hbatch : ((start config).run (feed (earlier ++ [chunk]))).emitted =
        ((start config).run (feed earlier)).emitted ++
          (((start config).run (feed earlier)).receiver.push chunk).2.drain.1 := by
      rw [feed_append, run_append]
      rfl
    rw [hbatch, messages_append, hbefore, List.flatten_append, List.flatten_singleton,
      List.length_append, arrivedBy_eq_append bursts (Nat.le_add_right _ chunk.length)] at hafter
    exact List.append_cancel_left hafter
  · intro hquiet htail event hevent
    rw [emitted_feed hunlimited haccepts, hstream,
      scan_transmission_of_quiet hquiet htail] at hevent
    obtain ⟨burst, _, rfl⟩ := List.mem_map.mp hevent
    exact ⟨_, rfl⟩

/-- Two frames, the first behind two false start bytes and with more of them inside, come in three
chunks that cut through both frames. -/
theorem feed_delivers_messages_two_frames :
    let bursts : List Burst := [⟨[0xFF, 1, 0xFF], ⟨0x305, 0xFF00⟩⟩, ⟨[], ⟨0xFFFFFFFF, 7⟩⟩]
    let sent := transmission bursts [0xFF, 2]
    let chunks := [sent.take 10, (sent.drop 10).take 10, sent.drop 20]
    CleanTransmission bursts [0xFF, 2] ∧ (start {}).AcceptsAll chunks ∧
      messages ((start {}).run (feed chunks)).emitted = bursts.map Burst.message ∧
      messages (((start {}).run (feed [sent.take 10])).receiver.push
        ((sent.drop 10).take 10)).2.drain.1 = [⟨0x305, 0xFF00⟩] := by
  intro bursts sent chunks
  have hclean : CleanTransmission bursts [0xFF, 2] := by decide +kernel +revert
  have hstream : chunks.flatten = sent := by decide +kernel +revert
  have haccepts : (start {}).AcceptsAll chunks := by decide +kernel +revert
  have harrived : arrivedWithin bursts [sent.take 10].flatten.length
      ([sent.take 10].flatten.length + ((sent.drop 10).take 10).length) = [⟨0x305, 0xFF00⟩] := by
    decide +kernel +revert
  obtain ⟨hall, hbatch, _⟩ := feed_delivers_messages {} rfl bursts _ hclean chunks hstream haccepts
  refine ⟨hclean, haccepts, hall, ?_⟩
  rw [hbatch [sent.take 10] _ [sent.drop 20] rfl, harrived]

end Receiver.Session

end GroundStation
