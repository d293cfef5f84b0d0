import GroundStation.Line
import GroundStation.Proofs.Frame.Receiving

/-!
Polling a line that does not fail. With a noise limit below the capacity of the queue, every poll
leaves room behind it, because a look at a full queue always removes something; so the next poll
reads, and the line runs empty. What is then delivered is the scan of all bytes that were held or
waiting at the start. With a larger limit a queue full of noise is a trap: nothing is removed, so
nothing is read.
-/

namespace GroundStation

namespace Receiver

open GroundStation.Frame

/-- After a look there is room for a byte, if noise is dropped in time. -/
theorem Look.free_pos {receiver after : Receiver} {event : Option FrameEvent}
    (look : Look receiver event after) (hlimit : receiver.config.noiseLimit < ByteQueue.capacity) :
    0 < after.queue.free := by
  have hbound : receiver.queue.size ≤ 256 := receiver.queue.size_le
  suffices hsize : after.queue.size < ByteQueue.capacity from Nat.sub_pos_of_lt hsize
  simp only [ByteQueue.capacity] at hlimit ⊢
  cases look with
  | few hfew =>
      simp only [inboundSize, checksumSize, inboundPayloadSize] at hfew
      omega
  | noiseKept _ hkept => omega
  | noiseDropped =>
      change (receiver.queue.drop receiver.queue.size).size < 256
      rw [ByteQueue.size_drop]
      omega
  | @lateKept noise rest hbytes _ hlate hroom =>
      rcases hroom with hfree | rfl
      · exact Nat.lt_of_sub_pos hfree
      · have hsize : receiver.queue.size = rest.length + 1 := by
          rw [← ByteQueue.length_toList, hbytes, List.nil_append, List.length_cons]
        simp only [inboundSize, checksumSize, inboundPayloadSize] at hlate
        omega
  | @lateTrimmed noise rest hbytes _ _ _ hsome =>
      have hpositive := List.length_pos_iff.mpr hsome
      change (receiver.queue.drop noise.length).size < 256
      rw [ByteQueue.size_drop]
      omega
  | valid held hmatch =>
      have hless := (Look.valid held hmatch).size_lt
      omega
  | invalid held hmatch =>
      have hless := (Look.invalid held hmatch).size_lt
      omega

theorem take_free_pos {limit : Nat} {receiver : Receiver}
    (hlimit : receiver.config.noiseLimit < ByteQueue.capacity)
    (hstart : 0 < limit ∨ 0 < receiver.queue.free) :
    0 < (receiver.take limit).2.queue.free := by
  revert hlimit hstart
  apply take_induction (motive := fun limit before _ after =>
    before.config.noiseLimit < ByteQueue.capacity → 0 < limit ∨ 0 < before.queue.free →
      0 < after.queue.free)
  · intro receiver _ hstart
    rcases hstart with habsurd | hroom
    · cases habsurd
    · exact hroom
  · intro limit receiver after look hlimit _
    exact look.free_pos hlimit
  · intro limit receiver event after events final look ih hlimit _
    rw [← look.config_eq] at hlimit
    exact ih hlimit (Or.inr (look.free_pos (by rwa [← look.config_eq])))

/-- After a drain that may take a frame there is room for a byte. -/
theorem drain_free_pos {receiver : Receiver}
    (hlimit : receiver.config.noiseLimit < ByteQueue.capacity)
    (hsome : receiver.config.maxFramesPerPoll ≠ some 0) : 0 < receiver.drain.2.queue.free := by
  apply take_free_pos hlimit
  cases hmax : receiver.config.maxFramesPerPoll with
  | none =>
      rw [Option.getD_none]
      simp only [ByteQueue.free, ByteQueue.capacity]
      omega
  | some limit =>
      left
      rw [Option.getD_some]
      apply Nat.pos_of_ne_zero
      rintro rfl
      exact hsome hmax

/-- A drain that may look at all and delivers nothing leaves nothing to deliver. -/
theorem scan_drain_of_nil {receiver : Receiver}
    (hsome : receiver.config.maxFramesPerPoll ≠ some 0) (hnil : receiver.drain.1 = []) :
    scan receiver.drain.2.queue.toList = [] := by
  cases hmax : receiver.config.maxFramesPerPoll with
  | none => exact scan_drain_of_unlimited hmax
  | some limit =>
      apply scan_take_of_length_lt
      change receiver.drain.1.length < _
      rw [hnil, hmax, Option.getD_some]
      apply Nat.pos_of_ne_zero
      rintro rfl
      exact hsome hmax

variable {σ ε : Type} [ByteSource σ ε]

theorem poll_free_pos {receiver : Receiver}
    (hlimit : receiver.config.noiseLimit < ByteQueue.capacity)
    (hsome : receiver.config.maxFramesPerPoll ≠ some 0) (source : σ) :
    0 < (receiver.poll source).2.2.1.queue.free := by
  rw [poll_receiver]
  exact drain_free_pos (by rwa [config_fill]) (by rwa [config_fill])

end Receiver

def Line.Reliable (line : Line) : Prop :=
  line.failAvailable = 0 ∧ line.failRead = 0

instance (line : Line) : Decidable line.Reliable :=
  inferInstanceAs (Decidable (_ ∧ _))

namespace Receiver

/-- A reliable line fills the queue as far as there is room. -/
theorem fill_of_reliable {line : Line} (hline : line.Reliable) (receiver : Receiver) :
    receiver.fill line =
      (.ok (), (receiver.push (line.inbound.take receiver.queue.free)).2,
        { line with inbound := line.inbound.drop receiver.queue.free }) := by
  obtain ⟨hfailAvailable, hfailRead⟩ := hline
  have havailable : ByteSource.available line = (.ok line.inbound.length, line) := by
    change line.available = _
    rw [Line.available, hfailAvailable, Line.pending]
  have hread (count : Nat) : ByteSource.read count line =
      (.ok (line.inbound.take count), { line with inbound := line.inbound.drop count }) := by
    change line.read count = _
    rw [Line.read, hfailRead]
  unfold fill
  simp only [havailable, hread]
  by_cases hwanted : min line.inbound.length receiver.queue.free = 0
  · have htake : line.inbound.take receiver.queue.free = [] := by
      rw [← List.length_eq_zero_iff, List.length_take]
      omega
    have hdrop : line.inbound.drop receiver.queue.free = line.inbound := by
      have hjoin := List.take_append_drop receiver.queue.free line.inbound
      rwa [htake, List.nil_append] at hjoin
    rw [if_pos hwanted, htake, hdrop, receiver.push_nil]
  · have htake : line.inbound.take (min line.inbound.length receiver.queue.free) =
        line.inbound.take receiver.queue.free := by
      rw [List.take_eq_take_iff]
      omega
    have hdrop : line.inbound.drop (min line.inbound.length receiver.queue.free) =
        line.inbound.drop receiver.queue.free := by
      rw [List.drop_eq_drop_iff]
      omega
    rw [if_neg hwanted, List.take_take, Nat.min_self, htake, hdrop]

end Receiver

structure Polling where
  receiver : Receiver
  line : Line
  delivered : List FrameEvent := []

namespace Polling

open GroundStation.Frame

def poll (polling : Polling) : Polling :=
  let (_, events, receiver, line) := polling.receiver.poll polling.line
  { receiver, line, delivered := polling.delivered ++ events }

def result (polling : Polling) : Except IoFault Nat :=
  (polling.receiver.poll polling.line).1

def polls (polling : Polling) : Nat → Polling
  | 0 => polling
  | count + 1 => (polling.polls count).poll

theorem polls_poll (polling : Polling) (count : Nat) :
    polling.poll.polls count = polling.polls (count + 1) := by
  induction count with
  | zero => rfl
  | succ count ih => exact congrArg poll ih

theorem polls_add (polling : Polling) (first second : Nat) :
    polling.polls (first + second) = (polling.polls first).polls second := by
  induction second with
  | zero => rfl
  | succ second ih => exact congrArg poll ih

/-- The line does not fail, the receiver may look at its queue, and its noise limit is below the
capacity of the queue. -/
structure Healthy (polling : Polling) : Prop where
  reliable : polling.line.Reliable
  looks : polling.receiver.config.maxFramesPerPoll ≠ some 0
  limited : polling.receiver.config.noiseLimit < ByteQueue.capacity

theorem poll_line {polling : Polling} (hline : polling.line.Reliable) :
    polling.poll.line =
      { polling.line with
        inbound := polling.line.inbound.drop polling.receiver.queue.free } := by
  change (polling.receiver.fill polling.line).2.2 = _
  rw [Receiver.fill_of_reliable hline]

theorem result_eq {polling : Polling} (hline : polling.line.Reliable) :
    polling.result = .ok (polling.receiver.poll polling.line).2.1.length := by
  change (polling.receiver.fill polling.line).1.map _ = _
  rw [Receiver.fill_of_reliable hline]
  rfl

/-- A poll keeps the polling healthy. -/
theorem Healthy.poll {polling : Polling} (h : polling.Healthy) : polling.poll.Healthy := by
  have hconfig : polling.poll.receiver.config = polling.receiver.config :=
    polling.receiver.config_poll polling.line
  refine ⟨?_, ?_, ?_⟩
  · rw [poll_line h.reliable]
    exact h.reliable
  · rw [hconfig]
    exact h.looks
  · rw [hconfig]
    exact h.limited

theorem Healthy.polls {polling : Polling} (h : polling.Healthy) (count : Nat) :
    (polling.polls count).Healthy := by
  induction count with
  | zero => exact h
  | succ count ih => exact ih.poll

/-! ### The line runs empty -/

theorem Healthy.free_pos {polling : Polling} (h : polling.Healthy) :
    0 < polling.poll.receiver.queue.free :=
  Receiver.poll_free_pos h.limited h.looks polling.line

theorem pending_poll {polling : Polling} (hline : polling.line.Reliable) :
    polling.poll.line.pending = polling.line.pending - polling.receiver.queue.free := by
  rw [poll_line hline, Line.pending, List.length_drop, Line.pending]

/-- From the second poll on, each takes at least one byte off the line. The poll before has left
room, so the next one reads a byte if one waits. -/
theorem Healthy.pending_polls_succ_le {polling : Polling} (h : polling.Healthy) (count : Nat) :
    (polling.polls (count + 1)).line.pending ≤ polling.line.pending - count := by
  induction count with
  | zero =>
      have hpending := pending_poll h.reliable
      change polling.poll.line.pending ≤ _
      omega
  | succ count ih =>
      have hroom := (h.polls count).free_pos
      have hpending := pending_poll (h.polls (count + 1)).reliable
      change 0 < (polling.polls (count + 1)).receiver.queue.free at hroom
      change (polling.polls (count + 1)).poll.line.pending ≤ _
      omega

/-- After enough polls the line is empty. -/
theorem Healthy.pending_polls_eq_zero {polling : Polling} (h : polling.Healthy) {count : Nat}
    (hcount : polling.line.pending + 1 ≤ count) : (polling.polls count).line.pending = 0 := by
  obtain ⟨more, rfl⟩ := Nat.exists_eq_add_of_le' hcount
  have hle := h.pending_polls_succ_le (more + polling.line.pending)
  rw [Nat.add_assoc] at hle
  omega

/-! ### Nothing is lost on the way -/

/-- Scanning `bytes` delivers the events so far and stops before the bytes that are held or wait. -/
def Accounts (bytes : List UInt8) (polling : Polling) : Prop :=
  Scans bytes polling.delivered (polling.receiver.queue.toList ++ polling.line.inbound)

/-- A poll accounts for the bytes that it takes. -/
theorem Accounts.poll {bytes : List UInt8} {polling : Polling} (h : polling.Accounts bytes)
    (hline : polling.line.Reliable) : polling.poll.Accounts bytes := by
  have hfilled : (polling.receiver.fill polling.line).2.1.queue.toList =
      polling.receiver.queue.toList ++
        polling.line.inbound.take polling.receiver.queue.free := by
    rw [Receiver.fill_of_reliable hline, Receiver.toList_push, List.take_take, Nat.min_self]
  have hdrain := (polling.receiver.fill polling.line).2.1.drain_scans
  rw [hfilled] at hdrain
  have hpoll := hdrain.append_right (polling.line.inbound.drop polling.receiver.queue.free)
  rw [List.append_assoc, List.take_append_drop] at hpoll
  unfold Accounts
  rw [poll_line hline]
  exact h.trans hpoll

theorem Accounts.polls {bytes : List UInt8} {polling : Polling} (h : polling.Accounts bytes)
    (healthy : polling.Healthy) (count : Nat) : (polling.polls count).Accounts bytes := by
  induction count with
  | zero => exact h
  | succ count ih => exact ih.poll (healthy.polls count).reliable

def Idle (polling : Polling) : Prop :=
  polling.result = .ok 0 ∧ polling.poll.line.pending = 0

/-- Once the polling is idle, it has delivered what a scan of all bytes finds. -/
theorem Accounts.delivered_eq_scan {bytes : List UInt8} {polling : Polling}
    (h : polling.Accounts bytes) (healthy : polling.Healthy) (hidle : polling.Idle) :
    polling.poll.delivered = scan bytes := by
  obtain ⟨hresult, hpending⟩ := hidle
  have hnil : (polling.receiver.fill polling.line).2.1.drain.1 = [] := by
    rw [result_eq healthy.reliable] at hresult
    exact List.length_eq_zero_iff.mp (Except.ok.inj hresult)
  have hempty : polling.poll.line.inbound = [] := List.length_eq_zero_iff.mp hpending
  have hnothing : scan polling.poll.receiver.queue.toList = [] := by
    apply Receiver.scan_drain_of_nil _ hnil
    rw [Receiver.config_fill]
    exact healthy.looks
  have hscan := (h.poll healthy.reliable).scan_eq
  rw [hempty, List.append_nil, hnothing, List.append_nil] at hscan
  exact hscan.symm

/-- With nothing on the line, the polling is idle after at most as many polls as there are bytes in
the queue. With nothing to read, a poll that delivers takes some of them away. -/
theorem Healthy.exists_idle {polling : Polling} (h : polling.Healthy)
    (hpending : polling.line.pending = 0) :
    ∃ count ≤ polling.receiver.queue.size, (polling.polls count).Idle := by
  induction hsize : polling.receiver.queue.size using Nat.strongRecOn generalizing polling with
  | ind size ih =>
      have hpendingPoll : polling.poll.line.pending = 0 := by
        rw [pending_poll h.reliable, hpending, Nat.zero_sub]
      have hfilled : (polling.receiver.fill polling.line).2.1 = polling.receiver := by
        rw [Receiver.fill_of_reliable h.reliable, List.length_eq_zero_iff.mp hpending,
          List.take_nil, Receiver.push_nil]
      have hresult := result_eq h.reliable
      rw [Receiver.poll_events, hfilled] at hresult
      cases hevents : polling.receiver.drain.1 with
      | nil =>
          rw [hevents] at hresult
          exact ⟨0, Nat.zero_le _, hresult, hpendingPoll⟩
      | cons event events =>
          have hless : polling.poll.receiver.queue.size < size := by
            have hbound := polling.receiver.length_drain_add_size_le
            change (polling.receiver.fill polling.line).2.1.drain.2.queue.size < size
            rw [hevents, List.length_cons] at hbound
            rw [hfilled]
            omega
          obtain ⟨count, hcount, hidle⟩ := ih _ hless h.poll hpendingPoll rfl
          rw [polls_poll] at hidle
          exact ⟨count + 1, by omega, hidle⟩

/-! ### The trap -/

/-- The queue is full of noise that the receiver keeps. -/
structure Trapped (receiver : Receiver) : Prop where
  kept : ByteQueue.capacity ≤ receiver.config.noiseLimit
  full : receiver.queue.size = ByteQueue.capacity
  noise : startByte ∉ receiver.queue.toList

namespace Trapped

variable {receiver : Receiver}

/-- A trapped receiver finds nothing and drops nothing. Every other way out of a look asks for a
start byte or for less noise than is held. -/
theorem look_eq {after : Receiver} {event : Option FrameEvent} (h : Trapped receiver)
    (look : Receiver.Look receiver event after) : event = none ∧ after = receiver := by
  have hfull := h.full
  have hkept := h.kept
  have hnoStart {noise rest : List UInt8}
      (hbytes : receiver.queue.toList = noise ++ startByte :: rest) : False := by
    apply h.noise
    rw [hbytes]
    exact List.mem_append_right noise List.mem_cons_self
  cases look with
  | few hfew =>
      rw [hfull] at hfew
      exact absurd hfew (by decide)
  | noiseKept => exact ⟨rfl, rfl⟩
  | noiseDropped _ hlimit => omega
  | lateKept hbytes => exact (hnoStart hbytes).elim
  | lateTrimmed hbytes => exact (hnoStart hbytes).elim
  | valid held => exact (hnoStart held.toList_eq).elim
  | invalid held => exact (hnoStart held.toList_eq).elim

theorem drain_eq (h : Trapped receiver) : receiver.drain = ([], receiver) := by
  suffices hboth : receiver.drain.1 = [] ∧ receiver.drain.2 = receiver from Prod.ext hboth.1 hboth.2
  revert h
  apply Receiver.take_induction (motive := fun _ before events after =>
    Trapped before → events = [] ∧ after = before)
  · intro receiver _
    exact ⟨rfl, rfl⟩
  · intro limit receiver after look h
    exact ⟨rfl, (h.look_eq look).2⟩
  · intro limit receiver event after events final look _ h
    cases (h.look_eq look).1

end Trapped

theorem poll_of_trapped {polling : Polling} (h : Trapped polling.receiver)
    (hline : polling.line.Reliable) : polling.poll = polling := by
  have hfree : polling.receiver.queue.free = 0 := by
    rw [ByteQueue.free, h.full, Nat.sub_self]
  have hfill : polling.receiver.fill polling.line = (.ok (), polling.receiver, polling.line) := by
    rw [Receiver.fill_of_reliable hline, hfree, List.take_zero, List.drop_zero, Receiver.push_nil]
  unfold poll Receiver.poll
  simp only [hfill, h.drain_eq, List.append_nil]

/-- A trapped receiver stays as it is, however often it is polled. -/
theorem polls_of_trapped {polling : Polling} (h : Trapped polling.receiver)
    (hline : polling.line.Reliable) (count : Nat) : polling.polls count = polling := by
  induction count with
  | zero => rfl
  | succ count ih =>
      rw [polls, ih]
      exact poll_of_trapped h hline

/-- Let the noise limit be at most 255 and the number of events per poll not be limited to zero.
Then, whatever the receiver holds and however many bytes wait on the line, every poll leaves room in
the queue; one poll more than there are waiting bytes empties the line; and polling on comes to a
poll that returns zero with nothing waiting, by which time exactly the scan of the bytes held and
waiting at the start has been delivered. With a larger noise limit, a queue full of noise never
changes again. -/
theorem polls_empty_line :
    (∀ (receiver : Receiver) (line : Line), receiver.config.noiseLimit ≤ 255 →
      receiver.config.maxFramesPerPoll ≠ some 0 → line.Reliable →
      let polling : Polling := { receiver, line }
      (∀ count, 0 < (polling.polls (count + 1)).receiver.queue.free) ∧
      (∀ count, line.pending + 1 ≤ count → (polling.polls count).line.pending = 0) ∧
      (∃ count ≤ line.pending + 256, (polling.polls count).Idle) ∧
      ∀ count, (polling.polls count).Idle →
        (polling.polls (count + 1)).delivered = scan (receiver.queue.toList ++ line.inbound)) ∧
    ∀ (receiver : Receiver) (line : Line), 256 ≤ receiver.config.noiseLimit → line.Reliable →
      receiver.queue.size = 256 → startByte ∉ receiver.queue.toList →
      let polling : Polling := { receiver, line }
      ∀ count, polling.polls count = polling := by
  constructor
  · intro receiver line hlimit hlooks hline polling
    have healthy : polling.Healthy := ⟨hline, hlooks, Nat.lt_succ_of_le hlimit⟩
    have haccounts : polling.Accounts (receiver.queue.toList ++ line.inbound) := .stop _
    refine ⟨?_, ?_, ?_, ?_⟩
    · intro count
      exact (healthy.polls count).free_pos
    · intro count hcount
      exact healthy.pending_polls_eq_zero hcount
    · have hempty := healthy.pending_polls_eq_zero (Nat.le_refl (line.pending + 1))
      have hroom := (healthy.polls line.pending).free_pos
      obtain ⟨more, hmore, hidle⟩ := (healthy.polls (line.pending + 1)).exists_idle hempty
      rw [← polls_add] at hidle
      refine ⟨line.pending + 1 + more, ?_, hidle⟩
      change 0 < (polling.polls (line.pending + 1)).receiver.queue.free at hroom
      simp only [ByteQueue.free, ByteQueue.capacity] at hroom
      omega
    · intro count hidle
      exact (haccounts.polls healthy count).delivered_eq_scan (healthy.polls count) hidle
  · intro receiver line hkept hline hfull hnoise polling count
    have htrapped : Trapped polling.receiver := ⟨hkept, hfull, hnoise⟩
    exact polls_of_trapped htrapped hline count

/-- A backlog larger than the queue is delivered one event per poll; a queue full of noise is still
full after a thousand polls when the limit is one byte too large. -/
theorem polls_empty_line_backlog :
    let line : Line :=
      { inbound := List.replicate 300 0 ++ Frame.inbound ⟨0x305, 42⟩ ++ Frame.inbound ⟨0x306, 7⟩ }
    let receiver : Receiver := { config := { noiseLimit := 255, maxFramesPerPoll := some 1 } }
    let trapped := (Receiver.push { config := { noiseLimit := 256 } } (List.replicate 256 0)).2
    (Polling.polls ⟨receiver, line, []⟩ 331).line.pending = 0 ∧
    (∃ count, (Polling.polls ⟨receiver, line, []⟩ count).Idle ∧
      (Polling.polls ⟨receiver, line, []⟩ (count + 1)).delivered =
        [.valid (Message.payload ⟨0x305, 42⟩), .valid (Message.payload ⟨0x306, 7⟩)]) ∧
    line.pending = 330 ∧ Polling.polls ⟨trapped, line, []⟩ 1000 = ⟨trapped, line, []⟩ := by
  intro line receiver trapped
  have hreliable : line.Reliable := ⟨rfl, rfl⟩
  have hpending : line.pending = 330 := by decide +kernel +revert
  have hscan : scan (receiver.queue.toList ++ line.inbound) =
      [.valid (Message.payload ⟨0x305, 42⟩), .valid (Message.payload ⟨0x306, 7⟩)] := by
    decide +kernel +revert
  have hheld : trapped.queue.toList = List.replicate 256 0 := by
    refine (Receiver.toList_push _ _).trans ?_
    decide +kernel
  have hfull : trapped.queue.size = 256 := by
    rw [← ByteQueue.length_toList, hheld, List.length_replicate]
  have hnoise : startByte ∉ trapped.queue.toList := by
    rw [hheld]
    decide +kernel
  obtain ⟨_, hempty, ⟨count, _, hidle⟩, hdelivered⟩ :=
    polls_empty_line.1 receiver line (by decide) (by decide) hreliable
  refine ⟨?_, ⟨count, hidle, ?_⟩, hpending, ?_⟩
  · exact hempty 331 (by omega)
  · rw [hdelivered count hidle, hscan]
  · exact polls_empty_line.2 trapped line (Nat.le_refl 256) hreliable hfull hnoise 1000

end Polling

end GroundStation
