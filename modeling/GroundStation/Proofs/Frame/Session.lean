import GroundStation.Line
import GroundStation.Proofs.Frame.Receiving

/-!
Runs of a receiver. A session is a receiver together with its history: all bytes that were accepted
and all events that were delivered since the start. The calls may come in any order, with bytes cut
in any way; a poll brings its source along in the state that it then has, so a source may fail, read
short or be changed by others between two polls.

`Consistent` ties the history to the bytes still held: scanning what was accepted delivers what was
delivered and comes to stand before what is held. Every call keeps it.
-/

namespace GroundStation.Receiver

open GroundStation.Frame

inductive Call (σ : Type) where
  | push (bytes : List UInt8)
  | next
  | drain
  | poll (source : σ)

/-- The calls that deliver all there is, as far as the configuration allows. -/
def Call.drains {σ : Type} : Call σ → Bool
  | .push _ | .next => false
  | .drain | .poll _ => true

structure Session where
  receiver : Receiver
  accepted : List UInt8 := []
  emitted : List FrameEvent := []

namespace Session

def start (config : Config) : Session where
  receiver := { config }

variable {σ ε : Type} [ByteSource σ ε]

def step (session : Session) : Call σ → Session
  | .push bytes =>
    let (count, receiver) := session.receiver.push bytes
    { session with receiver, accepted := session.accepted ++ bytes.take count }
  | .next =>
    let (event, receiver) := session.receiver.next
    { session with receiver, emitted := session.emitted ++ event.toList }
  | .drain =>
    let (events, receiver) := session.receiver.drain
    { session with receiver, emitted := session.emitted ++ events }
  | .poll source =>
    let (_, events, receiver, _) := session.receiver.poll source
    { receiver
      accepted := session.accepted ++ session.receiver.received source
      emitted := session.emitted ++ events }

def run (session : Session) (calls : List (Call σ)) : Session :=
  calls.foldl step session

theorem run_append (session : Session) (earlier later : List (Call σ)) :
    session.run (earlier ++ later) = (session.run earlier).run later :=
  List.foldl_append

/-- Scanning the accepted bytes delivers the events so far and stops before the bytes held. -/
def Consistent (session : Session) : Prop :=
  Scans session.accepted session.emitted session.receiver.queue.toList

theorem start_consistent (config : Config) : (start config).Consistent :=
  .stop []

/-- Every call keeps the session consistent. -/
theorem step_consistent {session : Session} (h : session.Consistent) (call : Call σ) :
    (session.step call).Consistent := by
  cases call with
  | push bytes =>
      have hqueue := session.receiver.queue.toList_push_take bytes
      unfold Consistent
      change Scans (session.accepted ++ _) session.emitted
        (session.receiver.queue.push bytes).2.toList
      rw [hqueue]
      exact h.append_right _
  | next => exact h.trans session.receiver.next_look.scans
  | drain => exact h.trans session.receiver.drain_scans
  | poll source => exact (h.append_right _).trans (session.receiver.poll_scans source)

/-- Every run keeps the session consistent. -/
theorem run_consistent {session : Session} (h : session.Consistent) (calls : List (Call σ)) :
    (session.run calls).Consistent := by
  induction calls generalizing session with
  | nil => exact h
  | cons call rest ih => exact ih (step_consistent h call)

theorem config_step (session : Session) (call : Call σ) :
    (session.step call).receiver.config = session.receiver.config := by
  cases call with
  | push bytes => rfl
  | next => exact session.receiver.next_look.config_eq
  | drain => exact session.receiver.config_drain
  | poll source => exact session.receiver.config_poll source

theorem config_run (session : Session) (calls : List (Call σ)) :
    (session.run calls).receiver.config = session.receiver.config := by
  induction calls generalizing session with
  | nil => rfl
  | cons call rest ih => exact (ih (session.step call)).trans (session.config_step call)

/-- After a call that drains without a limit, no frame is left in the queue. -/
theorem scan_step_of_drains {session : Session} {call : Call σ} (hdrains : call.drains = true)
    (hunlimited : session.receiver.config.maxFramesPerPoll = none) :
    scan (session.step call).receiver.queue.toList = [] := by
  cases call with
  | push bytes => cases hdrains
  | next => cases hdrains
  | drain => exact scan_drain_of_unlimited hunlimited
  | poll source =>
      change scan (session.receiver.fill source).2.1.drain.2.queue.toList = []
      apply scan_drain_of_unlimited
      rw [config_fill, hunlimited]

/-- A run that ends with a drain without a limit has delivered the scan of all it accepted. -/
theorem emitted_eq_scan {config : Config} (hunlimited : config.maxFramesPerPoll = none)
    (calls : List (Call σ)) {last : Call σ} (hdrains : last.drains = true) :
    ((start config).run (calls ++ [last])).emitted =
      scan ((start config).run (calls ++ [last])).accepted := by
  have hconsistent := run_consistent (start_consistent config) (calls ++ [last])
  have hnothing : scan ((start config).run (calls ++ [last])).receiver.queue.toList = [] := by
    rw [run_append]
    apply scan_step_of_drains hdrains
    rw [config_run]
    exact hunlimited
  rw [hconsistent.scan_eq, hnothing, List.append_nil]

/-- At every point of every run the scan of the bytes accepted so far is what was delivered followed
by the scan of what is held, whatever the configuration and however the bytes came in. So two runs
that accept the same bytes and end with a drain without a limit deliver the same events. -/
theorem emitted_refines_scan {σ' ε' : Type} [ByteSource σ' ε'] :
    (∀ (config : Config) (calls : List (Call σ)),
      let session := (start config).run calls
      scan session.accepted = session.emitted ++ scan session.receiver.queue.toList) ∧
    ∀ (config config' : Config) (calls : List (Call σ)) (calls' : List (Call σ'))
      (last : Call σ) (last' : Call σ'),
      config.maxFramesPerPoll = none → config'.maxFramesPerPoll = none →
      last.drains = true → last'.drains = true →
      ((start config).run (calls ++ [last])).accepted =
        ((start config').run (calls' ++ [last'])).accepted →
      ((start config).run (calls ++ [last])).emitted =
        ((start config').run (calls' ++ [last'])).emitted := by
  constructor
  · intro config calls
    exact (run_consistent (start_consistent config) calls).scan_eq
  · intro config config' calls calls' last last' hunlimited hunlimited' hdrains hdrains' haccepted
    rw [emitted_eq_scan hunlimited calls hdrains, emitted_eq_scan hunlimited' calls' hdrains',
      haccepted]

/-- A frame that comes in two pushes and a frame that is polled off a line behind noise. -/
theorem emitted_refines_scan_split_frame :
    let frame := inbound ⟨0x305, 42⟩
    let pushed := ((start {}).run
      ([.push ([0, 1] ++ frame.take 5), .drain, .push (frame.drop 5)] ++
        [.drain] : List (Call Line)))
    let polled := ((start { noiseLimit := 0 }).run
      ([] ++ [.poll { inbound := [0, 1] ++ frame }] : List (Call Line)))
    pushed.accepted = polled.accepted ∧ pushed.emitted = polled.emitted ∧
      polled.emitted = [.valid (Message.payload ⟨0x305, 42⟩)] :=
  ⟨by decide +kernel,
    emitted_refines_scan.2 _ _ _ _ _ _ rfl rfl rfl rfl (by decide +kernel), by decide +kernel⟩

end Session

end GroundStation.Receiver
