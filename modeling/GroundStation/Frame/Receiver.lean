import GroundStation.Counters
import GroundStation.Frame.ByteQueue
import GroundStation.Frame.Event

/-!
The receiver finds frames in the bytes of the line as they arrive. Bytes wait in a bounded queue.
A window of frame size is judged as soon as it is held in full; noise without a start byte is thrown
away once there is more of it than the configured limit, and noise before a start byte that has no
full window yet is thrown away only when the queue is full.

The receiver counts valid and invalid frames and every byte it throws away. The bytes of an invalid
window are thrown away up to the next start byte inside it.
-/

namespace GroundStation

/-- Where the bytes of the line come from. -/
class ByteSource (σ : Type) (ε : outParam Type) where
  /-- How many bytes wait to be read. -/
  available : σ → Except ε Nat × σ
  /-- Reads at most the given number of bytes. -/
  read : Nat → σ → Except ε (List UInt8) × σ

namespace Receiver

structure Config where
  /-- The most bytes without a start byte that are kept. -/
  noiseLimit : Nat := 128
  /-- The most events that one drain may deliver; no limit if absent. -/
  maxFramesPerPoll : Option Nat := none
deriving DecidableEq, Repr

end Receiver

structure Receiver where
  config : Receiver.Config := {}
  queue : ByteQueue := .empty
  counters : Counters := {}

namespace Receiver

/-- How many bytes wait in the queue. -/
def buffered (receiver : Receiver) : Nat :=
  receiver.queue.size

/-- Offers bytes to the queue; the number is how many were taken. -/
def push (receiver : Receiver) (bytes : List UInt8) : Nat × Receiver :=
  let pushed := receiver.queue.push bytes
  (pushed.1, { receiver with queue := pushed.2 })

/-- Throws away the `count` oldest bytes. -/
def discard (receiver : Receiver) (count : Nat) : Receiver :=
  { receiver with
    queue := receiver.queue.drop count
    counters :=
      { receiver.counters with discardedBytes := receiver.counters.discardedBytes + count } }

/-- Removes a valid window that starts at offset `start`, and the noise before it. -/
def acceptWindow (receiver : Receiver) (start : Nat) : Receiver :=
  { receiver with
    queue := receiver.queue.drop (start + Frame.inboundSize)
    counters :=
      { receiver.counters with
        validFrames := receiver.counters.validFrames + 1
        discardedBytes := receiver.counters.discardedBytes + start } }

/-- Where scanning resumes after the invalid window at offset `start`. -/
def resumeOffset (receiver : Receiver) (start : Nat) : Nat :=
  (receiver.queue.find? Frame.startByte (start + 1) (Frame.inboundSize - 1)).getD
    (start + Frame.inboundSize)

/-- Counts the invalid window at offset `start` and removes what precedes the next candidate. -/
def rejectWindow (receiver : Receiver) (start : Nat) : Receiver :=
  let rest := receiver.discard (receiver.resumeOffset start)
  { rest with
    counters := { rest.counters with invalidFrames := rest.counters.invalidFrames + 1 } }

/-- Looks for one frame in the queue. -/
def nextChecked (receiver : Receiver) : Except Halt (Option FrameEvent × Receiver) :=
  let size := receiver.queue.size
  if size < Frame.inboundSize then
    .ok (none, receiver)
  else
    match receiver.queue.find? Frame.startByte 0 size with
    | none =>
      if receiver.config.noiseLimit < size then .ok (none, receiver.discard size)
      else .ok (none, receiver)
    | some start =>
      if size - start < Frame.inboundSize then
        if receiver.queue.free = 0 ∧ 0 < start then .ok (none, receiver.discard start)
        else .ok (none, receiver)
      else do
        let field ← receiver.queue.copy (start + 1) Frame.checksumSize
        let payload ← receiver.queue.copy (start + 1 + Frame.checksumSize) Frame.inboundPayloadSize
        match Frame.judge field payload with
        | .valid payload => return (some (.valid payload), receiver.acceptWindow start)
        | event => return (some event, receiver.rejectWindow start)

/-- When a look asks for the parts of a window, the whole window is held. -/
theorem isOk_nextChecked (receiver : Receiver) : receiver.nextChecked.isOk = true := by
  unfold nextChecked
  dsimp only
  split
  · rfl
  cases receiver.queue.find? Frame.startByte 0 receiver.queue.size with
  | none => dsimp only; split <;> rfl
  | some start =>
      dsimp only
      split
      · split <;> rfl
      · rename_i hlong
        have hsize : start + 1 + Frame.checksumSize + Frame.inboundPayloadSize ≤
            receiver.queue.size := by
          simp only [Frame.inboundSize] at hlong
          omega
        have hfield : (receiver.queue.copy (start + 1) Frame.checksumSize).isOk = true :=
          ByteQueue.isOk_copy (by omega)
        have hpayload := ByteQueue.isOk_copy hsize
        rw [Halt.bind_of_eq_ok (Halt.eq_ok_result _ hfield),
          Halt.bind_of_eq_ok (Halt.eq_ok_result _ hpayload)]
        split <;> rfl

def next (receiver : Receiver) : Option FrameEvent × Receiver :=
  Halt.result receiver.nextChecked receiver.isOk_nextChecked

/-- Delivers at most `limit` events. -/
def take : (limit : Nat) → Receiver → List FrameEvent × Receiver
  | 0, receiver => ([], receiver)
  | limit + 1, receiver =>
    match receiver.next with
    | (none, after) => ([], after)
    | (some event, after) =>
      let (events, final) := take limit after
      (event :: events, final)

/-- Delivers all events that the queue holds, or as many as the configuration lets through at once.
Each event removes at least one byte, so the number of bytes held bounds their number. -/
def drain (receiver : Receiver) : List FrameEvent × Receiver :=
  receiver.take (receiver.config.maxFramesPerPoll.getD receiver.queue.size)

variable {σ ε : Type} [ByteSource σ ε]

/-- Reads what the source has and the queue has room for. -/
def fill (receiver : Receiver) (source : σ) : Except ε Unit × Receiver × σ :=
  match ByteSource.available source with
  | (.error fault, source) => (.error fault, receiver, source)
  | (.ok available, source) =>
    let wanted := min available receiver.queue.free
    if wanted = 0 then
      (.ok (), receiver, source)
    else
      match ByteSource.read wanted source with
      | (.error fault, source) => (.error fault, receiver, source)
      | (.ok bytes, source) => (.ok (), (receiver.push (bytes.take wanted)).2, source)

/-- Reads once from the source and delivers events. They are delivered also when reading failed;
the failure is the result then, and otherwise the number of events. -/
def poll (receiver : Receiver) (source : σ) :
    Except ε Nat × List FrameEvent × Receiver × σ :=
  let (filled, receiver, source) := receiver.fill source
  let (events, receiver) := receiver.drain
  (filled.map fun _ => events.length, events, receiver, source)

/-- Offers a byte string in pieces of `size` bytes and drains after each; the number is how many
bytes were taken in all. Bytes that find no room are lost. -/
def stream (receiver : Receiver) (size : Nat) (bytes : List UInt8) :
    Nat × List FrameEvent × Receiver :=
  if size = 0 ∨ bytes = [] then
    (0, [], receiver)
  else
    let (accepted, receiver) := receiver.push (bytes.take size)
    let (events, receiver) := receiver.drain
    let (total, later, receiver) := stream receiver size (bytes.drop size)
    (accepted + total, events ++ later, receiver)
termination_by bytes.length
decreasing_by
  rename_i step
  simp only [not_or] at step
  have := List.length_pos_iff.mpr step.2
  simp only [List.length_drop]
  omega

end Receiver

end GroundStation
