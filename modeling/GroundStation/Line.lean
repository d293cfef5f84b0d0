import GroundStation.Failure
import GroundStation.Frame.Receiver

/-!
A serial line held in memory: bytes injected at the far end wait to be read, bytes written collect
until they are taken. The line can be told to fail its next reads and to misbehave on writes.
-/

namespace GroundStation

namespace Line

/-- How the line treats a write. -/
inductive WriteMode where
  | normal
  /-- Every write fails. -/
  | failing
  /-- Every write takes no byte. -/
  | stalled
  /-- A write takes at most three bytes. -/
  | short
  /-- Writes succeed, the flush behind them fails. -/
  | unflushed
deriving DecidableEq, Repr

end Line

structure Line where
  inbound : List UInt8 := []
  outbound : List UInt8 := []
  /-- How many of the next availability checks fail. -/
  failAvailable : Nat := 0
  /-- How many of the next reads fail. -/
  failRead : Nat := 0
  writeMode : Line.WriteMode := .normal
deriving DecidableEq, Repr

namespace Line

/-- Bytes arrive from the far end. -/
def inject (line : Line) (bytes : List UInt8) : Line :=
  { line with inbound := line.inbound ++ bytes }

/-- Makes the next availability checks and reads fail, on top of those that are due to fail. -/
def failNext (line : Line) (availableChecks reads : Nat) : Line :=
  { line with
    failAvailable := line.failAvailable + availableChecks
    failRead := line.failRead + reads }

/-- How many bytes wait to be read. -/
def pending (line : Line) : Nat :=
  line.inbound.length

def available (line : Line) : Except IoFault Nat × Line :=
  match line.failAvailable with
  | 0 => (.ok line.pending, line)
  | failures + 1 => (.error ⟨"available failed"⟩, { line with failAvailable := failures })

/-- Reads at most `count` bytes. -/
def read (count : Nat) (line : Line) : Except IoFault (List UInt8) × Line :=
  match line.failRead with
  | 0 => (.ok (line.inbound.take count), { line with inbound := line.inbound.drop count })
  | failures + 1 => (.error ⟨"read failed"⟩, { line with failRead := failures })

instance : ByteSource Line IoFault where
  available := available
  read := read

/-- Writes some of the bytes; the number is how many were taken. -/
def write (line : Line) (bytes : List UInt8) : Except IoFault Nat × Line :=
  let taking (count : Nat) : Except IoFault Nat × Line :=
    (.ok (min count bytes.length), { line with outbound := line.outbound ++ bytes.take count })
  match line.writeMode with
  | .normal | .unflushed => taking bytes.length
  | .failing => (.error ⟨"write failed"⟩, line)
  | .stalled => taking 0
  | .short => taking 3

/-- Writes all the bytes, in as many writes as it takes. A write that takes none ends the attempt. -/
def writeAll (line : Line) (bytes : List UInt8) : Except IoFault Unit × Line :=
  if bytes = [] then
    (.ok (), line)
  else
    match line.write bytes with
    | (.error fault, line) => (.error fault, line)
    | (.ok 0, line) => (.error ⟨"failed to write whole buffer"⟩, line)
    | (.ok (taken + 1), line) => writeAll line (bytes.drop (taken + 1))
termination_by bytes.length
decreasing_by
  rename_i nonempty
  have := List.length_pos_iff.mpr nonempty
  simp only [List.length_drop]
  omega

def flush (line : Line) : Except IoFault Unit :=
  match line.writeMode with
  | .unflushed => .error ⟨"flush failed"⟩
  | _ => .ok ()

/-- Takes what was written so far. -/
def takeWritten (line : Line) : List UInt8 × Line :=
  (line.outbound, { line with outbound := [] })

end Line

end GroundStation
