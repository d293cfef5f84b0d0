import GroundStation.Bytes
import GroundStation.Frame.Format
import GroundStation.Text.Blank
import GroundStation.Text.Quoted

/-!
The operator's commands. A command is the keyword and a signed 32-bit decimal number behind it;
blanks may stand around the whole text and between keyword and number, and underscores anywhere in
the number. Its payload is the number in four little-endian bytes and four zero bytes.
-/

namespace GroundStation

/-- Why a command text is rejected. -/
inductive CommandError where
  /-- The trimmed text does not open with the keyword. -/
  | unrecognized (text : String)
  /-- What follows the keyword, trimmed, is no number in range. -/
  | malformedValue (argument : String)
deriving DecidableEq, Repr

namespace CommandError

def message : CommandError → String
  | unrecognized text => s!"unable to interpret command {Text.quoted text}"
  | malformedValue argument =>
      s!"malformed value {Text.quoted argument}: expected a signed 32-bit decimal"

end CommandError

/-- A command to set the value that the vehicle acts on. -/
structure Command where
  value : Int32
deriving DecidableEq, Repr

namespace Command

def keyword : String := "updateValue"

/-- The number that decimal digits spell, most significant first; none if there is no digit or a
character is no ASCII digit. -/
def natural? (chars : List Char) : Option Nat :=
  if chars.isEmpty || !chars.all Char.isDigit then
    none
  else
    some (chars.foldl (fun sum c => 10 * sum + (c.toNat - '0'.toNat)) 0)

/-- The integer that an optional sign and decimal digits spell. -/
def integer? : List Char → Option Int
  | '+' :: digits => (natural? digits).map Int.ofNat
  | '-' :: digits => (natural? digits).map fun n => -Int.ofNat n
  | digits => (natural? digits).map Int.ofNat

/-- The 32-bit number that a text spells once its underscores are dropped. -/
def value? (chars : List Char) : Option Int32 :=
  match integer? (chars.filter (· ≠ '_')) with
  | some n =>
    if Int32.minValue.toInt ≤ n ∧ n ≤ Int32.maxValue.toInt then some (Int32.ofInt n) else none
  | none => none

/-- What stands behind the keyword, if the text opens with it. -/
def argument? : (keyword text : List Char) → Option (List Char)
  | [], rest => some rest
  | _ :: _, [] => none
  | k :: keyword, c :: text => if k = c then argument? keyword text else none

/-- Reads a command. -/
def parse (text : String) : Except CommandError Command :=
  let trimmed := Text.trim text.toList
  match argument? keyword.toList trimmed with
  | none => .error (.unrecognized (String.ofList trimmed))
  | some rest =>
    let argument := Text.trim rest
    match value? argument with
    | some value => .ok { value }
    | none => .error (.malformedValue (String.ofList argument))

/-- The bytes that carry the command. -/
def payload (command : Command) : List UInt8 :=
  Bytes.ofNat 4 command.value.toUInt32.toNat ++ List.replicate 4 0

@[simp] theorem length_payload (command : Command) :
    command.payload.length = Frame.outboundPayloadSize := by
  simp [payload, Frame.outboundPayloadSize]

end Command

end GroundStation
