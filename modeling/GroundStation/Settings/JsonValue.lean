/-!
JSON values as a strict reader finds them. A string is kept as the list of its code points, in which
an escaped half of a surrogate pair stands by itself: such a string is well formed, but only a string
in which all halves pair up is a text.
-/

namespace GroundStation

inductive JsonValue where
  | null
  | bool (value : Bool)
  /-- A number by its sign and whole part, and whether a fraction or an exponent follows. -/
  | number (negative : Bool) (whole : Nat) (scaled : Bool)
  | string (points : List Nat)
  | array (items : List JsonValue)
  | object (members : List (List Nat × JsonValue))
deriving Repr

namespace JsonValue

def isHighSurrogate (point : Nat) : Bool :=
  0xD800 ≤ point && point < 0xDC00

def isLowSurrogate (point : Nat) : Bool :=
  0xDC00 ≤ point && point < 0xE000

/-- The characters that code points stand for, if all surrogates pair up. -/
def chars? : List Nat → Option (List Char)
  | [] => some []
  | point :: rest =>
    if isHighSurrogate point then
      match rest with
      | [] => none
      | low :: rest =>
        if isLowSurrogate low then
          (chars? rest).map
            (Char.ofNat (0x10000 + (point - 0xD800) * 0x400 + (low - 0xDC00)) :: ·)
        else
          none
    else if isLowSurrogate point then
      none
    else
      (chars? rest).map (Char.ofNat point :: ·)

def text? : JsonValue → Option String
  | string points => (chars? points).map String.ofList
  | _ => none

/-- The number as a natural one below `bound`. A number with a sign, a fraction or an exponent is none,
whatever its value. -/
def natural? (bound : Nat) : JsonValue → Option Nat
  | number false whole false => if whole < bound then some whole else none
  | _ => none

/-- The members of an object whose keys are all texts. -/
def members? : JsonValue → Option (List (String × JsonValue))
  | object members => members.mapM fun (key, value) =>
      (chars? key).map fun chars => (String.ofList chars, value)
  | _ => none

end JsonValue

end GroundStation
