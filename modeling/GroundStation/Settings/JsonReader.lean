import GroundStation.Settings.JsonValue

/-!
A strict JSON reader: one value with blanks around it, no trailing commas, no leading zeros, no raw
control characters in strings. The recursion is bounded by a count that every input has enough of.
-/

namespace GroundStation.JsonReader

def isJsonBlank (c : Char) : Bool :=
  c == ' ' || c == '\t' || c == '\n' || c == '\r'

def skipBlanks (chars : List Char) : List Char :=
  chars.dropWhile isJsonBlank

/-- Digits at the front, at least one, as a number. -/
def digits? (chars : List Char) : Option (Nat × List Char) :=
  match chars.takeWhile Char.isDigit with
  | [] => none
  | digits =>
    some (digits.foldl (fun sum c => 10 * sum + (c.toNat - '0'.toNat)) 0,
      chars.dropWhile Char.isDigit)

/-- A fraction, if there is one; the flag says so. -/
def fraction? : List Char → Option (Bool × List Char)
  | '.' :: rest => (digits? rest).map fun (_, rest) => (true, rest)
  | chars => some (false, chars)

/-- An exponent, if there is one; the flag says so. -/
def exponent? : List Char → Option (Bool × List Char)
  | 'e' :: rest | 'E' :: rest =>
    let unsigned := match rest with
      | '+' :: rest | '-' :: rest => rest
      | rest => rest
    (digits? unsigned).map fun (_, rest) => (true, rest)
  | chars => some (false, chars)

/-- The whole part of a number: a single zero, or digits that do not open with one. -/
def whole? : List Char → Option (Nat × List Char)
  | '0' :: rest => some (0, rest)
  | chars => digits? chars

def number? (chars : List Char) : Option (JsonValue × List Char) := do
  let (negative, chars) := match chars with
    | '-' :: rest => (true, rest)
    | chars => (false, chars)
  let (whole, chars) ← whole? chars
  let (hasFraction, chars) ← fraction? chars
  let (hasExponent, chars) ← exponent? chars
  return (.number negative whole (hasFraction || hasExponent), chars)

def hexDigit? (c : Char) : Option Nat :=
  if c.isDigit then some (c.toNat - '0'.toNat)
  else if 'a' ≤ c ∧ c ≤ 'f' then some (c.toNat - 'a'.toNat + 10)
  else if 'A' ≤ c ∧ c ≤ 'F' then some (c.toNat - 'A'.toNat + 10)
  else none

/-- The code point of a four-digit escape. -/
def escaped? (a b c d : Char) : Option Nat := do
  return 0x1000 * (← hexDigit? a) + 0x100 * (← hexDigit? b) + 0x10 * (← hexDigit? c) +
    (← hexDigit? d)

/-- The code point of a one-letter escape. -/
def letterEscape? : Char → Option Nat
  | '"' => some 0x22
  | '\\' => some 0x5C
  | '/' => some 0x2F
  | 'b' => some 0x08
  | 'f' => some 0x0C
  | 'n' => some 0x0A
  | 'r' => some 0x0D
  | 't' => some 0x09
  | _ => none

/-- The rest of a string behind its opening quote, read in front of `points` in reverse. -/
def string? (points : List Nat) : List Char → Option (List Nat × List Char)
  | '"' :: rest => some (points.reverse, rest)
  | '\\' :: 'u' :: a :: b :: c :: d :: rest =>
    match escaped? a b c d with
    | some point => string? (point :: points) rest
    | none => none
  | '\\' :: c :: rest =>
    match letterEscape? c with
    | some point => string? (point :: points) rest
    | none => none
  | c :: rest => if c.toNat < 0x20 ∨ c = '\\' then none else string? (c.toNat :: points) rest
  | [] => none

mutual

def value? : (fuel : Nat) → List Char → Option (JsonValue × List Char)
  | 0, _ => none
  | fuel + 1, chars =>
    match skipBlanks chars with
    | 'n' :: 'u' :: 'l' :: 'l' :: rest => some (.null, rest)
    | 't' :: 'r' :: 'u' :: 'e' :: rest => some (.bool true, rest)
    | 'f' :: 'a' :: 'l' :: 's' :: 'e' :: rest => some (.bool false, rest)
    | '"' :: rest => (string? [] rest).map fun (points, rest) => (.string points, rest)
    | '[' :: rest =>
      match skipBlanks rest with
      | ']' :: rest => some (.array [], rest)
      | rest => (items? fuel rest).map fun (items, rest) => (.array items, rest)
    | '\x7b' :: rest =>
      match skipBlanks rest with
      | '\x7d' :: rest => some (.object [], rest)
      | rest => (membersOf? fuel rest).map fun (members, rest) => (.object members, rest)
    | rest => number? rest

def items? : (fuel : Nat) → List Char → Option (List JsonValue × List Char)
  | 0, _ => none
  | fuel + 1, chars => do
    let (item, rest) ← value? fuel chars
    match skipBlanks rest with
    | ',' :: rest => (items? fuel rest).map fun (items, rest) => (item :: items, rest)
    | ']' :: rest => some ([item], rest)
    | _ => none

def membersOf? : (fuel : Nat) → List Char → Option (List (List Nat × JsonValue) × List Char)
  | 0, _ => none
  | fuel + 1, chars =>
    match skipBlanks chars with
    | '"' :: rest => do
      let (key, rest) ← string? [] rest
      match skipBlanks rest with
      | ':' :: rest => do
        let (item, rest) ← value? fuel rest
        match skipBlanks rest with
        | ',' :: rest =>
          (membersOf? fuel rest).map fun (members, rest) => ((key, item) :: members, rest)
        | '\x7d' :: rest => some ([(key, item)], rest)
        | _ => none
      | _ => none
    | _ => none

end

/-- The value that a whole text holds. -/
def parse? (text : String) : Option JsonValue :=
  let chars := text.toList
  match value? (2 * chars.length + 2) chars with
  | some (value, rest) => if (skipBlanks rest).isEmpty then some value else none
  | none => none

end GroundStation.JsonReader
