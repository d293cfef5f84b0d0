/-!
Hexadecimal text of numbers: lowercase digits, most significant first.
-/

namespace GroundStation.Text

/-- The hexadecimal digits of `n` without leading zeros; zero is `0`. -/
def hex (n : Nat) : String :=
  String.ofList (Nat.toDigits 16 n)

/-- The hexadecimal digits of `n`, filled with zeros on the left up to `width` digits. -/
def hexPadded (width n : Nat) : String :=
  let digits := Nat.toDigits 16 n
  String.ofList (List.replicate (width - digits.length) '0' ++ digits)

end GroundStation.Text
