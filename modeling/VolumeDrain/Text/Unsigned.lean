/-!
# Unsigned numbers in texts

A number without a sign, in decimal digits of which any number may be leading zeros. One plus sign
may stand in front.
-/
namespace VolumeDrain.Text

/-- The number with one more digit at its end, unless the character is none or the number passes a
limit. -/
def withDigit? (limit n : Nat) (c : Char) : Option Nat :=
  let next := 10 * n + (c.toNat - '0'.toNat)
  if c.isDigit && next ≤ limit then some next else none

/-- Reads a run of digits from its front on, and stops where it is no number or too large a one. -/
def readDigits (limit : Nat) (digits : List Char) : Option Nat :=
  if digits.isEmpty then none else digits.foldlM (withDigit? limit) 0

/-- The digits of a number that may begin with a plus sign. -/
def withoutPlus : List Char → List Char
  | '+' :: rest => rest
  | cs => cs

/-- Reads an unsigned number that is not above a limit. -/
def readUnsigned (limit : Nat) (cs : List Char) : Option Nat := readDigits limit (withoutPlus cs)

end VolumeDrain.Text
