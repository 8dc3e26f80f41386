/-!
# The shortest decimals of floating-point numbers

The fewest decimal digits that read back as a number, found by exact integer arithmetic on the
number's bits: of the decimals with ever more digits, the first that lies in the interval of reals
rounding to the number, and of two such the nearer.
-/
namespace VolumeDrain.Text

/-- A positive number `significand * 2 ^ exponent`, and whether the gap below it is half the gap
above. -/
structure Binary where
  significand : Nat
  exponent : Int
  narrowBelow : Bool
deriving DecidableEq, Repr

/-- The weight of the leading bit, which normal numbers have without writing it: 2⁵². -/
def hiddenBit : Nat := 4503599627370496

/-- The magnitude of a finite number by its bits. -/
def binaryOf (bits : UInt64) : Binary :=
  let fraction : Nat := bits.toNat % hiddenBit
  let field : Nat := bits.toNat / hiddenBit % 2048
  if field = 0 then ⟨fraction, -1074, false⟩
  else ⟨hiddenBit + fraction, (field : Int) - 1075, fraction = 0 && field ≠ 1⟩

/-- Numerator and denominator of a power. -/
def powerRatio (base : Nat) (exponent : Int) : Nat × Nat :=
  if 0 ≤ exponent then (base.pow exponent.toNat, 1) else (1, base.pow (-exponent).toNat)

/-- The number of decimal digits of a number. -/
def digitCount (n : Nat) : Nat := (Nat.toDigits 10 n).length

/-- The exponent `e` with `10 ^ (e - 1) ≤ num / den < 10 ^ e` for a positive ratio. -/
def decimalExponent (num den : Nat) : Int :=
  if den ≤ num then digitCount (num / den)
  else 1 - (search 400 1 : Nat)
where
  /-- The least power of ten that lifts the ratio to one or more. -/
  search : Nat → Nat → Nat
    | 0, e => e
    | fuel + 1, e => if den ≤ num * Nat.pow 10 e then e else search fuel (e + 1)

/-- Whether `digits * 10 ^ scale` rounds to the number. -/
def roundsTo (b : Binary) (digits : Nat) (scale : Int) : Bool :=
  let (two, half) := powerRatio 2 (b.exponent - 2)
  let (ten, tenth) := powerRatio 10 scale
  let candidate := digits * ten * half
  let unit := two * tenth
  let low := (4 * b.significand - (if b.narrowBelow then 1 else 2)) * unit
  let high := (4 * b.significand + 2) * unit
  if b.significand % 2 = 0 then low ≤ candidate && candidate ≤ high
  else low < candidate && candidate < high

/-- The shortest decimal, as `digits * 10 ^ scale`. -/
def shortestDecimal (b : Binary) : Nat × Int :=
  let (two, half) := powerRatio 2 b.exponent
  let num := b.significand * two
  search 17 (decimalExponent num half) num half
where
  /-- The decimal on the first grid that has one, the grids getting ten times finer from the
  given power of ten on. -/
  search : Nat → Int → Nat → Nat → Nat × Int
    | fuel, above, num, den =>
      let scale := above - 1
      let (ten, tenth) := powerRatio 10 scale
      let below := num * tenth / (den * ten)
      match fuel with
      | 0 => (below, scale)
      | fuel + 1 =>
        let remainder := num * tenth % (den * ten)
        let lower := roundsTo b below scale
        let upper := roundsTo b (below + 1) scale
        if lower && (!upper || 2 * remainder ≤ den * ten) then (below, scale)
        else if upper then (below + 1, scale)
        else search fuel scale num den

/-- The digits without zeros at their end. -/
def trimmedDigits (n : Nat) : List Char :=
  ((Nat.toDigits 10 n).reverse.dropWhile (· = '0')).reverse

/-- A finite number with a point and at least one digit after it, positional from 10⁻⁶ up to
10²¹ and with an exponent outside. -/
def floatText (x : Float) : String :=
  let bits := x.toBits
  let sign := if 9223372036854775808 ≤ bits.toNat then "-" else ""
  let b := binaryOf bits
  if b.significand = 0 then sign ++ "0.0"
  else
    let (n, scale) := shortestDecimal b
    let point : Int := digitCount n + scale
    let digits := trimmedDigits n
    let zeros (k : Int) : List Char := List.replicate k.toNat '0'
    let body : List Char :=
      if digits.length ≤ point && point ≤ 21 then
        digits ++ zeros (point - digits.length) ++ ['.', '0']
      else if 0 < point && point ≤ 21 then
        digits.take point.toNat ++ ['.'] ++ digits.drop point.toNat
      else if -6 < point && point ≤ 0 then
        ['0', '.'] ++ zeros (-point) ++ digits
      else
        digits.take 1 ++ (if digits.length = 1 then [] else ['.'] ++ digits.drop 1) ++ ['e'] ++
          (toString (point - 1)).toList
    sign ++ String.ofList body

end VolumeDrain.Text
