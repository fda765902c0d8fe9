import DialectBridge.Decimal.Binary

/-!
# A fixed number of significant digits

A positive double is rounded once, from its exact value, to so many digits; a half
goes up. The text form drops zeros at the end, keeps a digit after the point, and
turns to an exponent where the point would stand far from the digits.
-/

namespace DialectBridge.Decimal

/-- The exact value as a quotient. -/
def Binary.quotient (x : Binary) : Nat × Nat :=
  match x.exponent with
  | .ofNat k => (x.mantissa * Nat.pow 2 k, 1)
  | .negSucc k => (x.mantissa, Nat.pow 2 (k + 1))

/-- The power of ten of the first digit of a positive quotient. -/
def leadingPower (numerator denominator : Nat) : Int :=
  if denominator ≤ numerator then (Nat.toDigits 10 (numerator / denominator)).length - 1
  else
    let inverse := (denominator + numerator - 1) / numerator
    0 - (Nat.toDigits 10 (inverse - 1)).length

/-- Digits with the power of ten of the first. -/
structure Significant where
  digits : List Char
  power : Int
  deriving Repr

/-- Rounds a positive number to a number of significant digits. -/
def Significant.ofBinary (count : Nat) (x : Binary) : Significant :=
  let (numerator, denominator) := x.quotient
  let power := leadingPower numerator denominator
  let shift : Int := count - 1 - power
  let (numerator, denominator) :=
    if 0 ≤ shift then (numerator * Nat.pow 10 shift.toNat, denominator)
    else (numerator, denominator * Nat.pow 10 (-shift).toNat)
  let rounded := (2 * numerator + denominator) / (2 * denominator)
  if rounded ≥ Nat.pow 10 count then ⟨Nat.toDigits 10 (rounded / 10), power + 1⟩
  else ⟨Nat.toDigits 10 rounded, power⟩

namespace Significant

/-- The digits without zeros at the end, but for the first. -/
def trimmed (x : Significant) : List Char :=
  match x.digits with
  | [] => ['0']
  | first :: rest => first :: (rest.reverse.dropWhile (· == '0')).reverse

/-- The digits after a point; none is written as zero. -/
def fraction (digits : List Char) : List Char := if digits.isEmpty then ['0'] else digits

/-- The text with an exponent of at least two digits. -/
def scientific (x : Significant) : List Char :=
  let digits := x.trimmed
  let exponent := Nat.toDigits 10 x.power.natAbs
  digits.take 1 ++ '.' :: fraction (digits.drop 1) ++
    'e' :: (if x.power < 0 then '-' else '+') ::
      (List.replicate (2 - exponent.length) '0' ++ exponent)

/-- The text without an exponent. -/
def positional (x : Significant) : List Char :=
  let digits := x.trimmed
  if x.power < 0 then
    '0' :: '.' :: List.replicate (x.power.natAbs - 1) '0' ++ digits
  else
    let whole := x.power.toNat + 1
    digits.take whole ++ List.replicate (whole - digits.length) '0' ++
      '.' :: fraction (digits.drop whole)

/-- The text: positional unless the first digit stands below the fourth place after
the point or beyond the number of digits before it. -/
def text (count : Nat) (x : Significant) : List Char :=
  if x.power < -4 || x.power ≥ count then x.scientific else x.positional

end Significant

/-- A double with so many significant digits. Zero has no sign. -/
def withDigits (count : Nat) (x : Float) : String :=
  match Binary.ofFloat? x with
  | some binary =>
    if binary.mantissa == 0 then "0.0"
    else
      let magnitude := (Significant.ofBinary count binary).text count
      String.ofList (if binary.negative then '-' :: magnitude else magnitude)
  | none => if x.isNaN then "NaN" else if x < 0 then "-Inf" else "Inf"

end DialectBridge.Decimal
