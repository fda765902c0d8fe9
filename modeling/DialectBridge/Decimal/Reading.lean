import DialectBridge.Decimal.Integer

/-!
# Decimal text to the nearest double

The accepted form is an optional sign followed by a word for infinity or NaN, or by
digits with at most one point among them and an optional exponent. At least one
digit stands before the exponent, and nothing surrounds the number.
-/

namespace DialectBridge.Decimal

/-- An unsigned decimal: digits times a power of ten. -/
structure Scientific where
  digits : Nat
  exponent : Int
  deriving Repr

/-- The nearest double. Exponents that lie beyond every double are decided by the
number of digits alone, so no power of ten outgrows the range. -/
def Scientific.toFloat (x : Scientific) : Float :=
  if x.digits == 0 then 0.0
  else
    let magnitude := x.exponent + (Nat.toDigits 10 x.digits).length
    if magnitude > 310 then 1.0 / 0.0
    else if magnitude < -330 then 0.0
    else Float.ofScientific x.digits (x.exponent < 0) x.exponent.natAbs

/-- Reads an exponent mark with its digits, or nothing. -/
def readExponent : List Char → Option Int
  | [] => some 0
  | c :: rest => if c == 'e' || c == 'E' then readSigned rest else none

/-- Reads the digits, the point and the exponent of an unsigned number. -/
def readScientific (text : List Char) : Option Scientific :=
  let whole := text.takeWhile Char.isDigit
  let afterWhole := text.dropWhile Char.isDigit
  let (fraction, rest) := match afterWhole with
    | '.' :: rest => (rest.takeWhile Char.isDigit, rest.dropWhile Char.isDigit)
    | _ => ([], afterWhole)
  if whole.isEmpty && fraction.isEmpty then none
  else (readExponent rest).map fun exponent =>
    ⟨ofDigits (whole ++ fraction), exponent - fraction.length⟩

/-- Reads an unsigned number or one of the words. -/
def readMagnitude (text : List Char) : Option Float :=
  let word := String.ofList (text.map Char.toLower)
  if word == "inf" || word == "infinity" then some (1.0 / 0.0)
  else if word == "nan" then some (0.0 / 0.0)
  else (readScientific text).map Scientific.toFloat

/-- Reads a number with an optional sign. -/
def readFloat : List Char → Option Float
  | '-' :: rest => (readMagnitude rest).map Float.neg
  | '+' :: rest => readMagnitude rest
  | rest => readMagnitude rest

end DialectBridge.Decimal
