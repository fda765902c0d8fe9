import DialectBridge.Decimal.Binary

/-!
# The shortest decimal that reads back

A finite double stands for every real that rounds to it: the interval around it,
whose ends belong to it exactly when its mantissa is even. Its shortest decimal is
the one with the fewest digits in that interval; of two equally short ones the
nearer, and the upper one of an exact tie. The arithmetic is on naturals.
-/

namespace DialectBridge.Decimal

/-- The value, and the ends of the interval that rounds to it, as numerators over
one denominator. -/
structure Interval where
  low : Nat
  value : Nat
  high : Nat
  denominator : Nat
  closed : Bool

/-- The interval of a positive double. The gap below a power of two is half the
gap above it, except at the bottom of the range. -/
def Interval.ofBinary (x : Binary) : Interval :=
  let below := if x.mantissa == 0x10000000000000 && x.exponent != -1074 then 1 else 2
  let scale := x.exponent - 2
  let unit := match scale with
    | .ofNat k => Nat.pow 2 k
    | .negSucc _ => 1
  let denominator := match scale with
    | .ofNat _ => 1
    | .negSucc k => Nat.pow 2 (k + 1)
  { low := (4 * x.mantissa - below) * unit
    value := 4 * x.mantissa * unit
    high := (4 * x.mantissa + 2) * unit
    denominator
    closed := x.mantissa % 2 == 0 }

/-- Decimal digits and the power of ten of the last one. -/
structure Digits where
  digits : Nat
  exponent : Int
  deriving Repr

/-- Whether `numerator / denominator` lies in the interval. -/
def Interval.holds (interval : Interval) (numerator denominator : Nat) : Bool :=
  let scaled := numerator * interval.denominator
  if interval.closed then
    interval.low * denominator ≤ scaled && scaled ≤ interval.high * denominator
  else interval.low * denominator < scaled && scaled < interval.high * denominator

/-- The interval's member among the two neighbours of the value on the grid of
multiples of a power of ten. -/
def Interval.onGrid (interval : Interval) (exponent : Int) : Option Digits :=
  let up := match exponent with
    | .ofNat k => Nat.pow 10 k
    | .negSucc _ => 1
  let down := match exponent with
    | .ofNat _ => 1
    | .negSucc k => Nat.pow 10 (k + 1)
  let numerator := interval.value * down
  let cell := interval.denominator * up
  let below := numerator / cell
  let rest := numerator % cell
  let lower := interval.holds (below * up) down
  let upper := interval.holds ((below + 1) * up) down
  if lower && upper then
    some ⟨if 2 * rest < cell then below else below + 1, exponent⟩
  else if lower then some ⟨below, exponent⟩
  else if upper then some ⟨below + 1, exponent⟩
  else none

/-- The power of ten of the first digit of the value. -/
def Interval.magnitude (interval : Interval) : Int :=
  let whole := interval.value / interval.denominator
  if whole > 0 then (Nat.toDigits 10 whole).length - 1
  else
    let inverse := (interval.denominator + interval.value - 1) / interval.value
    0 - (Nat.toDigits 10 (inverse - 1)).length

/-- Tries a grid and then ever finer ones. -/
def Interval.search (interval : Interval) : (exponent : Int) → (tries : Nat) → Digits
  | _, 0 => ⟨interval.value / interval.denominator, 0⟩
  | exponent, tries + 1 =>
    match interval.onGrid exponent with
    | some found => found
    | none => interval.search (exponent - 1) tries

/-- The shortest digits of a positive double. The first grid holds the power of ten
above the value, the next one digit of it, and seventeen digits always suffice. -/
def shortest (x : Binary) : Digits :=
  let interval := Interval.ofBinary x
  interval.search (interval.magnitude + 1) 18

/-- Positional notation: no exponent however large or small, and no point after a
whole number. -/
def Digits.positional (x : Digits) : String :=
  let digits := Nat.toDigits 10 x.digits
  match x.exponent with
  | .ofNat k => String.ofList (digits ++ List.replicate k '0')
  | .negSucc k =>
    let places := k + 1
    let padded := List.replicate (places + 1 - digits.length) '0' ++ digits
    let whole := padded.take (padded.length - places)
    let fraction := padded.drop (padded.length - places)
    String.ofList (whole ++ '.' :: fraction)

/-- A double in positional notation: signed zero keeps its sign, and infinities and
NaN are words. -/
def plain (x : Float) : String :=
  match Binary.ofFloat? x with
  | some binary =>
    let magnitude := if binary.mantissa == 0 then "0" else (shortest binary).positional
    if binary.negative then "-" ++ magnitude else magnitude
  | none => if x.isNaN then "NaN" else if x < 0 then "-inf" else "inf"

end DialectBridge.Decimal
