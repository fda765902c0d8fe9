/-!
# Binary floating-point numbers as exact rationals

A finite double is a sign and a magnitude `mantissa · 2 ^ exponent`. Everything that
has to be exact (printing, truncation) starts from this form.
-/

namespace DialectBridge.Decimal

/-- A finite double, taken apart. -/
structure Binary where
  negative : Bool
  mantissa : Nat
  exponent : Int
  deriving Repr

namespace Binary

/-- Takes a finite double apart; infinities and NaN have no parts. -/
def ofFloat? (x : Float) : Option Binary :=
  let bits : Nat := x.toBits.toNat
  let negative := bits / 0x8000000000000000 == 1
  let field : Nat := bits / 0x10000000000000 % 0x800
  let fraction : Nat := bits % 0x10000000000000
  if field == 2047 then none
  else if field == 0 then some ⟨negative, fraction, -1074⟩
  else some ⟨negative, 0x10000000000000 + fraction, (field : Int) - 1075⟩

/-- The whole part of the magnitude. -/
def wholePart (x : Binary) : Nat :=
  match x.exponent with
  | .ofNat k => x.mantissa * Nat.pow 2 k
  | .negSucc k => x.mantissa / Nat.pow 2 (k + 1)

/-- The whole number nearest to the magnitude; a half goes up. -/
def nearestWhole (x : Binary) : Nat :=
  match x.exponent with
  | .ofNat k => x.mantissa * Nat.pow 2 k
  | .negSucc k => (x.mantissa + Nat.pow 2 k) / Nat.pow 2 (k + 1)

/-- Whether the number has no fractional part. -/
def isWhole (x : Binary) : Bool :=
  match x.exponent with
  | .ofNat _ => true
  | .negSucc k => x.mantissa % Nat.pow 2 (k + 1) == 0

/-- The number without its fractional part. -/
def truncate (x : Binary) : Int := if x.negative then -(x.wholePart : Int) else x.wholePart

end Binary

end DialectBridge.Decimal
