import DialectBridge.Decimal.Reading
import DialectBridge.Decimal.Shortest
import DialectBridge.Text.Lowercase
import DialectBridge.Text.Blank
import DialectBridge.Text.Utf8
import DialectBridge.Text.Hexadecimal

/-!
# Dynamically typed values

A value of the engine is null, a whole number of 64 bits, a real, a text or a blob.
The conversions between them are loose: every conversion that a function relies on
is defined here, once.
-/

namespace DialectBridge

/-- A value as the engine stores it. -/
inductive Value where
  | null
  | integer (number : Int64)
  | real (number : Float)
  | text (text : String)
  | blob (octets : List UInt8)
  deriving Inhabited

namespace Value

/-- A real below this magnitude that has no fractional part prints as a whole
number. -/
def wholeLimit : Nat := 1000000000000000

/-- The text of a real: whole numbers below the limit without sign of zero or point,
all others in plain positional notation. -/
def realText (x : Float) : String :=
  match Decimal.Binary.ofFloat? x with
  | some binary =>
    if binary.isWhole && binary.wholePart < wholeLimit then toString binary.truncate
    else Decimal.plain x
  | none => Decimal.plain x

/-- The text of a value; null has none. Octets that are not text are replaced. -/
def asText? : Value → Option String
  | null => none
  | integer n => some (toString n.toInt)
  | real x => some (realText x)
  | text s => some s
  | blob octets => some (Text.Utf8.decodeLossy octets)

/-- The value counts as false: zero, null, the empty text, the text of a single
zero, and the empty blob. -/
def isFalsy : Value → Bool
  | null => true
  | integer n => n == 0
  | real x => x == 0.0
  | text s => s.isEmpty || s == "0"
  | blob octets => octets.isEmpty

/-- The value as a double; surrounding blanks of a text do not count. -/
def toFloat? : Value → Option Float
  | integer n => some (Float.ofInt n.toInt)
  | real x => some x
  | text s => Decimal.readFloat (Text.trim s.toList)
  | null => none
  | blob _ => none

/-- Truncates a finite double, clamping to the 64-bit range. -/
def truncated (x : Float) : Option Int :=
  (Decimal.Binary.ofFloat? x).map fun binary =>
    max Decimal.minInt64 (min Decimal.maxInt64 binary.truncate)

/-- The value as a whole number: a text may also denote a finite real, which is
truncated. -/
def toInt? : Value → Option Int
  | integer n => some n.toInt
  | real x => truncated x
  | text s =>
    let digits := Text.trim s.toList
    (Decimal.readInt64 digits).or ((Decimal.readFloat digits).bind truncated)
  | null => none
  | blob _ => none

/-- A value from a whole number of 64 bits. -/
def ofInt (n : Int) : Value := integer (Int64.ofInt n)

/-- Whether the value is a number by type. -/
def isNumeric : Value → Bool
  | integer _ => true
  | real _ => true
  | _ => false

/-- Equality of texts up to letter case; null equals nothing. -/
def textuallyEqual (a b : Value) : Bool :=
  match a.asText?, b.asText? with
  | some x, some y => Text.lower x.toList == Text.lower y.toList
  | _, _ => false

/-- Loose equality: by number when either side is a number and both convert,
otherwise by text up to letter case. -/
def looselyEqual (a b : Value) : Bool :=
  if a.isNumeric || b.isNumeric then
    match a.toFloat?, b.toFloat? with
    | some x, some y => x == y
    | _, _ => textuallyEqual a b
  else textuallyEqual a b

/-- Doubles every single quote. -/
def doubleQuotes : List Char → List Char
  | [] => []
  | c :: rest => if c = '\'' then '\'' :: '\'' :: doubleQuotes rest else c :: doubleQuotes rest

/-- The value as a literal of the query language: texts between single quotes, inner
quotes doubled; blobs in hexadecimal. -/
def sqlLiteral : Value → String
  | null => "NULL"
  | integer n => toString n.toInt
  | real x => Decimal.plain x
  | text s => String.ofList ('\'' :: doubleQuotes s.toList ++ ['\''])
  | blob octets => String.ofList ('X' :: '\'' :: octets.flatMap Text.upperHexPair ++ ['\''])

end Value

end DialectBridge
