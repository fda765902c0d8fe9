/-!
# Whole numbers in decimal

Reading of an optional sign followed by ASCII digits and nothing else, and the
bounds of the fixed-width whole numbers that readings are checked against.
-/

namespace DialectBridge.Decimal

/-- The value of an ASCII digit. -/
def digitValue (c : Char) : Nat := c.toNat - '0'.toNat

/-- The number that a list of digits denotes. -/
def ofDigits (digits : List Char) : Nat :=
  digits.foldl (fun value c => 10 * value + digitValue c) 0

/-- Reads one or more ASCII digits. -/
def readNatural (text : List Char) : Option Nat :=
  if text.isEmpty || !text.all Char.isDigit then none else some (ofDigits text)

/-- Reads digits with an optional sign of either kind. -/
def readSigned : List Char → Option Int
  | '-' :: digits => (readNatural digits).map fun n => -(n : Int)
  | '+' :: digits => (readNatural digits).map Int.ofNat
  | digits => (readNatural digits).map Int.ofNat

/-- The least signed 64-bit number. -/
def minInt64 : Int := -9223372036854775808

/-- The greatest signed 64-bit number. -/
def maxInt64 : Int := 9223372036854775807

/-- Whether a number fits in 64 bits with a sign. -/
def fitsInt64 (n : Int) : Bool := minInt64 ≤ n && n ≤ maxInt64

/-- Keeps a number that fits in 64 bits. -/
def checked (n : Int) : Option Int := if fitsInt64 n then some n else none

/-- Reads a signed number that fits in 64 bits. -/
def readInt64 (text : List Char) : Option Int := (readSigned text).bind checked

/-- Reads an unsigned number that fits in 32 bits; a plus sign may precede it. -/
def readNat32 (text : List Char) : Option Nat :=
  let digits := match text with
    | '+' :: rest => rest
    | _ => text
  (readNatural digits).filter (· < 0x100000000)

/-- A number in decimal, padded on the left with zeros to a width. -/
def padded (width : Nat) (n : Nat) : String :=
  let digits := (Nat.toDigits 10 n)
  String.ofList (List.replicate (width - digits.length) '0' ++ digits)

end DialectBridge.Decimal
