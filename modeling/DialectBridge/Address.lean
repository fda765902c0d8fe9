import DialectBridge.Decimal.Integer
import DialectBridge.Text.Blank

/-!
# Network addresses

A four-part address is a number of 32 bits, written as its octets in decimal with
points between them. Reading accepts exactly that form: one to three digits a part,
no leading zeros, no part above 255.
-/

namespace DialectBridge.Address

/-- The octets of an address, most significant first. -/
def octets (address : Nat) : List Nat :=
  [address / 0x1000000 % 256, address / 0x10000 % 256, address / 256 % 256, address % 256]

/-- The written form. -/
def write (address : Nat) : String :=
  ".".intercalate ((octets address).map fun octet => Decimal.padded 1 octet)

/-- Reads one part. -/
def readOctet (part : List Char) : Option Nat :=
  if part.length > 3 || (part.length > 1 && part.head? == some '0') then none
  else (Decimal.readNatural part).filter (· < 256)

/-- Reads an address. -/
def read (text : List Char) : Option Nat :=
  match Text.splitAt (· == '.') text with
  | [a, b, c, d] =>
    match readOctet a, readOctet b, readOctet c, readOctet d with
    | some a, some b, some c, some d => some (0x1000000 * a + 0x10000 * b + 256 * c + d)
    | _, _, _, _ => none
  | _ => none

end DialectBridge.Address
