/-!
# Octets to text

Decoding of octets as UTF-8 that always succeeds: a well-formed sequence gives its
character, and each longest stretch that could still have become a character
before it went wrong gives one replacement character.
-/

namespace DialectBridge.Text.Utf8

/-- What a lead octet announces: the bits it contributes, the number of further
octets, and the interval the next octet must lie in. The interval excludes
overlong forms, surrogates and code points beyond the last plane. -/
structure Lead where
  bits : Nat
  pending : Nat
  low : Nat
  high : Nat

/-- Reads a lead octet. Single-octet characters are pending nothing. -/
def Lead.ofOctet? (octet : Nat) : Option Lead :=
  if octet < 0x80 then some ⟨octet, 0, 0x80, 0xBF⟩
  else if octet < 0xC2 then none
  else if octet < 0xE0 then some ⟨octet - 0xC0, 1, 0x80, 0xBF⟩
  else if octet == 0xE0 then some ⟨0, 2, 0xA0, 0xBF⟩
  else if octet == 0xED then some ⟨0xD, 2, 0x80, 0x9F⟩
  else if octet < 0xF0 then some ⟨octet - 0xE0, 2, 0x80, 0xBF⟩
  else if octet == 0xF0 then some ⟨0, 3, 0x90, 0xBF⟩
  else if octet < 0xF4 then some ⟨octet - 0xF0, 3, 0x80, 0xBF⟩
  else if octet == 0xF4 then some ⟨4, 3, 0x80, 0x8F⟩
  else none

/-- The replacement character. -/
def replacement : Char := Char.ofNat 0xFFFD

/-- Decodes with `pending` octets owed to the character under construction, whose
bits so far are `bits` and whose next octet must lie between `low` and `high`. An
octet that breaks the sequence closes it with a replacement character and is then
read as a lead. -/
def decodeFrom : (pending bits low high : Nat) → List UInt8 → List Char
  | 0, _, _, _, [] => []
  | _ + 1, _, _, _, [] => [replacement]
  | 0, _, _, _, octet :: rest => lead octet rest
  | pending + 1, bits, low, high, octet :: rest =>
    let value := octet.toNat
    if low ≤ value ∧ value ≤ high then
      let bits := 64 * bits + (value - 0x80)
      if pending = 0 then Char.ofNat bits :: decodeFrom 0 0 0x80 0xBF rest
      else decodeFrom pending bits 0x80 0xBF rest
    else replacement :: lead octet rest
where
  /-- Reads an octet at a character boundary and goes on with the rest. -/
  lead (octet : UInt8) (rest : List UInt8) : List Char :=
    match Lead.ofOctet? octet.toNat with
    | none => replacement :: decodeFrom 0 0 0x80 0xBF rest
    | some ⟨bits, 0, _, _⟩ => Char.ofNat bits :: decodeFrom 0 0 0x80 0xBF rest
    | some ⟨bits, pending + 1, low, high⟩ => decodeFrom (pending + 1) bits low high rest

/-- The text of a sequence of octets, ill-formed parts replaced. -/
def decodeLossy (octets : List UInt8) : String :=
  String.ofList (decodeFrom 0 0 0x80 0xBF octets)

/-- The octets of a text. -/
def encode (text : String) : List UInt8 := text.toUTF8.toList

/-- The number of octets a list of characters encodes to. -/
def width (text : List Char) : Nat := (text.map Char.utf8Size).foldr (· + ·) 0

end DialectBridge.Text.Utf8
