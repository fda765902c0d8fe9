import DialectBridge.Json.Basic
import DialectBridge.Decimal.Reading
import DialectBridge.Text.Hexadecimal

/-!
# Reading JSON

A document is scanned into tokens and the tokens are parsed. The form is strict:
four blank characters, no leading zeros, no control characters inside texts, escapes
of surrogates in pairs only, and nothing after the value. Lists and objects nest to a
fixed depth.
-/

namespace DialectBridge.Json

/-- The blanks between tokens. -/
def isSpace (c : Char) : Bool := c == ' ' || c == '\n' || c == '\r' || c == '\t'

/-- The code unit of four hexadecimal digits. -/
def unit? (a b c d : Char) : Option Nat :=
  Text.ofHexDigits? [a, b, c, d]

/-- The character of a one-letter escape. -/
def letterEscape? (c : Char) : Option Char :=
  match c with
  | '"' => some '"'
  | '\\' => some '\\'
  | '/' => some '/'
  | 'b' => some (Char.ofNat 0x08)
  | 'f' => some (Char.ofNat 0x0C)
  | 'n' => some '\n'
  | 'r' => some '\r'
  | 't' => some '\t'
  | _ => none

/-- Reads the rest of a text after its opening quote: the characters, and what
follows the closing quote. -/
def scanText : List Char → Option (List Char × List Char)
  | [] => none
  | '"' :: rest => some ([], rest)
  | '\\' :: 'u' :: a :: b :: c :: d :: rest =>
    match unit? a b c d, rest with
    | none, _ => none
    | some unit, rest =>
      if unit < 0xD800 ∨ 0xDFFF < unit then
        (scanText rest).map fun (chars, rest) => (Char.ofNat unit :: chars, rest)
      else if 0xDBFF < unit then none
      else match rest with
        | '\\' :: 'u' :: e :: f :: g :: h :: rest =>
          match unit? e f g h with
          | none => none
          | some low =>
            if low < 0xDC00 ∨ 0xDFFF < low then none
            else
              let code := 0x10000 + 0x400 * (unit - 0xD800) + (low - 0xDC00)
              (scanText rest).map fun (chars, rest) => (Char.ofNat code :: chars, rest)
        | _ => none
  | '\\' :: c :: rest =>
    match letterEscape? c with
    | none => none
    | some character => (scanText rest).map fun (chars, rest) => (character :: chars, rest)
  | c :: rest =>
    if c = '\\' ∨ c.toNat < 0x20 then none
    else (scanText rest).map fun (chars, rest) => (c :: chars, rest)

/-- Takes the digits of a whole part: a zero alone, or digits that start otherwise. -/
def scanWhole : List Char → Option (List Char × List Char)
  | '0' :: rest => some (['0'], rest)
  | chars =>
    let digits := chars.takeWhile Char.isDigit
    if digits.isEmpty then none else some (digits, chars.dropWhile Char.isDigit)

/-- Takes a point and the digits after it, if there is a point. -/
def scanFraction : List Char → Option (List Char × List Char)
  | '.' :: rest =>
    let digits := rest.takeWhile Char.isDigit
    if digits.isEmpty then none else some (digits, rest.dropWhile Char.isDigit)
  | rest => some ([], rest)

/-- Takes an exponent mark with its digits, if there is one. -/
def scanExponent (text : List Char) : Option (Option Int × List Char) :=
  match text with
  | [] => some (none, [])
  | c :: rest =>
    if c ≠ 'e' ∧ c ≠ 'E' then some (none, text)
    else
      let (negative, digits) := match rest with
        | '-' :: rest => (true, rest)
        | '+' :: rest => (false, rest)
        | _ => (false, rest)
      let taken := digits.takeWhile Char.isDigit
      if taken.isEmpty then none
      else
        let exponent : Int := Decimal.ofDigits taken
        some (some (if negative then -exponent else exponent), digits.dropWhile Char.isDigit)

/-- The token of a number in parts. Whole numbers beyond 64 bits and minus zero are
reals; a real beyond the range is refused. -/
def numberToken (negative : Bool) (whole fraction : List Char) (exponent : Option Int) :
    Option Token :=
  let number : Int := Decimal.ofDigits whole
  let signed := if negative then -number else number
  let isWhole := fraction.isEmpty && exponent.isNone
  if isWhole && !negative && number < 0x10000000000000000 then some (.whole number)
  else if isWhole && negative && number != 0 && Decimal.minInt64 ≤ signed then some (.whole signed)
  else
    let scientific : Decimal.Scientific :=
      ⟨Decimal.ofDigits (whole ++ fraction), exponent.getD 0 - fraction.length⟩
    let magnitude := scientific.toFloat
    if magnitude.isInf then none
    else some (.real (if negative then -magnitude else magnitude))

/-- Reads a number. -/
def scanNumber (chars : List Char) : Option (Token × List Char) := do
  let (negative, unsigned) := match chars with
    | '-' :: rest => (true, rest)
    | _ => (false, chars)
  let (digits, rest) ← scanWhole unsigned
  let (fraction, rest) ← scanFraction rest
  let (exponent, rest) ← scanExponent rest
  let token ← numberToken negative digits fraction exponent
  return (token, rest)

/-- Reads one token from a text that starts with none of the blanks. -/
def scanToken (text : List Char) : Option (Token × List Char) :=
  match text with
  | [] => none
  | '[' :: rest => some (.openList, rest)
  | ']' :: rest => some (.closeList, rest)
  | ':' :: rest => some (.colon, rest)
  | ',' :: rest => some (.comma, rest)
  | '"' :: rest => (scanText rest).map fun (chars, rest) => (.text (String.ofList chars), rest)
  | 'n' :: 'u' :: 'l' :: 'l' :: rest => some (.null, rest)
  | 't' :: 'r' :: 'u' :: 'e' :: rest => some (.bool true, rest)
  | 'f' :: 'a' :: 'l' :: 's' :: 'e' :: rest => some (.bool false, rest)
  | c :: rest =>
    if c = Char.ofNat 0x7B then some (.openObject, rest)
    else if c = Char.ofNat 0x7D then some (.closeObject, rest)
    else scanNumber text

/-- Scans a whole text. Every token takes at least one character, so the length of
the text is fuel enough. -/
def scanFrom : (fuel : Nat) → List Char → Option (List Token)
  | 0, chars => if chars.isEmpty then some [] else none
  | fuel + 1, chars =>
    match chars.dropWhile isSpace with
    | [] => some []
    | c :: rest =>
      match scanToken (c :: rest) with
      | none => none
      | some (token, rest) => (scanFrom fuel rest).map (token :: ·)

/-- The tokens of a document. -/
def scan (text : List Char) : Option (List Token) := scanFrom text.length text

mutual

/-- Parses one value, nested at most `depth` deep. -/
def parseValue (fuel depth : Nat) (tokens : List Token) : Option (Json × List Token) :=
  match fuel, tokens with
  | 0, _ => none
  | _, [] => none
  | _ + 1, .null :: rest => some (.null, rest)
  | _ + 1, .bool value :: rest => some (.bool value, rest)
  | _ + 1, .whole number :: rest => some (.whole number, rest)
  | _ + 1, .real number :: rest => some (.real number, rest)
  | _ + 1, .text s :: rest => some (.text s, rest)
  | fuel + 1, .openList :: rest =>
    match depth, rest with
    | 0, _ => none
    | _ + 1, .closeList :: rest => some (.list [], rest)
    | depth + 1, rest =>
      (parseItems fuel depth rest).map fun (items, rest) => (.list items, rest)
  | fuel + 1, .openObject :: rest =>
    match depth, rest with
    | 0, _ => none
    | _ + 1, .closeObject :: rest => some (.object [], rest)
    | depth + 1, rest =>
      (parseMembers fuel depth rest).map fun (members, rest) => (.object members, rest)
  | _ + 1, _ :: _ => none

/-- Parses items up to the closing bracket; there is at least one. -/
def parseItems (fuel depth : Nat) (tokens : List Token) : Option (List Json × List Token) :=
  match fuel with
  | 0 => none
  | fuel + 1 =>
    match parseValue fuel depth tokens with
    | none => none
    | some (item, .closeList :: rest) => some ([item], rest)
    | some (item, .comma :: rest) =>
      (parseItems fuel depth rest).map fun (items, rest) => (item :: items, rest)
    | some _ => none

/-- Parses members up to the closing brace; there is at least one. -/
def parseMembers (fuel depth : Nat) (tokens : List Token) :
    Option (List (String × Json) × List Token) :=
  match fuel, tokens with
  | fuel + 1, .text key :: .colon :: rest =>
    match parseValue fuel depth rest with
    | none => none
    | some (value, .closeObject :: rest) => some ([(key, value)], rest)
    | some (value, .comma :: rest) =>
      (parseMembers fuel depth rest).map fun (members, rest) => ((key, value) :: members, rest)
    | some _ => none
  | _, _ => none

end

/-- How deep lists and objects may nest. -/
def maxDepth : Nat := 127

/-- Parses a whole token list. -/
def parse (tokens : List Token) : Option Json :=
  match parseValue (2 * tokens.length + 1) maxDepth tokens with
  | some (value, []) => some value
  | _ => none

/-- The value that a document denotes. -/
def read (text : String) : Option Json := (scan text.toList).bind parse

end DialectBridge.Json
