import DialectBridge.Decimal.Shortest
import DialectBridge.Text.Hexadecimal

/-!
# JSON values and their written forms

A value has a list of tokens, and both written forms spell out that list: the
compact form without blanks, the indented form with one member or item a line.
-/

namespace DialectBridge

/-- A JSON value. Whole numbers and reals are kept apart; members keep their order. -/
inductive Json where
  | null
  | bool (value : Bool)
  | whole (number : Int)
  | real (number : Float)
  | text (text : String)
  | list (items : List Json)
  | object (members : List (String × Json))
  deriving Inhabited

namespace Json

/-- The smallest units of a document. -/
inductive Token where
  | null
  | bool (value : Bool)
  | whole (number : Int)
  | real (number : Float)
  | text (text : String)
  | openList
  | closeList
  | openObject
  | closeObject
  | colon
  | comma
  deriving Inhabited

/-- A character between quotes: quotes, backslashes and control characters are
escaped, with a letter where there is one. -/
def escape (c : Char) : List Char :=
  if c = '"' then ['\\', '"']
  else if c = '\\' then ['\\', '\\']
  else if c.toNat = 0x08 then ['\\', 'b']
  else if c.toNat = 0x0C then ['\\', 'f']
  else if c = '\n' then ['\\', 'n']
  else if c = '\r' then ['\\', 'r']
  else if c = '\t' then ['\\', 't']
  else if c.toNat < 0x20 then '\\' :: 'u' :: Text.hexDigits 4 c.toNat
  else [c]

/-- A text between quotes. -/
def quote (text : String) : List Char := '"' :: text.toList.flatMap escape ++ ['"']

/-- Digits with a point after the first, unless it is the only one. -/
def pointAfterFirst : List Char → List Char
  | [] => []
  | [digit] => [digit]
  | digit :: rest => digit :: '.' :: rest

/-- A finite magnitude: positional with at least one decimal place between a hundred
thousandth and ten to the sixteenth, otherwise with an exponent. -/
def writeMagnitude (x : Decimal.Digits) : List Char :=
  let digits := Nat.toDigits 10 x.digits
  let point : Int := digits.length + x.exponent
  if 0 ≤ x.exponent ∧ point ≤ 16 then
    digits ++ List.replicate x.exponent.toNat '0' ++ ['.', '0']
  else if 0 < point ∧ point ≤ 16 then
    digits.take point.toNat ++ '.' :: digits.drop point.toNat
  else if -5 < point ∧ point ≤ 0 then
    '0' :: '.' :: List.replicate point.natAbs '0' ++ digits
  else pointAfterFirst digits ++ 'e' :: (toString (point - 1)).toList

/-- A real; what is not finite has no written form and becomes null. -/
def writeReal (x : Float) : List Char :=
  match Decimal.Binary.ofFloat? x with
  | none => ['n', 'u', 'l', 'l']
  | some binary =>
    let magnitude :=
      if binary.mantissa == 0 then ['0', '.', '0'] else writeMagnitude (Decimal.shortest binary)
    if binary.negative then '-' :: magnitude else magnitude

/-- The spelling of a token. -/
def Token.write : Token → List Char
  | null => ['n', 'u', 'l', 'l']
  | bool true => ['t', 'r', 'u', 'e']
  | bool false => ['f', 'a', 'l', 's', 'e']
  | whole n => (toString n).toList
  | real x => writeReal x
  | text s => quote s
  | openList => ['[']
  | closeList => [']']
  | openObject => [Char.ofNat 0x7B]
  | closeObject => [Char.ofNat 0x7D]
  | colon => [':']
  | comma => [',']

mutual

/-- The tokens of a value, in order. -/
def tokens : Json → List Token
  | .null => [.null]
  | .bool value => [.bool value]
  | .whole number => [.whole number]
  | .real number => [.real number]
  | .text s => [.text s]
  | .list items => .openList :: itemTokens items ++ [.closeList]
  | .object members => .openObject :: memberTokens members ++ [.closeObject]

/-- The tokens of items, commas between them. -/
def itemTokens : List Json → List Token
  | [] => []
  | [item] => item.tokens
  | item :: next :: rest => item.tokens ++ .comma :: itemTokens (next :: rest)

/-- The tokens of members, commas between them. -/
def memberTokens : List (String × Json) → List Token
  | [] => []
  | [(key, value)] => .text key :: .colon :: value.tokens
  | (key, value) :: next :: rest =>
    .text key :: .colon :: value.tokens ++ .comma :: memberTokens (next :: rest)

end

/-- The compact form. -/
def compact (value : Json) : String := String.ofList (value.tokens.flatMap Token.write)

/-- A new line indented to a depth. -/
def newLine (depth : Nat) : List Char := '\n' :: List.replicate (2 * depth) ' '

mutual

/-- The indented form at a depth. Empty lists and objects stay on one line. -/
def indented (depth : Nat) : Json → List Char
  | .list [] => ['[', ']']
  | .list (item :: rest) =>
    '[' :: indentedItems (depth + 1) (item :: rest) ++ newLine depth ++ [']']
  | .object [] => [Char.ofNat 0x7B, Char.ofNat 0x7D]
  | .object (member :: rest) =>
    Char.ofNat 0x7B :: indentedMembers (depth + 1) (member :: rest) ++ newLine depth ++
      [Char.ofNat 0x7D]
  | .null => Token.null.write
  | .bool value => (Token.bool value).write
  | .whole number => (Token.whole number).write
  | .real number => (Token.real number).write
  | .text s => (Token.text s).write

/-- Items, each on a line of its own. -/
def indentedItems (depth : Nat) : List Json → List Char
  | [] => []
  | [item] => newLine depth ++ item.indented depth
  | item :: next :: rest =>
    newLine depth ++ item.indented depth ++ ',' :: indentedItems depth (next :: rest)

/-- Members, each on a line of its own, with a blank after the colon. -/
def indentedMembers (depth : Nat) : List (String × Json) → List Char
  | [] => []
  | [(key, value)] => newLine depth ++ quote key ++ ':' :: ' ' :: value.indented depth
  | (key, value) :: next :: rest =>
    newLine depth ++ quote key ++ ':' :: ' ' :: value.indented depth ++
      ',' :: indentedMembers depth (next :: rest)

end

/-- The indented form. -/
def pretty (value : Json) : String := String.ofList (value.indented 0)

/-- Puts a member among others that are in the order of their keys. -/
def insertMember (key : String) (value : Json) : List (String × Json) → List (String × Json)
  | [] => [(key, value)]
  | (other, kept) :: rest =>
    if key < other then (key, value) :: (other, kept) :: rest
    else (other, kept) :: insertMember key value rest

mutual

/-- A value with the members of all objects in the order of their keys, each key once.
Of several members with one key the last counts. -/
def sorted : Json → Json
  | .list items => .list (sortedItems items)
  | .object members => .object (sortedMembers members)
  | value => value

/-- Items with the members of all objects in order. -/
def sortedItems : List Json → List Json
  | [] => []
  | item :: rest => item.sorted :: sortedItems rest

/-- Members in order, and those of all objects in them. -/
def sortedMembers : List (String × Json) → List (String × Json)
  | [] => []
  | (key, value) :: rest =>
    let later := sortedMembers rest
    if later.any fun member => member.1 == key then later
    else insertMember key value.sorted later

end

/-- The value of the first member with a key. -/
def member? (key : String) : Json → Option Json
  | .object members => (members.find? fun member => member.1 == key).map Prod.snd
  | _ => none

/-- The text of a text value. -/
def text? : Json → Option String
  | .text s => some s
  | _ => none

end Json

end DialectBridge
