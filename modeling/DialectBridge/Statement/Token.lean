import DialectBridge.Text.Category
import DialectBridge.Text.Lowercase
import DialectBridge.Text.Hexadecimal

/-!
# Tokens of a statement

A statement is scanned into words, literals, placeholders and signs; blanks and
comments stand only between them. A word can be quoted in four ways, and only an
unquoted word can be a keyword. Scanning fails where a quote or a comment is not
closed.
-/

namespace DialectBridge.Statement

/-- The quotes around a name. -/
inductive Quote where
  | double
  | backtick
  | bracket
  | single
  deriving DecidableEq, Repr

/-- The quote that opens with a character, if words can be quoted by it. -/
def Quote.ofOpening? (c : Char) : Option Quote :=
  if c = '"' then some .double
  else if c.toNat = 0x60 then some .backtick
  else if c = '[' then some .bracket
  else none

/-- The character that closes a quote. -/
def Quote.closing : Quote → Char
  | double => '"'
  | backtick => Char.ofNat 0x60
  | bracket => ']'
  | single => '\''

/-- A name with the quotes that it is written in. -/
structure Identifier where
  text : String
  quote : Option Quote := none
  deriving DecidableEq, Repr

/-- A token. A word carries the keyword that it may be taken for: its upper-case form,
or nothing if it is quoted. -/
inductive Token where
  | word (identifier : Identifier) (keyword : String)
  | number (digits : String)
  | text (value : String)
  | nationalText (value : String)
  | hexadecimal (digits : String)
  | placeholder (name : String)
  | sign (sign : String)
  deriving DecidableEq, Repr

namespace Token

/-- Names start with an ASCII letter, an underscore, or any character from the delete
control to the end of the basic plane. -/
def isNameStart (c : Char) : Bool :=
  c.isAlpha || c == '_' || (0x7F ≤ c.toNat && c.toNat ≤ 0xFFFF)

/-- Names go on with the same characters and the ASCII digits. -/
def isNamePart (c : Char) : Bool := isNameStart c || c.isDigit

/-- An unquoted word. -/
def ofName (name : List Char) : Token :=
  .word ⟨String.ofList name, none⟩ (String.ofList (name.flatMap Text.upperToAscii))

/-- Reads up to the closing quote; a doubled quote stands for one. -/
def scanQuoted (closing : Char) : List Char → Option (List Char × List Char)
  | [] => none
  | [c] => if c = closing then some ([], []) else none
  | c :: d :: rest =>
    if c ≠ closing then
      (scanQuoted closing (d :: rest)).map fun (taken, rest) => (c :: taken, rest)
    else if d = closing then
      (scanQuoted closing rest).map fun (taken, rest) => (closing :: taken, rest)
    else some ([], d :: rest)

/-- Drops a comment up to its closing mark. -/
def dropComment : List Char → Option (List Char)
  | [] => none
  | [_] => none
  | c :: d :: rest => if c = '*' ∧ d = '/' then some rest else dropComment (d :: rest)

/-- The exponent at the front of a text: a mark, an optional sign and digits. -/
def exponentOf (source : List Char) : List Char :=
  match source with
  | [] => []
  | mark :: rest =>
    if mark ≠ 'e' ∧ mark ≠ 'E' then []
    else
      let signed := rest.takeWhile (fun c => c == '+' || c == '-') |>.take 1
      let digits := (rest.drop signed.length).takeWhile Char.isDigit
      if digits.isEmpty then [] else mark :: signed ++ digits

/-- Reads a number, or the point that separates names. A point before an underscore
can only follow a word. -/
def scanNumber (afterWord : Bool) (source : List Char) : Option (Token × List Char) :=
  let whole := source.takeWhile Char.isDigit
  match whole, source.drop whole.length with
  | [], '.' :: '_' :: rest => if afterWord then some (.sign ".", '_' :: rest) else none
  | ['0'], 'x' :: rest =>
    let digits := rest.takeWhile Text.isHexDigit
    some (.hexadecimal (String.ofList digits), rest.drop digits.length)
  | _, rest =>
    let point := rest.takeWhile (· == '.') |>.take 1
    let rest := rest.drop point.length
    let fraction := rest.takeWhile Char.isDigit
    let rest := rest.drop fraction.length
    if whole.isEmpty && fraction.isEmpty then some (.sign ".", rest)
    else
      let exponent := exponentOf rest
      let rest := rest.drop exponent.length
      let suffix := rest.takeWhile (· == 'L') |>.take 1
      some (.number (String.ofList (whole ++ point ++ fraction ++ exponent ++ suffix)),
        rest.drop suffix.length)

/-- The signs, longer ones before those that they start with. -/
def signs : List String :=
  ["!~~*", "!~~", "!~*", "!~", "!=", "!!", "!", "~~*", "~~", "~*", "~", "->>", "->", "-",
   "<=>", "<=", "<>", "<<", "<@", "<", ">=", ">>", ">", "=>", "==", "=", "::", ":=", ":",
   "||/", "||", "|/", "|", "&&", "&", "^@", "^", "#>>", "#>", "#-", "#", "@>", "@?", "@@",
   "@", "+", "*", "/", "%", "(", ")", ",", ";"]

/-- Reads a sign. A character that starts none is a sign of its own, which no
statement has. -/
def scanSign (c : Char) (rest : List Char) : Token × List Char :=
  match signs.find? (fun mark => mark.toList.isPrefixOf (c :: rest)) with
  | some mark => (.sign mark, (c :: rest).drop mark.length)
  | none => (.sign (String.singleton c), rest)

/-- Reads a literal between single quotes after its opening quote. -/
def scanLiteral (token : String → Token) (source : List Char) :
    Option (Option Token × List Char) :=
  (scanQuoted '\'' source).map fun (value, rest) => (some (token (String.ofList value)), rest)

/-- Whether the characters of a placeholder's name go on. -/
def isPlaceholderPart (c : Char) : Bool := Text.isAlphanumeric c || c == '_' || c == '$'

/-- Reads one token, or a stretch without one: a blank or a comment. -/
def scanStep (afterWord : Bool) (c : Char) (rest : List Char) :
    Option (Option Token × List Char) :=
  match c, rest with
  | 'n', '\'' :: rest => scanLiteral .nationalText rest
  | 'N', '\'' :: rest => scanLiteral .nationalText rest
  | 'x', '\'' :: rest => scanLiteral .hexadecimal rest
  | 'X', '\'' :: rest => scanLiteral .hexadecimal rest
  | '\'', rest => scanLiteral .text rest
  | '-', '-' :: rest => some (none, (rest.dropWhile (· != '\n')).drop 1)
  | '/', '*' :: rest => (dropComment rest).map ((none, ·))
  | '?', rest =>
    let digits := rest.takeWhile Text.isNumeric
    some (some (.placeholder (String.ofList ('?' :: digits))), rest.drop digits.length)
  | '$', rest =>
    let name := rest.takeWhile isPlaceholderPart
    some (some (.placeholder (String.ofList ('$' :: name))), rest.drop name.length)
  | c, rest =>
    match Quote.ofOpening? c with
    | some quote =>
      (scanQuoted quote.closing rest).map fun (name, rest) =>
        (some (.word ⟨String.ofList name, some quote⟩ ""), rest)
    | none =>
      if c.isDigit || c == '.' then
        (scanNumber afterWord (c :: rest)).map fun (token, rest) => (some token, rest)
      else if isNameStart c then
        some (some (ofName (c :: rest.takeWhile isNamePart)), rest.dropWhile isNamePart)
      else if c == ' ' || (0x09 ≤ c.toNat && c.toNat ≤ 0x0D) then some (none, rest)
      else
        let (token, rest) := scanSign c rest
        some (some token, rest)

/-- Whether a token is a word. -/
def isWord : Token → Bool
  | word _ _ => true
  | _ => false

/-- Scans a whole text. Every step takes at least one character, so the length of the
text is fuel enough. -/
def scanFrom : (fuel : Nat) → (afterWord : Bool) → List Char → Option (List Token)
  | 0, _, source => if source.isEmpty then some [] else none
  | _ + 1, _, [] => some []
  | fuel + 1, afterWord, c :: rest =>
    match scanStep afterWord c rest with
    | none => none
    | some (none, rest) => scanFrom fuel false rest
    | some (some token, rest) => (scanFrom fuel token.isWord rest).map (token :: ·)

/-- The tokens of a text. -/
def scan (source : String) : Option (List Token) :=
  scanFrom source.toList.length false source.toList

end Token

end DialectBridge.Statement
