import DialectBridge.Text.Hexadecimal

/-!
# Tokens of the engine's language

The engine reads a statement as tokens. Every token keeps its text as it was written,
because syntax errors quote it, and its place in the source, because the engine keeps
the text of definitions. Text that starts no token is a token too, of a kind that no
statement accepts.
-/

namespace DialectBridge.Database

/-- The kinds of tokens. -/
inductive TokenKind where
  | word
  | quotedName
  | string
  | blob
  | whole
  | real
  | parameter
  | sign
  | unrecognized
  deriving DecidableEq, Repr

/-- A token. -/
structure Token where
  kind : TokenKind
  text : List Char
  offset : Nat

namespace Token

/-- Characters that a name may start with. -/
def isNameStart (c : Char) : Bool := c.isAlpha || c == '_' || c.toNat ≥ 0x80

/-- Characters that a name may go on with. -/
def isNamePart (c : Char) : Bool := isNameStart c || c.isDigit || c == '$'

/-- The blanks between tokens. -/
def isSpace (c : Char) : Bool :=
  c == ' ' || c == '\t' || c == '\n' || c == '\r' || c.toNat == 0x0C

/-- The signs, longer ones before their beginnings. -/
def signs : List String :=
  ["->>", "->", "==", "<=", "<>", "<<", ">=", ">>", "!=", "||", "(", ")", ";", "+", "-", "*",
   "/", "%", "=", "<", ">", "|", "&", "~", ",", "."]

/-- The length of what stands between two quotes that start at the front, both
included; a doubled quote does not close. None if it is not closed. -/
def quotedLength (closing : Char) : List Char → Option Nat
  | [] => none
  | c :: rest =>
    if c = closing then
      match rest with
      | d :: rest => if d = closing then (quotedLength closing rest).map (· + 2) else some 1
      | [] => some 1
    else (quotedLength closing rest).map (· + 1)

/-- The length of a comment between stars, after its opening; it may run to the end. -/
def commentLength : List Char → Nat
  | [] => 0
  | '*' :: '/' :: _ => 2
  | _ :: rest => commentLength rest + 1

/-- The length of an exponent, or nothing if there is none. -/
def exponentLength : List Char → Nat
  | c :: rest =>
    if c == 'e' || c == 'E' then
      let sign := (rest.takeWhile fun c => c == '+' || c == '-').take 1
      let digits := (rest.drop sign.length).takeWhile Char.isDigit
      if digits.isEmpty then 0 else 1 + sign.length + digits.length
    else 0
  | [] => 0

/-- The kind and length of a number. A number that runs into a name is none. -/
def number (source : List Char) : TokenKind × Nat :=
  let count (text : List Char) : Nat := (text.takeWhile Char.isDigit).length
  let (kind, length) : TokenKind × Nat :=
    match source with
    | '0' :: x :: rest =>
      let digits := (rest.takeWhile Text.isHexDigit).length
      if (x == 'x' || x == 'X') && digits > 0 then (.whole, digits + 2) else decimal count source
    | _ => decimal count source
  let trailing := ((source.drop length).takeWhile isNamePart).length
  if trailing > 0 then (.unrecognized, length + trailing) else (kind, length)
where
  /-- The kind and length of a number in decimal. -/
  decimal (count : List Char → Nat) (source : List Char) : TokenKind × Nat :=
    let whole := count source
    let (kind, length) : TokenKind × Nat :=
      match source.drop whole with
      | '.' :: rest => (.real, whole + 1 + count rest)
      | _ => (.whole, whole)
    match exponentLength (source.drop length) with
    | 0 => (kind, length)
    | exponent => (.real, length + exponent)

/-- The kind and length of a parameter after its mark. -/
def parameterLength (mark : Char) (rest : List Char) : Option Nat :=
  if mark = '?' then some (1 + (rest.takeWhile Char.isDigit).length)
  else
    let name := rest.takeWhile isNamePart
    if name.isEmpty then none else some (1 + name.length)

/-- The kind and length of a token between quotes. -/
def quoted (kind : TokenKind) (closing : Char) (source rest : List Char) : TokenKind × Nat :=
  match quotedLength closing rest with
  | some length => (kind, length + 1)
  | none => (.unrecognized, source.length)

/-- The kind and length of a token between brackets. -/
def bracketed (source rest : List Char) : TokenKind × Nat :=
  let inside := rest.takeWhile (· != ']')
  if inside.length = rest.length then (.unrecognized, source.length)
  else (.quotedName, inside.length + 2)

/-- The kind and length of a blob literal after its opening quote: an even number of
hexadecimal digits and a quote. Otherwise all up to the quote is no token. -/
def blobLength (rest : List Char) : TokenKind × Nat :=
  let digits := rest.takeWhile Text.isHexDigit
  match rest.drop digits.length with
  | '\'' :: _ =>
    (if digits.length % 2 = 0 then .blob else .unrecognized, digits.length + 3)
  | _ =>
    let inside := rest.takeWhile (· != '\'')
    (.unrecognized, min (inside.length + 3) (rest.length + 2))

/-- The kind and length of the token at the front of a source that is not empty and
does not start with a blank or a comment. -/
def measure (c : Char) (rest : List Char) : TokenKind × Nat :=
  let source := c :: rest
  if c = '\'' then quoted .string '\'' source rest
  else if c = '"' then quoted .quotedName '"' source rest
  else if c.toNat = 0x60 then quoted .quotedName c source rest
  else if c = '[' then bracketed source rest
  else if c.isDigit || (c == '.' && rest.head?.any Char.isDigit) then number source
  else if (c == 'x' || c == 'X') && rest.head? == some '\'' then blobLength (rest.drop 1)
  else if c == '?' || c == ':' || c == '@' || c == '#' || c == '$' then
    match parameterLength c rest with
    | some length => (.parameter, length)
    | none => (.unrecognized, 1)
  else if isNameStart c then (.word, 1 + (rest.takeWhile isNamePart).length)
  else
    match signs.find? fun sign => sign.toList.isPrefixOf source with
    | some sign => (.sign, sign.length)
    | none => (.unrecognized, 1)

/-- The length of the blanks or the comment at the front of a source. -/
def skipped : List Char → Nat
  | '-' :: '-' :: rest => 2 + (rest.takeWhile (· != '\n')).length
  | '/' :: '*' :: rest => 2 + commentLength rest
  | source => (source.takeWhile isSpace).length

/-- Scans a source. The fuel is its length, since every step takes some of it. -/
def scanFrom : (fuel offset : Nat) → List Char → List Token
  | 0, _, _ => []
  | _, _, [] => []
  | fuel + 1, offset, c :: rest =>
    match skipped (c :: rest) with
    | 0 =>
      let (kind, length) := measure c rest
      let length := max 1 length
      ⟨kind, (c :: rest).take length, offset⟩ ::
        scanFrom fuel (offset + length) ((c :: rest).drop length)
    | length => scanFrom fuel (offset + length) ((c :: rest).drop length)

/-- The tokens of a source. -/
def scan (source : List Char) : List Token := scanFrom source.length 0 source

/-- A word or sign in upper case. -/
def key (token : Token) : String := String.ofList (token.text.map Char.toUpper)

/-- Whether the token is a word with this spelling in upper case. -/
def isKeyword (token : Token) (keyword : String) : Bool :=
  token.kind == .word && token.key == keyword

/-- Whether the token is this sign. -/
def isSign (token : Token) (sign : String) : Bool :=
  token.kind == .sign && token.text == sign.toList

/-- What stands between two quotes, with doubled quotes taken as one. -/
def unquoted (closing : Char) : List Char → List Char
  | [] => []
  | c :: rest =>
    if c = closing then
      match rest with
      | d :: rest => if d = closing then closing :: unquoted closing rest else []
      | [] => []
    else c :: unquoted closing rest

/-- The name or text that a token stands for: what is between its quotes, if it has
any, or the token as it is written. -/
def content (token : Token) : String :=
  match token.kind, token.text with
  | .quotedName, '[' :: rest => String.ofList rest.dropLast
  | .quotedName, c :: rest => String.ofList (unquoted c rest)
  | .string, c :: rest => String.ofList (unquoted c rest)
  | _, text => String.ofList text

/-- Words that are never names. -/
def reserved : List String :=
  ["ADD", "ALL", "ALTER", "AND", "AS", "AUTOINCREMENT", "BETWEEN", "CASE", "CHECK", "COLLATE",
   "COMMIT", "CONSTRAINT", "CREATE", "DEFAULT", "DEFERRABLE", "DELETE", "DISTINCT", "DROP",
   "ELSE", "ESCAPE", "EXCEPT", "EXISTS", "FOREIGN", "FROM", "GROUP", "HAVING", "IN", "INDEX",
   "INSERT", "INTERSECT", "INTO", "IS", "ISNULL", "JOIN", "LIMIT", "NOT", "NOTHING", "NOTNULL",
   "NULL", "ON", "OR", "ORDER", "PRIMARY", "REFERENCES", "RETURNING", "SELECT", "SET", "TABLE",
   "THEN", "TO", "TRANSACTION", "UNION", "UNIQUE", "UPDATE", "USING", "VALUES", "WHEN", "WHERE"]

/-- Words that start a join, and are names only where no table comes before them. -/
def joinWords : List String := ["CROSS", "FULL", "INNER", "LEFT", "NATURAL", "OUTER", "RIGHT"]

/-- Whether the token can be an alias without a word in front of it. -/
def isIdentifier (token : Token) : Bool :=
  token.kind == .quotedName ||
    (token.kind == .word && !reserved.contains token.key && !joinWords.contains token.key)

/-- Whether the token can be a name. -/
def isName (token : Token) : Bool :=
  token.isIdentifier || token.kind == .string ||
    (token.kind == .word && joinWords.contains token.key)

end Token

end DialectBridge.Database
