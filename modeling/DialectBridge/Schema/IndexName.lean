import DialectBridge.Text.Blank
import DialectBridge.Text.Folding
import DialectBridge.Text.Utf8

/-!
# The name in an index statement

A statement that creates an index is recognised by its first words, and the name of
the index is told apart in it: a bare or quoted name, after an optional schema with a
point. Where the words that come first can themselves be the name, as in an index
called `IF`, reading falls back on that.
-/

namespace DialectBridge.Schema

/-- A statement cut at the name of its index. -/
structure IndexName where
  before : List Char
  name : List Char
  after : List Char
  deriving DecidableEq, Repr

namespace IndexName

/-- Whether two characters are the same but for case. -/
def sameLetter (c d : Char) : Bool := Text.foldCode c.toNat == Text.foldCode d.toNat

/-- Drops a word of any case from the front. -/
def dropWord : List Char → List Char → Option (List Char)
  | [], text => some text
  | letter :: word, c :: rest => if sameLetter letter c then dropWord word rest else none
  | _ :: _, [] => none

/-- Drops blanks from the front, of which there must be one. -/
def dropBlanks : List Char → Option (List Char)
  | [] => none
  | c :: rest => if Text.isBlank c then some (Text.trimStart rest) else none

/-- Drops words of any case from the front, each with blanks after it. -/
def dropWords (words : List String) (text : List Char) : Option (List Char) :=
  words.foldlM (fun text word => (dropWord word.toList text).bind dropBlanks) text

/-- Whether a bare name can start with a character. Two characters beyond ASCII are
case variants of letters. -/
def isNameStart (c : Char) : Bool :=
  c.isAlpha || c == '_' || c.toNat == 0x17F || c.toNat == 0x212A

/-- Whether a bare name can go on with a character. -/
def isNamePart (c : Char) : Bool := isNameStart c || c.isDigit || c == '$'

/-- The character that closes what a character opens, if it opens a quoted name. -/
def closing? (c : Char) : Option Char :=
  if c = '"' then some '"'
  else if c.toNat = 0x60 then some c
  else if c = '[' then some ']'
  else none

/-- Cuts a text at the name that it starts with: what opens the name, the name, and
what follows it with the closing quote. -/
def cutName (text : List Char) : Option (List Char × List Char × List Char) :=
  match text with
  | [] => none
  | c :: rest =>
    match closing? c with
    | some close =>
      let name := rest.takeWhile (· != close)
      let after := rest.dropWhile (· != close)
      if name.isEmpty || after.isEmpty then none else some ([c], name, after)
    | none =>
      if isNameStart c then some ([], c :: rest.takeWhile isNamePart, rest.dropWhile isNamePart)
      else none

/-- Drops a schema with the point after it. -/
def dropSchema (text : List Char) : Option (List Char) := do
  let (opening, _, after) ← cutName text
  let rest := if opening.isEmpty then after else after.drop 1
  match Text.trimStart rest with
  | '.' :: rest => some (Text.trimStart rest)
  | _ => none

/-- Drops the words up to the name and what may stand before it. -/
def dropIntroduction (text : List Char) : Option (List Char) := do
  let rest ← dropWords ["CREATE"] (Text.trimStart text)
  (dropWords ["UNIQUE", "INDEX"] rest).or (dropWords ["INDEX"] rest)

/-- Cuts a text at the name that it starts with, which a schema may precede. -/
def cutQualified (text : List Char) : Option (List Char × List Char × List Char) :=
  ((dropSchema text).bind cutName).or (cutName text)

/-- Cuts an index statement at the name of its index; none for any other statement. -/
def locate? (statement : List Char) : Option IndexName := do
  let rest ← dropIntroduction statement
  let (_, name, after) ←
    ((dropWords ["IF", "NOT", "EXISTS"] rest).bind cutQualified).or (cutQualified rest)
  return ⟨statement.take (statement.length - name.length - after.length), name, after⟩

/-- Whether a statement creates an index. -/
def isIndexStatement (statement : String) : Bool := (locate? statement.toList).isSome

/-- The statement with another name for its index. -/
def renamed (found : IndexName) (name : List Char) : String :=
  String.ofList (found.before ++ name ++ found.after)

/-- The octet at which the name starts. -/
def start (found : IndexName) : Nat := Text.Utf8.width found.before

/-- The octet after the name. -/
def stop (found : IndexName) : Nat := found.start + Text.Utf8.width found.name

end IndexName

end DialectBridge.Schema
