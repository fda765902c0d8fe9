import DialectBridge.Statement.Token

/-!
# Phrases of a statement

A statement that has been read is a phrase: words and signs in their normal layout,
with the names and calls in it told apart. The normal layout has one space between
words, capital keywords and no comments, so that writing a phrase gives one text for
all the ways to lay a statement out.
-/

namespace DialectBridge.Statement

/-- Doubles the quotes of a text after the character `previous`. A quote that stands
after a backslash, and a pair of quotes, are taken to be escaped already. -/
def doubleQuotes (quote previous : Char) : List Char → List Char
  | [] => []
  | [c] => if c = quote ∧ previous ≠ '\\' then [c, c] else [c]
  | c :: d :: rest =>
    if c ≠ quote then c :: doubleQuotes quote c (d :: rest)
    else if previous = '\\' then c :: doubleQuotes quote previous (d :: rest)
    else if d = quote then c :: d :: doubleQuotes quote c rest
    else c :: c :: doubleQuotes quote c (d :: rest)

/-- A text between quotes of one character. -/
def quoted (quote : Char) (text : String) : String :=
  String.ofList (quote :: doubleQuotes quote (Char.ofNat 0) text.toList ++ [quote])

/-- A name as it is written. Brackets have no way to hold a closing bracket. -/
def Identifier.render (identifier : Identifier) : String :=
  match identifier.quote with
  | none => identifier.text
  | some .bracket => "[" ++ identifier.text ++ "]"
  | some quote => quoted quote.closing identifier.text

/-- A name with its qualifiers. -/
def renderName (parts : List Identifier) : String :=
  ".".intercalate (parts.map Identifier.render)

/-- Which of the values of its arguments a call takes. -/
inductive Quantifier where
  | all
  | distinct
  deriving DecidableEq, Repr

/-- The keyword of a quantifier. -/
def Quantifier.keyword : Quantifier → String
  | all => "ALL"
  | distinct => "DISTINCT"

/-- A phrase. The `ordering` of a call stands between its parentheses after the
arguments, and the `modifiers` follow them. A part of a text, which has a grammar of
its own, is told apart from calls: its start and its length are each one phrase, or
absent. -/
inductive Phrase where
  | text (words : String)
  | name (parts : List Identifier)
  | call (function : List Identifier) (quantifier : Option Quantifier)
      (arguments ordering modifiers : List Phrase)
  | substring (subject : Phrase) (start length : List Phrase)
  | sequence (parts : List Phrase)

namespace Phrase

/-- The text of a call from the texts of its parts. -/
def renderCall (function : List Identifier) (quantifier : Option Quantifier)
    (arguments ordering modifiers : List String) : String :=
  renderName function ++ "(" ++ (match quantifier with
    | some quantifier => quantifier.keyword ++ " "
    | none => "") ++ ", ".intercalate arguments ++ String.join ordering ++ ")" ++
    String.join modifiers

/-- The text of a part of a text from the texts of its own parts. -/
def renderSubstring (subject : String) (start length : List String) : String :=
  "SUBSTRING(" ++ subject ++ String.join (start.map (" FROM " ++ ·)) ++
    String.join (length.map (" FOR " ++ ·)) ++ ")"

mutual

/-- The text of a phrase in its normal layout. -/
def render : Phrase → String
  | text words => words
  | name parts => renderName parts
  | call function quantifier arguments ordering modifiers =>
    renderCall function quantifier (renderAll arguments) (renderAll ordering) (renderAll modifiers)
  | substring subject start length =>
    renderSubstring subject.render (renderAll start) (renderAll length)
  | sequence parts => String.join (renderAll parts)

/-- The texts of phrases. -/
def renderAll : List Phrase → List String
  | [] => []
  | phrase :: rest => phrase.render :: renderAll rest

end

/-- Phrases with a sign between each two. -/
def separated (sign : String) (phrases : List Phrase) : List Phrase :=
  phrases.intersperse (text sign)

/-- A list of phrases, separated by commas. -/
def list (phrases : List Phrase) : Phrase := sequence (separated ", " phrases)

/-- A phrase in parentheses. -/
def parenthesized (phrase : Phrase) : Phrase := sequence [text "(", phrase, text ")"]

/-- A member of what the first phrase names. The names before the name of a function
belong to it. -/
def access : Phrase → Phrase → Phrase
  | name parts, name more => name (parts ++ more)
  | name parts, call function quantifier arguments ordering modifiers =>
    call (parts ++ function) quantifier arguments ordering modifiers
  | root, member => sequence [root, text ".", member]

/-- A phrase of names in parentheses after a space; nothing if there are none. -/
def columns (names : List Identifier) : List Phrase :=
  if names.isEmpty then []
  else [text " ", parenthesized (list (names.map fun column => name [column]))]

end Phrase

end DialectBridge.Statement
