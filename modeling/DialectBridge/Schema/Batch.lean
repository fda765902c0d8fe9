import DialectBridge.Text.Blank

/-!
# Batches of statements

A batch is split at its semicolons. Semicolons inside quotes and comments do not
count, comments are dropped, and a statement is trimmed and not empty. The scan takes
one character at a time: it keeps the character, drops it, puts a blank for a comment,
or marks the end of a statement.
-/

namespace DialectBridge.Schema.Batch

/-- Where in a batch the scan stands. A block comment is entered at the star that opens
it, so that the star cannot close it. -/
inductive Place where
  | outside
  | quoted (quote : Char)
  | escaped (quote : Char)
  | lineComment
  | commentOpening
  | blockComment (afterStar : Bool)
  deriving DecidableEq, Repr

/-- What the scan leaves: characters of statements, and the ends of statements. -/
inductive Mark where
  | kept (c : Char)
  | stop
  deriving DecidableEq, Repr

/-- Whether a character is a quote. -/
def isQuote (c : Char) : Bool := c == '\'' || c == '"' || c.toNat == 0x60

/-- Whether a backslash escapes inside a quote: in all but back-ticks. -/
def escapes (quote : Char) : Bool := quote.toNat != 0x60

/-- Scans a text from a place on. A doubled quote closes and opens again; a comment
that is not closed ends with the text. -/
def scan : Place → List Char → List Mark
  | .lineComment, [] => [.kept '\n']
  | .blockComment _, [] => [.kept ' ']
  | _, [] => []
  | .outside, c :: rest =>
    if isQuote c then .kept c :: scan (.quoted c) rest
    else if c = ';' then .stop :: scan .outside rest
    else if c = '#' ∨ (c = '-' ∧ rest.head? = some '-') then scan .lineComment rest
    else if c = '/' ∧ rest.head? = some '*' then scan .commentOpening rest
    else .kept c :: scan .outside rest
  | .quoted quote, c :: rest =>
    .kept c ::
      (if c = '\\' ∧ escapes quote then scan (.escaped quote) rest
      else if c = quote then scan .outside rest
      else scan (.quoted quote) rest)
  | .escaped quote, c :: rest => .kept c :: scan (.quoted quote) rest
  | .lineComment, c :: rest =>
    if c = '\n' then .kept '\n' :: scan .outside rest else scan .lineComment rest
  | .commentOpening, _ :: rest => scan (.blockComment false) rest
  | .blockComment afterStar, c :: rest =>
    if afterStar ∧ c = '/' then .kept ' ' :: scan .outside rest
    else scan (.blockComment (c == '*')) rest

/-- The characters between the ends of statements; one more stretch than ends. -/
def stretches : List Mark → List (List Char)
  | [] => [[]]
  | .stop :: rest => [] :: stretches rest
  | .kept c :: rest =>
    match stretches rest with
    | [] => [[c]]
    | stretch :: more => (c :: stretch) :: more

/-- The statements of a text. -/
def statements (text : List Char) : List (List Char) :=
  ((stretches (scan .outside text)).map Text.trim).filter (!·.isEmpty)

/-- The statements of a batch, in order. -/
def split (batch : String) : List String := (statements batch.toList).map String.ofList

end DialectBridge.Schema.Batch
