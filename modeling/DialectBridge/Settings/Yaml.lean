import DialectBridge.Decimal.Reading
import DialectBridge.Settings.Assignment
import DialectBridge.Text.Hexadecimal

/-!
# YAML configurations

One document whose root is a mapping. Block mappings nest by indentation, flow
mappings and sequences stand on one line, and scalars are plain or quoted. A block
sequence is taken as a whole, since no setting takes one. What cannot be read this
way, tags, anchors and folded scalars among them, is refused.
-/

namespace DialectBridge.Settings.Yaml

/-! ## Scalars -/

/-- Digits in a base of at most sixteen, as a signed 64-bit number. -/
def readBased (base : Nat) (digits : List Char) : Option Int := do
  if digits.isEmpty then none
  let value ← digits.foldlM (fun value c => do
    let digit ← (Text.hexDigit? c).filter (· < base)
    pure (base * value + digit)) 0
  Decimal.checked value

/-- The whole number that a plain scalar writes, if it writes one. -/
def whole? (text : List Char) : Option Int :=
  let based := match text with
    | '0' :: 'x' :: digits => readBased 16 digits
    | '0' :: 'o' :: digits => readBased 8 digits
    | '+' :: rest => Decimal.readInt64 rest
    | _ => none
  based.or (Decimal.readInt64 text)

/-- The spellings of numbers that are recognised but have no reading. -/
def unreadable : List String :=
  [".inf", ".Inf", ".INF", "+.inf", "+.Inf", "+.INF", "-.inf", "-.Inf", "-.INF", ".nan", ".NAN"]

/-- The content of a plain scalar: null, a truth value or a number by its spelling,
and a text otherwise. -/
def plainContent (text : List Char) : Option Content :=
  match whole? text with
  | some n => some (.whole n)
  | none =>
    match String.ofList text with
    | "~" | "null" => some .null
    | "true" => some (.truth true)
    | "false" => some (.truth false)
    | word =>
      if unreadable.contains word then none
      else match Decimal.readFloat text with
        | some x => some (.real x)
        | none => some (.text word)

/-- The characters of one-letter escapes between double quotes. -/
def letterEscapes : List (Char × Nat) :=
  [('0', 0), ('a', 7), ('b', 8), ('t', 9), ('\t', 9), ('n', 10), ('v', 11), ('f', 12), ('r', 13),
   ('e', 27), (' ', 32), ('"', 34), ('/', 47), ('\\', 92), ('N', 0x85), ('_', 0xA0),
   ('L', 0x2028), ('P', 0x2029)]

/-- The number of hexadecimal digits that an escape letter announces. -/
def escapeWidth? : Char → Option Nat
  | 'x' => some 2
  | 'u' => some 4
  | 'U' => some 8
  | _ => none

/-- Reads up to the closing double quote. The fuel is the length of the text, since
every step leaves less of it. -/
def readDouble : (fuel : Nat) → List Char → Option (List Char × List Char)
  | 0, _ => none
  | _, [] => none
  | _, '"' :: rest => some ([], rest)
  | fuel + 1, '\\' :: c :: rest =>
    match escapeWidth? c with
    | some width => do
      let code ← Text.ofHexDigits? (rest.take width)
      if rest.length < width || !code.isValidChar then none
      let (chars, rest) ← readDouble fuel (rest.drop width)
      pure (Char.ofNat code :: chars, rest)
    | none => do
      let code ← letterEscapes.lookup c
      let (chars, rest) ← readDouble fuel rest
      pure (Char.ofNat code :: chars, rest)
  | fuel + 1, c :: rest => (readDouble fuel rest).map fun (chars, rest) => (c :: chars, rest)

/-- Reads up to the closing single quote; two quotes stand for one. -/
def readSingle : List Char → Option (List Char × List Char)
  | [] => none
  | '\'' :: '\'' :: rest => (readSingle rest).map fun (chars, rest) => ('\'' :: chars, rest)
  | '\'' :: rest => some ([], rest)
  | c :: rest => (readSingle rest).map fun (chars, rest) => (c :: chars, rest)

/-- Reads a quoted scalar, if the text starts with one. -/
def readQuoted : List Char → Option (List Char × List Char)
  | '"' :: rest => readDouble (rest.length + 1) rest
  | '\'' :: rest => readSingle rest
  | _ => none

/-- Whether the text starts with a quote. -/
def startsQuoted (text : List Char) : Bool := text.head? == some '"' || text.head? == some '\''

/-- The spaces inside a line. -/
def isSpace (c : Char) : Bool := c == ' ' || c == '\t'

/-- Characters that no plain scalar starts with. -/
def indicators : List Char :=
  [',', '[', ']', Char.ofNat 0x7B, Char.ofNat 0x7D, '#', '&', '*', '!', '|', '>', '\'', '"', '%',
   '@', Char.ofNat 0x60]

/-- Whether a plain scalar may start a text: with no indicator, and with a dash,
question mark or colon only before more of the scalar. -/
def startsPlain : List Char → Bool
  | [] => false
  | [c] => !indicators.contains c && c != '-' && c != '?' && c != ':'
  | c :: next :: _ =>
    !indicators.contains c && !((c == '-' || c == '?' || c == ':') && isSpace next)

/-- Whether a text is at the end of its line but for spaces and a comment. -/
def isLineEnd (text : List Char) : Bool :=
  match text with
  | [] => true
  | c :: _ =>
    match text.dropWhile isSpace with
    | [] => true
    | mark :: _ => isSpace c && mark == '#'

/-- The marks of flow collections. -/
def isFlowMark (c : Char) : Bool :=
  [',', '[', ']', Char.ofNat 0x7B, Char.ofNat 0x7D].contains c

/-- Splits a plain scalar from what ends it: a colon before a space or the end, a
comment, or in a flow collection one of its marks. -/
def splitPlain (inFlow : Bool) : List Char → List Char × List Char
  | [] => ([], [])
  | c :: rest =>
    let endsHere :=
      (c == ':' && (rest.isEmpty || (rest.head?.any fun next =>
        isSpace next || (inFlow && isFlowMark next)))) ||
      (isSpace c && rest.head? == some '#') || (inFlow && isFlowMark c)
    if endsHere then ([], c :: rest)
    else
      let (chars, rest) := splitPlain inFlow rest
      (c :: chars, rest)

/-! ## Flow collections -/

/-- Drops the spaces in front. -/
def skipSpaces (text : List Char) : List Char := text.dropWhile isSpace

/-- Reads a key or a scalar between the marks of a flow collection. -/
def readFlowText (text : List Char) : Option (List Char × List Char) :=
  if startsQuoted text then readQuoted text
  else if startsPlain text then
    let (chars, rest) := splitPlain true text
    some (Text.trimEnd chars, rest)
  else none

mutual

/-- Reads a value inside a flow collection as assignments at and below a path. The
fuel is the length of the text: no value is read from nothing. -/
def readFlow (fuel : Nat) (path : List String) (text : List Char) :
    Option (List Assignment × List Char) :=
  match fuel, text with
  | 0, _ => none
  | _, [] => none
  | fuel + 1, c :: rest =>
    if c.toNat = 0x7B then do
      let (below, rest) ← readFlowEntries fuel path (skipSpaces rest)
      pure (⟨path, .mapping⟩ :: below, rest)
    else if c = '[' then do
      let rest ← readFlowItems fuel (skipSpaces rest)
      pure ([⟨path, .sequence⟩], rest)
    else do
      let (chars, rest) ← readFlowText text
      let content ←
        if startsQuoted text then some (.text (String.ofList chars)) else plainContent chars
      pure ([⟨path, content⟩], rest)

/-- Reads the entries of a flow mapping up to its closing brace. -/
def readFlowEntries (fuel : Nat) (path : List String) (text : List Char) :
    Option (List Assignment × List Char) :=
  match fuel, text with
  | 0, _ => none
  | _, [] => none
  | fuel + 1, c :: rest =>
    if c.toNat = 0x7D then some ([], rest)
    else do
      let (key, rest) ← readFlowText text
      let path' := path ++ [String.ofList key]
      let (entry, rest) ← match skipSpaces rest with
        | ':' :: rest =>
          match skipSpaces rest with
          | [] => none
          | mark :: rest =>
            if mark = ',' || mark.toNat = 0x7D then some ([⟨path', .null⟩], mark :: rest)
            else readFlow fuel path' (mark :: rest)
        | rest => some ([⟨path', .null⟩], rest)
      match skipSpaces rest with
      | ',' :: rest => do
        let (entries, rest) ← readFlowEntries fuel path (skipSpaces rest)
        pure (entry ++ entries, rest)
      | mark :: rest => if mark.toNat = 0x7D then some (entry, rest) else none
      | [] => none

/-- Reads the items of a flow sequence up to its closing bracket. -/
def readFlowItems (fuel : Nat) (text : List Char) : Option (List Char) :=
  match fuel, text with
  | 0, _ => none
  | _, [] => none
  | _, ']' :: rest => some rest
  | fuel + 1, text => do
    let (_, rest) ← readFlow fuel [] text
    match skipSpaces rest with
    | ',' :: rest => readFlowItems fuel (skipSpaces rest)
    | ']' :: rest => some rest
    | _ => none

end

/-! ## Block mappings -/

/-- A line that is neither blank nor a comment: the blanks in front of it and its text. -/
structure Line where
  blanks : List Char
  text : List Char

namespace Line

/-- The column at which a line's text starts. -/
def column (line : Line) : Nat := line.blanks.length

/-- The line of a text, without the carriage return at its end. -/
def read? (text : List Char) : Option Line :=
  let text := if text.getLast? == some '\r' then text.dropLast else text
  let rest := text.dropWhile isSpace
  if isLineEnd (' ' :: rest) then none else some ⟨text.takeWhile isSpace, rest⟩

/-- Whether no tab indents a line up to a column. A tab further to the right is as good
as a space. -/
def isSpacedUpTo (line : Line) (column : Nat) : Bool :=
  (line.blanks.take (column + 1)).all (· == ' ')

/-- Whether a line is an item of a block sequence. -/
def isItem (line : Line) : Bool :=
  match line.text with
  | ['-'] => true
  | '-' :: c :: _ => isSpace c
  | _ => false

end Line

/-- Whether tabs alone set a value off from its colon, where a word or a number wants a
space. -/
def isTabbedWord (text : List Char) : Bool :=
  match text.takeWhile isSpace, text.dropWhile isSpace with
  | [], _ | _, [] => false
  | blanks, c :: _ => blanks.all (· == '\t') && (c.isAlphanum || c == '-' || c == '_')

/-- What stands after the colon of an entry: nothing as yet, or assignments. -/
def readEntryValue (path : List String) (text : List Char) : Option (Option (List Assignment)) :=
  let value := skipSpaces text
  if isLineEnd text then some none
  else if isTabbedWord text then none
  else if startsQuoted value then do
    let (chars, rest) ← readQuoted value
    if isLineEnd rest then some (some [⟨path, .text (String.ofList chars)⟩]) else none
  else if value.head? == some '[' || value.head? == some (Char.ofNat 0x7B) then do
    let (found, rest) ← readFlow value.length path value
    if isLineEnd rest then some (some found) else none
  else if startsPlain value then do
    let (chars, rest) := splitPlain false value
    if !isLineEnd rest then none
    let content ← plainContent (Text.trimEnd chars)
    some (some [⟨path, content⟩])
  else none

/-- The key of an entry and the text after its colon. -/
def readEntryKey (text : List Char) : Option (List Char × List Char) := do
  let (key, rest) ←
    if startsQuoted text then readQuoted text
    else if startsPlain text then
      let (chars, rest) := splitPlain false text
      some (Text.trimEnd chars, rest)
    else none
  match skipSpaces rest with
  | ':' :: rest => if rest.isEmpty || rest.head?.any isSpace then some (key, rest) else none
  | _ => none

/-- How far the block mappings have been read: the columns and paths of those that
are open, innermost first; the key still without a value, at first the root; the
column of the sequence that is being passed over; and what was found, newest first. -/
structure Outline where
  levels : List (Nat × List String) := []
  pending : Option (List String) := some []
  items : Option Nat := none
  found : List Assignment := []

namespace Outline

/-- Settles the key without a value as null. -/
def settled (outline : Outline) : Outline :=
  match outline.pending with
  | some path => { outline with pending := none, found := ⟨path, .null⟩ :: outline.found }
  | none => outline

/-- The outline with the mapping open that a column belongs to. A column to the right
opens the mapping of the key without a value; any other has to be one of the columns
in use. -/
def reach (outline : Outline) (column : Nat) : Option (Outline × List String) :=
  let deeper := outline.levels.head?.all (·.1 < column)
  match outline.pending, deeper with
  | some path, true =>
    some ({ outline with levels := (column, path) :: outline.levels, pending := none }, path)
  | _, _ =>
    let outline := outline.settled
    match outline.levels.dropWhile (column < ·.1) with
    | (at', path) :: rest =>
      if at' = column then some ({ outline with levels := (at', path) :: rest }, path) else none
    | [] => none

/-- Reads one entry. -/
def entry (outline : Outline) (line : Line) : Option Outline := do
  let (outline, path) ← outline.reach line.column
  let (key, rest) ← readEntryKey line.text
  let path := path ++ [String.ofList key]
  match ← readEntryValue path rest with
  | none => pure { outline with pending := some path }
  | some found => pure { outline with found := found.reverse ++ outline.found }

/-- Reads an item: it starts a sequence as the value of the key without one. A
sequence cannot be the root. -/
def item (outline : Outline) (line : Line) : Option Outline :=
  match outline.pending with
  | none | some [] => none
  | some path =>
    if outline.levels.head?.any (line.column < ·.1) then none
    else some { outline with
      pending := none, items := some line.column, found := ⟨path, .sequence⟩ :: outline.found }

/-- Reads one line. -/
def step (outline : Outline) (line : Line) : Option Outline :=
  if !outline.levels.head?.all (fun (column, _) => line.isSpacedUpTo column) then none
  else match outline.items with
  | some column =>
    if column < line.column || (line.column == column && line.isItem) then some outline
    else { outline with items := none }.entry line
  | none => if line.isItem then outline.item line else outline.entry line

end Outline

/-- The start of a document. -/
def documentMark : List Char := ['-', '-', '-']

/-- Reads a configuration; `none` if it is malformed or its root is no mapping. -/
def read (text : String) : Option (List Assignment) := do
  let lines := (Text.splitAt (· == '\n') text.toList).filterMap Line.read?
  let marked := lines.head?.any fun line => line.column == 0 && line.text == documentMark
  let body := if marked then lines.drop 1 else lines
  match body with
  | [] => if marked then none else some []
  | line :: _ =>
    if line.text.head? == some (Char.ofNat 0x7B) then do
      let whole := [' '].intercalate (body.map Line.text)
      let (found, rest) ← readFlow whole.length [] whole
      if isLineEnd rest then some found else none
    else do
      let outline ← body.foldlM Outline.step {}
      pure outline.settled.found.reverse

end DialectBridge.Settings.Yaml
