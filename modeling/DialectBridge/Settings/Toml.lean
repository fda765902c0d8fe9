import DialectBridge.Decimal.Reading
import DialectBridge.Settings.Assignment
import DialectBridge.Text.Hexadecimal

/-!
# TOML configurations

Tables with dotted headers, entries with dotted keys, and values on one line: texts
in either quote, whole and real numbers, truth values, arrays and inline tables. A
key or a table that is defined a second time is refused, as is anything that cannot
be read.
-/

namespace DialectBridge.Settings.Toml

/-! ## Keys and texts -/

/-- The spaces inside a line. -/
def isSpace (c : Char) : Bool := c == ' ' || c == '\t'

/-- Drops the spaces in front. -/
def skipSpaces (text : List Char) : List Char := text.dropWhile isSpace

/-- Control characters other than a tab, of which none stands in a comment as it is. -/
def endsComment (c : Char) : Bool := c.toNat < 0x20 && c != '\t'

/-- Drops a comment, up to the end of the line. -/
def skipComment : List Char → List Char
  | '#' :: rest => rest.dropWhile (!endsComment ·)
  | text => text

/-- Drops line breaks, spaces and comments. The fuel is the length of the text. -/
def skipLines : (fuel : Nat) → List Char → List Char
  | 0, text => text
  | fuel + 1, text =>
    match skipComment (skipSpaces text) with
    | '\n' :: rest => skipLines fuel rest
    | '\r' :: '\n' :: rest => skipLines fuel rest
    | rest => rest

/-- Characters of keys without quotes. -/
def isBareKeyChar (c : Char) : Bool := c.isAlphanum || c == '_' || c == '-'

/-- The characters of one-letter escapes. -/
def letterEscapes : List (Char × Nat) :=
  [('b', 8), ('t', 9), ('n', 10), ('f', 12), ('r', 13), ('"', 34), ('\\', 92)]

/-- Control characters, which stand in no text as they are; a tab does. -/
def isControl (c : Char) : Bool := (c.toNat < 0x20 && c != '\t') || c.toNat == 0x7F

/-- Reads up to the closing double quote. The fuel is the length of the text, since
every step leaves less of it. -/
def readBasic : (fuel : Nat) → List Char → Option (List Char × List Char)
  | 0, _ => none
  | _, [] => none
  | _, '"' :: rest => some ([], rest)
  | fuel + 1, '\\' :: c :: rest =>
    if c = 'u' ∨ c = 'U' then do
      let width := if c = 'u' then 4 else 8
      let code ← Text.ofHexDigits? (rest.take width)
      if rest.length < width || !code.isValidChar then none
      let (chars, rest) ← readBasic fuel (rest.drop width)
      pure (Char.ofNat code :: chars, rest)
    else do
      let code ← letterEscapes.lookup c
      let (chars, rest) ← readBasic fuel rest
      pure (Char.ofNat code :: chars, rest)
  | fuel + 1, c :: rest =>
    if isControl c then none
    else (readBasic fuel rest).map fun (chars, rest) => (c :: chars, rest)

/-- Reads up to the closing single quote; nothing is escaped. -/
def readLiteral : List Char → Option (List Char × List Char)
  | [] => none
  | c :: rest =>
    if c = '\'' then some ([], rest)
    else if isControl c then none
    else (readLiteral rest).map fun (chars, rest) => (c :: chars, rest)

/-- Reads a text in either quote. -/
def readText : List Char → Option (List Char × List Char)
  | '"' :: rest => readBasic (rest.length + 1) rest
  | '\'' :: rest => readLiteral rest
  | _ => none

/-- Reads one part of a key. -/
def readKeyPart (text : List Char) : Option (String × List Char) :=
  match readText text with
  | some (chars, rest) => some (String.ofList chars, rest)
  | none =>
    let chars := text.takeWhile isBareKeyChar
    if chars.isEmpty then none else some (String.ofList chars, text.dropWhile isBareKeyChar)

/-- Reads a dotted key. The fuel is the length of the text. -/
def readKey : (fuel : Nat) → List Char → Option (List String × List Char)
  | 0, _ => none
  | fuel + 1, text => do
    let (part, rest) ← readKeyPart (skipSpaces text)
    match skipSpaces rest with
    | '.' :: rest => do
      let (parts, rest) ← readKey fuel rest
      pure (part :: parts, rest)
    | rest => pure ([part], rest)

/-! ## Numbers -/

/-- Digits that underscores may separate, one between two digits; the digits alone. -/
def groupedDigits? (isDigit : Char → Bool) (text : List Char) : Option (List Char) :=
  let groups := Text.splitAt (· == '_') text
  if groups.all fun group => !group.isEmpty && group.all isDigit then some groups.flatten else none

/-- The letters of the bases other than ten, and the bases. -/
def bases : List (Char × Nat) := [('x', 16), ('o', 8), ('b', 2)]

/-- A whole number after its base mark. -/
def basedWhole? (base : Nat) (text : List Char) : Option Int := do
  let digits ← groupedDigits? (fun c => (Text.hexDigit? c).any (· < base)) text
  let value ← digits.foldlM (fun value c => (Text.hexDigit? c).map fun d => base * value + d) 0
  Decimal.checked value

/-- Whether digits have no zero in front that they could do without. -/
def isTight (digits : List Char) : Bool := digits.length == 1 || digits.head? != some '0'

/-- An unsigned whole number in decimal. -/
def decimalWhole? (text : List Char) : Option Nat := do
  let digits ← groupedDigits? Char.isDigit text
  if isTight digits then Decimal.readNatural digits else none

/-- The parts of a real number that follow its whole part: a point with digits, an
exponent, or both, without the underscores. -/
def realTail? (text : List Char) : Option (List Char) := do
  let isMark (c : Char) : Bool := c == 'e' || c == 'E'
  let beforeMark := text.takeWhile (!isMark ·)
  let fromMark := text.dropWhile (!isMark ·)
  let fraction ← match beforeMark with
    | [] => some []
    | '.' :: digits => (groupedDigits? Char.isDigit digits).map ('.' :: ·)
    | _ => none
  let exponent ← match fromMark with
    | [] => some []
    | mark :: rest =>
      let sign := rest.takeWhile (fun c => c == '+' || c == '-')
      (groupedDigits? Char.isDigit (rest.drop sign.length)).map (mark :: sign ++ ·)
  if fraction.isEmpty && exponent.isEmpty then none else some (fraction ++ exponent)

/-- An unsigned real number: a whole part as of a whole number, and a tail. -/
def real? (text : List Char) : Option Float := do
  let isWholePart (c : Char) : Bool := c.isDigit || c == '_'
  let whole ← groupedDigits? Char.isDigit (text.takeWhile isWholePart)
  let tail ← realTail? (text.dropWhile isWholePart)
  if isTight whole then Decimal.readFloat (whole ++ tail) else none

/-- A number or a truth value by its spelling. -/
def wordContent (word : List Char) : Option Content :=
  let sign := word.takeWhile (fun c => c == '+' || c == '-') |>.take 1
  let magnitude := word.drop sign.length
  let negative := sign == ['-']
  match String.ofList word, String.ofList magnitude with
  | "true", _ => some (.truth true)
  | "false", _ => some (.truth false)
  | _, "inf" => some (.real (if negative then -1.0 / 0.0 else 1.0 / 0.0))
  | _, "nan" => some (.real (0.0 / 0.0))
  | _, _ =>
    match word with
    | '0' :: mark :: digits =>
      match bases.lookup mark with
      | some base => (basedWhole? base digits).map .whole
      | none => decimal negative magnitude
    | _ => decimal negative magnitude
where
  /-- A signed number in decimal. -/
  decimal (negative : Bool) (magnitude : List Char) : Option Content :=
    match decimalWhole? magnitude with
    | some n => (Decimal.checked (if negative then -(n : Int) else n)).map .whole
    | none => (real? magnitude).map fun x => .real (if negative then -x else x)

/-! ## Values -/

/-- Characters of numbers and truth values. -/
def isWordChar (c : Char) : Bool := c.isAlphanum || c == '_' || c == '-' || c == '+' || c == '.'

/-- Whether a path was taken before: it leads to or through a value that was assigned. -/
def isTaken (path : List String) (taken : List Assignment) : Bool :=
  taken.any fun a => related a.path path

mutual

/-- Reads a value as assignments at and below a path. The fuel is the length of the
text: no value is read from nothing. -/
def readValue (fuel : Nat) (path : List String) (text : List Char) :
    Option (List Assignment × List Char) :=
  match fuel, text with
  | 0, _ => none
  | _, [] => none
  | fuel + 1, c :: rest =>
    if c = '"' ∨ c = '\'' then do
      let (chars, rest) ← readText text
      pure ([⟨path, .text (String.ofList chars)⟩], rest)
    else if c = '[' then do
      let rest ← readItems fuel (skipLines rest.length rest)
      pure ([⟨path, .sequence⟩], rest)
    else if c.toNat = 0x7B then do
      let rest := skipSpaces rest
      match rest with
      | [] => none
      | mark :: after =>
        if mark.toNat = 0x7D then some ([⟨path, .mapping⟩], after)
        else do
          let (found, rest) ← readEntries fuel path [] rest
          pure (⟨path, .mapping⟩ :: found, rest)
    else do
      let content ← wordContent (text.takeWhile isWordChar)
      pure ([⟨path, content⟩], text.dropWhile isWordChar)

/-- Reads the items of an array up to its closing bracket, over several lines if need be. -/
def readItems (fuel : Nat) (text : List Char) : Option (List Char) :=
  match fuel, text with
  | 0, _ => none
  | _, ']' :: rest => some rest
  | fuel + 1, text => do
    let (_, rest) ← readValue fuel [] text
    match skipLines rest.length rest with
    | ',' :: rest => readItems fuel (skipLines rest.length rest)
    | ']' :: rest => some rest
    | _ => none

/-- Reads the entries of an inline table up to its closing brace. -/
def readEntries (fuel : Nat) (path : List String) (taken : List Assignment) (text : List Char) :
    Option (List Assignment × List Char) :=
  match fuel with
  | 0 => none
  | fuel + 1 => do
    let (key, rest) ← readKey text.length text
    let path' := path ++ key
    if isTaken path' taken then none
    match rest with
    | '=' :: rest => do
      let (found, rest) ← readValue fuel path' (skipSpaces rest)
      match skipSpaces rest with
      | ',' :: rest => do
        let (more, rest) ← readEntries fuel path (found ++ taken) rest
        pure (found ++ more, rest)
      | mark :: rest => if mark.toNat = 0x7D then some (found, rest) else none
      | [] => none
    | _ => none

end

/-! ## Documents -/

/-- What a path was made into: a table by its own header, a table by the header of one
below it or by a dotted key, a value, or an array of tables. -/
inductive Place where
  | headed
  | implied
  | dotted
  | value
  | items
  deriving DecidableEq

/-- How far a document has been read: the table that entries belong to; what the paths
so far were made into, below an array of tables only for its last table; and what was
assigned. -/
structure Progress where
  table : List String := []
  places : List (List String × Place) := []
  found : List Assignment := []

/-- The paths on the way to a path, without itself. -/
def pathsTo (path : List String) : List (List String) :=
  (List.range path.length).tail.map path.take

namespace Progress

/-- The progress with a path made into something. -/
def mark (progress : Progress) (path : List String) (place : Place) : Progress :=
  { progress with
    places := (path, place) :: progress.places.filter fun (known, _) => known != path }

/-- Whether a path lies inside an array of tables, where no setting is. -/
def isInItems (progress : Progress) (path : List String) : Bool :=
  progress.places.any fun (known, place) => place == .items && known.isPrefixOf path

/-- The progress with assignments more, unless they lie inside an array of tables. -/
def assign (progress : Progress) (path : List String) (found : List Assignment) : Progress :=
  if progress.isInItems path then progress
  else { progress with found := progress.found ++ found }

/-- Goes down to the table that holds the last key of a header. -/
def descend (progress : Progress) (path : List String) : Option Progress :=
  (pathsTo path).foldlM (fun progress path =>
    match progress.places.lookup path with
    | none => some (progress.mark path .implied)
    | some .value => none
    | some _ => some progress) progress

/-- Opens the table of a header, which no other header or dotted key has made. -/
def openTable (progress : Progress) (path : List String) : Option Progress := do
  let progress ← progress.descend path
  match progress.places.lookup path with
  | none | some .implied =>
    let progress := progress.assign path [⟨path, .mapping⟩]
    some { progress.mark path .headed with table := path }
  | some _ => none

/-- Opens another table of an array of tables. -/
def openItem (progress : Progress) (path : List String) : Option Progress := do
  let progress ← progress.descend path
  match progress.places.lookup path with
  | none | some .items =>
    let progress := progress.assign path [⟨path, .sequence⟩]
    let places := progress.places.filter fun (known, _) => !path.isPrefixOf known
    some { progress with table := path, places := (path, .items) :: places }
  | some _ => none

/-- Goes down a dotted key to the table that holds its last part. Tables with a header
of their own are not to be reached in this way, and a table that other headers imply
only on the way to one that is not yet there. -/
def descendDotted (progress : Progress) (key : List String) : Option Progress := do
  let paths := (pathsTo key).map (progress.table ++ ·)
  let progress ← paths.foldlM (fun progress path =>
    match progress.places.lookup path with
    | none => some (progress.mark path .dotted)
    | some .dotted | some .implied => some progress
    | some _ => none) progress
  match paths.getLast? with
  | none => some progress
  | some last => if progress.places.lookup last == some .dotted then some progress else none

/-- Reads a header after its bracket. -/
def header (progress : Progress) (text : List Char) : Option (Progress × List Char) :=
  match text with
  | '[' :: text => do
    let (path, rest) ← readKey text.length text
    match rest with
    | ']' :: ']' :: rest => (progress.openItem path).map (·, rest)
    | _ => none
  | _ => do
    let (path, rest) ← readKey text.length text
    match rest with
    | ']' :: rest => (progress.openTable path).map (·, rest)
    | _ => none

/-- Reads an entry of the table that is open. -/
def entry (progress : Progress) (text : List Char) : Option (Progress × List Char) := do
  let (key, rest) ← readKey text.length text
  match rest with
  | '=' :: rest => do
    let path := progress.table ++ key
    let value := skipSpaces rest
    let (found, rest) ← readValue value.length path value
    let progress ← progress.descendDotted key
    match progress.places.lookup path with
    | none => some ((progress.assign path found).mark path .value, rest)
    | some _ => none
  | _ => none

/-- Reads lines to the end. The fuel is the length of the text, since every header
and entry takes some of it. -/
def readLines : (fuel : Nat) → Progress → List Char → Option Progress
  | 0, progress, text => if text.isEmpty then some progress else none
  | fuel + 1, progress, text =>
    match skipLines text.length text with
    | [] => some progress
    | c :: rest => do
      let (progress, rest) ←
        if c = '[' then progress.header rest else progress.entry (c :: rest)
      match skipComment (skipSpaces rest) with
      | [] => pure progress
      | '\n' :: rest => readLines fuel progress rest
      | '\r' :: '\n' :: rest => readLines fuel progress rest
      | _ => none

end Progress

/-- Reads a configuration; `none` if it is malformed. -/
def read (text : String) : Option (List Assignment) :=
  (Progress.readLines text.length {} text.toList).map (·.found)

end DialectBridge.Settings.Toml
