import DialectBridge.Calendar.Moment
import DialectBridge.Text.Blank

/-!
# Written dates

A layout is a sequence of pieces, and a text is read by consuming the pieces in
order. Blanks before a number do not count. A moment is read by the first of a
fixed list of layouts that consumes the whole text and names a moment that exists.
The zero date is a placeholder that stands for no moment.
-/

namespace DialectBridge.Calendar

/-- The parts of a moment that are written with one or two digits. -/
inductive Part where
  | month
  | day
  | hour
  | minute
  | second
  deriving DecidableEq, Repr

/-- A piece of a layout: the year, a part, a character that must occur, a stretch of
blanks that may be empty, or an optional decimal fraction of the second. -/
inductive Piece where
  | year
  | part (part : Part)
  | mark (c : Char)
  | gap
  | fraction
  deriving DecidableEq, Repr

/-- The numbers read so far; parts that a layout does not mention are zero. -/
structure Parts where
  year : Int := 0
  month : Nat := 0
  day : Nat := 0
  hour : Nat := 0
  minute : Nat := 0
  second : Nat := 0
  nanos : Nat := 0
  deriving DecidableEq, Repr

namespace Parts

/-- Stores the number of a part. -/
def set (parts : Parts) (part : Part) (n : Nat) : Parts :=
  match part with
  | .month => { parts with month := n }
  | .day => { parts with day := n }
  | .hour => { parts with hour := n }
  | .minute => { parts with minute := n }
  | .second => { parts with second := n }

/-- The moment that the parts name, if it exists. Second 60 of any minute is the
leap second after second 59. -/
def moment? (parts : Parts) : Option Moment :=
  if parts.hour < 24 ∧ parts.minute < 60 ∧ parts.second ≤ 60 then
    let leap := if parts.second = 60 then 1 else 0
    let seconds := 3600 * parts.hour + 60 * parts.minute + (parts.second - leap)
    match Date.ofParts? parts.year parts.month parts.day,
        Clock.ofParts? seconds (nanosPerSecond * leap + parts.nanos) with
    | some date, some clock => some ⟨date, clock⟩
    | _, _ => none
  else none

end Parts

/-- Takes one up to `limit` leading digits. -/
def takeDigits (limit : Nat) (text : List Char) : Option (List Char × List Char) :=
  let digits := (text.take limit).takeWhile Char.isDigit
  if digits.isEmpty then none else some (digits, text.drop digits.length)

/-- Takes all leading digits, at least one. -/
def takeAllDigits (text : List Char) : Option (List Char × List Char) :=
  takeDigits text.length text

/-- Reads a year: up to four digits, or any number of digits after a sign. -/
def readYear (text : List Char) : Option (Int × List Char) :=
  match text with
  | '-' :: rest =>
    (takeAllDigits rest).map fun (digits, rest) => (-(Decimal.ofDigits digits : Int), rest)
  | '+' :: rest => (takeAllDigits rest).map fun (digits, rest) => (Decimal.ofDigits digits, rest)
  | _ => (takeDigits 4 text).map fun (digits, rest) => (Decimal.ofDigits digits, rest)

/-- Nanoseconds of decimal fraction digits; digits past the ninth do not count. -/
def nanosOfDigits (digits : List Char) : Nat :=
  let kept := digits.take 9
  Decimal.ofDigits kept * Nat.pow 10 (9 - kept.length)

/-- Consumes one piece. -/
def Piece.read (piece : Piece) (parts : Parts) (text : List Char) :
    Option (Parts × List Char) :=
  match piece with
  | .year => (readYear (Text.trimStart text)).map fun (n, rest) => ({ parts with year := n }, rest)
  | .part p =>
    (takeDigits 2 (Text.trimStart text)).map fun (digits, rest) =>
      (parts.set p (Decimal.ofDigits digits), rest)
  | .mark c =>
    match text with
    | [] => none
    | head :: rest => if head = c then some (parts, rest) else none
  | .gap => some (parts, Text.trimStart text)
  | .fraction =>
    match text with
    | '.' :: rest =>
      (takeAllDigits rest).map fun (digits, rest) =>
        ({ parts with nanos := nanosOfDigits digits }, rest)
    | _ => some (parts, text)

/-- Consumes the pieces in order and requires that nothing is left. -/
def readPieces : List Piece → Parts → List Char → Option Parts
  | [], parts, text => if text.isEmpty then some parts else none
  | piece :: pieces, parts, text =>
    match piece.read parts text with
    | none => none
    | some (parts, rest) => readPieces pieces parts rest

/-- Year, month and day between dashes. -/
def datePieces : List Piece := [.year, .mark '-', .part .month, .mark '-', .part .day]

/-- Hour and minute after the given separator. -/
def minutePieces (separator : Piece) : List Piece :=
  [separator, .part .hour, .mark ':', .part .minute]

/-- Hour, minute and second after the given separator. -/
def secondPieces (separator : Piece) : List Piece :=
  minutePieces separator ++ [.mark ':', .part .second]

/-- The accepted layouts, in the order they are tried. -/
def layouts : List (List Piece) :=
  [datePieces ++ secondPieces .gap ++ [.fraction],
   datePieces ++ secondPieces (.mark 'T') ++ [.fraction],
   datePieces ++ secondPieces .gap,
   datePieces ++ secondPieces (.mark 'T'),
   datePieces ++ minutePieces .gap,
   datePieces]

/-- The moment that one layout reads. -/
def readLayout (layout : List Piece) (text : List Char) : Option Moment :=
  (readPieces layout {} text).bind Parts.moment?

/-- A date argument: the zero date or a moment. -/
inductive Stamp where
  | zero
  | at (moment : Moment)
  deriving DecidableEq

/-- The text that marks the zero date. -/
def zeroDate : List Char := ['0', '0', '0', '0', '-', '0', '0', '-', '0', '0']

/-- Reads a date argument between blanks. Whatever follows the zero date is
ignored. -/
def Stamp.read (text : List Char) : Option Stamp :=
  let text := Text.trim text
  if zeroDate.isPrefixOf text then some .zero
  else (layouts.findSome? fun layout => readLayout layout text).map .at

end DialectBridge.Calendar
