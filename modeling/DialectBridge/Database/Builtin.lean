import DialectBridge.Database.Coercion
import DialectBridge.Database.Problem

/-!
# Functions of the engine itself

The functions that rewritten statements and plain queries call, on values. Letters
change case in ASCII only, characters are counted from one, and the least and the
greatest of several values are found in the order of values.
-/

namespace DialectBridge.Database

/-- The functions of the engine. -/
inductive Builtin where
  | upper
  | lower
  | length
  | substring
  | least
  | greatest
  | absolute
  | firstKnown
  | nullIf
  | typeName
  | like
  | glob
  | trim (start stop : Bool)
  | replace
  | position
  deriving DecidableEq, Repr

namespace Builtin

/-- The functions by name, with the least and the greatest number of arguments. -/
def table : List (String × Builtin × Nat × Option Nat) :=
  [("upper", upper, 1, some 1), ("lower", lower, 1, some 1), ("length", length, 1, some 1),
   ("substr", substring, 2, some 3), ("substring", substring, 2, some 3),
   ("min", least, 2, none), ("max", greatest, 2, none), ("abs", absolute, 1, some 1),
   ("coalesce", firstKnown, 2, none), ("ifnull", firstKnown, 2, some 2),
   ("nullif", nullIf, 2, some 2), ("typeof", typeName, 1, some 1), ("like", like, 2, some 3),
   ("glob", glob, 2, some 2), ("trim", trim true true, 1, some 2),
   ("ltrim", trim true false, 1, some 2), ("rtrim", trim false true, 1, some 2),
   ("replace", replace, 3, some 3), ("instr", position, 2, some 2)]

/-- Texts end at their first null character where characters are counted. -/
def countedChars (text : String) : List Char := text.toList.takeWhile fun c => c.toNat != 0

/-- No text or blob is longer than this. -/
def greatestLength : Int := 1000000000

/-- The part of a list from a place counted from one, of a length. A place below zero
counts from the end, and a length below zero takes what stands before the place. -/
def slice {α : Type} (items : List α) (start : Int) (length : Option Int) : List α :=
  let size : Int := items.length
  let wanted : Int := match length with
    | some n => n.natAbs
    | none => greatestLength
  let (first, wanted) : Int × Int :=
    if start < 0 then
      if start + size < 0 then (0, max 0 (wanted + start + size)) else (start + size, wanted)
    else if start > 0 then (start - 1, wanted)
    else (0, if wanted > 0 then wanted - 1 else wanted)
  let (first, wanted) : Int × Int :=
    if (length.getD 0) < 0 then
      if first - wanted < 0 then (0, wanted + (first - wanted)) else (first - wanted, wanted)
    else (first, wanted)
  (items.drop first.toNat).take wanted.toNat

/-- A value as a whole number of 32 bits, without the bits that lie above; null has
none. -/
def integer32? (value : Value) : Option Int := (integerOf? value).map (Int.bmod · 0x100000000)

/-- The part of a text or a blob. -/
def part (value start : Value) (length : Option Value) : Value :=
  let bound : Option (Option Int) := match length with
    | none => some none
    | some value => (integer32? value).map some
  match integer32? start, bound with
  | some start, some length =>
    match value with
    | .null | .blob [] => .null
    | .blob octets => .blob (slice octets start length)
    | value =>
      .text (String.ofList (slice (countedChars ((textOf? value).getD "")) start length))
  | _, _ => .null

/-- The value that comes first among several; none if one is null. -/
def best (isBetter : Ordering → Bool) : Value → List Value → Value
  | .null, _ => .null
  | found, [] => found
  | found, value :: rest =>
    match value with
    | .null => .null
    | value => best isBetter (if isBetter (compareValues value found) then value else found) rest

/-- Whether two characters are the same up to the case of ASCII letters. -/
def sameLetter (a b : Char) : Bool := a.toLower == b.toLower

/-- Whether a text has the form of a pattern with percent signs and underscores. The
fuel bounds the steps: each takes a character of the pattern or of the text. -/
def isLike (escape : Option Char) : (fuel : Nat) → List Char → List Char → Bool
  | 0, _, _ => false
  | _, [], text => text.isEmpty
  | fuel + 1, c :: pattern, text =>
    if escape == some c then
      match pattern, text with
      | d :: pattern, t :: text => sameLetter d t && isLike escape fuel pattern text
      | _, _ => false
    else if c == '%' then
      isLike escape fuel pattern text ||
        match text with
        | _ :: rest => isLike escape fuel (c :: pattern) rest
        | [] => false
    else
      match text with
      | t :: text => (c == '_' || sameLetter c t) && isLike escape fuel pattern text
      | [] => false

/-- Whether a character is in a set between brackets, and what follows the closing
bracket. -/
def inSet (c : Char) : (first : Bool) → List Char → Option (Bool × List Char)
  | _, [] => none
  | first, ']' :: rest => if first then (inSet c false rest).map fun (found, rest) =>
      (found || c == ']', rest) else some (false, rest)
  | _, low :: '-' :: high :: rest =>
    if high == ']' then
      (inSet c false ('-' :: high :: rest)).map fun (found, rest) => (found || c == low, rest)
    else (inSet c false rest).map fun (found, rest) => (found || (low ≤ c && c ≤ high), rest)
  | _, low :: rest => (inSet c false rest).map fun (found, rest) => (found || c == low, rest)

/-- Whether a text has the form of a pattern with stars, question marks and sets. The
fuel bounds the steps as for the other patterns. -/
def isGlob : (fuel : Nat) → List Char → List Char → Bool
  | 0, _, _ => false
  | _, [], text => text.isEmpty
  | fuel + 1, c :: pattern, text =>
    if c == '*' then
      isGlob fuel pattern text ||
        match text with
        | _ :: rest => isGlob fuel (c :: pattern) rest
        | [] => false
    else
      match text with
      | [] => false
      | t :: text =>
        if c == '?' then isGlob fuel pattern text
        else if c == '[' then
          let (negated, set) := match pattern with
            | '^' :: rest => (true, rest)
            | _ => (false, pattern)
          match inSet t true set with
          | some (found, rest) => found != negated && isGlob fuel rest text
          | none => false
        else c == t && isGlob fuel pattern text

/-- Puts a text in the place of every occurrence of another. `covered` counts the
characters of an occurrence that are still to be left out. -/
def replaceAll (old new : List Char) : (covered : Nat) → List Char → List Char
  | _, [] => []
  | covered + 1, _ :: rest => replaceAll old new covered rest
  | 0, c :: rest =>
    if old.isPrefixOf (c :: rest) then new ++ replaceAll old new (old.length - 1) rest
    else c :: replaceAll old new 0 rest

/-- The place of the first occurrence, from one; zero if there is none. -/
def placeOf (needle text : List Char) : Nat :=
  match Text.cutAtFirst needle text with
  | some (before, _) => before.length + 1
  | none => 0

/-- The word for the kind of a value. -/
def kind : Value → String
  | .null => "null"
  | .integer _ => "integer"
  | .real _ => "real"
  | .text _ => "text"
  | .blob _ => "blob"

/-- A function of texts that is null where one is. -/
def onTexts (arguments : List Value) (result : List (List Char) → Value) : Value :=
  match arguments.mapM textOf? with
  | some texts => result (texts.map String.toList)
  | none => .null

/-- The result on arguments, of which there are as many as the function accepts. -/
def apply (function : Builtin) (arguments : List Value) : Except Problem Value :=
  match function, arguments with
  | upper, [value] => .ok (onTexts [value] fun texts =>
      .text (String.ofList (texts.flatten.map Char.toUpper)))
  | lower, [value] => .ok (onTexts [value] fun texts =>
      .text (String.ofList (texts.flatten.map Char.toLower)))
  | length, [.blob octets] => .ok (.ofInt octets.length)
  | length, [value] => .ok (onTexts [value] fun texts =>
      .ofInt (countedChars (String.ofList texts.flatten)).length)
  | substring, [value, start] => .ok (part value start none)
  | substring, [value, start, bound] => .ok (part value start (some bound))
  | least, value :: rest => .ok (best (· != .gt) value rest)
  | greatest, value :: rest => .ok (best (· == .gt) value rest)
  | absolute, [.null] => .ok .null
  | absolute, [.integer n] =>
    if n.toInt == Decimal.minInt64 then .error .wholeOverflow else .ok (.ofInt n.toInt.natAbs)
  | absolute, [value] => .ok (.real (asReal (numberOf value)).abs)
  | firstKnown, values => .ok ((values.find? fun value => rank value != 0).getD .null)
  | nullIf, [a, b] => .ok (if compareValues a b == .eq then .null else a)
  | typeName, [value] => .ok (.text (kind value))
  | like, pattern :: text :: escape => .ok (onTexts (pattern :: text :: escape) fun
      | pattern :: text :: escape =>
        ofTruth (some (isLike (escape.head?.bind List.head?)
          (pattern.length + text.length + 1) pattern text))
      | _ => .null)
  | glob, [pattern, text] => .ok (onTexts [pattern, text] fun
      | [pattern, text] =>
        ofTruth (some (isGlob (pattern.length + text.length + 1) pattern text))
      | _ => .null)
  | trim start stop, value :: marks => .ok (onTexts (value :: marks) fun
      | text :: marks =>
        let isMark (c : Char) : Bool := match marks with
          | [] => c == ' '
          | marks :: _ => marks.contains c
        let text := if start then text.dropWhile isMark else text
        .text (String.ofList (if stop then (text.reverse.dropWhile isMark).reverse else text))
      | [] => .null)
  | replace, [value, old, new] =>
    if textOf? old == some "" then .ok value
    else .ok (onTexts [value, old, new] fun
      | [text, old, new] => .text (String.ofList (replaceAll old new 0 text))
      | _ => .null)
  | position, [text, needle] => .ok (onTexts [text, needle] fun
      | [text, needle] => .ofInt (placeOf needle text)
      | _ => .null)
  | _, _ => .ok .null

end Builtin

/-- The functions of all rows of a query. -/
inductive Aggregate where
  | count
  | least
  | greatest
  | sum
  | total
  | average
  deriving DecidableEq, Repr

namespace Aggregate

/-- The aggregates by name, with the least and the greatest number of arguments. -/
def table : List (String × Aggregate × Nat × Nat) :=
  [("count", count, 0, 1), ("min", least, 1, 1), ("max", greatest, 1, 1), ("sum", sum, 1, 1),
   ("total", total, 1, 1), ("avg", average, 1, 1)]

/-- The whole number that a value is, if it is one or a text of nothing but one. -/
def whole? : Value → Option Int
  | .integer n => some n.toInt
  | .text s =>
    match wholeNumber? s.toList with
    | some (.integer n) => some n.toInt
    | _ => none
  | _ => none

/-- The sum of whole numbers, none of whose partial sums may leave the range. -/
def sumOfWhole (numbers : List Int) : Except Problem Value :=
  (numbers.foldlM (fun found n => Decimal.checked (found + n)) 0).elim (.error .wholeOverflow)
    fun found => .ok (.ofInt found)

/-- The sum of reals. What each step rounds away is added up on its own and joins the
sum at the end, unless it is no number. -/
def sumOfReals (numbers : List Float) : Float :=
  let (found, lost) := numbers.foldl (fun (found, lost) x =>
    let next := found + x
    let rounded := if found.abs > x.abs then (found - next) + x else (x - next) + found
    (next, lost + rounded)) ((0, 0) : Float × Float)
  if lost.isFinite then found + lost else found

/-- The result on the values of all rows. Nulls do not count. -/
def apply (aggregate : Aggregate) (values : List Value) : Except Problem Value :=
  let known := values.filter fun value => rank value != 0
  let real := sumOfReals (known.map fun value => asReal (numberOf value))
  match aggregate with
  | count => .ok (.ofInt known.length)
  | least =>
    match known with
    | [] => .ok .null
    | first :: rest => .ok (Builtin.best (· == .lt) first rest)
  | greatest =>
    match known with
    | [] => .ok .null
    | first :: rest => .ok (Builtin.best (· == .gt) first rest)
  | sum =>
    if known.isEmpty then .ok .null
    else
      match known.mapM whole? with
      | some numbers => sumOfWhole numbers
      | none => .ok (withoutNaN (.real real))
  | total => .ok (withoutNaN (.real real))
  | average =>
    if known.isEmpty then .ok .null
    else .ok (withoutNaN (.real (real / Float.ofNat known.length)))

end Aggregate

end DialectBridge.Database
