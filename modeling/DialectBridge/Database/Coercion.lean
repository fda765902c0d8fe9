import DialectBridge.Database.Syntax
import DialectBridge.Decimal.Significant

/-!
# Values inside the engine

The engine reads as much of a text as is a number where it needs one, turns numbers
into text with fifteen significant digits, and orders values of all kinds: null,
numbers by their exact value, texts, and blobs.
-/

namespace DialectBridge.Database

/-- The blanks that may surround a number in a text. -/
def isNumberSpace (c : Char) : Bool :=
  c == ' ' || (0x09 ≤ c.toNat && c.toNat ≤ 0x0D)

/-- The number at the front of a text, in three parts: its characters, whether it has
a point or an exponent, and what follows. -/
structure NumberPrefix where
  text : List Char
  isReal : Bool
  rest : List Char

/-- Splits the number off the front of a text without blanks. Nothing is left of a
point or a sign without digits. -/
def NumberPrefix.of (source : List Char) : NumberPrefix :=
  let sign := (source.takeWhile fun c => c == '+' || c == '-').take 1
  let afterSign := source.drop sign.length
  let whole := afterSign.takeWhile Char.isDigit
  let afterWhole := afterSign.drop whole.length
  let fraction := match afterWhole with
    | '.' :: rest => '.' :: rest.takeWhile Char.isDigit
    | _ => []
  if whole.isEmpty && fraction.length < 2 then ⟨[], false, source⟩
  else
    let rest := afterWhole.drop fraction.length
    let exponent := match rest with
      | mark :: after =>
        let sign := (after.takeWhile fun c => c == '+' || c == '-').take 1
        let digits := (after.drop sign.length).takeWhile Char.isDigit
        if (mark == 'e' || mark == 'E') && !digits.isEmpty then mark :: sign ++ digits else []
      | [] => []
    ⟨sign ++ whole ++ fraction ++ exponent, !(fraction.isEmpty && exponent.isEmpty),
      rest.drop exponent.length⟩

/-- The value of the number: whole if it is written so and fits. -/
def NumberPrefix.value (number : NumberPrefix) : Value :=
  if number.text.isEmpty then .integer 0
  else
    match (if number.isReal then none else Decimal.readInt64 number.text) with
    | some n => .ofInt n
    | none => .real ((Decimal.readFloat number.text).getD 0)

/-- The number at the front of a text, after blanks. -/
def leadingNumber (text : List Char) : NumberPrefix :=
  NumberPrefix.of (text.dropWhile isNumberSpace)

/-- The number that a text is as a whole, if it is one. -/
def wholeNumber? (text : List Char) : Option Value :=
  let number := leadingNumber text
  if !number.text.isEmpty && number.rest.all isNumberSpace then some number.value else none

/-- The text of a value; null has none. -/
def textOf? : Value → Option String
  | .null => none
  | .integer n => some (toString n.toInt)
  | .real x => some (Decimal.withDigits 15 x)
  | .text s => some s
  | .blob octets => some (Text.Utf8.decodeLossy octets)

/-- A value without NaN, which the engine does not keep. -/
def withoutNaN : Value → Value
  | .real x => if x.isNaN then .null else .real x
  | value => value

/-- A value as a number: null stays, and of a text or a blob counts what starts it. -/
def numberOf : Value → Value
  | .text s => (leadingNumber s.toList).value
  | .blob octets => (leadingNumber (Text.Utf8.decodeLossy octets).toList).value
  | value => value

/-- A number as a real. -/
def asReal : Value → Float
  | .integer n => Float.ofInt n.toInt
  | .real x => x
  | _ => 0

/-- The whole number in a real, if it has no fraction and lies inside the range. -/
def wholeOf? (x : Float) : Option Int :=
  match Decimal.Binary.ofFloat? x with
  | some binary =>
    let n := binary.truncate
    if binary.isWhole && Decimal.minInt64 < n && n < Decimal.maxInt64 then some n else none
  | none => none

/-- A real as a whole number where it is one. -/
def preferWhole : Value → Value
  | .real x => match wholeOf? x with
    | some n => .ofInt n
    | none => .real x
  | value => value

namespace Affinity

/-- Whether numbers are preferred. -/
def isNumeric : Affinity → Bool
  | numeric | integer | real => true
  | blob | text => false

/-- The value as a column stores it: texts that are numbers become numbers where
those are preferred, and numbers become texts where those are. -/
def store (affinity : Affinity) (value : Value) : Value :=
  match affinity, value with
  | .blob, value => value
  | .text, .integer n => .text (toString n.toInt)
  | .text, .real x => .text (Decimal.withDigits 15 x)
  | .text, value => value
  | .real, value =>
    match numeric value with
    | .integer n => .real (Float.ofInt n.toInt)
    | value => value
  | _, value => preferWhole (numeric value)
where
  /-- The number that a text is. -/
  numeric : Value → Value
    | .text s => (wholeNumber? s.toList).getD (.text s)
    | value => value

/-- The value turned into a kind, whatever has to be dropped for it. -/
def convert (affinity : Affinity) (value : Value) : Value :=
  match affinity, value with
  | _, .null => .null
  | .text, value => .text ((textOf? value).getD "")
  | .blob, .blob octets => .blob octets
  | .blob, value => .blob (Text.Utf8.encode ((textOf? value).getD ""))
  | .integer, .real x =>
    let outside := if x < 0 then Decimal.minInt64 else Decimal.maxInt64
    .ofInt ((Value.truncated x).getD outside)
  | .integer, .integer n => .integer n
  | .integer, value =>
    let text := ((textOf? value).getD "").toList.dropWhile isNumberSpace
    let sign := (text.takeWhile fun c => c == '+' || c == '-').take 1
    let digits := (text.drop sign.length).takeWhile Char.isDigit
    let n : Int := Decimal.ofDigits digits
    let n := if sign == ['-'] then -n else n
    .ofInt (max Decimal.minInt64 (min Decimal.maxInt64 n))
  | .real, value =>
    match numberOf value with
    | .integer n => .real (Float.ofInt n.toInt)
    | value => value
  | .numeric, .real x => .real x
  | .numeric, value => preferWhole (numberOf value)

end Affinity

/-- A value as a whole number of 64 bits; null has none. -/
def integerOf? (value : Value) : Option Int :=
  match Affinity.integer.convert value with
  | .integer n => some n.toInt
  | _ => none

/-- Whether a value counts as true; null is neither. -/
def truth? (value : Value) : Option Bool :=
  match numberOf value with
  | .null => none
  | .integer n => some (n != 0)
  | .real x => some (x != 0)
  | _ => none

/-- A truth value, or null where it is unknown. -/
def ofTruth : Option Bool → Value
  | none => .null
  | some true => .integer 1
  | some false => .integer 0

/-! ## Order -/

/-- The order of a whole number and a real by their exact values. -/
def compareMixed (n : Int) (x : Float) : Ordering :=
  match Decimal.Binary.ofFloat? x with
  | none => if x < 0 then .gt else .lt
  | some binary =>
    let signed (k : Nat) : Int := if binary.negative then -(k : Int) else k
    match binary.exponent with
    | .ofNat k => compare n (signed (binary.mantissa * Nat.pow 2 k))
    | .negSucc k => compare (n * Nat.pow 2 (k + 1)) (signed binary.mantissa)

/-- The order of two reals. -/
def compareReals (x y : Float) : Ordering := if x < y then .lt else if x > y then .gt else .eq

/-- The place of a kind of value in the order. -/
def rank : Value → Nat
  | .null => 0
  | .integer _ | .real _ => 1
  | .text _ => 2
  | .blob _ => 3

/-- The order of octets from the front; of two that start alike the shorter is less. -/
def compareOctets : List UInt8 → List UInt8 → Ordering
  | [], [] => .eq
  | [], _ => .lt
  | _, [] => .gt
  | a :: rest, b :: rest' => (compare a.toNat b.toNat).then (compareOctets rest rest')

/-- The order of texts by code points from the front. -/
def compareTexts : List Char → List Char → Ordering
  | [], [] => .eq
  | [], _ => .lt
  | _, [] => .gt
  | a :: rest, b :: rest' => (compare a.toNat b.toNat).then (compareTexts rest rest')

/-- The order of values. -/
def compareValues (a b : Value) : Ordering :=
  match a, b with
  | .integer m, .integer n => compare m.toInt n.toInt
  | .integer n, .real x => compareMixed n.toInt x
  | .real x, .integer n => (compareMixed n.toInt x).swap
  | .real x, .real y => compareReals x y
  | .text s, .text t => compareTexts s.toList t.toList
  | .blob s, .blob t => compareOctets s t
  | a, b => compare (rank a) (rank b)

/-- The order of rows, column by column. -/
def compareRows : List Value → List Value → Ordering
  | a :: rest, b :: rest' => (compareValues a b).then (compareRows rest rest')
  | [], [] => .eq
  | [], _ => .lt
  | _, [] => .gt

/-- The order of two operands of a comparison. Where a column that prefers numbers is
compared with what does not, texts that are numbers count as such; where a column
that prefers texts is compared with what prefers nothing, numbers count as texts. -/
def compareOperands (left right : Option Affinity) (a b : Value) : Ordering :=
  let applied : Affinity := match left, right with
    | some x, some y => if x.isNumeric || y.isNumeric then .numeric else .blob
    | some x, none => x
    | none, some y => y
    | none, none => .blob
  if applied.isNumeric then compareValues (Affinity.store.numeric a) (Affinity.store.numeric b)
  else
    let isText : Value → Bool
      | .text _ => true
      | _ => false
    if applied == .text && (isText a || isText b) then
      compareValues (Affinity.text.store a) (Affinity.text.store b)
    else compareValues a b

end DialectBridge.Database
