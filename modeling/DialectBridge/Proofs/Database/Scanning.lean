import DialectBridge.Database.ExpressionReader
import DialectBridge.Proofs.Characters
import DialectBridge.Proofs.Decimal.WholeNumbers
import DialectBridge.Value
import Mathlib.Data.List.Forall2

/-!
# Scanning literals

A value is written as a literal of one token, with a minus sign before it if it is a negative
number. Whatever a text holds, its literal ends where the text does: every quote in it is
doubled, so that the first quote that stands alone is the one that closes. What follows a
literal is scanned as if nothing stood before it, as long as it begins with a sign.
-/

namespace DialectBridge.Database

/-- A token without its place. -/
abbrev Lexeme := TokenKind × List Char

/-- What a token is, wherever it stands. -/
def Token.lexeme (token : Token) : Lexeme := (token.kind, token.text)

namespace Token

/-! ## Texts that are scanned as tokens -/

/-- A source is scanned as tokens before a rest, with fuel left for that. -/
def ScansAs (source : List Char) (lexemes : List Lexeme) (rest : List Char) : Prop :=
  ∀ fuel offset, (source ++ rest).length ≤ fuel →
    ∃ left further, rest.length ≤ left ∧
      (scanFrom fuel offset (source ++ rest)).map lexeme =
        lexemes ++ (scanFrom left further rest).map lexeme

/-- One source is scanned after another. -/
theorem ScansAs.append {first second rest : List Char} {before after : List Lexeme}
    (left : ScansAs first before (second ++ rest)) (right : ScansAs second after rest) :
    ScansAs (first ++ second) (before ++ after) rest := by
  intro fuel offset enough
  rw [List.append_assoc] at enough ⊢
  obtain ⟨between, place, enough, scanned⟩ := left fuel offset enough
  obtain ⟨last, further, enough, others⟩ := right between place enough
  refine ⟨last, further, enough, ?_⟩
  rw [scanned, others, List.append_assoc]

/-- What a whole source is scanned as are its tokens. -/
theorem scan_of_scansAs {source : List Char} {lexemes : List Lexeme}
    (scans : ScansAs source lexemes []) : (scan source).map lexeme = lexemes := by
  obtain ⟨left, further, _, scanned⟩ := scans source.length 0 (by simp)
  have done : scanFrom left further [] = [] := by cases left <;> rfl
  rw [List.append_nil, done] at scanned
  rw [scan, scanned, List.map_nil, List.append_nil]

/-- A source is scanned as one token if that is what it begins with, and no blank and no
comment. -/
theorem scansAs_of_measure {c : Char} {more rest : List Char} {kind : TokenKind}
    (visible : skipped (c :: (more ++ rest)) = 0)
    (measured : measure c (more ++ rest) = (kind, more.length + 1)) :
    ScansAs (c :: more) [(kind, c :: more)] rest := by
  intro fuel offset enough
  cases fuel with
  | zero => simp at enough
  | succ fuel =>
    have left : rest.length ≤ fuel := by
      simp only [List.cons_append, List.length_cons, List.length_append] at enough
      omega
    refine ⟨fuel, offset + (more.length + 1), left, ?_⟩
    rw [List.cons_append, scanFrom]
    have length : max 1 (more.length + 1) = more.length + 1 := by omega
    simp only [visible, measured, length]
    simp [lexeme]

/-- A space is scanned as no token, if no other follows. -/
theorem scansAs_space {c : Char} {rest : List Char} (visible : isSpace c = false) :
    ScansAs [' '] [] (c :: rest) := by
  intro fuel offset enough
  cases fuel with
  | zero => simp at enough
  | succ fuel =>
    have left : (c :: rest).length ≤ fuel := by simpa using enough
    have blank : skipped (' ' :: c :: rest) = 1 := by
      have space : isSpace ' ' = true := rfl
      simp [skipped, space, visible]
    refine ⟨fuel, offset + 1, left, ?_⟩
    simp [scanFrom, blank]

/-- What begins no blank and no comment is not skipped. -/
theorem skipped_of_visible {c : Char} (noDash : c ≠ '-') (noSlash : c ≠ '/')
    (visible : isSpace c = false) (rest : List Char) : skipped (c :: rest) = 0 := by
  unfold skipped
  split
  · next same => exact absurd (List.cons.inj same).1 noDash
  · next same => exact absurd (List.cons.inj same).1 noSlash
  · simp [visible]

/-! ## Literals before a sign -/

/-- What follows an argument of a call: the sign between two of them, or the one after the
last. -/
def EndsArgument (rest : List Char) : Prop :=
  ∃ more, rest = ',' :: more ∨ rest = ')' :: more

/-- What follows an argument does not begin with any of a class that has neither sign. -/
theorem EndsArgument.head_of {rest : List Char} (ends : EndsArgument rest)
    {holds : Char → Bool} (comma : holds ',' = false) (close : holds ')' = false) :
    ∀ c, rest.head? = some c → holds c = false := by
  rintro c head
  obtain ⟨more, rfl | rfl⟩ := ends
  · rw [← Option.some.inj head]
    exact comma
  · rw [← Option.some.inj head]
    exact close

/-- The word for null is scanned as it is. -/
theorem scansAs_null {rest : List Char} (ends : EndsArgument rest) :
    ScansAs "NULL".toList [(.word, "NULL".toList)] rest := by
  refine @scansAs_of_measure 'N' ['U', 'L', 'L'] rest .word rfl ?_
  obtain ⟨more, rfl | rfl⟩ := ends <;> rfl

/-- The length of a stretch of digits is counted up to what follows an argument. -/
theorem length_takeWhile_digits {digits rest : List Char} (digital : Decimal.Digital digits)
    (ends : EndsArgument rest) :
    ((digits ++ rest).takeWhile Char.isDigit).length = digits.length := by
  rw [(Text.takeWhile_dropWhile_append digital (ends.head_of rfl rfl)).1]

/-- Digits are measured as a whole number. -/
theorem decimal_digits {digits rest : List Char} (digital : Decimal.Digital digits)
    (ends : EndsArgument rest) :
    number.decimal (fun text => (text.takeWhile Char.isDigit).length) (digits ++ rest) =
      (.whole, digits.length) := by
  have count := length_takeWhile_digits digital ends
  obtain ⟨more, rfl | rfl⟩ := ends
  · simp [number.decimal, count, exponentLength]
  · simp [number.decimal, count, exponentLength]

/-- A digit is none of the other characters. -/
theorem ne_of_digit {c other : Char} (digit : c.isDigit = true) (noDigit : other.isDigit = false) :
    c ≠ other := by
  rintro rfl
  rw [digit] at noDigit
  exact absurd noDigit (by decide)

/-- A digit with a point behind it, digits there and no exponent is measured as a real number. -/
theorem decimal_pointed {front behind rest : List Char} (digital : Decimal.Digital front)
    (places : Decimal.Digital behind) (ends : EndsArgument rest) :
    number.decimal (fun text => (text.takeWhile Char.isDigit).length)
        (front ++ '.' :: (behind ++ rest)) = (.real, (front ++ '.' :: behind).length) := by
  have first : ((front ++ '.' :: (behind ++ rest)).takeWhile Char.isDigit).length =
      front.length := by
    rw [(Text.takeWhile_dropWhile_append digital (by rintro c ⟨rfl⟩; rfl)).1]
  have second := length_takeWhile_digits places ends
  have counted : (front ++ '.' :: behind).length = front.length + 1 + behind.length := by
    rw [List.length_append, List.length_cons]
    omega
  have left : (front ++ '.' :: (behind ++ rest)).drop (front.length + 1 + behind.length) =
      rest := by
    rw [← counted, ← List.cons_append, ← List.append_assoc, List.drop_left]
  have noExponent : exponentLength rest = 0 := by
    obtain ⟨more, rfl | rfl⟩ := ends <;> rfl
  unfold number.decimal
  simp only [first, List.drop_left, second, left, noExponent, counted]

/-- What comes after a digit is a digit or what follows the digits, and not the mark of another
base. -/
theorem no_base_mark {digits rest : List Char} (digital : Decimal.Digital digits)
    (next : ∀ x, rest.head? = some x → (x == 'x' || x == 'X') = false) {x : Char}
    (second : (digits ++ rest).head? = some x) : (x == 'x' || x == 'X') = false := by
  cases digits with
  | nil => exact next x second
  | cons d digits =>
    obtain rfl : d = x := Option.some.inj second
    have digit : d.isDigit = true := digital d List.mem_cons_self
    have small : d ≠ 'x' := ne_of_digit digit rfl
    have capital : d ≠ 'X' := ne_of_digit digit rfl
    simp [small, capital]

/-- A number in decimal is measured as it is, and nothing runs into it. -/
theorem number_decimal {c : Char} {more rest : List Char} {kind : TokenKind}
    (noBase : ∀ x, (more ++ rest).head? = some x → (x == 'x' || x == 'X') = false)
    (plain : number.decimal (fun text => (text.takeWhile Char.isDigit).length)
      (c :: (more ++ rest)) = (kind, (c :: more).length)) (ends : EndsArgument rest) :
    number (c :: (more ++ rest)) = (kind, (c :: more).length) := by
  have noName : rest.takeWhile isNamePart = [] := by
    obtain ⟨more, rfl | rfl⟩ := ends <;> rfl
  have ended : ((c :: (more ++ rest)).drop (c :: more).length).takeWhile isNamePart = [] := by
    rw [← List.cons_append, List.drop_left, noName]
  unfold number
  split
  · next x others same =>
    have noMark := noBase x (by rw [(List.cons.inj same).2]; rfl)
    simp only [noMark, Bool.false_and, Bool.false_eq_true, if_false, plain, ended]
    rfl
  · simp only [plain, ended]
    rfl

/-- A digit begins a number. -/
theorem measure_digit {c : Char} (digit : c.isDigit = true) (rest : List Char) :
    measure c rest = number (c :: rest) := by
  have code := Text.isDigit_iff.mp digit
  have noQuote : c ≠ '\'' := ne_of_digit digit rfl
  have noDouble : c ≠ '"' := ne_of_digit digit rfl
  have noTick : c.toNat ≠ 0x60 := by omega
  have noBracket : c ≠ '[' := ne_of_digit digit rfl
  simp [measure, noQuote, noDouble, noTick, noBracket, digit]

/-- A digit is no blank. -/
theorem isSpace_digit {c : Char} (digit : c.isDigit = true) : isSpace c = false := by
  have code := Text.isDigit_iff.mp digit
  have noBlank {blank : Char} (noDigit : blank.isDigit = false) : (c == blank) = false :=
    beq_eq_false_iff_ne.mpr (ne_of_digit digit noDigit)
  have noFeed : c.toNat ≠ 0x0C := by omega
  unfold isSpace
  rw [noBlank rfl, noBlank rfl, noBlank rfl, noBlank rfl, beq_eq_false_iff_ne.mpr noFeed]
  rfl

/-- A number in decimal is scanned as one token. -/
theorem scansAs_number {c : Char} {more rest : List Char} {kind : TokenKind}
    (digit : c.isDigit = true)
    (noBase : ∀ x, (more ++ rest).head? = some x → (x == 'x' || x == 'X') = false)
    (plain : number.decimal (fun text => (text.takeWhile Char.isDigit).length)
      (c :: (more ++ rest)) = (kind, (c :: more).length)) (ends : EndsArgument rest) :
    ScansAs (c :: more) [(kind, c :: more)] rest := by
  refine scansAs_of_measure (skipped_of_visible (ne_of_digit digit rfl) (ne_of_digit digit rfl)
    (isSpace_digit digit) _) ?_
  rw [measure_digit digit]
  exact number_decimal noBase plain ends

/-- Digits are scanned as a whole number. -/
theorem scansAs_digits {digits rest : List Char} (digital : Decimal.Digital digits)
    (nonempty : digits ≠ []) (ends : EndsArgument rest) :
    ScansAs digits [(.whole, digits)] rest := by
  have plain := decimal_digits digital ends
  obtain ⟨c, more, rfl⟩ := List.exists_cons_of_ne_nil nonempty
  obtain ⟨digit, others⟩ := List.forall_mem_cons.mp digital
  exact scansAs_number digit (fun x => no_base_mark others (ends.head_of rfl rfl)) plain ends

/-- Digits with a point among them are scanned as a real number. -/
theorem scansAs_pointed {front behind rest : List Char} (digital : Decimal.Digital front)
    (nonempty : front ≠ []) (places : Decimal.Digital behind) (ends : EndsArgument rest) :
    ScansAs (front ++ '.' :: behind) [(.real, front ++ '.' :: behind)] rest := by
  have plain := decimal_pointed digital places ends
  obtain ⟨c, more, rfl⟩ := List.exists_cons_of_ne_nil nonempty
  obtain ⟨digit, others⟩ := List.forall_mem_cons.mp digital
  rw [List.cons_append]
  refine scansAs_number digit (fun x second => ?_) ?_ ends
  · rw [List.append_assoc] at second
    exact no_base_mark others (by rintro x ⟨rfl⟩; rfl) second
  · rw [List.append_assoc]
    exact plain

/-- A minus sign is a token of its own, unless a comment or an arrow begins with it. -/
theorem scansAs_minus {c : Char} (noDash : c ≠ '-') (noArrow : c ≠ '>') (rest : List Char) :
    ScansAs ['-'] [(.sign, ['-'])] (c :: rest) := by
  refine scansAs_of_measure ?_ ?_
  · have visible : isSpace '-' = false := rfl
    unfold skipped
    split
    · next same => exact absurd (List.cons.inj (List.cons.inj same).2).1 noDash
    · next same => exact absurd (List.cons.inj same).1 (by decide)
    · simp [visible]
  · have start : isNameStart '-' = false := rfl
    have other : '-'.isDigit = false := rfl
    simp [measure, start, other, signs, List.isPrefixOf, noArrow.symm]
    rfl

/-- A token may have a minus sign in front, unless a comment or an arrow begins with it. -/
theorem scansAs_signed {c : Char} {more rest : List Char} {lexeme : Lexeme} (noDash : c ≠ '-')
    (noArrow : c ≠ '>') (negative : Bool) (scanned : ScansAs (c :: more) [lexeme] rest) :
    ScansAs ((if negative then ['-'] else []) ++ c :: more)
      ((if negative then [(.sign, ['-'])] else []) ++ [lexeme]) rest := by
  cases negative with
  | false => exact scanned
  | true => exact (scansAs_minus noDash noArrow (more ++ rest)).append scanned

/-- What is no quote does not close. -/
theorem quotedLength_cons {closing c : Char} (other : c ≠ closing) (rest : List Char) :
    quotedLength closing (c :: rest) = (quotedLength closing rest).map (· + 1) := by
  cases rest <;> simp [quotedLength, other]

/-- What is no quote stands for itself. -/
theorem unquoted_cons {closing c : Char} (other : c ≠ closing) (rest : List Char) :
    unquoted closing (c :: rest) = c :: unquoted closing rest := by
  cases rest <;> simp [unquoted, other]

/-- A text with its quotes doubled is closed by the first quote behind it. -/
theorem quotedLength_doubleQuotes (text rest : List Char)
    (single : rest.head? ≠ some '\'') :
    quotedLength '\'' (Value.doubleQuotes text ++ '\'' :: rest) =
      some ((Value.doubleQuotes text).length + 1) := by
  induction text with
  | nil =>
    cases rest with
    | nil => rfl
    | cons d rest =>
      have other : d ≠ '\'' := fun same => single (congrArg some same)
      simp [Value.doubleQuotes, quotedLength, other]
  | cons c text inductionHypothesis =>
    by_cases quote : c = '\''
    · subst quote
      simp [Value.doubleQuotes, quotedLength, inductionHypothesis]
    · have kept : Value.doubleQuotes (c :: text) = c :: Value.doubleQuotes text := if_neg quote
      rw [kept, List.cons_append, quotedLength_cons quote, inductionHypothesis]
      rfl

/-- What is between the quotes of a text with its quotes doubled is the text. -/
theorem unquoted_doubleQuotes (text : List Char) :
    unquoted '\'' (Value.doubleQuotes text ++ ['\'']) = text := by
  induction text with
  | nil => rfl
  | cons c text inductionHypothesis =>
    by_cases quote : c = '\''
    · subst quote
      simp [Value.doubleQuotes, unquoted, inductionHypothesis]
    · have kept : Value.doubleQuotes (c :: text) = c :: Value.doubleQuotes text := if_neg quote
      rw [kept, List.cons_append, unquoted_cons quote, inductionHypothesis]

/-- A text is scanned as one string, whatever characters it has. -/
theorem scansAs_text (text : List Char) {rest : List Char} (single : rest.head? ≠ some '\'') :
    ScansAs ('\'' :: (Value.doubleQuotes text ++ ['\'']))
      [(.string, '\'' :: (Value.doubleQuotes text ++ ['\'']))] rest := by
  refine scansAs_of_measure (skipped_of_visible (by decide) (by decide) rfl _) ?_
  have closed := quotedLength_doubleQuotes text rest single
  simp [measure, quoted, closed]

/-- An octet is written in two hexadecimal digits that stand for it. -/
theorem upperHexPair_eq (octet : UInt8) : ∃ a b, Text.upperHexPair octet = [a, b] ∧
    (Text.isHexDigit a = true ∧ Text.isHexDigit b = true) ∧
    Text.ofHexDigits? [a, b] = some octet.toNat := by
  have every : ∀ n < 256, ((Text.hexDigits 2 n).map Char.toUpper).length = 2 ∧
      ((Text.hexDigits 2 n).map Char.toUpper).all Text.isHexDigit = true ∧
      Text.ofHexDigits? ((Text.hexDigits 2 n).map Char.toUpper) = some n := by
    decide +kernel
  obtain ⟨two, digits, number⟩ := every octet.toNat octet.toNat_lt
  match pair : (Text.hexDigits 2 octet.toNat).map Char.toUpper, two with
  | [a, b], _ =>
    rw [pair] at digits number
    exact ⟨a, b, pair, by simpa using digits, number⟩

/-- The octets of a blob are written in hexadecimal digits, two for each. -/
theorem hexadecimal_octets (octets : List UInt8) :
    (∀ c ∈ octets.flatMap Text.upperHexPair, Text.isHexDigit c = true) ∧
      (octets.flatMap Text.upperHexPair).length = 2 * octets.length ∧
      Reader.octets (octets.flatMap Text.upperHexPair) = octets := by
  induction octets with
  | nil => exact ⟨by simp, rfl, rfl⟩
  | cons octet octets inductionHypothesis =>
    obtain ⟨digits, count, read⟩ := inductionHypothesis
    obtain ⟨a, b, pair, ⟨first, second⟩, number⟩ := upperHexPair_eq octet
    rw [List.flatMap_cons, pair]
    refine ⟨?_, ?_, ?_⟩
    · simpa [first, second] using digits
    · simp only [List.cons_append, List.nil_append, List.length_cons, count]
      omega
    · simp [Reader.octets, number, read]

/-- Hexadecimal digits between quotes are scanned as a blob, if there is an even number of
them. -/
theorem scansAs_blob {digits : List Char} (hexadecimal : ∀ c ∈ digits, Text.isHexDigit c = true)
    (even : digits.length % 2 = 0) (rest : List Char) :
    ScansAs ('X' :: '\'' :: (digits ++ ['\''])) [(.blob, 'X' :: '\'' :: (digits ++ ['\'']))]
      rest := by
  refine scansAs_of_measure (skipped_of_visible (by decide) (by decide) rfl _) ?_
  have stretch : (digits ++ '\'' :: rest).takeWhile Text.isHexDigit = digits :=
    (Text.takeWhile_dropWhile_append hexadecimal (by rintro c ⟨rfl⟩; rfl)).1
  have noDigit : 'X'.isDigit = false := rfl
  simp [measure, noDigit, blobLength, stretch, even]

end Token

/-! ## What literals denote -/

/-- The tokens that are a literal of a value by the rules of the language: the word for null,
digits with or without a minus sign before them, a text between quotes and with its quotes
doubled, and pairs of hexadecimal digits. -/
inductive Denotes : List Lexeme → Value → Prop
  | null : Denotes [(.word, "NULL".toList)] .null
  | whole {digits : List Char} {number : Int64} (digital : Decimal.Digital digits)
      (value : number.toInt = Decimal.ofDigits digits) :
      Denotes [(.whole, digits)] (.integer number)
  | negative {digits : List Char} {number : Int64} (digital : Decimal.Digital digits)
      (value : number.toInt = -(Decimal.ofDigits digits : Int)) :
      Denotes [(.sign, ['-']), (.whole, digits)] (.integer number)
  | text {body : List Char} {text : String} (value : Token.unquoted '\'' body = text.toList) :
      Denotes [(.string, '\'' :: body)] (.text text)
  | blob {digits : List Char} {octets : List UInt8} (value : Reader.octets digits = octets) :
      Denotes [(.blob, 'X' :: '\'' :: (digits ++ ['\'']))] (.blob octets)

/-- A whole number is scanned as its digits, after a minus sign if it is negative, and these
are a literal of it. -/
theorem scansAs_integer (number : Int64) {rest : List Char} (ends : Token.EndsArgument rest) :
    ∃ lexemes, Token.ScansAs (Value.sqlLiteral (.integer number)).toList lexemes rest ∧
      Denotes lexemes (.integer number) := by
  have digital := Decimal.digital_toDigits number.toInt.natAbs
  have scanned := Token.scansAs_digits digital Nat.toDigits_ne_nil ends
  have value := Decimal.ofDigits_toDigits number.toInt.natAbs
  obtain ⟨c, more, digits⟩ := List.exists_cons_of_ne_nil
    (@Nat.toDigits_ne_nil number.toInt.natAbs 10)
  change ∃ lexemes, Token.ScansAs (toString number.toInt).toList lexemes rest ∧ _
  rw [Decimal.toList_toString_int]
  rw [digits] at digital scanned value ⊢
  have digit : c.isDigit = true := digital c List.mem_cons_self
  have signed := Token.scansAs_signed (Token.ne_of_digit digit rfl) (Token.ne_of_digit digit rfl)
    (decide (number.toInt < 0)) scanned
  simp only [decide_eq_true_eq] at signed
  refine ⟨_, signed, ?_⟩
  by_cases negative : number.toInt < 0
  · rw [if_pos negative]
    exact .negative digital (by omega)
  · rw [if_neg negative]
    exact .whole digital (by omega)

/-- A value is scanned as a literal of it, whatever it holds. -/
theorem scansAs_literal {value : Value} (exact : ∀ x, value ≠ .real x) {rest : List Char}
    (ends : Token.EndsArgument rest) :
    ∃ lexemes, Token.ScansAs value.sqlLiteral.toList lexemes rest ∧ Denotes lexemes value := by
  have single : rest.head? ≠ some '\'' := by
    obtain ⟨more, rfl | rfl⟩ := ends <;> simp
  cases value with
  | null => exact ⟨_, Token.scansAs_null ends, .null⟩
  | real x => exact absurd rfl (exact x)
  | integer number => exact scansAs_integer number ends
  | text s =>
    have written : (Value.sqlLiteral (.text s)).toList =
        '\'' :: (Value.doubleQuotes s.toList ++ ['\'']) := String.toList_ofList
    rw [written]
    exact ⟨_, Token.scansAs_text s.toList single, .text (Token.unquoted_doubleQuotes _)⟩
  | blob octets =>
    have written : (Value.sqlLiteral (.blob octets)).toList =
        'X' :: '\'' :: (octets.flatMap Text.upperHexPair ++ ['\'']) := String.toList_ofList
    obtain ⟨hexadecimal, count, read⟩ := Token.hexadecimal_octets octets
    rw [written]
    exact ⟨_, Token.scansAs_blob hexadecimal (by omega) rest, .blob read⟩

/-- The literal of a value begins with a character that can be seen. -/
theorem visible_sqlLiteral {value : Value} (exact : ∀ x, value ≠ .real x) :
    ∃ c more, value.sqlLiteral.toList = c :: more ∧ Token.isSpace c = false := by
  cases value with
  | null => exact ⟨'N', "ULL".toList, rfl, rfl⟩
  | real x => exact absurd rfl (exact x)
  | text s => exact ⟨'\'', _, String.toList_ofList, rfl⟩
  | blob octets => exact ⟨'X', _, String.toList_ofList, rfl⟩
  | integer number =>
    have written : (Value.sqlLiteral (.integer number)).toList =
      (toString number.toInt).toList := rfl
    rw [written, Decimal.toList_toString_int]
    by_cases negative : number.toInt < 0
    · rw [if_pos negative]
      exact ⟨'-', _, rfl, rfl⟩
    · obtain ⟨c, more, digits⟩ := List.exists_cons_of_ne_nil
        (@Nat.toDigits_ne_nil number.toInt.natAbs 10)
      have member : c ∈ Nat.toDigits 10 number.toInt.natAbs := by
        rw [digits]
        exact List.mem_cons_self
      rw [if_neg negative, List.nil_append]
      exact ⟨c, more, digits, Token.isSpace_digit (Decimal.digital_toDigits _ c member)⟩

/-! ## Arguments -/

/-- A text is scanned as an argument that means something: it begins with a character that can be
seen, and its tokens have the meaning wherever an argument ends behind it. -/
structure IsArgument (Means : List Lexeme → Prop) (text : List Char) : Prop where
  visible : ∃ c more, text = c :: more ∧ Token.isSpace c = false
  scans : ∀ rest, Token.EndsArgument rest →
    ∃ lexemes, Token.ScansAs text lexemes rest ∧ Means lexemes

/-- The literal of a value is scanned as an argument that denotes the value. -/
theorem isArgument_literal {value : Value} (exact : ∀ x, value ≠ .real x) :
    IsArgument (Denotes · value) value.sqlLiteral.toList :=
  ⟨visible_sqlLiteral exact, fun _ ends => scansAs_literal exact ends⟩

/-- The comma between two arguments. -/
def comma : Lexeme := (.sign, [','])

/-- The separator of arguments is scanned as a comma, if something that can be seen follows. -/
theorem scansAs_separator {c : Char} {more : List Char} (visible : Token.isSpace c = false) :
    Token.ScansAs ", ".toList [comma] (c :: more) := by
  have sign : Token.ScansAs [','] [comma] ([' '] ++ c :: more) := Token.scansAs_of_measure rfl rfl
  exact sign.append (Token.scansAs_space visible)

/-- The literals of some values, with separators between them. -/
def joined (values : List Value) : List Char :=
  ", ".toList.intercalate (values.map fun value => value.sqlLiteral.toList)

/-- One literal stands alone. -/
theorem joined_singleton (value : Value) : joined [value] = value.sqlLiteral.toList :=
  List.intercalate_singleton

/-- Two literals or more are the first one, a separator and the others. -/
theorem joined_cons_cons (first second : Value) (others : List Value) :
    joined (first :: second :: others) =
      first.sqlLiteral.toList ++ (", ".toList ++ joined (second :: others)) := by
  unfold joined
  rw [List.map_cons, List.map_cons, List.intercalate_cons_cons, List.append_assoc]

/-- Literals begin with the character that the first one begins with. -/
theorem begins_joined {first : Value} (others : List Value) {c : Char} {more : List Char}
    (begins : first.sqlLiteral.toList = c :: more) :
    ∃ more, joined (first :: others) = c :: more := by
  cases others with
  | nil => exact ⟨more, (joined_singleton first).trans begins⟩
  | cons second others =>
    rw [joined_cons_cons, begins]
    exact ⟨_, rfl⟩

/-- Arguments are scanned as what each of them means, with commas between them. Each literal ends
where its value does, so that the next one is scanned as if it stood alone. -/
theorem scansAs_arguments {Means : List Lexeme → Value → Prop} {first : Value}
    {others : List Value}
    (each : ∀ value ∈ first :: others, IsArgument (Means · value) value.sqlLiteral.toList)
    (rest : List Char) :
    ∃ pieces, Token.ScansAs (joined (first :: others)) ([comma].intercalate pieces)
        (')' :: rest) ∧ List.Forall₂ Means pieces (first :: others) := by
  induction others generalizing first with
  | nil =>
    obtain ⟨lexemes, scanned, means⟩ :=
      (each first List.mem_cons_self).scans (')' :: rest) ⟨rest, .inr rfl⟩
    refine ⟨[lexemes], ?_, .cons means .nil⟩
    rw [joined_singleton, List.intercalate_singleton]
    exact scanned
  | cons second others inductionHypothesis =>
    have later := fun value member => each value (List.mem_cons_of_mem first member)
    obtain ⟨pieces, scanned, mean⟩ := inductionHypothesis later
    obtain ⟨c, _, written, visible⟩ := (later second List.mem_cons_self).visible
    obtain ⟨more, begins⟩ := begins_joined others written
    have separated :
        Token.ScansAs ", ".toList [comma] (joined (second :: others) ++ ')' :: rest) := by
      rw [begins]
      exact scansAs_separator visible
    obtain ⟨lexemes, literal, means⟩ := (each first List.mem_cons_self).scans
      (", ".toList ++ joined (second :: others) ++ ')' :: rest) ⟨_, .inl rfl⟩
    refine ⟨lexemes :: pieces, ?_, .cons means mean⟩
    cases mean with
    | cons _ _ =>
      rw [joined_cons_cons, List.intercalate_cons_cons, List.append_assoc]
      exact literal.append (separated.append scanned)

end DialectBridge.Database
