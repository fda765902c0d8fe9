import DialectBridge.Database.Evaluation
import DialectBridge.Proofs.Database.RealNumbers
import DialectBridge.Proofs.Decimal.PlainNotation
import DialectBridge.Proofs.Emulation.Fragments

/-!
# Real arguments of fragments

A real is written in plain notation when a rewritten function is called on it, and the engine knows
it by its spelling alone. A real with a fractional part is written with a point, and one beyond 64
bits with too many digits for a whole number: both are read as the same real. A real without a
fractional part that fits in 64 bits is written without a point and comes back as a whole number,
and infinities and what is no number are words, which are read as names of columns.
-/

namespace DialectBridge.Emulation

open Database (Expression IsArgument Lexeme)
open Database.Reader (ReadsAs)

/-! ## What reals are read as -/

/-- A real is finite, has no fractional part, and is less than `2 ^ 63` away from zero. -/
def IsSmallWhole (x : Float) : Prop :=
  ∃ parts, Decimal.Binary.ofFloat? x = some parts ∧ parts.isWhole = true ∧
    parts.wholePart < 2 ^ 63

/-- A real is neither infinite nor no number. -/
def IsFinite (x : Float) : Prop := Decimal.Binary.ofFloat? x ≠ none

/-- An operand is worth a real in every row. -/
def IsWorth (x : Float) (operand : Expression) : Prop :=
  ∀ frame, operand.evaluate frame = .ok (.real x)

/-- An operand is a literal of the whole number that a real is the same as. -/
def IsWholeNumber (x : Float) (operand : Expression) : Prop :=
  ∃ number : Int64, operand = .literal (.integer number) ∧ (Float.ofInt number.toInt == x) = true

/-- An operand is the name of a column, with a minus sign in front or not. -/
def IsName (operand : Expression) : Prop :=
  ∃ word, operand = .column none word false ∨ operand = .unary .negate (.column none word false)

/-- A real is read as itself, as a whole number or as a name, and the real decides which of the
three it is. -/
structure ReadsReal (x : Float) (operand : Expression) : Prop where
  real : IsWorth x operand ↔ IsFinite x ∧ ¬IsSmallWhole x
  whole : IsWholeNumber x operand ↔ IsSmallWhole x
  named : IsName operand ↔ ¬IsFinite x

/-- What an argument of a fragment is read as: all values but reals are read as literals of
themselves. -/
def ReadsArgument : Value → Expression → Prop
  | .real x, operand => ReadsReal x operand
  | value, operand => operand = .literal value

variable {x : Float} {operand : Expression}

/-- What is worth a real is no whole number and no name. -/
theorem IsWorth.exclusive (worth : IsWorth x operand) :
    ¬IsWholeNumber x operand ∧ ¬IsName operand := by
  -- one row is enough to tell the kinds apart
  have value := worth ⟨epoch, [], []⟩
  constructor
  · rintro ⟨number, rfl, _⟩
    exact nomatch value
  · rintro ⟨word, rfl | rfl⟩ <;> exact nomatch value

/-- A whole number is no name. -/
theorem IsWholeNumber.not_isName (whole : IsWholeNumber x operand) : ¬IsName operand := by
  obtain ⟨number, rfl, _⟩ := whole
  rintro ⟨word, same | same⟩ <;> exact nomatch same

/-- A real that is small and whole is finite. -/
theorem IsSmallWhole.isFinite (small : IsSmallWhole x) : IsFinite x := by
  obtain ⟨parts, finite, _⟩ := small
  unfold IsFinite
  rw [finite]
  exact Option.some_ne_none parts

/-- A real that stays what it is. -/
theorem readsReal_of_isWorth (worth : IsWorth x operand) (finite : IsFinite x)
    (other : ¬IsSmallWhole x) : ReadsReal x operand where
  real := iff_of_true worth ⟨finite, other⟩
  whole := iff_of_false worth.exclusive.1 other
  named := iff_of_false worth.exclusive.2 (not_not.mpr finite)

/-- A real that becomes a whole number. -/
theorem readsReal_of_isWholeNumber (whole : IsWholeNumber x operand) (small : IsSmallWhole x) :
    ReadsReal x operand where
  real := iff_of_false (fun worth => worth.exclusive.1 whole) fun ⟨_, other⟩ => other small
  whole := iff_of_true whole small
  named := iff_of_false whole.not_isName (not_not.mpr small.isFinite)

/-- A real that becomes a name. -/
theorem readsReal_of_isName (named : IsName operand) (infinite : ¬IsFinite x) :
    ReadsReal x operand where
  real := iff_of_false (fun worth => worth.exclusive.2 named) fun ⟨finite, _⟩ => infinite finite
  whole := iff_of_false (fun whole => whole.not_isName named) fun small => infinite small.isFinite
  named := iff_of_true named infinite

/-! ## Spellings -/

/-- Tokens are read as an argument. -/
def ReadsAsArgument (value : Value) (lexemes : List Lexeme) : Prop :=
  ∃ operand, ReadsAs 2 lexemes operand ∧ ReadsArgument value operand

/-- A real that is no finite number is scanned and read as a name. -/
theorem isArgument_infinite (infinite : Decimal.Binary.ofFloat? x = none) :
    IsArgument (ReadsAsArgument (.real x)) (Decimal.plain x).toList := by
  have named {operand : Expression} (named : IsName operand) : ReadsReal x operand :=
    readsReal_of_isName named (not_not.mpr infinite)
  unfold Decimal.plain
  rw [infinite]
  dsimp only
  split
  · refine ⟨⟨'N', _, rfl, rfl⟩, fun rest ends => ?_⟩
    exact ⟨_, Database.Token.scansAs_word (by simp : "NaN" ∈ ["NaN", "inf"]) ends, _,
      (Database.Reader.readsAs_word (by simp)).deeper, named ⟨"NaN", .inl rfl⟩⟩
  · split
    · refine ⟨⟨'-', _, rfl, rfl⟩, fun rest ends => ?_⟩
      have word := Database.Token.scansAs_word (by simp : "inf" ∈ ["NaN", "inf"]) ends
      exact ⟨_, @Database.Token.scansAs_signed 'i' _ _ _ (by decide) (by decide) true word, _,
        Database.Reader.readsAs_minus (Database.Reader.readsAs_word (by simp)) (by decide),
        named ⟨"inf", .inr rfl⟩⟩
    · refine ⟨⟨'i', _, rfl, rfl⟩, fun rest ends => ?_⟩
      exact ⟨_, Database.Token.scansAs_word (by simp : "inf" ∈ ["NaN", "inf"]) ends, _,
        (Database.Reader.readsAs_word (by simp)).deeper, named ⟨"inf", .inl rfl⟩⟩

section

variable {parts : Decimal.Binary} (finite : Decimal.Binary.ofFloat? x = some parts)
include finite

/-- Whether a finite real is small and whole is decided by its parts. -/
theorem isSmallWhole_iff :
    IsSmallWhole x ↔ parts.isWhole = true ∧ parts.wholePart < 2 ^ 63 := by
  constructor
  · rintro ⟨other, same, small⟩
    rw [finite] at same
    obtain rfl := Option.some.inj same
    exact small
  · exact fun small => ⟨parts, finite, small⟩

/-- A finite real is finite. -/
theorem isFinite_of_parts : IsFinite x := by
  unfold IsFinite
  rw [finite]
  exact Option.some_ne_none parts

/-- The text of a finite real begins with a digit or with a minus sign in front of one. -/
theorem visible_plain : ∃ c more, (Decimal.plain x).toList = c :: more ∧
    Database.Token.isSpace c = false := by
  obtain ⟨number, written, _⟩ := Decimal.exists_magnitude finite
  obtain ⟨c, more, begins, digit⟩ := written.begins
  rw [Decimal.toList_plain finite, begins]
  cases parts.negative with
  | false => exact ⟨c, more, rfl, Database.Token.isSpace_digit digit⟩
  | true => exact ⟨'-', c :: more, rfl, rfl⟩

/-- The digits of a real without a fractional part are a whole number if it fits in 64 bits, and
else a real of the same value. -/
theorem readsReal_wholeValue (whole : parts.isWhole = true) : ReadsReal x
    (.literal (Database.Reader.wholeValue parts.negative (Decimal.magnitudeText parts))) := by
  have digital := (Decimal.magnitude_whole finite whole).1
  have fits := Decimal.signedDigits_fits_iff finite whole
  have digits := @Database.Reader.wholeValue_digital _ digital parts.negative
    (Decimal.signedDigits parts) rfl
  rw [digits]
  by_cases small : parts.wholePart < 2 ^ 63
  · obtain ⟨least, most⟩ := fits.mpr small
    have fitting : Decimal.fitsInt64 (Decimal.signedDigits parts) = true := by
      simp [Decimal.fitsInt64, least, most]
    have kept : (Int64.ofInt (Decimal.signedDigits parts)).toInt = Decimal.signedDigits parts :=
      Int64.toInt_ofInt_of_le least (Int.lt_add_one_of_le most)
    have same := Decimal.ofInt_signedDigits finite whole small
    rw [← kept] at same
    rw [if_pos fitting]
    exact readsReal_of_isWholeNumber ⟨_, rfl, same⟩ ((isSmallWhole_iff finite).mpr ⟨whole, small⟩)
  · have exceeding : Decimal.fitsInt64 (Decimal.signedDigits parts) = false := by
      have outside := mt fits.mp small
      simpa [Decimal.fitsInt64] using outside
    have text : (if parts.negative then '-' :: Decimal.magnitudeText parts
        else Decimal.magnitudeText parts) = (Decimal.plain x).toList := by
      rw [Decimal.toList_plain finite]
      cases parts.negative <;> rfl
    rw [exceeding, text, Decimal.readFloat_plain finite]
    exact readsReal_of_isWorth (fun _ => rfl) (isFinite_of_parts finite)
      (fun other => small ((isSmallWhole_iff finite).mp other).2)

/-- A real without a fractional part is scanned and read as its digits. -/
theorem isArgument_whole (whole : parts.isWhole = true) :
    IsArgument (ReadsAsArgument (.real x)) (Decimal.plain x).toList where
  visible := visible_plain finite
  scans rest ends := by
    obtain ⟨number, written, _⟩ := Decimal.exists_magnitude finite
    obtain ⟨c, more, begins, digit⟩ := written.begins
    have scanned := Database.Token.scansAs_digits (Decimal.magnitude_whole finite whole).1
      (by simp [begins]) ends
    have meant := readsReal_wholeValue finite whole
    rw [Decimal.toList_plain finite]
    rw [begins] at scanned meant ⊢
    exact ⟨_, Database.Token.scansAs_signed (Database.Token.ne_of_digit digit rfl)
      (Database.Token.ne_of_digit digit rfl) parts.negative scanned, _,
      (Database.Reader.readsAs_signed parts.negative (c :: more)).deeper, meant⟩

/-- A real with a fractional part is scanned and read as digits with a point among them. -/
theorem isArgument_fractional (fractional : parts.isWhole = false) :
    IsArgument (ReadsAsArgument (.real x)) (Decimal.plain x).toList where
  visible := visible_plain finite
  scans rest ends := by
    obtain ⟨number, written, positive, negated⟩ := Decimal.exists_magnitude finite
    obtain ⟨front, behind, pointed, digital, nonempty, places⟩ :=
      Decimal.magnitude_pointed finite fractional
    obtain ⟨c, more, begins, digit⟩ := written.begins
    have scanned := Database.Token.scansAs_pointed digital nonempty places ends
    have read := Decimal.readFloat_of_written written
    have noSmallWhole : ¬IsSmallWhole x := fun small => by
      have whole := ((isSmallWhole_iff finite).mp small).1
      rw [fractional] at whole
      exact nomatch whole
    have kept {operand : Expression} (worth : IsWorth x operand) : ReadsReal x operand :=
      readsReal_of_isWorth worth (isFinite_of_parts finite) noSmallWhole
    have token := Database.Reader.readsAs_real (Decimal.magnitudeText parts)
    rw [read] at token
    rw [← pointed] at scanned
    rw [Decimal.toList_plain finite]
    have isNumber := Decimal.isNaN_of_finite finite
    obtain ⟨negative, mantissa, exponent⟩ := parts
    cases negative with
    | false =>
      obtain rfl := Decimal.ofFloat?_injective positive finite
      exact ⟨_, scanned, _, token.deeper, kept fun _ => rfl⟩
    | true =>
      -- the sign is an operator here, so the double is that of the digits, negated
      obtain rfl := Decimal.ofFloat?_injective negated finite
      rw [begins] at scanned token ⊢
      refine ⟨_, Database.Token.scansAs_signed (Database.Token.ne_of_digit digit rfl)
        (Database.Token.ne_of_digit digit rfl) true scanned, _,
        Database.Reader.readsAs_minus token (by decide), kept fun frame => ?_⟩
      change Except.ok (Database.withoutNaN (.real number.toFloat.neg)) = _
      unfold Database.withoutNaN
      simp only [isNumber, Bool.false_eq_true, if_false]

end

/-- The literal of any value is scanned and read as an argument. -/
theorem isArgument_value (value : Value) :
    IsArgument (ReadsAsArgument value) value.sqlLiteral.toList := by
  by_cases real : ∃ x, value = .real x
  · obtain ⟨x, rfl⟩ := real
    change IsArgument _ (Decimal.plain x).toList
    cases finite : Decimal.Binary.ofFloat? x with
    | none => exact isArgument_infinite finite
    | some parts =>
      cases whole : parts.isWhole with
      | true => exact isArgument_whole finite whole
      | false => exact isArgument_fractional finite whole
  · have exact : ∀ x, value ≠ .real x := fun x same => real ⟨x, same⟩
    have literal := Database.isArgument_literal exact
    refine ⟨literal.visible, fun rest ends => ?_⟩
    obtain ⟨lexemes, scanned, denotes⟩ := literal.scans rest ends
    refine ⟨lexemes, scanned, .literal value, (Database.Reader.readsAs_literal denotes).deeper, ?_⟩
    cases value with
    | real x => exact absurd rfl (exact x)
    | _ => rfl

/-! ## Fragments -/

/-- Pieces that are read as arguments have operands that they are read as. -/
theorem exists_operands {pieces : List (List Lexeme)} {values : List Value}
    (mean : List.Forall₂ (fun lexemes value => ReadsAsArgument value lexemes) pieces values) :
    ∃ operands, List.Forall₂ (ReadsAs 2) pieces operands ∧
      List.Forall₂ ReadsArgument values operands := by
  induction mean with
  | nil => exact ⟨[], .nil, .nil⟩
  | cons means _ inductionHypothesis =>
    obtain ⟨operand, reads, argument⟩ := means
    obtain ⟨operands, read, arguments⟩ := inductionHypothesis
    exact ⟨operand :: operands, .cons reads read, .cons argument arguments⟩

/-- A call of a rewritten function that has a native, with an accepted number of values of any kind,
gives a fragment that is read as the call of the native on one operand for each value, in their
order. All values but reals are read as themselves. A real is read as itself exactly if it is finite
and has a fractional part or is at least `2 ^ 63` away from zero. All other finite reals are read as
the whole numbers that they are the same as, and the rest as names. -/
theorem real_argument_kept_iff {name native : String} {function : RewriteFunction}
    {arguments : List Value} (env : Environment)
    (found : lookup name = some (.rewrite function)) (rewritten : function.native? = some native)
    (accepted : function.arity.accepts arguments.length = true) :
    ∃ text operands, call env name arguments = .ok (.fragment text) ∧
      text = native ++ "(" ++ ", ".intercalate (arguments.map Value.sqlLiteral) ++ ")" ∧
      (∀ context, Database.Reader.expression context
          ⟨Database.Token.scan text.toList, 0, []⟩ =
        .ok (.call native false operands, ⟨[], 0, []⟩)) ∧
      List.Forall₂ ReadsArgument arguments operands := by
  have listed := RewriteFunction.native_mem rewritten
  have nonempty := RewriteFunction.arguments_ne_nil rewritten accepted
  have called := call_of_lookup env found accepted
  rw [RewriteFunction.fragment_of_native rewritten] at called
  obtain ⟨pieces, scanned, mean⟩ := scan_call listed nonempty fun value _ => isArgument_value value
  obtain ⟨operands, reads, read⟩ := exists_operands mean
  have some : operands ≠ [] := by
    rintro rfl
    cases read
    exact nonempty rfl
  exact ⟨_, operands, called, rfl, read_call listed some reads scanned, read⟩

/-- The real two. -/
def two : Float := Float.ofBits 0x4000000000000000

/-- The infinite real. -/
def infinity : Float := Float.ofBits 0x7FF0000000000000

/-- The real two and a half, two and infinity as arguments of one call. -/
theorem arguments_of_three_kinds_read :
    ∃ text operands, call epoch "Least" [.real (Float.ofBits 0x4004000000000000), .real two,
        .real infinity, .text "2.0"] = .ok (.fragment text) ∧
      text = "min" ++ "(" ++ ", ".intercalate ([.real (Float.ofBits 0x4004000000000000), .real two,
        .real infinity, .text "2.0"].map Value.sqlLiteral) ++ ")" ∧
      (∀ context, Database.Reader.expression context
          ⟨Database.Token.scan text.toList, 0, []⟩ =
        .ok (.call "min" false operands, ⟨[], 0, []⟩)) ∧
      List.Forall₂ ReadsArgument [.real (Float.ofBits 0x4004000000000000), .real two,
        .real infinity, .text "2.0"] operands := by
  have found : lookup "Least" = some (.rewrite .least) := by decide
  exact real_argument_kept_iff epoch found rfl rfl

/-- Two becomes a whole number, and infinity becomes the name of a column. -/
theorem two_and_infinity_not_kept :
    (call epoch "ucase" [.real two] = .ok (.fragment "upper(2)") ∧
      ∀ context, Database.Reader.expression context
          ⟨Database.Token.scan "upper(2)".toList, 0, []⟩ =
        .ok (.call "upper" false [.literal (.integer 2)], ⟨[], 0, []⟩)) ∧
    (call epoch "ucase" [.real infinity] = .ok (.fragment "upper(inf)") ∧
      ∀ context, Database.Reader.expression context
          ⟨Database.Token.scan "upper(inf)".toList, 0, []⟩ =
        .ok (.call "upper" false [.column none "inf" false], ⟨[], 0, []⟩)) :=
  ⟨⟨rfl, fun _ => rfl⟩, rfl, fun _ => rfl⟩

end DialectBridge.Emulation
