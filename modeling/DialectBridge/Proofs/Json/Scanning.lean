import DialectBridge.Json.Reader
import DialectBridge.Proofs.Decimal.WholeNumbers

/-!
# Scanning what is written

A token that is written is scanned again, whatever is behind it: a text ends at the first quote
that is not escaped, and a word or a sign is known from its characters. Only a number would go on
where more digits, a point or an exponent follow it. Behind a blank, and in front of every token
that is no number, it does not.

So a list of tokens of which no two numbers stand side by side is scanned from every text that
spells them out in order, with any blanks in front of them, between them and behind them.
-/

namespace DialectBridge.Json

/-! ## Texts -/

/-- A control character is escaped by the four digits of its code. -/
theorem exists_unit? {code : Nat} (control : code < 0x20) :
    ∃ a b c d, Text.hexDigits 4 code = [a, b, c, d] ∧ unit? a b c d = some code := by
  have codes : ∀ code < 0x20, Text.hexDigits 4 code =
      ['0', '0', Nat.digitChar (code / 16), Nat.digitChar (code % 16)] ∧
      unit? '0' '0' (Nat.digitChar (code / 16)) (Nat.digitChar (code % 16)) = some code := by
    decide +kernel
  exact ⟨_, _, _, _, codes code control⟩

/-- An escaped character is scanned as the character. -/
theorem scanText_escape (c : Char) (rest : List Char) :
    scanText (escape c ++ rest) = (scanText rest).map fun (chars, rest) => (c :: chars, rest) := by
  unfold escape
  split
  · next same =>
    rw [same]
    rfl
  split
  · next same =>
    rw [same]
    rfl
  split
  · next code =>
    have same : c = Char.ofNat 0x08 := by rw [← code, Char.ofNat_toNat]
    rw [same]
    rfl
  split
  · next code =>
    have same : c = Char.ofNat 0x0C := by rw [← code, Char.ofNat_toNat]
    rw [same]
    rfl
  split
  · next same =>
    rw [same]
    rfl
  split
  · next same =>
    rw [same]
    rfl
  split
  · next same =>
    rw [same]
    rfl
  split
  · next control =>
    obtain ⟨a, b, d, e, digits, unit⟩ := exists_unit? control
    have low : c.toNat < 0xD800 := Nat.lt_trans control (by decide)
    rw [digits]
    change scanText ('\\' :: 'u' :: a :: b :: d :: e :: rest) = _
    rw [scanText.eq_def]
    simp only [unit, low, true_or, if_true, Char.ofNat_toNat]
  · next noQuote noBackslash _ _ _ _ _ noControl =>
    rw [List.singleton_append, scanText]
    · rw [if_neg (by simp [noBackslash, noControl])]
    · exact noQuote
    · exact fun _ _ _ _ _ same _ => noBackslash same
    · exact fun _ _ same _ => noBackslash same

/-- A text is scanned up to the quote behind it. -/
theorem scanText_flatMap_escape (chars rest : List Char) :
    scanText (chars.flatMap escape ++ '"' :: rest) = some (chars, rest) := by
  induction chars with
  | nil => rfl
  | cons c chars inductionHypothesis =>
    rw [List.flatMap_cons, List.append_assoc, scanText_escape, inductionHypothesis]
    rfl

/-- A text between quotes is scanned as the text. -/
theorem scanToken_quote (text : String) (rest : List Char) :
    scanToken (quote text ++ rest) = some (.text text, rest) := by
  have scanned := scanText_flatMap_escape text.toList rest
  have whole : quote text ++ rest = '"' :: (text.toList.flatMap escape ++ '"' :: rest) := by
    simp [quote]
  simp only [whole, scanToken, scanned, Option.map_some, String.ofList_toList]

/-! ## Numbers -/

/-- What a number goes on with. -/
def GoesOn (c : Char) : Prop := c.isDigit = true ∨ c = '.' ∨ c = 'e' ∨ c = 'E'

instance (c : Char) : Decidable (GoesOn c) := inferInstanceAs (Decidable (_ ∨ _ ∨ _ ∨ _))

/-- With a blank, no number goes on and none begins. -/
theorem not_goesOn_of_isSpace {c : Char} (space : isSpace c = true) : ¬GoesOn c ∧ c ≠ '-' := by
  simp only [isSpace, Bool.or_eq_true, beq_iff_eq] at space
  rcases space with ((rfl | rfl) | rfl) | rfl <;> decide

/-- A number ends in front of a text. -/
def EndsNumber (rest : List Char) : Prop := ∀ c, rest.head? = some c → ¬GoesOn c

variable {rest : List Char}

/-- No digit follows a number that ends. -/
theorem EndsNumber.no_digit (ends : EndsNumber rest) :
    ∀ c, rest.head? = some c → c.isDigit = false := by
  intro c head
  exact Bool.eq_false_iff.mpr fun digit => ends c head (.inl digit)

/-- The digits of a number are scanned as its whole part. -/
theorem scanWhole_toDigits (n : Nat) (ends : EndsNumber rest) :
    scanWhole (Nat.toDigits 10 n ++ rest) = some (Nat.toDigits 10 n, rest) := by
  have digital := Decimal.digital_toDigits n
  have zero := @Decimal.length_toDigits_of_leading_zero n
  have stretch := Text.takeWhile_dropWhile_append digital ends.no_digit
  cases digits : Nat.toDigits 10 n with
  | nil => exact absurd digits Nat.toDigits_ne_nil
  | cons c others =>
    rw [digits] at stretch zero
    by_cases leading : c = '0'
    · subst leading
      obtain rfl : others = [] := List.length_eq_zero_iff.mp (Nat.succ.inj (zero rfl))
      rfl
    · rw [scanWhole]
      · rw [stretch.1, stretch.2]
        rfl
      · intro more same
        exact leading (List.cons.inj same).1

/-- There is no fraction where a number ends. -/
theorem scanFraction_of_ends (ends : EndsNumber rest) : scanFraction rest = some ([], rest) := by
  unfold scanFraction
  split
  · exact absurd (.inr (.inl rfl)) (ends '.' rfl)
  · rfl

/-- There is no exponent where a number ends. -/
theorem scanExponent_of_ends (ends : EndsNumber rest) : scanExponent rest = some (none, rest) := by
  cases rest with
  | nil => rfl
  | cons c rest =>
    have noMark : c ≠ 'e' ∧ c ≠ 'E' := by
      constructor
      · exact fun same => ends c rfl (.inr (.inr (.inl same)))
      · exact fun same => ends c rfl (.inr (.inr (.inr same)))
    rw [scanExponent.eq_def]
    exact if_pos noMark

/-- The characters that a number begins with begin no other token. -/
theorem scanToken_of_number {text : List Char} {c : Char} (first : text.head? = some c)
    (begins : c.isDigit = true ∨ c = '-') : scanToken text = scanNumber text := by
  obtain ⟨more, rfl⟩ := List.head?_eq_some_iff.mp first
  have noBrace : c ≠ Char.ofNat 0x7B ∧ c ≠ Char.ofNat 0x7D := by
    constructor <;> rintro rfl <;> exact absurd begins (by decide)
  rw [scanToken, if_neg noBrace.1, if_neg noBrace.2]
  all_goals
    intros
    subst_vars
    exact absurd begins (by decide)

/-- A number is scanned part by part, behind its sign if it has one. -/
theorem scanNumber_of_parts {negative : Bool} {unsigned digits fraction behind : List Char}
    {exponent : Option Int} (noSign : negative = false → unsigned.head? ≠ some '-')
    (whole : scanWhole unsigned = some (digits, behind))
    (point : scanFraction behind = some (fraction, rest))
    (mark : scanExponent rest = some (exponent, rest)) :
    scanNumber ((if negative then ['-'] else []) ++ unsigned) =
      (numberToken negative digits fraction exponent).map fun token => (token, rest) := by
  cases negative with
  | true =>
    rw [if_pos rfl, List.singleton_append, scanNumber]
    simp only [whole, point, mark, Option.bind_eq_bind, Option.bind_some, Option.pure_def]
    exact Option.map_eq_bind.symm
  | false =>
    rw [if_neg Bool.false_ne_true, List.nil_append, scanNumber]
    · simp only [whole, point, mark, Option.bind_eq_bind, Option.bind_some, Option.pure_def]
      exact Option.map_eq_bind.symm
    · rintro more rfl
      exact noSign rfl rfl

/-- The digits of a whole number of 64 bits, with its sign, are taken for the number. -/
theorem numberToken_toDigits {n : Int} (above : Decimal.minInt64 ≤ n)
    (below : n < 0x10000000000000000) :
    numberToken (decide (n < 0)) (Nat.toDigits 10 n.natAbs) [] none = some (.whole n) := by
  have number : Decimal.ofDigits (Nat.toDigits 10 n.natAbs) = n.natAbs :=
    Decimal.ofDigits_toDigits n.natAbs
  by_cases negative : n < 0
  · have signed : -(n.natAbs : Int) = n := by omega
    have nonzero : ((n.natAbs : Int) != 0) = true := bne_iff_ne.mpr (by omega)
    simp only [numberToken, number, negative, signed, nonzero, above, List.isEmpty_nil,
      Option.isNone_none, Bool.and_true, decide_true, Bool.not_true, Bool.and_false,
      Bool.false_and, Bool.false_eq_true, if_false, if_true]
  · have signed : (n.natAbs : Int) = n := by omega
    simp only [numberToken, number, negative, signed, below, List.isEmpty_nil,
      Option.isNone_none, Bool.and_true, decide_true, decide_false, Bool.not_false, if_true]

/-- The digits of a number begin with a digit. -/
theorem isDigit_of_head?_toDigits {n : Nat} {c : Char}
    (first : (Nat.toDigits 10 n ++ rest).head? = some c) : c.isDigit = true := by
  obtain ⟨d, more, digits⟩ := List.exists_cons_of_ne_nil (@Nat.toDigits_ne_nil n 10)
  rw [digits, List.cons_append] at first
  obtain rfl := Option.some.inj first
  apply Decimal.digital_toDigits n
  rw [digits]
  exact List.mem_cons_self

/-- A whole number is written with a digit or a minus sign in front. -/
theorem exists_toList_toString (n : Int) :
    ∃ c more, (toString n).toList = c :: more ∧ (c.isDigit = true ∨ c = '-') := by
  rw [Decimal.toList_toString_int]
  by_cases negative : n < 0
  · rw [if_pos negative]
    exact ⟨'-', _, rfl, .inr rfl⟩
  · obtain ⟨c, more, digits⟩ := List.exists_cons_of_ne_nil (@Nat.toDigits_ne_nil n.natAbs 10)
    have first : (Nat.toDigits 10 n.natAbs ++ []).head? = some c := by
      rw [List.append_nil, digits]
      rfl
    rw [if_neg negative, List.nil_append]
    exact ⟨c, more, digits, .inl (isDigit_of_head?_toDigits first)⟩

/-- A whole number of 64 bits, with a sign or without, is scanned as it is where it ends. -/
theorem scanToken_whole {n : Int} (above : Decimal.minInt64 ≤ n) (below : n < 0x10000000000000000)
    (ends : EndsNumber rest) :
    scanToken ((toString n).toList ++ rest) = some (.whole n, rest) := by
  obtain ⟨c, more, written, begins⟩ := exists_toList_toString n
  have first : ((toString n).toList ++ rest).head? = some c := by
    rw [written]
    rfl
  have noSign : decide (n < 0) = false → (Nat.toDigits 10 n.natAbs ++ rest).head? ≠ some '-' := by
    intro _ signed
    exact absurd (isDigit_of_head?_toDigits signed) (by decide)
  have scanned := scanNumber_of_parts noSign (scanWhole_toDigits n.natAbs ends)
    (scanFraction_of_ends ends) (scanExponent_of_ends ends)
  rw [numberToken_toDigits above below] at scanned
  simp only [decide_eq_true_eq] at scanned
  rw [scanToken_of_number first begins, Decimal.toList_toString_int, List.append_assoc]
  exact scanned

/-! ## Tokens -/

namespace Token

/-- Whether a token is a number. -/
def IsNumber : Token → Prop
  | whole _ | real _ => True
  | _ => False

/-- Whether a token is no real, and fits in 64 bits if it is a whole number. -/
def IsExact : Token → Prop
  | real _ => False
  | whole n => Decimal.minInt64 ≤ n ∧ n < 0x10000000000000000
  | _ => True

/-- A token that is no number begins with a character that is no blank and that no number goes on
with. -/
theorem exists_write {token : Token} (noNumber : ¬token.IsNumber) :
    ∃ c more, token.write = c :: more ∧ isSpace c = false ∧ ¬GoesOn c := by
  cases token with
  | whole n => exact absurd trivial noNumber
  | real x => exact absurd trivial noNumber
  | text s => exact ⟨'"', _, rfl, by decide, by decide⟩
  | bool value => cases value <;> exact ⟨_, _, rfl, by decide, by decide⟩
  | _ => exact ⟨_, _, rfl, by decide, by decide⟩

/-- A token begins with a character that is no blank. -/
theorem exists_write_visible {token : Token} (exact : token.IsExact) :
    ∃ c more, token.write = c :: more ∧ isSpace c = false := by
  cases token with
  | whole n =>
    obtain ⟨c, more, written, begins⟩ := exists_toList_toString n
    refine ⟨c, more, written, ?_⟩
    cases blank : isSpace c with
    | false => rfl
    | true =>
      obtain ⟨stops, noSign⟩ := not_goesOn_of_isSpace blank
      rcases begins with digit | minus
      · exact absurd (.inl digit) stops
      · exact absurd minus noSign
  | real x => exact exact.elim
  | text s => exact ⟨'"', _, rfl, by decide⟩
  | bool value => cases value <;> exact ⟨_, _, rfl, by decide⟩
  | _ => exact ⟨_, _, rfl, by decide⟩

/-- A token that is written is scanned again, in front of what ends it if it is a number. -/
theorem scanToken_write {token : Token} (exact : token.IsExact)
    (ends : token.IsNumber → EndsNumber rest) :
    scanToken (token.write ++ rest) = some (token, rest) := by
  cases token with
  | whole n => exact scanToken_whole exact.1 exact.2 (ends trivial)
  | real x => exact exact.elim
  | text s => exact scanToken_quote s rest
  | bool value => cases value <;> rfl
  | _ => rfl

end Token

/-! ## Texts that spell out tokens -/

/-- A text spells out tokens in order, with any blanks in front of them, between them and behind
them. -/
inductive Spells : List Char → List Token → Prop where
  | nothing : Spells [] []
  | blank {c : Char} {chars : List Char} {tokens : List Token} (space : isSpace c = true)
    (others : Spells chars tokens) : Spells (c :: chars) tokens
  | token (token : Token) {chars : List Char} {tokens : List Token}
    (others : Spells chars tokens) : Spells (token.write ++ chars) (token :: tokens)

/-- Of tokens in order, no two numbers stand side by side. -/
def Apart : List Token → Prop
  | [] => True
  | token :: tokens =>
    (token.IsNumber → ∀ next, tokens.head? = some next → ¬next.IsNumber) ∧ Apart tokens

variable {chars : List Char} {tokens : List Token}

/-- A text spells out its tokens one after the other. -/
theorem Spells.append {others : List Char} {behind : List Token} (first : Spells chars tokens)
    (second : Spells others behind) : Spells (chars ++ others) (tokens ++ behind) := by
  induction first with
  | nothing => exact second
  | blank space _ inductionHypothesis => exact .blank space inductionHypothesis
  | token token _ inductionHypothesis =>
    rw [List.append_assoc]
    exact .token token inductionHypothesis

/-- A number ends in front of a text that spells out no number at first. -/
theorem Spells.endsNumber (spells : Spells chars tokens)
    (noNumber : ∀ next, tokens.head? = some next → ¬next.IsNumber) : EndsNumber chars := by
  cases spells with
  | nothing => exact fun c first => absurd first nofun
  | blank space others =>
    intro c first
    obtain rfl := Option.some.inj first
    exact (not_goesOn_of_isSpace space).1
  | token token others =>
    obtain ⟨c, more, written, -, stops⟩ := Token.exists_write (noNumber token rfl)
    intro d first
    rw [written] at first
    obtain rfl := Option.some.inj first
    exact stops

/-- Tokens are scanned from a text that spells them out, if no two numbers stand side by side.

Induct on how the text spells them out: a blank in front is skipped with no token, and a token in
front is scanned with what is behind it left over, which ends it if it is a number. -/
theorem scanFrom_of_spells (spells : Spells chars tokens) (apart : Apart tokens)
    (exact : ∀ token ∈ tokens, token.IsExact) {fuel : Nat} (enough : chars.length ≤ fuel) :
    scanFrom fuel chars = some tokens := by
  induction spells generalizing fuel with
  | nothing => cases fuel <;> rfl
  | @blank c chars tokens space others inductionHypothesis =>
    cases fuel with
    | zero => simp at enough
    | succ fuel =>
      have skipped : scanFrom (fuel + 1) (c :: chars) = scanFrom (fuel + 1) chars := by
        rw [scanFrom, List.dropWhile_cons_of_pos space, scanFrom]
      rw [skipped]
      exact inductionHypothesis apart exact (Nat.le_of_succ_le enough)
  | @token token chars tokens others inductionHypothesis =>
    obtain ⟨c, more, written, visible⟩ :=
      Token.exists_write_visible (exact token List.mem_cons_self)
    have scanned := Token.scanToken_write (exact token List.mem_cons_self)
      fun number => others.endsNumber (apart.1 number)
    rw [written, List.cons_append] at enough scanned ⊢
    cases fuel with
    | zero => simp at enough
    | succ fuel =>
      have left : chars.length ≤ fuel := by
        simp only [List.length_cons, List.length_append] at enough
        omega
      have rest := inductionHypothesis apart.2
        (fun later member => exact later (List.mem_cons_of_mem _ member)) left
      have noBlank : (c :: (more ++ chars)).dropWhile isSpace = c :: (more ++ chars) :=
        List.dropWhile_cons_of_neg (by simp [visible])
      rw [scanFrom, noBlank]
      simp only [scanned, rest, Option.map_some]

/-- Tokens are scanned from a whole text that spells them out. -/
theorem scan_of_spells (spells : Spells chars tokens) (apart : Apart tokens)
    (exact : ∀ token ∈ tokens, token.IsExact) : scan chars = some tokens :=
  scanFrom_of_spells spells apart exact (Nat.le_refl _)

end DialectBridge.Json
