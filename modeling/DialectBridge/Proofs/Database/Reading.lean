import DialectBridge.Proofs.Database.Scanning

/-!
# Reading calls on literals

The engine's reader takes what is scanned as a literal of a value for that value, and a call
of a function on literals for the call of the function on their values. It leaves what
follows as it was.
-/

namespace DialectBridge.Database.Reader

variable {α β : Type} {context : ReadContext} {highest : Nat} {named : List (String × Nat)}

/-! ## Running readers -/

/-- One reader after another. -/
theorem bind_apply (first : Reader α) (second : α → Reader β) (context : ReadContext)
    (reading : Reading) :
    (first >>= second) context reading =
      match first context reading with
      | .ok (value, after) => second value context after
      | .error problem => .error problem := by
  change (first context >>= fun value => second value context) reading = _
  change StateT.bind (first context) (fun value => second value context) reading = _
  unfold StateT.bind
  cases first context reading <;> rfl

/-- Taking nothing. -/
theorem pure_apply (value : α) (context : ReadContext) (reading : Reading) :
    (pure value : Reader α) context reading = .ok (value, reading) := rfl

/-- Looking at all tokens. -/
theorem tokens_apply (context : ReadContext) (reading : Reading) :
    tokens context reading = .ok (reading.tokens, reading) := rfl

/-- Looking at the next token. -/
theorem peek_apply (context : ReadContext) (reading : Reading) :
    peek context reading = .ok (reading.tokens.head?, reading) := rfl

/-- Taking the next token. -/
theorem advance_apply (context : ReadContext) (token : Token) (rest : List Token) :
    advance context ⟨token :: rest, highest, named⟩ = .ok (⟨⟩, ⟨rest, highest, named⟩) := rfl

/-- Asking for the next token. -/
theorem nextIs_apply (condition : Token → Bool) (context : ReadContext) (reading : Reading) :
    nextIs condition context reading = .ok (reading.tokens.head?.any condition, reading) := rfl

/-- Taking the next token if it satisfies a condition. -/
theorem takes_apply (condition : Token → Bool) (context : ReadContext) (token : Token)
    (rest : List Token) :
    takes condition context ⟨token :: rest, highest, named⟩ =
      if condition token then .ok (true, ⟨rest, highest, named⟩)
      else .ok (false, ⟨token :: rest, highest, named⟩) := by
  unfold takes
  simp only [bind_apply, nextIs_apply, List.head?_cons, Option.any_some]
  split <;> rfl

/-! ## Literals -/

/-- Digits are not the digits of another base. -/
theorem wholeValue_digital {digits : List Char} (digital : Decimal.Digital digits)
    (negative : Bool) {value : Int}
    (written : value = if negative then -(Decimal.ofDigits digits : Int)
      else Decimal.ofDigits digits) :
    wholeValue negative digits = if Decimal.fitsInt64 value then .ofInt value
      else .real ((Decimal.readFloat (if negative then '-' :: digits else digits)).getD 0) := by
  unfold wholeValue
  split
  · exact absurd (digital 'x' (by simp)) (by decide)
  · exact absurd (digital 'X' (by simp)) (by decide)
  · rw [written]

/-- Digits of a number of 64 bits are read as it. -/
theorem wholeValue_of_digital {digits : List Char} (digital : Decimal.Digital digits)
    (negative : Bool) {number : Int64}
    (value : number.toInt = if negative then -(Decimal.ofDigits digits : Int)
      else Decimal.ofDigits digits) :
    wholeValue negative digits = .integer number := by
  have fits : Decimal.fitsInt64 number.toInt = true := by
    have lower := number.le_toInt
    have upper := number.toInt_lt
    unfold Decimal.fitsInt64 Decimal.minInt64 Decimal.maxInt64
    rw [Bool.and_eq_true, decide_eq_true_eq, decide_eq_true_eq]
    omega
  rw [wholeValue_digital digital negative value, if_pos fits, Value.ofInt, Int64.ofInt_toInt]

/-- The signs that end an argument. -/
def endings : List Lexeme := [comma, (.sign, [')'])]

/-- Whether the first of some tokens ends an argument. -/
def ArgumentEnds (rest : List Token) : Prop := ∃ token more, rest = token :: more ∧
  token.lexeme ∈ endings

/-- What ends an argument is neither an operator nor a point. -/
theorem ArgumentEnds.cases {rest : List Token} (ends : ArgumentEnds rest) :
    ∃ token more, rest = token :: more ∧ token.kind = .sign ∧ operator? token = none ∧
      token.isSign "." = false := by
  obtain ⟨⟨kind, text, offset⟩, more, rfl, listed⟩ := ends
  refine ⟨_, more, rfl, ?_⟩
  simp only [endings, comma, Token.lexeme, List.mem_cons, Prod.mk.injEq, List.not_mem_nil,
    or_false] at listed
  rcases listed with ⟨rfl, rfl⟩ | ⟨rfl, rfl⟩ <;> exact ⟨rfl, rfl, rfl⟩

/-- The tokens of a literal are read as its value. -/
theorem operand_literal (expression : Nat → Reader Expression) {piece rest : List Token}
    {value : Value} (denotes : Denotes (piece.map Token.lexeme) value)
    (ends : ArgumentEnds rest) :
    operand expression context ⟨piece ++ rest, highest, named⟩ =
      .ok (.literal value, ⟨rest, highest, named⟩) := by
  obtain ⟨next, more, rfl, _, _, noPoint⟩ := ends.cases
  generalize same : piece.map Token.lexeme = lexemes at denotes
  cases denotes with
  | null =>
    obtain ⟨⟨kind, text, offset⟩, others, rfl, first, last⟩ := List.map_eq_cons_iff.mp same
    obtain rfl := List.map_eq_nil_iff.mp last
    obtain ⟨rfl, rfl⟩ := Prod.mk.inj first
    rfl
  | @whole digits number digital written =>
    obtain ⟨⟨kind, text, offset⟩, others, rfl, first, last⟩ := List.map_eq_cons_iff.mp same
    obtain rfl := List.map_eq_nil_iff.mp last
    obtain ⟨rfl, rfl⟩ := Prod.mk.inj first
    rw [← wholeValue_of_digital digital false written]
    rfl
  | @negative digits number digital written =>
    obtain ⟨⟨kind, text, offset⟩, others, rfl, first, last⟩ := List.map_eq_cons_iff.mp same
    obtain ⟨⟨kind', text', offset'⟩, others, rfl, second, last⟩ := List.map_eq_cons_iff.mp last
    obtain rfl := List.map_eq_nil_iff.mp last
    obtain ⟨rfl, rfl⟩ := Prod.mk.inj first
    obtain ⟨rfl, rfl⟩ := Prod.mk.inj second
    rw [← wholeValue_of_digital digital true written]
    rfl
  | @text body text written =>
    obtain ⟨⟨kind, text', offset⟩, others, rfl, first, last⟩ := List.map_eq_cons_iff.mp same
    obtain rfl := List.map_eq_nil_iff.mp last
    obtain ⟨rfl, rfl⟩ := Prod.mk.inj first
    have content : (⟨.string, '\'' :: body, offset⟩ : Token).content = text := by
      rw [← @String.ofList_toList text, ← written]
      rfl
    unfold operand
    simp only [bind_apply, peek_apply, List.cons_append, List.nil_append, List.head?_cons,
      advance_apply, nextIs_apply, Option.any_some, noPoint, content]
    rfl
  | @blob digits octets written =>
    obtain ⟨⟨kind, text, offset⟩, others, rfl, first, last⟩ := List.map_eq_cons_iff.mp same
    obtain rfl := List.map_eq_nil_iff.mp last
    obtain ⟨rfl, rfl⟩ := Prod.mk.inj first
    rw [← written]
    have inside : (('X' :: '\'' :: (digits ++ ['\''])).drop 2).dropLast = digits := by simp
    unfold operand
    simp only [bind_apply, peek_apply, List.cons_append, List.nil_append, List.head?_cons,
      advance_apply, inside]
    rfl

/-- Nothing is added to an operand that an argument ends with. -/
theorem climb_ended (expression : Nat → Reader Expression) (level fuel : Nat)
    (left : Expression) {rest : List Token} (ends : ArgumentEnds rest) :
    climb expression level fuel left context ⟨rest, highest, named⟩ =
      .ok (left, ⟨rest, highest, named⟩) := by
  obtain ⟨next, more, rfl, sign, noOperator, _⟩ := ends.cases
  cases fuel with
  | zero => rfl
  | succ fuel =>
    unfold climb
    simp only [bind_apply, peek_apply, List.head?_cons, noOperator, sign]
    simp [pure_apply]

/-- Nothing is added to an operand that the tokens end with. -/
theorem climb_nil (expression : Nat → Reader Expression) (level fuel : Nat)
    (left : Expression) :
    climb expression level fuel left context ⟨[], highest, named⟩ =
      .ok (left, ⟨[], highest, named⟩) := by
  cases fuel <;> rfl

/-! ## Arguments -/

/-- A token can be the first one of an argument: it is neither a sign that stands for no arguments
nor the word for distinct ones. -/
def OpensArgument (token : Token) : Prop :=
  token.isSign ")" = false ∧ token.isSign "*" = false ∧ token.isKeyword "DISTINCT" = false

/-- Some tokens are read as an expression wherever an argument ends behind them, if the reader may
go so deep. -/
structure ReadsAs (depth : Nat) (lexemes : List Lexeme) (meaning : Expression) : Prop where
  read : ∀ (fuel level : Nat) (context : ReadContext) (highest : Nat)
    (named : List (String × Nat)) (piece rest : List Token), piece.map Token.lexeme = lexemes →
      ArgumentEnds rest → expressionAt (fuel + depth) level context ⟨piece ++ rest, highest, named⟩ =
        .ok (meaning, ⟨rest, highest, named⟩)
  opens : ∃ kind text more, lexemes = (kind, text) :: more ∧
    ∀ offset, OpensArgument ⟨kind, text, offset⟩

/-- What is read by a reader that may go so deep is read by one that may go deeper. -/
theorem ReadsAs.deeper {depth : Nat} {lexemes : List Lexeme} {meaning : Expression}
    (reads : ReadsAs depth lexemes meaning) : ReadsAs (depth + 1) lexemes meaning where
  read fuel level context highest named piece rest same ends := by
    rw [← Nat.add_assoc, Nat.add_right_comm]
    exact reads.read (fuel + 1) level context highest named piece rest same ends
  opens := reads.opens

/-- What is read as an operand is read as an expression where an argument ends. -/
theorem readsAs_of_operand {lexemes : List Lexeme} {meaning : Expression}
    (read : ∀ (expression : Nat → Reader Expression) (context : ReadContext) (highest : Nat)
      (named : List (String × Nat)) (piece rest : List Token), piece.map Token.lexeme = lexemes →
        ArgumentEnds rest → operand expression context ⟨piece ++ rest, highest, named⟩ =
          .ok (meaning, ⟨rest, highest, named⟩))
    (opens : ∃ kind text more, lexemes = (kind, text) :: more ∧
      ∀ offset, OpensArgument ⟨kind, text, offset⟩) :
    ReadsAs 1 lexemes meaning where
  read fuel level context highest named piece rest same ends := by
    unfold expressionAt
    simp only [bind_apply, read _ context highest named piece rest same ends, tokens_apply,
      climb_ended _ _ _ _ ends]
  opens := opens

/-- A literal is read as its value. -/
theorem readsAs_literal {lexemes : List Lexeme} {value : Value} (denotes : Denotes lexemes value) :
    ReadsAs 1 lexemes (.literal value) :=
  readsAs_of_operand
    (fun expression _ _ _ _ _ same ends => operand_literal expression (same ▸ denotes) ends)
    (by cases denotes <;> exact ⟨_, _, _, rfl, fun _ => ⟨rfl, rfl, rfl⟩⟩)

/-- Pieces with a comma between each two are the first one, and a comma before each of the
others. -/
theorem intercalate_comma (piece : List Lexeme) (others : List (List Lexeme)) :
    [comma].intercalate (piece :: others) =
      piece ++ others.flatMap fun other => comma :: other := by
  induction others generalizing piece with
  | nil => simp
  | cons other others inductionHypothesis =>
    rw [List.intercalate_cons_cons, inductionHypothesis, List.flatMap_cons]
    simp

/-- There is a comma before each piece. -/
theorem length_le_flatMap (pieces : List (List Lexeme)) :
    pieces.length ≤ (pieces.flatMap fun piece => comma :: piece).length := by
  induction pieces with
  | nil => exact Nat.le_refl 0
  | cons piece pieces inductionHypothesis =>
    rw [List.flatMap_cons, List.length_append, List.length_cons, List.length_cons]
    omega

/-- The next argument or the end of the call ends an argument. -/
theorem argumentEnds_append {pieces : List (List Lexeme)} {close : Token}
    (closes : close.lexeme = (.sign, [')'])) {found : List Token}
    (written : found.map Token.lexeme = pieces.flatMap fun piece => comma :: piece)
    (rest : List Token) : ArgumentEnds (found ++ close :: rest) := by
  cases pieces with
  | nil =>
    obtain rfl := List.map_eq_nil_iff.mp written
    exact ⟨close, rest, rfl, by rw [closes]; decide⟩
  | cons piece pieces =>
    obtain ⟨token, others, rfl, separates, _⟩ := List.map_eq_cons_iff.mp written
    exact ⟨token, _, rfl, by rw [separates]; decide⟩

/-- A token that is written as a sign is this sign and no other. -/
theorem isSign_of_lexeme {token : Token} {text : List Char} (same : token.lexeme = (.sign, text))
    (sign : String) : token.isSign sign = (text == sign.toList) := by
  obtain ⟨kind, written, offset⟩ := token
  obtain ⟨rfl, rfl⟩ := Prod.mk.inj same
  rfl

/-- Arguments after commas are read as what they mean. -/
theorem moreItems_readsAs {depth extra fuel : Nat} {pieces : List (List Lexeme)}
    {meanings : List Expression} (mean : List.Forall₂ (ReadsAs depth) pieces meanings)
    (enough : pieces.length ≤ fuel) {close : Token} (closes : close.lexeme = (.sign, [')']))
    {rest found : List Token}
    (written : found.map Token.lexeme = pieces.flatMap fun piece => comma :: piece) :
    moreItems (expressionAt (extra + depth) 0) fuel context
        ⟨found ++ close :: rest, highest, named⟩ =
      .ok (meanings, ⟨close :: rest, highest, named⟩) := by
  induction mean generalizing fuel found with
  | nil =>
    obtain rfl := List.map_eq_nil_iff.mp written
    have noComma : close.isSign "," = false := isSign_of_lexeme closes ","
    cases fuel with
    | zero => rfl
    | succ fuel =>
      simp only [moreItems, takesSign, bind_apply, List.nil_append, takes_apply, noComma]
      rfl
  | @cons piece meaning pieces meanings reads _ inductionHypothesis =>
    obtain ⟨fuel, rfl⟩ := Nat.exists_eq_add_one_of_ne_zero
      (Nat.pos_iff_ne_zero.mp (Nat.lt_of_lt_of_le (Nat.zero_lt_succ _) enough))
    rw [List.flatMap_cons, List.cons_append] at written
    obtain ⟨token, found, rfl, separates, written⟩ := List.map_eq_cons_iff.mp written
    obtain ⟨argument, others, rfl, first, last⟩ := List.map_eq_append_iff.mp written
    have isComma : token.isSign "," = true := isSign_of_lexeme separates ","
    have ends := argumentEnds_append closes last rest
    have read := reads.read extra 0 context highest named argument _ first ends
    have later := inductionHypothesis (Nat.le_of_succ_le_succ enough) last
    simp only [moreItems, takesSign, bind_apply, List.cons_append, List.append_assoc, takes_apply,
      isComma, if_true, read, later]
    rfl

/-- Arguments between parentheses are read as what they mean. -/
theorem callOf_readsAs {depth extra : Nat} (name : String) {pieces : List (List Lexeme)}
    {meanings : List Expression} (mean : List.Forall₂ (ReadsAs depth) pieces meanings)
    (nonempty : meanings ≠ []) {close : Token} (closes : close.lexeme = (.sign, [')']))
    {found : List Token} (written : found.map Token.lexeme = [comma].intercalate pieces)
    (rest : List Token) :
    callOf (expressionAt (extra + depth) 0) name context ⟨found ++ close :: rest, highest, named⟩ =
      .ok (.call name false meanings, ⟨rest, highest, named⟩) := by
  cases mean with
  | nil => exact absurd rfl nonempty
  | @cons piece meaning pieces meanings reads mean =>
    rw [intercalate_comma] at written
    obtain ⟨argument, others, rfl, first, last⟩ := List.map_eq_append_iff.mp written
    have ends := argumentEnds_append closes last rest
    have read := reads.read extra 0 context highest named argument _ first ends
    have enough : pieces.length ≤ (others ++ close :: rest).length := by
      have count := length_le_flatMap pieces
      rw [← last, List.length_map] at count
      rw [List.length_append]
      omega
    have later : moreItems (expressionAt (extra + depth) 0) (others ++ close :: rest).length context
        ⟨others ++ close :: rest, highest, named⟩ =
          .ok (meanings, ⟨close :: rest, highest, named⟩) :=
      moreItems_readsAs mean enough closes last
    have isClose : close.isSign ")" = true := isSign_of_lexeme closes ")"
    obtain ⟨kind, text, _, rfl, opens⟩ := reads.opens
    obtain ⟨⟨_, _, offset⟩, more, rfl, token, _⟩ := List.map_eq_cons_iff.mp first
    obtain ⟨rfl, rfl⟩ := Prod.mk.inj token
    obtain ⟨noClose, noStar, noDistinct⟩ := opens offset
    rw [List.cons_append] at read
    unfold callOf
    simp only [takesSign, takesKeyword, expectSign, commaSeparated, bind_apply, List.cons_append,
      List.append_assoc, takes_apply, noClose, noStar, noDistinct, Bool.false_eq_true, if_false,
      read, tokens_apply, later, pure_apply, isClose, if_true]

/-! ## Calls -/

/-- Words that begin an expression and name no function. -/
def openingWords : List String := ["NULL", "NOT", "CASE", "CAST"]

/-- A word names a function if it can be a name and begins nothing else. -/
def NamesFunction (word : List Char) : Prop :=
  ∀ offset, (⟨.word, word, offset⟩ : Token).isName = true ∧
    ∀ opening ∈ openingWords, (⟨.word, word, offset⟩ : Token).isKeyword opening = false

/-- A name before a parenthesis begins a call. -/
theorem operand_named (expression : Nat → Reader Expression) {word : List Char}
    (names : NamesFunction word) (offset : Nat) {opening : Token}
    (opens : opening.lexeme = (.sign, ['('])) (rest : List Token) :
    operand expression context ⟨⟨.word, word, offset⟩ :: opening :: rest, highest, named⟩ =
      callOf (expression 0) (String.ofList word) context ⟨rest, highest, named⟩ := by
  obtain ⟨isName, noOpening⟩ := names offset
  have isOpening : opening.isSign "(" = true := isSign_of_lexeme opens "("
  have noNull := noOpening "NULL" (by decide)
  have noNot := noOpening "NOT" (by decide)
  have noCase := noOpening "CASE" (by decide)
  have noCast := noOpening "CAST" (by decide)
  unfold operand
  simp only [takesKeyword, bind_apply, peek_apply, List.head?_cons, takes_apply, noNull, noNot,
    noCase, noCast, isName, advance_apply, Bool.false_eq_true, if_false, if_true]
  unfold Reader.named
  simp only [bind_apply, nextIs_apply, List.head?_cons, Option.any_some, isOpening]
  have callable : (true && TokenKind.word != TokenKind.string) = true := rfl
  rw [if_pos callable]
  simp only [bind_apply, advance_apply]
  rfl

/-- A name before arguments between parentheses is read as a call, and nothing is left of it. An
argument may have one operator in it. -/
theorem expression_call {word : List Char} (names : NamesFunction word)
    {pieces : List (List Lexeme)} {meanings : List Expression}
    (mean : List.Forall₂ (ReadsAs 2) pieces meanings) (nonempty : meanings ≠ [])
    {found : List Token}
    (written : found.map Token.lexeme = (.word, word) :: (.sign, ['(']) ::
      ([comma].intercalate pieces ++ [(.sign, [')'])])) :
    expression context ⟨found, highest, named⟩ =
      .ok (.call (String.ofList word) false meanings, ⟨[], highest, named⟩) := by
  obtain ⟨⟨kind, text, offset⟩, found, rfl, first, written⟩ := List.map_eq_cons_iff.mp written
  obtain ⟨opening, found, rfl, second, written⟩ := List.map_eq_cons_iff.mp written
  obtain ⟨inside, last, rfl, third, written⟩ := List.map_eq_append_iff.mp written
  obtain ⟨close, last, rfl, closes, written⟩ := List.map_eq_cons_iff.mp written
  obtain rfl := List.map_eq_nil_iff.mp written
  obtain ⟨rfl, rfl⟩ := Prod.mk.inj first
  have call : callOf (expressionAt ((inside ++ [close]).length + 2) 0) (String.ofList text) context
      ⟨inside ++ [close], highest, named⟩ =
        .ok (.call (String.ofList text) false meanings, ⟨[], highest, named⟩) :=
    callOf_readsAs (String.ofList text) mean nonempty closes third []
  unfold expression
  simp only [bind_apply, tokens_apply, List.length_cons]
  unfold expressionAt
  simp only [bind_apply, operand_named _ names offset second, call, tokens_apply, climb_nil]

end DialectBridge.Database.Reader
