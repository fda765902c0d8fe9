import DialectBridge.Proofs.Statement.Formula
import DialectBridge.Proofs.Characters

/-!
# The texts of formulas

A formula is written as its characters, and these are scanned as its tokens, whatever
follows, as long as that does not go on with a name, a number or a literal. The exception
are two minus signs without a space between them: what follows them is a comment.
-/

namespace DialectBridge.Statement

/-- What may follow a formula: a space, a comma, a parenthesis, or nothing. -/
def Delimited (rest : List Char) : Prop :=
  ∀ c, rest.head? = some c → c = ' ' ∨ c = ',' ∨ c = ')' ∨ c = '('

/-- A space delimits what stands before it. -/
theorem delimited_space (rest : List Char) : Delimited (' ' :: rest) := by
  rintro _ ⟨⟩
  exact .inl rfl

/-! ## Writing -/

/-- The texts of phrases, one by one. -/
theorem Phrase.renderAll_eq_map (phrases : List Phrase) :
    renderAll phrases = phrases.map render := by
  induction phrases with
  | nil => rfl
  | cons phrase rest inductionHypothesis =>
    rw [List.map_cons, ← inductionHypothesis, renderAll]

/-- The texts of phrases after others. -/
theorem Phrase.renderAll_append (first second : List Phrase) :
    renderAll (first ++ second) = renderAll first ++ renderAll second := by
  rw [renderAll_eq_map, renderAll_eq_map, renderAll_eq_map, List.map_append]

/-- A text without quotes is written as it is between quotes. -/
theorem doubleQuotes_of_quoteless {quote : Char} (previous : Char) {text : List Char}
    (quoteless : ∀ c ∈ text, c ≠ quote) : doubleQuotes quote previous text = text := by
  induction text generalizing previous with
  | nil => rfl
  | cons c rest inductionHypothesis =>
    have plain := quoteless c (by simp)
    have rest_plain := inductionHypothesis c fun d member =>
      quoteless d (List.mem_cons_of_mem _ member)
    cases rest with
    | nil => simp [doubleQuotes, plain]
    | cons d rest => simp [doubleQuotes, plain, rest_plain]

namespace Formula

mutual

/-- The text of a formula consists of its characters. -/
theorem toList_render (formula : Formula) : formula.phrase.render.toList = formula.chars := by
  cases formula with
  | number digits => simp [phrase, Phrase.render, chars]
  | literal value =>
    have quoteless : ∀ c ∈ value.letters, c ≠ '\'' := by
      have all := List.all_eq_true.mp value.quoteless
      exact fun c member => by simpa using all c member
    simp [phrase, Phrase.render, chars, quoted, doubleQuotes_of_quoteless _ quoteless]
  | column name =>
    simp [phrase, Phrase.render, chars, renderName, Identifier.render, PlainName.identifier]
  | call function arguments =>
    have between := toList_intercalate arguments
    simp [phrase, Phrase.render, Phrase.renderAll, Phrase.renderCall, chars, renderName,
      Identifier.render, PlainName.identifier, between]
  | group inner =>
    have inside := toList_render inner
    simp [phrase, Phrase.render, Phrase.renderAll, Phrase.parenthesized, Phrase.list,
      Phrase.separated, chars, inside]
  | negate operand =>
    have inside := toList_render operand
    simp [phrase, Phrase.render, Phrase.renderAll, chars, inside]
  | not operand =>
    have inside := toList_render operand
    simp [phrase, Phrase.render, Phrase.renderAll, chars, inside]
  | binary operator left right =>
    have before := toList_render left
    have after := toList_render right
    simp [phrase, Phrase.render, Phrase.renderAll, chars, before, after]

/-- The texts of formulas with commas between them consist of their characters. -/
theorem toList_intercalate (formulas : List Formula) :
    (", ".intercalate (Phrase.renderAll (phrases formulas))).toList = charsBetween formulas := by
  cases formulas with
  | nil => rfl
  | cons formula rest =>
    have first := toList_render formula
    cases rest with
    | nil => simp [phrases, Phrase.renderAll, charsBetween, charsAfter, first]
    | cons next more =>
      have others := toList_intercalate (next :: more)
      simp only [phrases, Phrase.renderAll, charsBetween] at others
      simp [phrases, Phrase.renderAll, charsBetween, charsAfter, first, others]

end

end Formula

/-! ## Scanning -/

namespace Token

/-- A text is scanned as tokens before a rest, with fuel left for that. -/
def ScansAs (source : List Char) (tokens : List Token) (rest : List Char) : Prop :=
  ∀ fuel afterWord, (source ++ rest).length ≤ fuel →
    ∃ left flag, rest.length ≤ left ∧
      scanFrom fuel afterWord (source ++ rest) = (scanFrom left flag rest).map (tokens ++ ·)

/-- No text is scanned as no tokens. -/
theorem scansAs_nil (rest : List Char) : ScansAs [] [] rest := by
  intro fuel afterWord enough
  exact ⟨fuel, afterWord, enough, by simp⟩

/-- One text is scanned after another. -/
theorem ScansAs.append {first second rest : List Char} {before after : List Token}
    (left : ScansAs first before (second ++ rest)) (right : ScansAs second after rest) :
    ScansAs (first ++ second) (before ++ after) rest := by
  intro fuel afterWord enough
  rw [List.append_assoc] at enough ⊢
  obtain ⟨between, flag, enough, scanned⟩ := left fuel afterWord enough
  obtain ⟨last, final, enough, others⟩ := right between flag enough
  refine ⟨last, final, enough, ?_⟩
  rw [scanned, others, Option.map_map]
  simp [Function.comp_def]

/-- The tokens that a whole text is scanned as are its tokens. -/
theorem scan_of_scansAs {text : String} {tokens : List Token}
    (scans : ScansAs text.toList tokens []) : scan text = some tokens := by
  obtain ⟨left, flag, _, scanned⟩ := scans _ false (Nat.le_refl _)
  have done : scanFrom left flag [] = some [] := by cases left <;> rfl
  rw [List.append_nil, done] at scanned
  exact scanned.trans (by simp)

/-- A text is scanned as one token if one step takes it. -/
theorem scansAs_of_step {c : Char} {more rest : List Char} {token : Token}
    (step : ∀ afterWord, scanStep afterWord c (more ++ rest) = some (some token, rest)) :
    ScansAs (c :: more) [token] rest := by
  intro fuel afterWord enough
  cases fuel with
  | zero => simp at enough
  | succ fuel =>
    have left : rest.length ≤ fuel := by
      simp only [List.cons_append, List.length_cons, List.length_append] at enough
      omega
    exact ⟨fuel, token.isWord, left, by simp [scanFrom, step]⟩

/-- A space is scanned as no token. -/
theorem scansAs_space (rest : List Char) : ScansAs [' '] [] rest := by
  intro fuel afterWord enough
  cases fuel with
  | zero => simp at enough
  | succ fuel =>
    have left : rest.length ≤ fuel := by simpa using enough
    have step : scanStep afterWord ' ' rest = some (none, rest) := rfl
    exact ⟨fuel, false, left, by simp [scanFrom, step]⟩

/-- The characters that start a name are no digits. -/
theorem isDigit_of_isNameStart {c : Char} (start : isNameStart c = true) : c.isDigit = false := by
  have codes : (65 ≤ c.toNat ∧ c.toNat ≤ 90 ∨ 97 ≤ c.toNat ∧ c.toNat ≤ 122) ∨ c = '_' ∨
      (127 ≤ c.toNat ∧ c.toNat ≤ 0xFFFF) := by
    simpa [isNameStart, Text.isAlpha_iff, or_assoc] using start
  rw [Bool.eq_false_iff]
  intro digit
  have code := Text.isDigit_iff.mp digit
  rcases codes with (capital | small) | rfl | beyond
  · omega
  · omega
  · exact absurd code (by decide)
  · omega

/-- No character of a class that has none of the quotes opens a quoted name. -/
theorem ofOpening?_eq_none (holds : Char → Bool) {c : Char} (held : holds c = true)
    (noQuote : ['"', Char.ofNat 0x60, '['].all (!holds ·) = true) : Quote.ofOpening? c = none := by
  simp only [List.all_cons, List.all_nil, Bool.and_true, Bool.and_eq_true,
    Bool.not_eq_true'] at noQuote
  obtain ⟨noDouble, noTick, noBracket⟩ := noQuote
  have differs {other : Char} (absent : holds other = false) : c ≠ other := by
    rintro rfl
    exact absurd held (by rw [absent]; decide)
  have code : c.toNat ≠ 0x60 := by
    intro tick
    exact differs noTick (by rw [← tick, Char.ofNat_toNat])
  simp [Quote.ofOpening?, differs noDouble, code, differs noBracket]

/-- What starts a name starts nothing else. -/
theorem scanStep_of_isNameStart (afterWord : Bool) {c : Char} {rest : List Char}
    (start : isNameStart c = true) (noQuote : rest.head? ≠ some '\'') :
    scanStep afterWord c rest =
      some (some (ofName (c :: rest.takeWhile isNamePart)), rest.dropWhile isNamePart) := by
  have noDigit := isDigit_of_isNameStart start
  have noPoint : (c == '.') = false := by
    rw [beq_eq_false_iff_ne]
    rintro rfl
    exact absurd start (by decide)
  have unquoted := ofOpening?_eq_none isNameStart start (by decide)
  unfold scanStep
  split
  · simp at noQuote
  · simp at noQuote
  · simp at noQuote
  · simp at noQuote
  · exact absurd start (by decide)
  · exact absurd start (by decide)
  · exact absurd start (by decide)
  · exact absurd start (by decide)
  · exact absurd start (by decide)
  · simp [unquoted, noDigit, noPoint, start]

/-- A word is scanned as a name where something delimits it. -/
theorem scansAs_name {first : Char} {more rest : List Char} (start : isNameStart first = true)
    (parts : ∀ c ∈ more, isNamePart c = true) (delimited : Delimited rest) :
    ScansAs (first :: more) [ofName (first :: more)] rest := by
  refine scansAs_of_step fun afterWord => ?_
  have ended : ∀ c, rest.head? = some c → isNamePart c = false := by
    intro c head
    rcases delimited c head with rfl | rfl | rfl | rfl <;> decide
  obtain ⟨taken, left⟩ := Text.takeWhile_dropWhile_append parts ended
  have noQuote : (more ++ rest).head? ≠ some '\'' := by
    intro quote
    cases more with
    | nil => exact absurd (delimited _ quote) (by decide)
    | cons c more =>
      obtain rfl : c = '\'' := by simpa using quote
      exact absurd (parts '\'' (by simp)) (by decide)
  rw [scanStep_of_isNameStart afterWord start noQuote, taken, left]

/-- A keyword of capitals is scanned before a space. -/
theorem scansAs_keyword (first : Char) (more : List Char) (rest : List Char)
    (start : isNameStart first = true) (parts : more.all isNamePart = true) :
    ScansAs (first :: (more ++ [' '])) [ofName (first :: more)] rest :=
  (scansAs_name start (List.all_eq_true.mp parts) (delimited_space rest)).append
    (scansAs_space rest)

/-- A plain name is scanned as itself. -/
theorem scansAs_plainName (name : PlainName) {rest : List Char} (delimited : Delimited rest) :
    ScansAs name.letters [ofName name.letters] rest := by
  obtain ⟨letters, plain⟩ := name
  cases letters with
  | nil => simp [isPlainName] at plain
  | cons first more =>
    simp only [isPlainName, Bool.and_eq_true, List.all_eq_true] at plain
    exact scansAs_name plain.1.1.1 plain.1.1.2 delimited

/-- What starts with a digit is a number. -/
theorem scanStep_of_isDigit (afterWord : Bool) {c : Char} (rest : List Char)
    (digit : c.isDigit = true) :
    scanStep afterWord c rest =
      (scanNumber afterWord (c :: rest)).map fun (token, rest) => (some token, rest) := by
  have unquoted := ofOpening?_eq_none Char.isDigit digit (by decide)
  unfold scanStep
  split
  · exact absurd digit (by decide)
  · exact absurd digit (by decide)
  · exact absurd digit (by decide)
  · exact absurd digit (by decide)
  · exact absurd digit (by decide)
  · exact absurd digit (by decide)
  · exact absurd digit (by decide)
  · exact absurd digit (by decide)
  · exact absurd digit (by decide)
  · simp [unquoted, digit]

/-- No delimiter belongs to a class that has none of the four. -/
theorem holds_of_delimited (holds : Char → Bool) {rest : List Char} (delimited : Delimited rest)
    (none : [' ', ',', ')', '('].all (!holds ·) = true) :
    ∀ c, rest.head? = some c → holds c = false := by
  intro c head
  have member : c ∈ [' ', ',', ')', '('] := by simpa using delimited c head
  simpa using List.all_eq_true.mp none c member

/-- Nothing is taken from a rest that begins with none of a class. -/
theorem takeWhile_of_delimited (holds : Char → Bool) {rest : List Char}
    (delimited : Delimited rest) (none : [' ', ',', ')', '('].all (!holds ·) = true) :
    rest.takeWhile holds = [] := by
  have ended := holds_of_delimited holds delimited none
  cases rest with
  | nil => rfl
  | cons c rest => simp [ended c rfl]

/-- No exponent begins with a delimiter. -/
theorem exponentOf_of_delimited {rest : List Char} (delimited : Delimited rest) :
    exponentOf rest = [] := by
  have ended := holds_of_delimited (fun c => c == 'e' || c == 'E') delimited (by decide)
  cases rest with
  | nil => rfl
  | cons c rest =>
    have other := ended c rfl
    simp only [Bool.or_eq_false_iff, beq_eq_false_iff_ne] at other
    simp [exponentOf, other]

/-- Digits are scanned as a number. -/
theorem scansAs_digits (digits : Digits) {rest : List Char} (delimited : Delimited rest) :
    ScansAs digits.digits [.number (String.ofList digits.digits)] rest := by
  obtain ⟨digits, digital⟩ := digits
  cases digits with
  | nil => simp at digital
  | cons first more =>
    simp only [List.isEmpty_cons, Bool.not_false, Bool.true_and, List.all_eq_true] at digital
    obtain ⟨whole, _⟩ := Text.takeWhile_dropWhile_append digital
      (holds_of_delimited Char.isDigit delimited (by decide))
    have left : (first :: more ++ rest).drop (first :: more).length = rest := List.drop_left
    have point := takeWhile_of_delimited (· == '.') delimited (by decide)
    have fraction := takeWhile_of_delimited Char.isDigit delimited (by decide)
    have suffix := takeWhile_of_delimited (· == 'L') delimited (by decide)
    refine scansAs_of_step fun afterWord => ?_
    rw [scanStep_of_isDigit _ _ (digital first (by simp))]
    have number : scanNumber afterWord (first :: (more ++ rest)) =
        some (.number (String.ofList (first :: more)), rest) := by
      rw [List.cons_append] at whole left
      unfold scanNumber
      simp only [whole, left]
      split
      · next impossible _ => simp at impossible
      · next hexadecimal =>
        exact absurd (delimited 'x' (by simp)) (by decide)
      · simp [point, fraction, exponentOf_of_delimited delimited, suffix]
    rw [number]
    rfl

/-- A text without quotes ends at the first quote. -/
theorem scanQuoted_of_quoteless {letters rest : List Char} (quoteless : ∀ c ∈ letters, c ≠ '\'')
    (noQuote : rest.head? ≠ some '\'') :
    scanQuoted '\'' (letters ++ '\'' :: rest) = some (letters, rest) := by
  induction letters with
  | nil =>
    cases rest with
    | nil => rfl
    | cons c rest =>
      have other : c ≠ '\'' := by simpa using noQuote
      simp [scanQuoted, other]
  | cons c letters inductionHypothesis =>
    have other := quoteless c (by simp)
    have inside := inductionHypothesis fun d member => quoteless d (List.mem_cons_of_mem _ member)
    cases letters with
    | nil =>
      simp only [List.nil_append] at inside
      simp [scanQuoted, other, inside]
    | cons d letters =>
      simp only [List.cons_append] at inside
      simp [scanQuoted, other, inside]

/-- A text without quotes is scanned as a literal between them. -/
theorem scansAs_literal (value : PlainText) {rest : List Char} (delimited : Delimited rest) :
    ScansAs ('\'' :: (value.letters ++ ['\''])) [.text (String.ofList value.letters)] rest := by
  obtain ⟨letters, quoteless⟩ := value
  have quoteless : ∀ c ∈ letters, c ≠ '\'' := by
    have all := List.all_eq_true.mp quoteless
    exact fun c member => by simpa using all c member
  have noQuote : rest.head? ≠ some '\'' := by
    intro quote
    exact absurd (delimited _ quote) (by decide)
  refine scansAs_of_step fun afterWord => ?_
  have step : scanStep afterWord '\'' (letters ++ ['\''] ++ rest) =
      scanLiteral .text (letters ++ ['\''] ++ rest) := rfl
  rw [step, List.append_assoc]
  simp [scanLiteral, scanQuoted_of_quoteless quoteless noQuote]

/-- A parenthesis opens whatever follows. -/
theorem scansAs_open (rest : List Char) : ScansAs ['('] [.sign "("] rest :=
  scansAs_of_step fun _ => rfl

/-- A parenthesis closes whatever follows. -/
theorem scansAs_close (rest : List Char) : ScansAs [')'] [.sign ")"] rest :=
  scansAs_of_step fun _ => rfl

/-- A comma separates whatever follows. -/
theorem scansAs_comma (rest : List Char) : ScansAs [','] [.sign ","] rest :=
  scansAs_of_step fun _ => rfl

/-- A minus sign is scanned as one, where neither another nor an arrow follows. -/
theorem scansAs_minus {c : Char} {rest : List Char} (noMinus : c ≠ '-') (noArrow : c ≠ '>') :
    ScansAs ['-'] [.sign "-"] (c :: rest) := by
  refine scansAs_of_step fun afterWord => ?_
  have step : scanStep afterWord '-' (c :: rest) =
      some (some (scanSign '-' (c :: rest)).1, (scanSign '-' (c :: rest)).2) := by
    have point : Quote.ofOpening? '-' = none := by decide
    have start : isNameStart '-' = false := by decide
    simp [scanStep, noMinus, point, start]
  have found : signs.find? (fun mark => mark.toList.isPrefixOf ('-' :: c :: rest)) =
      some "-" := by
    simp [signs, List.isPrefixOf, Ne.symm noArrow]
  have sign : scanSign '-' (c :: rest) = (.sign "-", c :: rest) := by
    simp only [scanSign, found]
    rfl
  simp [step, sign]

/-- An operator is scanned between spaces. -/
theorem scansAs_operator (operator : Infix) (rest : List Char) :
    ScansAs operator.written.toList [operator.token] (' ' :: rest) := by
  cases operator with
  | word keyword level known =>
    simp only [wordInfixes, List.mem_cons, Prod.mk.injEq, List.not_mem_nil, or_false] at known
    rcases known with ⟨rfl, rfl⟩ | ⟨rfl, rfl⟩ | ⟨rfl, rfl⟩ | ⟨rfl, rfl⟩ <;>
      simp only [Infix.written, Infix.token, String.reduceToList] <;>
      exact scansAs_of_step fun _ => rfl
  | sign mark level known =>
    simp only [Nested.operators, List.mem_cons, Prod.mk.injEq, List.not_mem_nil, or_false] at known
    repeat' rcases known with ⟨rfl, rfl, same⟩ | known
    -- Two signs are written otherwise than they are read; the others are each one step.
    all_goals first
      | exact absurd same (by decide)
      | (simp only [Infix.written, Infix.token, String.reduceToList]
         exact scansAs_of_step fun _ => rfl)

end Token

/-! ## Formulas -/

namespace Formula

open Token

/-- A formula starts with no arrow, and with a minus sign only if its first part is a
negation. -/
theorem chars_eq_cons (formula : Formula) :
    ∃ c more, formula.chars = c :: more ∧ c ≠ '>' ∧
      (formula.startsWithMinus = false → c ≠ '-') := by
  have named (name : PlainName) : ∃ c more, name.letters = c :: more ∧ c ≠ '>' ∧ c ≠ '-' := by
    obtain ⟨letters, plain⟩ := name
    cases letters with
    | nil => simp [isPlainName] at plain
    | cons first more =>
      simp only [isPlainName, Bool.and_eq_true] at plain
      refine ⟨first, more, rfl, ?_, ?_⟩ <;>
        · rintro rfl
          exact absurd plain.1.1.1 (by decide)
  induction formula using induction_on_parts with
  | number digits =>
    obtain ⟨digits, digital⟩ := digits
    cases digits with
    | nil => simp at digital
    | cons first more =>
      simp only [List.isEmpty_cons, Bool.not_false, Bool.true_and, List.all_cons,
        Bool.and_eq_true] at digital
      refine ⟨first, more, rfl, ?_, fun _ => ?_⟩ <;>
        · rintro rfl
          exact absurd digital.1 (by decide)
  | literal value => exact ⟨_, _, rfl, by decide, fun _ => by decide⟩
  | column name =>
    obtain ⟨c, more, cut, noArrow, noMinus⟩ := named name
    exact ⟨c, more, cut, noArrow, fun _ => noMinus⟩
  | call function arguments _ =>
    obtain ⟨c, more, cut, noArrow, noMinus⟩ := named function
    exact ⟨c, _, by rw [chars, cut]; rfl, noArrow, fun _ => noMinus⟩
  | group inner _ => exact ⟨_, _, rfl, by decide, fun _ => by decide⟩
  | negate operand _ => exact ⟨_, _, rfl, by decide, nofun⟩
  | not operand _ => exact ⟨_, _, rfl, by decide, fun _ => by decide⟩
  | binary operator left right inductionHypothesis _ =>
    obtain ⟨c, more, cut, noArrow, noMinus⟩ := inductionHypothesis
    exact ⟨c, _, by rw [chars, cut]; rfl, noArrow, noMinus⟩

mutual

/-- The characters of a formula are scanned as its tokens, whatever delimits it. -/
theorem scansAs_chars (formula : Formula) {rest : List Char} (spaced : formula.spacesMinus = true)
    (delimited : Delimited rest) : ScansAs formula.chars formula.tokens rest := by
  cases formula with
  | number digits => exact scansAs_digits digits delimited
  | literal value => exact scansAs_literal value delimited
  | column name => exact scansAs_plainName name delimited
  | call function arguments =>
    have openDelimits (more : List Char) : Delimited ('(' :: more) := by
      rintro _ ⟨⟩
      simp
    have closeDelimits : Delimited ([')'] ++ rest) := by
      rintro _ ⟨⟩
      simp
    have inside := scansAs_charsBetween arguments spaced closeDelimits
    exact (scansAs_plainName function (openDelimits _)).append
      ((scansAs_open _).append (inside.append (scansAs_close rest)))
  | group inner =>
    have closeDelimits : Delimited ([')'] ++ rest) := by
      rintro _ ⟨⟩
      simp
    have inside := scansAs_chars inner spaced closeDelimits
    exact (scansAs_open _).append (inside.append (scansAs_close rest))
  | negate operand =>
    simp only [spacesMinus, Bool.and_eq_true, Bool.not_eq_true'] at spaced
    obtain ⟨c, more, cut, noArrow, noMinus⟩ := operand.chars_eq_cons
    have inside := scansAs_chars operand spaced.1 delimited
    have minus : ScansAs ['-'] [.sign "-"] (operand.chars ++ rest) := by
      rw [cut]
      exact scansAs_minus (noMinus spaced.2) noArrow
    exact minus.append inside
  | not operand =>
    have inside := scansAs_chars operand spaced delimited
    have word : ScansAs ['N', 'O', 'T', ' '] [ofName "NOT".toList] (operand.chars ++ rest) :=
      scansAs_keyword 'N' ['O', 'T'] _ (by decide) (by decide)
    exact word.append inside
  | binary operator left right =>
    simp only [spacesMinus, Bool.and_eq_true] at spaced
    have before (more : List Char) := scansAs_chars left spaced.1 (delimited_space more)
    have after := scansAs_chars right spaced.2 delimited
    exact (before _).append ((scansAs_space _).append
      ((scansAs_operator operator _).append ((scansAs_space _).append after)))

/-- The characters of formulas with commas between them are scanned as their tokens. -/
theorem scansAs_charsBetween (formulas : List Formula) {rest : List Char}
    (spaced : spacesMinusAll formulas = true) (delimited : Delimited rest) :
    ScansAs (charsBetween formulas) (tokensBetween formulas) rest := by
  cases formulas with
  | nil => exact scansAs_nil rest
  | cons formula others =>
    simp only [spacesMinusAll, Bool.and_eq_true] at spaced
    have after := scansAs_charsAfter others spaced.2 delimited
    refine (scansAs_chars formula spaced.1 ?_).append after
    cases others with
    | nil => exact delimited
    | cons _ _ =>
      rintro _ ⟨⟩
      simp

/-- The characters of formulas with a comma before each are scanned as their tokens. -/
theorem scansAs_charsAfter (formulas : List Formula) {rest : List Char}
    (spaced : spacesMinusAll formulas = true) (delimited : Delimited rest) :
    ScansAs (charsAfter formulas) (tokensAfter formulas) rest := by
  cases formulas with
  | nil => exact scansAs_nil rest
  | cons formula others =>
    simp only [spacesMinusAll, Bool.and_eq_true] at spaced
    have after := scansAs_charsAfter others spaced.2 delimited
    have first : ScansAs formula.chars formula.tokens (charsAfter others ++ rest) := by
      refine scansAs_chars formula spaced.1 ?_
      cases others with
      | nil => exact delimited
      | cons _ _ =>
        rintro _ ⟨⟩
        simp
    exact (scansAs_comma _).append ((scansAs_space _).append (first.append after))

end

end Formula

end DialectBridge.Statement
