import DialectBridge.Proofs.Statement.Formula
import DialectBridge.Proofs.Statement.Running

/-!
# Reading formulas

The tokens of a formula that fits are read as the formula. What follows it must be able to
follow an expression, and must not bind tighter than the operator that the formula stops
at. The reader takes the first part of a formula and then operators as long as they bind
tighter than the level it reads at, so that what is proved of a part is where the reader
stands after it: with the phrase of the part, before what follows.
-/

namespace DialectBridge.Statement

open Reader

/-! ## Ends and beginnings of formulas -/

/-- The words that can follow a formula: operators, and what goes on a selection. -/
def followingWords : List String := "FROM" :: "WHERE" :: wordInfixes.map Prod.fst

/-- Whether a token can follow a formula. -/
def isFollower : Token → Bool
  | .sign mark => mark == "," || mark == ")" || (Nested.operators.lookup mark).isSome
  | .word _ keyword => followingWords.contains keyword
  | _ => false

/-- What can follow a formula: nothing, or a token that can. -/
def Follows (rest : List Token) : Prop := ∀ token ∈ rest.head?, isFollower token = true

/-- Nothing can follow a formula. -/
theorem follows_nil : Follows [] := nofun

/-- A token that can follow a formula can be followed by all. -/
theorem follows_cons {token : Token} (rest : List Token) (follower : isFollower token = true) :
    Follows (token :: rest) := by
  rintro _ ⟨⟩
  exact follower

/-- An operator can follow its left operand. -/
theorem follows_infixToken (operator : Infix) (rest : List Token) :
    Follows (operator.token :: rest) := by
  have signs : ∀ entry ∈ Nested.operators, isFollower (.sign entry.1) = true := by decide
  have words : ∀ entry ∈ wordInfixes, isFollower (.word ⟨entry.1, none⟩ entry.1) = true := by
    decide
  refine follows_cons rest ?_
  cases operator with
  | sign mark level known => exact signs _ known
  | word keyword level known => exact words _ known

/-- No other keyword follows a formula. -/
theorem Follows.headKeyword_ne {rest : List Token} (follows : Follows rest) {keyword : String}
    (other : keyword ∉ "" :: followingWords) : headKeyword rest ≠ keyword := by
  rintro rfl
  match rest with
  | .word identifier keyword :: more =>
    have follower : isFollower (.word identifier keyword) = true := follows _ rfl
    simp only [isFollower, List.contains_eq_mem, decide_eq_true_eq] at follower
    exact other (List.mem_cons_of_mem _ follower)
  | [] => exact other List.mem_cons_self
  | .sign _ :: _ => exact other List.mem_cons_self
  | .number _ :: _ => exact other List.mem_cons_self
  | .text _ :: _ => exact other List.mem_cons_self
  | .nationalText _ :: _ => exact other List.mem_cons_self
  | .hexadecimal _ :: _ => exact other List.mem_cons_self
  | .placeholder _ :: _ => exact other List.mem_cons_self

/-- No other token follows a formula. -/
theorem Follows.head?_ne {rest : List Token} (follows : Follows rest) {token : Token}
    (other : isFollower token = false) : rest.head? ≠ some token := by
  intro same
  rw [follows token same] at other
  contradiction

/-- What can stand after the first word or text of a formula: nothing that makes it the
name of an argument, or the first of several names. -/
structure Unlabelled (rest : List Token) : Prop where
  noValue : Reader.headKeyword rest ≠ "VALUE"
  noPoint : rest.head? ≠ some (.sign ".")
  noArrow : rest.head? ≠ some (.sign "=>")

/-- What follows a formula makes it no name. -/
theorem Follows.unlabelled {rest : List Token} (follows : Follows rest) : Unlabelled rest where
  noValue := follows.headKeyword_ne (by decide)
  noPoint := follows.head?_ne (by decide)
  noArrow := follows.head?_ne (by decide)

/-- The keywords that mean something before a formula. -/
def announcingWords : List String :=
  ["ANY", "ALL", "SOME", "DISTINCT", "SELECT", "WITH", "EXISTS", "ON", "TOP", "INTO", "VALUE"]

/-- How the tokens of a formula begin. -/
inductive Opens : List Token → Prop
  | number (digits : String) (rest : List Token) : Opens (.number digits :: rest)
  | minus (rest : List Token) : Opens (.sign "-" :: rest)
  | parenthesis (rest : List Token) : Opens (.sign "(" :: rest)
  | text (value : String) {rest : List Token} (unlabelled : Unlabelled rest) :
    Opens (.text value :: rest)
  | word (identifier : Identifier) {keyword : String} {rest : List Token}
    (plain : keyword ∉ announcingWords) (unlabelled : Unlabelled rest) :
    Opens (.word identifier keyword :: rest)

namespace Opens

variable {tokens : List Token}

/-- No keyword that means something before a formula begins one. -/
theorem headKeyword_ne (opens : Opens tokens) {keyword : String}
    (announcing : keyword ∈ announcingWords) : headKeyword tokens ≠ keyword := by
  have none : "" ∉ announcingWords := by decide
  rintro rfl
  cases opens with
  | number digits rest => exact none announcing
  | minus rest => exact none announcing
  | parenthesis rest => exact none announcing
  | text value unlabelled => exact none announcing
  | word identifier plain unlabelled => exact plain announcing

/-- Where a formula begins there is no closing parenthesis. -/
theorem head?_ne_close (opens : Opens tokens) : tokens.head? ≠ some (.sign ")") := by
  cases opens <;> simp

/-- No formula begins as what a name before it would be joined with. -/
theorem unlabelled (opens : Opens tokens) : Unlabelled tokens where
  noValue := opens.headKeyword_ne (by decide)
  noPoint := by cases opens <;> simp
  noArrow := by cases opens <;> simp

/-- A formula does not begin with the name of an argument. -/
theorem argumentLabel (opens : Opens tokens) :
    Nested.argumentLabel tokens = .error .unexpected := by
  have refused {label : Identifier} {rest : List Token} (unlabelled : Unlabelled rest)
      (read : identifier tokens = .ok (label, rest)) :
      Nested.argumentLabel tokens = .error .unexpected := by
    unfold Nested.argumentLabel
    simp only [bind_apply, read, takesKeyword_of_ne unlabelled.noValue, Bool.false_eq_true,
      if_false, expectSign_of_ne unlabelled.noArrow]
  cases opens with
  | number digits rest => rfl
  | minus rest => rfl
  | parenthesis rest => rfl
  | text value unlabelled => exact refused unlabelled rfl
  | word identifier plain unlabelled => exact refused unlabelled rfl

/-- A formula does not begin with a star. -/
theorem star? (opens : Opens tokens) : Nested.star? tokens = .ok (none, tokens) := by
  have alone {parts : List Identifier} {rest : List Token} (unlabelled : Unlabelled rest) :
      Nested.starAfter parts rest = .ok none := by
    have noPoint := unlabelled.noPoint
    unfold Nested.starAfter
    split <;> simp_all
  cases opens with
  | number digits rest => rfl
  | minus rest => rfl
  | parenthesis rest => rfl
  | text value unlabelled =>
    simp only [Nested.star?, alone unlabelled]
    rfl
  | word identifier plain unlabelled =>
    simp only [Nested.star?, alone unlabelled]
    rfl

end Opens

/-- A plain name is no reserved word. -/
theorem PlainName.keyword_not_mem (name : PlainName) : keywordOf name.letters ∉ reservedWords := by
  obtain ⟨letters, plain⟩ := name
  cases letters with
  | nil => simp [isPlainName] at plain
  | cons first more =>
    simp only [isPlainName, Bool.and_eq_true, Bool.not_eq_true', List.contains_eq_mem,
      decide_eq_false_iff_not] at plain
    exact plain.1.2

/-- The tokens of a formula begin as those of formulas do. -/
theorem Formula.opens_tokens (formula : Formula) {rest : List Token} (follows : Follows rest) :
    Opens (formula.tokens ++ rest) := by
  have announcing : ∀ keyword ∈ announcingWords, keyword ∈ reservedWords := by decide
  have plain (name : PlainName) : keywordOf name.letters ∉ announcingWords :=
    fun member => name.keyword_not_mem (announcing _ member)
  induction formula using induction_on_parts generalizing rest with
  | number digits => exact .number _ rest
  | literal value => exact .text _ follows.unlabelled
  | column name => exact .word _ (plain name) follows.unlabelled
  | call function arguments inductionHypothesis =>
    exact .word _ (plain function) (Opens.parenthesis _).unlabelled
  | group inner inductionHypothesis => exact .parenthesis _
  | negate operand inductionHypothesis => exact .minus _
  | not operand inductionHypothesis =>
    exact .word _ (by decide) (inductionHypothesis follows).unlabelled
  | binary operator left right before after =>
    rw [tokens, List.append_assoc]
    exact before (follows_infixToken operator _)

namespace Nested

variable {inner : Nested} {fuel : Nat} {rest : List Token}

/-! ## First parts -/

/-- What is no literal of a known type is left for another reading. -/
theorem attempt_typedLiteral {tokens : List Token}
    (unknown : DataType.shapes.lookup (headKeyword tokens) = none) :
    attempt typedLiteral tokens = .ok (none, tokens) := by
  refine attempt_of_unexpected ?_
  unfold typedLiteral
  rcases DataType.read_of_unknown unknown with refused | ⟨type, others, read, notKnown⟩
  · simp only [bind_apply, refused]
  · simp only [bind_apply, read, notKnown, Bool.false_eq_true, if_false, refuse_apply]

/-- A number is read as it is. -/
theorem prefixed_number (digits : String) :
    prefixed inner (fuel + 1) (.number digits :: rest) = .ok (.text digits, rest) := by
  have untyped : attempt typedLiteral (.number digits :: rest) =
      .ok (none, .number digits :: rest) := attempt_typedLiteral rfl
  rw [prefixed]
  simp only [bind_apply, untyped, peek_apply]
  rfl

/-- A text is read between quotes. -/
theorem prefixed_text (value : String) :
    prefixed inner (fuel + 1) (.text value :: rest) = .ok (.text (quoted '\'' value), rest) := by
  have untyped : attempt typedLiteral (.text value :: rest) =
      .ok (none, .text value :: rest) := attempt_typedLiteral rfl
  rw [prefixed]
  simp only [bind_apply, untyped, peek_apply]
  rfl

/-- A parenthesis is read with what it encloses. -/
theorem prefixed_parenthesis : prefixed inner (fuel + 1) (.sign "(" :: rest) =
    inner.parentheses (.sign "(" :: rest) := by
  have untyped : attempt typedLiteral (.sign "(" :: rest) =
      .ok (none, .sign "(" :: rest) := attempt_typedLiteral rfl
  rw [prefixed]
  simp only [bind_apply, untyped, peek_apply]
  rfl

/-- A minus sign is read with the operand after it. -/
theorem prefixed_minus {operand : Phrase} {left : List Token}
    (read : inner.expression 40 rest = .ok (operand, left)) :
    prefixed inner (fuel + 1) (.sign "-" :: rest) =
      .ok (.sequence [.text "-", operand], left) := by
  have untyped : attempt typedLiteral (.sign "-" :: rest) =
      .ok (none, .sign "-" :: rest) := attempt_typedLiteral rfl
  rw [prefixed]
  simp only [bind_apply, untyped, peek_apply, List.head?_cons, next_cons, read]
  rfl

/-- A word that starts nothing of its own is left for a name. -/
theorem special_of_not_mem (identifier : Identifier) {keyword : String}
    (plain : keyword ∉ reservedWords) :
    special inner identifier keyword (fuel + 1) rest = .ok (none, rest) := by
  rw [special.eq_def]
  simp only
  split
  case h_14 =>
    have notPresent : presentWords.contains keyword = false := by
      simp only [List.contains_eq_mem, decide_eq_false_iff_not]
      exact fun member => plain (by simp [reservedWords, member])
    simp only [notPresent, Bool.false_eq_true, if_false]
    rfl
  all_goals exact absurd (by decide) plain

/-- A plain word is read as a name or a call. -/
theorem prefixed_name (identifier : Identifier) {keyword : String}
    (plain : keyword ∉ reservedWords) :
    prefixed inner (fuel + 2) (.word identifier keyword :: rest) =
      inner.named identifier rest := by
  have noType : DataType.shapes.lookup keyword = none := by
    rw [List.lookup_eq_none_iff]
    intro entry member
    rw [bne_iff_ne]
    rintro rfl
    exact plain (by simp only [reservedWords, List.mem_append]
                    exact .inr (List.mem_map_of_mem member))
  have untyped : attempt typedLiteral (.word identifier keyword :: rest) =
      .ok (none, .word identifier keyword :: rest) := attempt_typedLiteral noType
  rw [prefixed]
  simp only [bind_apply, untyped, peek_apply, List.head?_cons, next_cons, get_apply,
    special_of_not_mem identifier plain]

/-- A negation is read with the operand after it. -/
theorem prefixed_not {operand : Phrase} {left : List Token}
    (read : inner.expression 15 rest = .ok (operand, left))
    (noExists : headKeyword rest ≠ "EXISTS") :
    prefixed inner (fuel + 2) (Token.ofName "NOT".toList :: rest) =
      .ok (.sequence [.text "NOT ", operand], left) := by
  have noType : DataType.shapes.lookup "NOT" = none := by decide
  have untyped : attempt typedLiteral (.word ⟨"NOT", none⟩ "NOT" :: rest) =
      .ok (none, .word ⟨"NOT", none⟩ "NOT" :: rest) := attempt_typedLiteral noType
  have negated : special inner ⟨"NOT", none⟩ "NOT" (fuel + 1) rest =
      .ok (some (.sequence [.text "NOT ", operand]), left) := by
    rw [special]
    unfold negation
    simp only [bind_apply, takesKeyword_of_ne noExists, read, Bool.false_eq_true, if_false]
    rfl
  have word : Token.ofName "NOT".toList = .word ⟨"NOT", none⟩ "NOT" := by decide
  rw [word, prefixed]
  simp only [bind_apply, untyped, peek_apply, List.head?_cons, next_cons, get_apply, negated]
  rfl

/-- A name that nothing follows which belongs to it is read as a name. -/
theorem named_of_follows (identifier : Identifier) (follows : Follows rest) :
    inner.named identifier rest = .ok (.name [identifier], rest) := by
  unfold named
  simp only [bind_apply, peek_apply]
  match rest with
  | [] => rfl
  | .word _ _ :: _ => rfl
  | .number _ :: _ => rfl
  | .text value :: _ => exact absurd rfl (follows.head?_ne (rfl : isFollower (.text value) = false))
  | .nationalText _ :: _ => rfl
  | .hexadecimal digits :: _ =>
    exact absurd rfl (follows.head?_ne (rfl : isFollower (.hexadecimal digits) = false))
  | .placeholder _ :: _ => rfl
  | .sign mark :: _ =>
    have other : mark ≠ "(" := by
      rintro rfl
      exact absurd rfl (follows.head?_ne (by decide : isFollower (.sign "(") = false))
    simp [other, pure_apply]

/-- A name before a parenthesis is that of a function. -/
theorem named_parenthesis (identifier : Identifier) :
    inner.named identifier (.sign "(" :: rest) = inner.call [identifier] (.sign "(" :: rest) := by
  unfold named
  simp only [bind_apply, peek_apply]
  rfl

/-! ## Parts between parentheses -/

/-- Where no quantifier is next, none is read. -/
theorem quantifier_of_opens {tokens : List Token} (opens : Opens tokens) :
    quantifier tokens = .ok (none, tokens) := by
  have noAll := takesKeyword_of_ne (opens.headKeyword_ne (by decide : "ALL" ∈ _))
  have noDistinct := takesKeyword_of_ne (opens.headKeyword_ne (by decide : "DISTINCT" ∈ _))
  unfold quantifier
  simp only [bind_apply, noAll, noDistinct]
  rfl

/-- An expression is read as an argument without a name. -/
theorem argument_of_opens {tokens : List Token} {phrase : Phrase} (opens : Opens tokens)
    (read : inner.anyExpression tokens = .ok (phrase, rest)) :
    inner.argument tokens = .ok (phrase, rest) := by
  have unlabelled : attempt (do
      let label ← argumentLabel
      return Phrase.sequence (label ++ [← inner.starOrExpression])) tokens =
      .ok (none, tokens) :=
    attempt_of_unexpected (by simp only [bind_apply, opens.argumentLabel])
  unfold argument
  simp only [bind_apply, unlabelled]
  unfold starOrExpression
  simp only [bind_apply, opens.star?, read]

/-- Without an ordering, a limit or another argument, the arguments of a call end. -/
theorem arguments_of_read {tokens : List Token} {phrases : List Phrase} (opens : Opens tokens)
    (read : commaSeparated inner.argument tokens = .ok (phrases, .sign ")" :: rest)) :
    inner.arguments (.sign "(" :: tokens) = .ok ((none, phrases, []), rest) := by
  have noOrdering : takesKeywords ["ORDER", "BY"] (.sign ")" :: rest) =
      .ok (false, .sign ")" :: rest) := rfl
  have noLimit : takesKeyword "LIMIT" (.sign ")" :: rest) = .ok (false, .sign ")" :: rest) := rfl
  unfold arguments
  simp only [bind_apply, expectSign_cons, takesSign_of_ne opens.head?_ne_close,
    Bool.false_eq_true, if_false, quantifier_of_opens opens, read, ordering, noOrdering, clause,
    noLimit, pure_apply]
  rfl

/-- What follows a formula modifies no call. -/
theorem modifiers_of_follows (follows : Follows rest) :
    inner.modifiers rest = .ok ([], rest) := by
  have noFilter := takesKeyword_of_ne (follows.headKeyword_ne (by decide : "FILTER" ∉ _))
  have noWindow := takesKeyword_of_ne (follows.headKeyword_ne (by decide : "OVER" ∉ _))
  have noTreatment : takesOneOf ["RESPECT", "IGNORE"] rest = .ok (none, rest) := by
    refine takesOneOf_of_not_mem ?_
    have noRespect := follows.headKeyword_ne (by decide : "RESPECT" ∉ _)
    have noIgnore := follows.headKeyword_ne (by decide : "IGNORE" ∉ _)
    simp [noRespect, noIgnore]
  unfold modifiers
  simp only [bind_apply, noFilter, Bool.false_eq_true, if_false, pure_apply, noTreatment, noWindow]
  rfl

/-- What follows the last of some formulas, or a comma before the next one, follows the
one before them, and no operator does. -/
theorem follows_tokensAfter (formulas : List Formula) (follows : Follows rest)
    (noOperator : nextLevel rest = 0) :
    Follows (Formula.tokensAfter formulas ++ rest) ∧
      nextLevel (Formula.tokensAfter formulas ++ rest) = 0 := by
  cases formulas with
  | nil => exact ⟨follows, noOperator⟩
  | cons formula others => exact ⟨follows_cons _ (by decide), rfl⟩

/-- Formulas with a comma before each are read one after another, up to what is no
comma. -/
theorem itemsWhile_tokensAfter {item : Reader Phrase} {formulas : List Formula}
    (reads : ∀ formula ∈ formulas, ∀ rest, Follows rest → nextLevel rest = 0 →
      item (formula.tokens ++ rest) = .ok (formula.phrase, rest))
    (follows : Follows rest) (noOperator : nextLevel rest = 0)
    (noComma : rest.head? ≠ some (.sign ",")) (fuel : Nat) (enough : formulas.length < fuel) :
    itemsWhile (takesSign ",") item fuel (Formula.tokensAfter formulas ++ rest) =
      .ok (Formula.phrases formulas, rest) := by
  induction formulas generalizing fuel with
  | nil =>
    obtain ⟨fuel, rfl⟩ := Nat.exists_eq_succ_of_ne_zero (Nat.ne_of_gt enough)
    unfold itemsWhile
    simp only [Formula.tokensAfter, List.nil_append, bind_apply, takesSign_of_ne noComma]
    rfl
  | cons formula others inductionHypothesis =>
    obtain ⟨fuel, rfl⟩ := Nat.exists_eq_succ_of_ne_zero (Nat.ne_of_gt (Nat.zero_lt_of_lt enough))
    have left := inductionHypothesis (fun formula member =>
      reads formula (List.mem_cons_of_mem _ member)) fuel (by simpa using enough)
    obtain ⟨followed, stops⟩ := follows_tokensAfter others follows noOperator
    have first := reads formula List.mem_cons_self _ followed stops
    unfold itemsWhile
    simp only [Formula.tokensAfter, List.cons_append, List.append_assoc, bind_apply,
      takesSign_cons, if_true, first, left]
    rfl

/-- There are as many commas as formulas with a comma before each. -/
theorem length_le_tokensAfter (formulas : List Formula) :
    formulas.length ≤ (Formula.tokensAfter formulas).length := by
  induction formulas with
  | nil => exact Nat.le_refl _
  | cons formula others inductionHypothesis =>
    simp only [Formula.tokensAfter, List.length_cons, List.length_append]
    omega

/-- Formulas with commas between them are read one after another, up to what is no
comma. -/
theorem commaSeparated_tokens {item : Reader Phrase} {first : Formula} {others : List Formula}
    (reads : ∀ formula ∈ first :: others, ∀ rest, Follows rest → nextLevel rest = 0 →
      item (formula.tokens ++ rest) = .ok (formula.phrase, rest))
    (follows : Follows rest) (noOperator : nextLevel rest = 0)
    (noComma : rest.head? ≠ some (.sign ",")) :
    commaSeparated item (Formula.tokensBetween (first :: others) ++ rest) =
      .ok (Formula.phrases (first :: others), rest) := by
  obtain ⟨followed, stops⟩ := follows_tokensAfter others follows noOperator
  have read := reads first List.mem_cons_self _ followed stops
  have length : others.length < (Formula.tokensAfter others ++ rest).length + 1 := by
    have atLeast := length_le_tokensAfter others
    simp only [List.length_append]
    omega
  have left := itemsWhile_tokensAfter (fun formula member =>
    reads formula (List.mem_cons_of_mem _ member)) follows noOperator noComma _ length
  unfold commaSeparated many
  simp only [Formula.tokensBetween, List.append_assoc, bind_apply, read, get_apply, left]
  rfl

/-! ## Operators -/

/-- The level of an operator between operands is the one that is seen before it. -/
theorem nextLevel_infixToken (operator : Infix) (rest : List Token) :
    nextLevel (operator.token :: rest) = operator.level := by
  have signs : ∀ entry ∈ operators, nextLevel [.sign entry.1] = entry.2.1 := by decide
  cases operator with
  | sign mark level known => exact signs _ known
  | word keyword level known =>
    simp only [wordInfixes, List.mem_cons, Prod.mk.injEq, List.not_mem_nil, or_false] at known
    rcases known with ⟨rfl, rfl⟩ | ⟨rfl, rfl⟩ | ⟨rfl, rfl⟩ | ⟨rfl, rfl⟩ <;> rfl

/-- An operator is read with the operand after it. -/
theorem operation_infixToken {operator : Infix} {tokens : List Token} {operand : Phrase}
    (opens : Opens tokens)
    (read : inner.expression operator.level tokens = .ok (operand, rest)) :
    inner.operation operator.level (operator.token :: tokens) =
      .ok ([.text (" " ++ operator.written ++ " "), operand], rest) := by
  have noQuantifier : ["ANY", "ALL", "SOME"].contains (headKeyword tokens) = false := by
    have noAny := opens.headKeyword_ne (by decide : "ANY" ∈ _)
    have noAll := opens.headKeyword_ne (by decide : "ALL" ∈ _)
    have noSome := opens.headKeyword_ne (by decide : "SOME" ∈ _)
    simp [noAny, noAll, noSome]
  have after : inner.operandAfter operator.written operator.level tokens =
      .ok ([.text (" " ++ operator.written ++ " "), operand], rest) := by
    unfold operandAfter
    simp only [bind_apply, peekKeyword_apply, noQuantifier, Bool.false_eq_true, if_false, read]
    rfl
  unfold operation
  cases operator with
  | sign mark level known =>
    have noRegexp : takesKeyword "REGEXP" (.sign mark :: tokens) =
        .ok (false, .sign mark :: tokens) := rfl
    have found : ∀ entry ∈ operators, entry.1 ≠ "::" ∧
        (entry.2.2 = entry.1 → operators.lookup entry.1 = some entry.2) := by decide
    obtain ⟨noCast, lookup⟩ := found _ known
    have lookup := lookup rfl
    simp only [Infix.token, bind_apply, noRegexp, Bool.false_eq_true, if_false, peek_apply,
      List.head?_cons, next_cons]
    simp only [noCast, if_false, lookup]
    exact after
  | word keyword level known =>
    have noRegexp : ∀ entry ∈ wordInfixes, entry.1 ≠ "REGEXP" ∧
        ["AND", "OR", "XOR", "OVERLAPS"].contains entry.1 = true := by decide
    obtain ⟨noRegexp, joins⟩ := noRegexp _ known
    have noRegexp : takesKeyword "REGEXP" (.word ⟨keyword, none⟩ keyword :: tokens) =
        .ok (false, .word ⟨keyword, none⟩ keyword :: tokens) := takesKeyword_of_ne noRegexp
    simp only [Infix.token, bind_apply, noRegexp, Bool.false_eq_true, if_false, peek_apply,
      List.head?_cons, joins, if_true, next_cons]
    exact after

/-- Operators that do not bind tighter are left. -/
theorem operatorsAbove_of_le {level : Nat} (left : Phrase) (le : nextLevel rest ≤ level)
    (enough : 0 < fuel) : inner.operatorsAbove level fuel left rest = .ok (left, rest) := by
  obtain ⟨fuel, rfl⟩ := Nat.exists_eq_succ_of_ne_zero (Nat.ne_of_gt enough)
  unfold operatorsAbove
  simp only [bind_apply, get_apply, le, if_true]
  rfl

/-- An operator that binds tighter is taken with its right operand. -/
theorem operatorsAbove_infixToken {level : Nat} {operator : Infix} {tokens : List Token}
    {operand : Phrase} (left : Phrase) (opens : Opens tokens) (lt : level < operator.level)
    (read : inner.expression operator.level tokens = .ok (operand, rest)) :
    inner.operatorsAbove level (fuel + 1) left (operator.token :: tokens) =
      inner.operatorsAbove level fuel
        (.sequence [left, .text (" " ++ operator.written ++ " "), operand]) rest := by
  have notLe : ¬operator.level ≤ level := by omega
  rw [operatorsAbove]
  simp only [bind_apply, get_apply, nextLevel_infixToken, notLe, if_false,
    operation_infixToken opens read]

/-- What is left of some tokens is read with less than what they are read with. -/
theorem length_lt_fuel (tokens rest : List Token) : rest.length < (tokens ++ rest).length + 1 := by
  rw [List.length_append]
  omega

/-- After its first part, an expression goes on with operators. -/
theorem expressionAbove_of_prefixed {tokens : List Token} {phrase : Phrase} (level : Nat)
    (follows : Follows rest)
    (read : inner.prefixed (tokens.length + 1) tokens = .ok (phrase, rest)) :
    inner.expressionAbove true level tokens =
      inner.operatorsAbove level (tokens.length + 1) phrase rest := by
  have noCollation : collation true phrase rest = .ok (phrase, rest) := by
    have noRule := takesKeyword_of_ne (follows.headKeyword_ne (by decide : "COLLATE" ∉ _))
    unfold collation
    simp only [if_true, bind_apply, noRule, Bool.false_eq_true, if_false]
    rfl
  have noMember : inner.members (tokens.length + 1) phrase rest = .ok (phrase, rest) := by
    have noPoint := follows.head?_ne (by decide : isFollower (.sign ".") = false)
    unfold members
    simp only [bind_apply, get_apply]
    split
    · simp at noPoint
    · simp at noPoint
    · simp at noPoint
    · rfl
  unfold expressionAbove
  simp only [bind_apply, get_apply, read, noCollation, noMember]

/-! ## Formulas -/

/-- Where an expression that has been read may end, the reader of a level above gives it. -/
theorem expression_of_read {depth level : Nat} {tokens : List Token} {phrase : Phrase}
    (read : ∃ fuel, rest.length < fuel ∧
      (nested true depth).expressionAbove true level tokens =
        (nested true depth).operatorsAbove level fuel phrase rest)
    (stops : nextLevel rest ≤ level) :
    (nested true (depth + 1)).expression level tokens = .ok (phrase, rest) := by
  obtain ⟨fuel, enough, read⟩ := read
  change (nested true depth).expressionAbove true level tokens = _
  rw [read, operatorsAbove_of_le phrase stops (Nat.zero_lt_of_lt enough)]

/-- Formulas between parentheses are read as the arguments of a call. -/
theorem arguments_of_reads {arguments : List Formula}
    (reads : ∀ argument ∈ arguments, ∀ rest, Follows rest → nextLevel rest = 0 →
      inner.anyExpression (argument.tokens ++ rest) = .ok (argument.phrase, rest)) :
    inner.arguments (.sign "(" :: (Formula.tokensBetween arguments ++ .sign ")" :: rest)) =
      .ok ((none, Formula.phrases arguments, []), rest) := by
  have closes : Follows (.sign ")" :: rest) := follows_cons _ (by decide)
  cases arguments with
  | nil => rfl
  | cons first others =>
    have opens : Opens (Formula.tokensBetween (first :: others) ++ .sign ")" :: rest) := by
      obtain ⟨followed, _⟩ := follows_tokensAfter others closes rfl
      rw [Formula.tokensBetween, List.append_assoc]
      exact first.opens_tokens followed
    refine arguments_of_read opens (commaSeparated_tokens ?_ closes rfl (by simp))
    intro argument member rest follows noOperator
    exact argument_of_opens (argument.opens_tokens follows)
      (reads argument member rest follows noOperator)

/-- A name with arguments between parentheses is read as a call. -/
theorem prefixed_call {function : PlainName} {arguments : List Formula}
    (reads : ∀ argument ∈ arguments, ∀ rest, Follows rest → nextLevel rest = 0 →
      inner.anyExpression (argument.tokens ++ rest) = .ok (argument.phrase, rest))
    (follows : Follows rest) :
    inner.prefixed (fuel + 2) ((Formula.call function arguments).tokens ++ rest) =
      .ok ((Formula.call function arguments).phrase, rest) := by
  have called : inner.call [function.identifier]
      (.sign "(" :: (Formula.tokensBetween arguments ++ .sign ")" :: rest)) =
        .ok ((Formula.call function arguments).phrase, rest) := by
    unfold call
    simp only [bind_apply, arguments_of_reads reads, modifiers_of_follows follows]
    rfl
  simp only [Formula.tokens, List.cons_append, List.append_assoc, List.nil_append]
  exact (prefixed_name _ function.keyword_not_mem).trans ((named_parenthesis _).trans called)

/-- A formula between parentheses is read as a group: it begins no query, and no comma is behind
it. -/
theorem prefixed_group {formula : Formula}
    (read : inner.anyExpression (formula.tokens ++ .sign ")" :: rest) =
      .ok (formula.phrase, .sign ")" :: rest)) :
    inner.prefixed (fuel + 1) ((Formula.group formula).tokens ++ rest) =
      .ok ((Formula.group formula).phrase, rest) := by
  have closes : Follows (.sign ")" :: rest) := follows_cons _ (by decide)
  have noQuery : startsQuery (formula.tokens ++ .sign ")" :: rest) =
      .ok (false, formula.tokens ++ .sign ")" :: rest) := by
    have opens := formula.opens_tokens closes
    have noSelect := opens.headKeyword_ne (by decide : "SELECT" ∈ _)
    have noWith := opens.headKeyword_ne (by decide : "WITH" ∈ _)
    unfold startsQuery
    simp [bind_apply, peekKeyword_apply, noSelect, noWith, pure_apply]
  have single : commaSeparated inner.anyExpression (formula.tokens ++ .sign ")" :: rest) =
      .ok ([formula.phrase], .sign ")" :: rest) := by
    unfold commaSeparated
    simp only [bind_apply, read]
    rfl
  have parted : inner.parentheses (.sign "(" :: (formula.tokens ++ .sign ")" :: rest)) =
      .ok ((Formula.group formula).phrase, rest) := by
    unfold parentheses inParentheses
    simp only [bind_apply, expectSign_cons, noQuery, Bool.false_eq_true, if_false, single,
      pure_apply]
    rfl
  simp only [Formula.tokens, List.cons_append, List.append_assoc, List.nil_append]
  exact prefixed_parenthesis.trans parted

/-- The reader of a place where a formula fits takes the tokens of the formula and then
goes on with operators. -/
theorem expressionAbove_tokens (formula : Formula) {depth level : Nat} {rest : List Token}
    (fits : formula.fits level = true) (shallow : formula.depth ≤ depth) (follows : Follows rest)
    (stops : nextLevel rest ≤ formula.reach) :
    ∃ fuel, rest.length < fuel ∧
      (nested true depth).expressionAbove true level (formula.tokens ++ rest) =
        (nested true depth).operatorsAbove level fuel formula.phrase rest := by
  induction formula using Formula.induction_on_parts generalizing depth level rest with
  | number digits =>
    exact ⟨_, length_lt_fuel _ _, expressionAbove_of_prefixed level follows (prefixed_number _)⟩
  | literal value =>
    exact ⟨_, length_lt_fuel _ _, expressionAbove_of_prefixed level follows (prefixed_text _)⟩
  | column name =>
    refine ⟨_, length_lt_fuel _ _, expressionAbove_of_prefixed level follows ?_⟩
    exact (prefixed_name _ name.keyword_not_mem).trans (named_of_follows _ follows)
  | call function arguments inductionHypothesis =>
    obtain ⟨depth, rfl⟩ := Nat.exists_eq_add_of_le' (Nat.le_trans (Nat.le_add_left 1 _) shallow)
    refine ⟨_, length_lt_fuel _ _,
      expressionAbove_of_prefixed level follows (prefixed_call ?_ follows)⟩
    intro argument member rest follows noOperator
    have inside := inductionHypothesis argument member (Formula.fits_of_mem fits member)
      (Nat.le_trans (Formula.depth_le_depthAll member) (Nat.le_of_succ_le_succ shallow))
      follows (by omega)
    exact expression_of_read inside (Nat.le_of_eq noOperator)
  | group inner inductionHypothesis =>
    obtain ⟨depth, rfl⟩ := Nat.exists_eq_add_of_le' (Nat.le_trans (Nat.le_add_left 1 _) shallow)
    have closes : Follows (.sign ")" :: rest) := follows_cons _ (by decide)
    have inside := expression_of_read (inductionHypothesis fits (Nat.le_of_succ_le_succ shallow)
      closes (Nat.zero_le _)) (Nat.le_refl 0)
    exact ⟨_, length_lt_fuel _ _,
      expressionAbove_of_prefixed level follows (prefixed_group inside)⟩
  | negate operand inductionHypothesis =>
    obtain ⟨depth, rfl⟩ := Nat.exists_eq_add_of_le' (Nat.le_trans (Nat.le_add_left 1 _) shallow)
    simp only [Formula.reach, Nat.le_min] at stops
    have inside := expression_of_read (inductionHypothesis fits (Nat.le_of_succ_le_succ shallow)
      follows stops.2) stops.1
    exact ⟨_, length_lt_fuel _ _, expressionAbove_of_prefixed level follows (prefixed_minus inside)⟩
  | not operand inductionHypothesis =>
    obtain ⟨depth, rfl⟩ := Nat.exists_eq_add_of_le' (Nat.le_trans (Nat.le_add_left 1 _) shallow)
    simp only [Formula.reach, Nat.le_min] at stops
    have inside := expression_of_read (inductionHypothesis fits (Nat.le_of_succ_le_succ shallow)
      follows stops.2) stops.1
    have noExists := (operand.opens_tokens follows).headKeyword_ne (by decide : "EXISTS" ∈ _)
    exact ⟨_, length_lt_fuel _ _,
      expressionAbove_of_prefixed level follows (prefixed_not inside noExists)⟩
  | binary operator left right before after =>
    simp only [Formula.fits, Bool.and_eq_true, decide_eq_true_eq] at fits
    simp only [Formula.reach, Nat.le_min] at stops
    simp only [Formula.depth, Nat.max_le] at shallow
    obtain ⟨depth, rfl⟩ := Nat.exists_eq_add_of_le' (Nat.le_trans (Nat.le_add_left 1 _) shallow.2)
    have follower := follows_infixToken operator (right.tokens ++ rest)
    obtain ⟨fuel, enough, read⟩ := before fits.1.1.2 shallow.1 follower
      (by rw [nextLevel_infixToken]; exact fits.1.2)
    obtain ⟨fuel, rfl⟩ := Nat.exists_eq_succ_of_ne_zero (Nat.ne_of_gt (Nat.zero_lt_of_lt enough))
    have operand := expression_of_read (after fits.2 (Nat.le_of_succ_le_succ shallow.2) follows
      stops.2) stops.1
    refine ⟨fuel, ?_, ?_⟩
    · simp only [List.length_cons, List.length_append] at enough
      omega
    · rw [Formula.tokens, List.append_assoc, List.cons_append, read,
        operatorsAbove_infixToken _ (right.opens_tokens follows) fits.1.1.1 operand]
      rfl

/-- A formula that fits is read as itself. -/
theorem anyExpression_tokens {formula : Formula} {depth : Nat} (fits : formula.fits 0 = true)
    (shallow : formula.depth ≤ depth) (follows : Follows rest) (noOperator : nextLevel rest = 0) :
    (nested true (depth + 1)).anyExpression (formula.tokens ++ rest) =
      .ok (formula.phrase, rest) :=
  expression_of_read (expressionAbove_tokens formula fits shallow follows (by omega))
    (Nat.le_of_eq noOperator)

end Nested

end DialectBridge.Statement
