import DialectBridge.Proofs.Statement.Formula

/-!
# Trees without parentheses

Parentheses around one expression say nothing that the tree does not say: two statements
mean the same if their trees are the same but for them. A text fixes its parentheses,
though, so that of the formulas with the same tokens no two have the same bare tree. What
comes before an operator in one of them cannot be told apart from what does in the other:
it holds as many words and signs, and as many parentheses are opened in it as are closed.
-/

namespace DialectBridge.Statement

namespace Phrase

/-- A phrase of parts, without the parentheses around a single phrase. -/
def unparenthesized : List Phrase → Phrase
  | [text "(", sequence [inner], text ")"] => inner
  | parts => sequence parts

mutual

/-- A phrase without the parentheses around single expressions. -/
def bare : Phrase → Phrase
  | text words => text words
  | name parts => name parts
  | call function quantifier arguments ordering modifiers =>
    call function quantifier (bareAll arguments) (bareAll ordering) (bareAll modifiers)
  | substring subject start length => substring subject.bare (bareAll start) (bareAll length)
  | sequence parts => unparenthesized (bareAll parts)

/-- Phrases without the parentheses around single expressions. -/
def bareAll : List Phrase → List Phrase
  | [] => []
  | phrase :: rest => phrase.bare :: bareAll rest

end

mutual

/-- How many words and signs other than parentheses a phrase of a formula has. -/
def leaves : Phrase → Nat
  | text _ => 1
  | name _ => 1
  | call _ _ arguments _ _ => leavesBetween arguments + 1
  | substring subject start length => subject.leaves + leavesAll start + leavesAll length
  | sequence parts => leavesAll parts

/-- How many words and signs phrases have. -/
def leavesAll : List Phrase → Nat
  | [] => 0
  | phrase :: rest => phrase.leaves + leavesAll rest

/-- How many words and signs phrases have, with the commas between them. -/
def leavesBetween : List Phrase → Nat
  | [] => 0
  | phrase :: rest => phrase.leaves + leavesAfter rest

/-- How many words and signs phrases have, with a comma before each. -/
def leavesAfter : List Phrase → Nat
  | [] => 0
  | phrase :: rest => phrase.leaves + leavesAfter rest + 1

end

end Phrase

namespace Phrase

/-- Bare phrases, one by one. -/
theorem bareAll_eq_map (phrases : List Phrase) : bareAll phrases = phrases.map bare := by
  induction phrases with
  | nil => rfl
  | cons phrase rest inductionHypothesis => rw [bareAll, inductionHypothesis, List.map_cons]

/-- Parts whose second is a text have no parentheses to drop. -/
theorem unparenthesized_text (first : Phrase) (words : String) (rest : List Phrase) :
    unparenthesized (first :: text words :: rest) = sequence (first :: text words :: rest) := by
  unfold unparenthesized
  split
  · next same => simp at same
  · rfl

/-- Parts that do not begin with a parenthesis have none to drop. -/
theorem unparenthesized_of_ne {words : String} (other : words ≠ "(") (rest : List Phrase) :
    unparenthesized (text words :: rest) = sequence (text words :: rest) := by
  unfold unparenthesized
  split
  · next same =>
    simp only [List.cons.injEq, text.injEq] at same
    exact absurd same.1 other
  · rfl

/-- One or two parts have no parentheses to drop. -/
theorem unparenthesized_of_length {parts : List Phrase} (short : parts.length < 3) :
    unparenthesized parts = sequence parts := by
  unfold unparenthesized
  split
  · simp at short
  · rfl

end Phrase

namespace Formula

/-- The bare tree of a number. -/
@[simp]
theorem bare_number (digits : Digits) :
    (number digits).phrase.bare = .text (String.ofList digits.digits) := rfl

/-- The bare tree of a literal. -/
@[simp]
theorem bare_literal (value : PlainText) :
    (literal value).phrase.bare = .text (quoted '\'' (String.ofList value.letters)) := rfl

/-- The bare tree of a column. -/
@[simp]
theorem bare_column (name : PlainName) :
    (column name).phrase.bare = .name [name.identifier] := rfl

/-- The bare tree of a call. -/
@[simp]
theorem bare_call (function : PlainName) (arguments : List Formula) :
    (call function arguments).phrase.bare =
      .call [function.identifier] none (Phrase.bareAll (phrases arguments)) [] [] := rfl

/-- A formula in parentheses has the bare tree of the formula. -/
@[simp]
theorem bare_group (inner : Formula) : (group inner).phrase.bare = inner.phrase.bare := by
  simp only [phrase, Phrase.parenthesized, Phrase.list, Phrase.separated, List.intersperse,
    Phrase.bare, Phrase.bareAll, Phrase.unparenthesized_of_length (by simp : [_].length < 3)]
  rfl

/-- The bare tree of a negation. -/
@[simp]
theorem bare_negate (operand : Formula) :
    (negate operand).phrase.bare = .sequence [.text "-", operand.phrase.bare] :=
  Phrase.unparenthesized_of_length (by simp [Phrase.bareAll])

/-- The bare tree of a logical negation. -/
@[simp]
theorem bare_not (operand : Formula) :
    (not operand).phrase.bare = .sequence [.text "NOT ", operand.phrase.bare] :=
  Phrase.unparenthesized_of_length (by simp [Phrase.bareAll])

/-- The bare tree of an operator with its operands. -/
@[simp]
theorem bare_binary (operator : Infix) (left right : Formula) :
    (binary operator left right).phrase.bare =
      .sequence [left.phrase.bare, .text (" " ++ operator.written ++ " "), right.phrase.bare] :=
  Phrase.unparenthesized_text _ _ _

end Formula

/-- Whether a token is no parenthesis. -/
def isLeaf (token : Token) : Bool := token != .sign "(" && token != .sign ")"

/-- Parentheses are no leaves. -/
theorem isLeaf_parenthesis : isLeaf (.sign "(") = false ∧ isLeaf (.sign ")") = false := by decide

/-- An operator between operands is no parenthesis. -/
theorem isLeaf_infixToken (operator : Infix) : isLeaf operator.token = true := by
  have signs : ∀ entry ∈ Nested.operators, isLeaf (.sign entry.1) = true := by decide
  cases operator with
  | sign mark level known => exact signs _ known
  | word keyword level known => rfl

/-- Operators between operands are told apart by their tokens. -/
theorem Infix.eq_of_token {first second : Infix} (same : first.token = second.token) :
    first = second := by
  have signs : ∀ entry ∈ Nested.operators, entry.2.2 = entry.1 →
      Nested.operators.lookup entry.1 = some entry.2 := by decide
  have words : ∀ entry ∈ wordInfixes, wordInfixes.lookup entry.1 = some entry.2 := by decide
  cases first with
  | sign mark level known =>
    cases second with
    | sign other otherLevel otherKnown =>
      obtain rfl : mark = other := by simpa [token] using same
      have found : Nested.operators.lookup mark = some (level, mark) := signs _ known rfl
      have others : Nested.operators.lookup mark = some (otherLevel, mark) :=
        signs _ otherKnown rfl
      obtain rfl : level = otherLevel := by simpa [found] using others
      rfl
    | word keyword otherLevel otherKnown => simp [token] at same
  | word keyword level known =>
    cases second with
    | sign other otherLevel otherKnown => simp [token] at same
    | word other otherLevel otherKnown =>
      obtain rfl : keyword = other := by simpa [token] using same
      have found : wordInfixes.lookup keyword = some level := words _ known
      have others : wordInfixes.lookup keyword = some otherLevel := words _ otherKnown
      obtain rfl : level = otherLevel := by simpa [found] using others
      rfl

/-- Tokens are told apart from what follows them by how many leaves they hold, if a leaf
follows. -/
theorem append_inj_of_leaves {first second after others : List Token}
    (same : first ++ after = second ++ others)
    (leaves : first.countP isLeaf = second.countP isLeaf)
    (afterLeaf : ∀ token ∈ after.head?, isLeaf token = true)
    (othersLeaf : ∀ token ∈ others.head?, isLeaf token = true) :
    first = second ∧ after = others := by
  have none {between rest : List Token} (leaf : ∀ token ∈ (between ++ rest).head?,
      isLeaf token = true) (count : between.countP isLeaf = 0) : between = [] := by
    cases between with
    | nil => rfl
    | cons token more =>
      have found := leaf token rfl
      simp [found] at count
  rcases List.append_eq_append_iff.mp same with ⟨between, rfl, rfl⟩ | ⟨between, rfl, rfl⟩
  · rw [List.countP_append] at leaves
    obtain rfl := none afterLeaf (by omega)
    simp
  · rw [List.countP_append] at leaves
    obtain rfl := none othersLeaf (by omega)
    simp

namespace Formula

open Phrase (bareAll)

mutual

/-- The bare tree of a formula has the leaves of its text. -/
theorem leaves_bare (formula : Formula) :
    formula.phrase.bare.leaves = formula.tokens.countP isLeaf := by
  cases formula with
  | number digits => rfl
  | literal value => rfl
  | column name => rfl
  | call function arguments =>
    have inside := leavesBetween_bareAll arguments
    have word : isLeaf (Token.ofName function.letters) = true := rfl
    simp [phrase, Phrase.bare, Phrase.leaves, tokens, inside, word, isLeaf_parenthesis]
  | group inner =>
    have inside := leaves_bare inner
    simp [tokens, inside, isLeaf_parenthesis]
  | negate operand =>
    have inside := leaves_bare operand
    have minus : isLeaf (.sign "-") = true := by decide
    simp [Phrase.leaves, Phrase.leavesAll, tokens, inside, minus]
    omega
  | not operand =>
    have inside := leaves_bare operand
    have word : isLeaf (Token.ofName "NOT".toList) = true := rfl
    simp only [bare_not, Phrase.leaves, Phrase.leavesAll, tokens, inside, List.countP_cons, word,
      if_true]
    omega
  | binary operator left right =>
    have before := leaves_bare left
    have after := leaves_bare right
    simp [Phrase.leaves, Phrase.leavesAll, tokens, before, after, isLeaf_infixToken]
    omega

/-- The bare trees of formulas have the leaves of their text with commas between them. -/
theorem leavesBetween_bareAll (formulas : List Formula) :
    Phrase.leavesBetween (bareAll (phrases formulas)) = (tokensBetween formulas).countP isLeaf := by
  cases formulas with
  | nil => rfl
  | cons formula others =>
    have first := leaves_bare formula
    have rest := leavesAfter_bareAll others
    simp [phrases, bareAll, Phrase.leavesBetween, tokensBetween, first, rest]

/-- The bare trees of formulas have the leaves of their text with a comma before each. -/
theorem leavesAfter_bareAll (formulas : List Formula) :
    Phrase.leavesAfter (bareAll (phrases formulas)) = (tokensAfter formulas).countP isLeaf := by
  cases formulas with
  | nil => rfl
  | cons formula others =>
    have first := leaves_bare formula
    have rest := leavesAfter_bareAll others
    have comma : isLeaf (.sign ",") = true := by decide
    simp [phrases, bareAll, Phrase.leavesAfter, tokensAfter, first, rest, comma]

end

mutual

/-- As many parentheses are opened in a formula as are closed. -/
theorem count_parentheses (formula : Formula) :
    formula.tokens.count (.sign "(") = formula.tokens.count (.sign ")") := by
  cases formula with
  | number digits => rfl
  | literal value => rfl
  | column name => rfl
  | call function arguments =>
    have inside := count_parenthesesBetween arguments
    simp [tokens, Token.ofName, inside]
  | group inner =>
    have inside := count_parentheses inner
    simp [tokens, inside]
  | negate operand =>
    have inside := count_parentheses operand
    simp [tokens, inside]
  | not operand =>
    have inside := count_parentheses operand
    simp [tokens, Token.ofName, inside]
  | binary operator left right =>
    have before := count_parentheses left
    have after := count_parentheses right
    have noOpening : operator.token ≠ .sign "(" := by
      intro same
      simpa [same, isLeaf_parenthesis] using isLeaf_infixToken operator
    have noClosing : operator.token ≠ .sign ")" := by
      intro same
      simpa [same, isLeaf_parenthesis] using isLeaf_infixToken operator
    simp [tokens, before, after, noOpening, noClosing]

/-- As many parentheses are opened in formulas with commas between them as are closed. -/
theorem count_parenthesesBetween (formulas : List Formula) :
    (tokensBetween formulas).count (.sign "(") = (tokensBetween formulas).count (.sign ")") := by
  cases formulas with
  | nil => rfl
  | cons formula others =>
    have first := count_parentheses formula
    have rest := count_parenthesesAfter others
    simp [tokensBetween, first, rest]

/-- As many parentheses are opened in formulas with a comma before each as are closed. -/
theorem count_parenthesesAfter (formulas : List Formula) :
    (tokensAfter formulas).count (.sign "(") = (tokensAfter formulas).count (.sign ")") := by
  cases formulas with
  | nil => rfl
  | cons formula others =>
    have first := count_parentheses formula
    have rest := count_parenthesesAfter others
    simp [tokensAfter, first, rest]

end

/-- No formula in parentheses has the tokens and the bare tree of an operator with its
operands: before the operator more parentheses would be opened than closed. -/
theorem tokens_ne_of_bare (inner : Formula) {operator : Infix} {left right : Formula}
    (bare : inner.phrase.bare = (binary operator left right).phrase.bare) (deeper : Nat)
    (after others : List Token) :
    List.replicate (deeper + 1) (.sign "(") ++ (inner.tokens ++ after) ≠
      left.tokens ++ operator.token :: others := by
  induction inner using induction_on_parts generalizing deeper after with
  | group inner inductionHypothesis =>
    have deepest := inductionHypothesis (by simpa using bare) (deeper + 1) (.sign ")" :: after)
    simpa [tokens, List.replicate_succ', List.append_assoc] using deepest
  | binary inside first second =>
    intro same
    have sameLeft : first.phrase.bare = left.phrase.bare := by
      simp only [bare_binary, Phrase.sequence.injEq, List.cons.injEq] at bare
      exact bare.1
    have leaves : (List.replicate (deeper + 1) (Token.sign "(") ++ first.tokens).countP isLeaf =
        left.tokens.countP isLeaf := by
      rw [← leaves_bare left, ← sameLeft, leaves_bare first]
      simp [List.countP_replicate, isLeaf_parenthesis]
    have cut : (List.replicate (deeper + 1) (Token.sign "(") ++ first.tokens) ++
        (inside.token :: (second.tokens ++ after)) = left.tokens ++ operator.token :: others := by
      simpa [tokens] using same
    obtain ⟨opened, _⟩ := append_inj_of_leaves cut leaves
      (by simp [isLeaf_infixToken]) (by simp [isLeaf_infixToken])
    have balanced := count_parentheses left
    rw [← opened, List.count_append, List.count_append, count_parentheses first] at balanced
    simp [List.count_replicate] at balanced
  | number digits => simp at bare
  | literal value => simp at bare
  | column name => simp at bare
  | call function arguments => simp at bare
  | negate operand => simp at bare
  | not operand => simp at bare

/-- Lists with the same tokens and the same bare trees are the same if formulas are told
apart by theirs. -/
theorem eq_of_bareAll {first second : List Formula}
    (told : ∀ formula ∈ first, ∀ other : Formula, formula.phrase.bare = other.phrase.bare →
      formula.tokens = other.tokens → formula = other)
    (bare : bareAll (phrases first) = bareAll (phrases second))
    (same : tokensAfter first = tokensAfter second) : first = second := by
  induction first generalizing second with
  | nil =>
    cases second with
    | nil => rfl
    | cons other others => simp [phrases, bareAll] at bare
  | cons formula rest inductionHypothesis =>
    cases second with
    | nil => simp [phrases, bareAll] at bare
    | cons other others =>
      simp only [phrases, bareAll, List.cons.injEq] at bare
      simp only [tokensAfter, List.cons.injEq, true_and] at same
      have leaves : formula.tokens.countP isLeaf = other.tokens.countP isLeaf := by
        rw [← leaves_bare, ← leaves_bare, bare.1]
      have commaLeaf (formulas : List Formula) :
          ∀ token ∈ (tokensAfter formulas).head?, isLeaf token = true := by
        cases formulas with
        | nil => nofun
        | cons _ _ =>
          rintro _ ⟨⟩
          decide
      obtain ⟨head, tail⟩ := append_inj_of_leaves same leaves (commaLeaf rest) (commaLeaf others)
      obtain rfl := told formula List.mem_cons_self other bare.1 head
      rw [inductionHypothesis (fun formula member => told formula
        (List.mem_cons_of_mem _ member)) bare.2 tail]

/-- Plain names with the same identifier are the same. -/
theorem eq_of_identifier {first second : PlainName}
    (same : first.identifier = second.identifier) : first = second := by
  obtain ⟨letters, plain⟩ := first
  obtain ⟨others, plain⟩ := second
  obtain rfl : letters = others := by
    simpa [PlainName.identifier, String.ofList_inj] using same
  rfl

/-- Formulas with the same tokens and the same bare tree are the same. -/
theorem eq_of_bare (first second : Formula) (bare : first.phrase.bare = second.phrase.bare)
    (same : first.tokens = second.tokens) : first = second := by
  induction first using induction_on_parts generalizing second with
  | number digits =>
    cases second with
    | number other =>
      obtain ⟨digits, digital⟩ := digits
      obtain ⟨others, digital⟩ := other
      obtain rfl : digits = others := by simpa [tokens, String.ofList_inj] using same
      rfl
    | literal value => simp [tokens] at same
    | group inner => simp [tokens] at same
    | _ => simp at bare
  | literal value =>
    cases second with
    | literal other =>
      obtain ⟨letters, quoteless⟩ := value
      obtain ⟨others, quoteless⟩ := other
      obtain rfl : letters = others := by simpa [tokens, String.ofList_inj] using same
      rfl
    | number digits => simp [tokens] at same
    | group inner => simp [tokens] at same
    | _ => simp at bare
  | column name =>
    cases second with
    | column other =>
      have same : name.identifier = other.identifier := by simpa using bare
      rw [eq_of_identifier same]
    | group inner => simp [tokens, Token.ofName] at same
    | _ => simp at bare
  | call function arguments inductionHypothesis =>
    cases second with
    | call other others =>
      simp only [bare_call, Phrase.call.injEq, List.cons.injEq, and_true, true_and] at bare
      simp only [tokens, List.cons.injEq, true_and] at same
      have between := List.append_cancel_right same.2
      have after : tokensAfter arguments = tokensAfter others := by
        cases arguments <;> cases others <;>
          simp_all [phrases, bareAll, tokensBetween, tokensAfter]
      rw [eq_of_identifier bare.1, eq_of_bareAll inductionHypothesis bare.2 after]
    | group inner => simp [tokens, Token.ofName] at same
    | _ => simp at bare
  | group inner inductionHypothesis =>
    cases second with
    | group other =>
      simp only [tokens, List.cons.injEq, true_and] at same
      rw [inductionHypothesis other (by simpa using bare) (List.append_cancel_right same)]
    | binary operator left right =>
      exact (tokens_ne_of_bare inner (by simpa using bare) 0 [.sign ")"] right.tokens same).elim
    | _ => simp [tokens, Token.ofName] at same
  | negate operand inductionHypothesis =>
    cases second with
    | negate other =>
      simp only [tokens, List.cons.injEq, true_and] at same
      rw [inductionHypothesis other (by simpa using bare) same]
    | group inner => simp [tokens] at same
    | _ => simp at bare
  | not operand inductionHypothesis =>
    cases second with
    | not other =>
      simp only [tokens, List.cons.injEq, true_and] at same
      rw [inductionHypothesis other (by simpa using bare) same]
    | group inner => simp [tokens, Token.ofName] at same
    | _ => simp at bare
  | binary operator left right before after =>
    cases second with
    | binary other first second =>
      simp only [bare_binary, Phrase.sequence.injEq, List.cons.injEq, and_true] at bare
      simp only [tokens] at same
      have leaves : left.tokens.countP isLeaf = first.tokens.countP isLeaf := by
        rw [← leaves_bare, ← leaves_bare, bare.1]
      obtain ⟨sameLeft, rest⟩ := append_inj_of_leaves same leaves (by simp [isLeaf_infixToken])
        (by simp [isLeaf_infixToken])
      simp only [List.cons.injEq] at rest
      rw [before first bare.1 sameLeft, after second bare.2.2 rest.2,
        Infix.eq_of_token rest.1]
    | group inner =>
      exact (tokens_ne_of_bare inner (by simpa using bare.symm) 0 [.sign ")"] right.tokens
        same.symm).elim
    | _ => simp at bare

end Formula

end DialectBridge.Statement
