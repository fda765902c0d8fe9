import DialectBridge.Statement.Definition

/-!
# Formulas

A formula is an expression of names, literals, calls and operators, of any size. Its
tree says what each operator takes, and its text does not: there are parentheses in the
text only where they are in the tree. Whether the tree can be told from the text depends
on how tight the operators bind, and on nothing else. Each operator has to bind tighter
than what is asked of the place where it stands, and what stands before it must not go on
over it.
-/

namespace DialectBridge.Statement

/-- Words that are no plain names: those that start an expression of their own, that can
stand before an argument or a selected item, and the names of types. -/
def reservedWords : List String :=
  ["TRUE", "FALSE", "NULL", "CASE", "CAST", "EXISTS", "CEIL", "FLOOR", "POSITION", "SUBSTRING",
   "TRIM", "NOT", "INTERVAL", "ALL", "DISTINCT", "ANY", "SOME", "SELECT", "WITH", "ON", "TOP",
   "INTO", "FROM", "VALUE", "LATERAL", "TABLE"] ++
  Nested.presentWords ++ DataType.shapes.map Prod.fst

/-- The keyword that an unquoted word may be taken for. -/
def keywordOf (word : List Char) : String := String.ofList (word.flatMap Text.upperToAscii)

/-- Whether a word can be written as a name without quotes. The word that starts the
tables of a selection is told apart by its lower-case form. -/
def isPlainName : List Char → Bool
  | [] => false
  | first :: rest => Token.isNameStart first && rest.all Token.isNamePart &&
    !reservedWords.contains (keywordOf (first :: rest)) &&
    Text.lowercased (String.ofList (first :: rest)) != "from"

/-- A name that needs no quotes. -/
structure PlainName where
  letters : List Char
  plain : isPlainName letters = true
  deriving DecidableEq

/-- The identifier that a plain name is read as. -/
def PlainName.identifier (name : PlainName) : Identifier := ⟨String.ofList name.letters, none⟩

/-- The digits of a number. -/
structure Digits where
  digits : List Char
  digital : (!digits.isEmpty && digits.all Char.isDigit) = true
  deriving DecidableEq

/-- A text that holds no quote. -/
structure PlainText where
  letters : List Char
  quoteless : letters.all (· != '\'') = true
  deriving DecidableEq

/-- The words that are operators between two operands, with their levels. -/
def wordInfixes : List (String × Nat) := [("OR", 5), ("AND", 10), ("XOR", 24), ("OVERLAPS", 20)]

/-- An operator between two operands, with the level that it is read at. Signs that are
written otherwise than they are read are left out. -/
inductive Infix where
  | sign (mark : String) (level : Nat) (known : (mark, level, mark) ∈ Nested.operators)
  | word (keyword : String) (level : Nat) (known : (keyword, level) ∈ wordInfixes)
  deriving DecidableEq

namespace Infix

/-- How an operator is written. -/
def written : Infix → String
  | sign mark _ _ => mark
  | word keyword _ _ => keyword

/-- The level of an operator. -/
def level : Infix → Nat
  | sign _ level _ => level
  | word _ level _ => level

/-- The token of an operator. -/
def token : Infix → Token
  | sign mark _ _ => .sign mark
  | word keyword _ _ => .word ⟨keyword, none⟩ keyword

end Infix

/-- An expression of names, literals, calls and operators. -/
inductive Formula where
  | number (digits : Digits)
  | literal (value : PlainText)
  | column (name : PlainName)
  | call (function : PlainName) (arguments : List Formula)
  | group (inner : Formula)
  | negate (operand : Formula)
  | not (operand : Formula)
  | binary (operator : Infix) (left right : Formula)

namespace Formula

mutual

/-- The phrase that a formula is. -/
def phrase : Formula → Phrase
  | number digits => .text (String.ofList digits.digits)
  | literal value => .text (quoted '\'' (String.ofList value.letters))
  | column name => .name [name.identifier]
  | call function arguments => .call [function.identifier] none (phrases arguments) [] []
  | group inner => .parenthesized (.list [inner.phrase])
  | negate operand => .sequence [.text "-", operand.phrase]
  | not operand => .sequence [.text "NOT ", operand.phrase]
  | binary operator left right =>
    .sequence [left.phrase, .text (" " ++ operator.written ++ " "), right.phrase]

/-- The phrases that formulas are. -/
def phrases : List Formula → List Phrase
  | [] => []
  | formula :: rest => formula.phrase :: phrases rest

end

/-- The phrases of formulas, one by one. -/
theorem phrases_eq_map (formulas : List Formula) : phrases formulas = formulas.map phrase := by
  induction formulas with
  | nil => rfl
  | cons formula rest inductionHypothesis =>
    rw [phrases, inductionHypothesis, List.map_cons]

mutual

/-- The characters of a formula. -/
def chars : Formula → List Char
  | number digits => digits.digits
  | literal value => '\'' :: (value.letters ++ ['\''])
  | column name => name.letters
  | call function arguments => function.letters ++ '(' :: (charsBetween arguments ++ [')'])
  | group inner => '(' :: (inner.chars ++ [')'])
  | negate operand => '-' :: operand.chars
  | not operand => 'N' :: 'O' :: 'T' :: ' ' :: operand.chars
  | binary operator left right =>
    left.chars ++ ' ' :: (operator.written.toList ++ ' ' :: right.chars)

/-- The characters of formulas with commas between them. -/
def charsBetween : List Formula → List Char
  | [] => []
  | formula :: rest => formula.chars ++ charsAfter rest

/-- The characters of formulas with a comma before each. -/
def charsAfter : List Formula → List Char
  | [] => []
  | formula :: rest => ',' :: ' ' :: (formula.chars ++ charsAfter rest)

end

mutual

/-- The tokens of a formula. -/
def tokens : Formula → List Token
  | number digits => [.number (String.ofList digits.digits)]
  | literal value => [.text (String.ofList value.letters)]
  | column name => [Token.ofName name.letters]
  | call function arguments =>
    Token.ofName function.letters :: .sign "(" :: (tokensBetween arguments ++ [.sign ")"])
  | group inner => .sign "(" :: (inner.tokens ++ [.sign ")"])
  | negate operand => .sign "-" :: operand.tokens
  | not operand => Token.ofName "NOT".toList :: operand.tokens
  | binary operator left right => left.tokens ++ operator.token :: right.tokens

/-- The tokens of formulas with commas between them. -/
def tokensBetween : List Formula → List Token
  | [] => []
  | formula :: rest => formula.tokens ++ tokensAfter rest

/-- The tokens of formulas with a comma before each. -/
def tokensAfter : List Formula → List Token
  | [] => []
  | formula :: rest => .sign "," :: (formula.tokens ++ tokensAfter rest)

end

/-- What holds of a formula when it holds of its parts holds of all formulas. -/
@[elab_as_elim]
theorem induction_on_parts {motive : Formula → Prop} (formula : Formula)
    (number : ∀ digits, motive (number digits))
    (literal : ∀ value, motive (literal value))
    (column : ∀ name, motive (column name))
    (call : ∀ function arguments, (∀ argument ∈ arguments, motive argument) →
      motive (call function arguments))
    (group : ∀ inner, motive inner → motive (group inner))
    (negate : ∀ operand, motive operand → motive (negate operand))
    (not : ∀ operand, motive operand → motive (not operand))
    (binary : ∀ operator left right, motive left → motive right →
      motive (binary operator left right)) : motive formula :=
  @Formula.rec motive (fun formulas => ∀ formula ∈ formulas, motive formula) number literal
    column call group negate not binary (fun _ member => absurd member List.not_mem_nil)
    (fun _ _ head tail => List.forall_mem_cons.mpr ⟨head, tail⟩) formula

/-- The level of the operator that a formula stops at: what follows it must not bind
tighter. A formula that ends in a word, a literal or a parenthesis stops everywhere. -/
def reach : Formula → Nat
  | negate operand => min 40 operand.reach
  | not operand => min 15 operand.reach
  | binary operator _ right => min operator.level right.reach
  | _ => 100

mutual

/-- Whether the tree of a formula is the one that its text is read as, in a place where
only operators above a level are taken. -/
def fits (level : Nat) : Formula → Bool
  | number _ => true
  | literal _ => true
  | column _ => true
  | call _ arguments => fitsAll arguments
  | group inner => inner.fits 0
  | negate operand => operand.fits 40
  | not operand => operand.fits 15
  | binary operator left right =>
    level < operator.level && left.fits level && operator.level ≤ left.reach &&
      right.fits operator.level

/-- Whether the trees of formulas are those that their texts are read as. -/
def fitsAll : List Formula → Bool
  | [] => true
  | formula :: rest => formula.fits 0 && fitsAll rest

end

mutual

/-- How deep a formula nests: an operand on the left nests no deeper than the whole. -/
def depth : Formula → Nat
  | number _ => 0
  | literal _ => 0
  | column _ => 0
  | call _ arguments => depthAll arguments + 1
  | group inner => inner.depth + 1
  | negate operand => operand.depth + 1
  | not operand => operand.depth + 1
  | binary _ left right => max left.depth (right.depth + 1)

/-- The depth of the deepest of some formulas. -/
def depthAll : List Formula → Nat
  | [] => 0
  | formula :: rest => max formula.depth (depthAll rest)

end

/-- Formulas fit if each of them does. -/
theorem fits_of_mem {formulas : List Formula} (fits : fitsAll formulas = true)
    {formula : Formula} (member : formula ∈ formulas) : formula.fits 0 = true := by
  induction formulas with
  | nil => exact absurd member List.not_mem_nil
  | cons first rest inductionHypothesis =>
    simp only [fitsAll, Bool.and_eq_true] at fits
    rcases List.mem_cons.mp member with rfl | member
    · exact fits.1
    · exact inductionHypothesis fits.2 member

/-- No formula nests deeper than the deepest. -/
theorem depth_le_depthAll {formulas : List Formula} {formula : Formula}
    (member : formula ∈ formulas) : formula.depth ≤ depthAll formulas := by
  induction formulas with
  | nil => exact absurd member List.not_mem_nil
  | cons first rest inductionHypothesis =>
    rw [depthAll]
    rcases List.mem_cons.mp member with rfl | member
    · exact Nat.le_max_left _ _
    · exact Nat.le_trans (inductionHypothesis member) (Nat.le_max_right _ _)

/-- Lists of formulas are not deeper than each of them. -/
theorem depthAll_le {formulas : List Formula} {bound : Nat}
    (shallow : ∀ formula ∈ formulas, formula.depth ≤ bound) : depthAll formulas ≤ bound := by
  induction formulas with
  | nil => exact Nat.zero_le _
  | cons formula rest inductionHypothesis =>
    rw [List.forall_mem_cons] at shallow
    exact Nat.max_le.mpr ⟨shallow.1, inductionHypothesis shallow.2⟩

/-- Whether a formula starts with a minus sign. -/
def startsWithMinus : Formula → Bool
  | negate _ => true
  | binary _ left _ => left.startsWithMinus
  | _ => false

mutual

/-- Whether no minus sign stands right before another. -/
def spacesMinus : Formula → Bool
  | number _ => true
  | literal _ => true
  | column _ => true
  | call _ arguments => spacesMinusAll arguments
  | group inner => inner.spacesMinus
  | negate operand => operand.spacesMinus && !operand.startsWithMinus
  | not operand => operand.spacesMinus
  | binary _ left right => left.spacesMinus && right.spacesMinus

/-- Whether no minus sign stands right before another in any of some formulas. -/
def spacesMinusAll : List Formula → Bool
  | [] => true
  | formula :: rest => formula.spacesMinus && spacesMinusAll rest

end

/-- The depth of the deepest of two lists of formulas. -/
theorem depthAll_append (first second : List Formula) :
    depthAll (first ++ second) = max (depthAll first) (depthAll second) := by
  induction first with
  | nil => simp [depthAll]
  | cons formula rest inductionHypothesis =>
    rw [List.cons_append, depthAll, depthAll, inductionHypothesis, Nat.max_assoc]

/-- Minus signs are spaced in two lists of formulas if they are in both. -/
theorem spacesMinusAll_append (first second : List Formula) :
    spacesMinusAll (first ++ second) = (spacesMinusAll first && spacesMinusAll second) := by
  induction first with
  | nil => rfl
  | cons formula rest inductionHypothesis =>
    rw [List.cons_append, spacesMinusAll, spacesMinusAll, inductionHypothesis, Bool.and_assoc]

/-- The phrases of two lists of formulas. -/
theorem phrases_append (first second : List Formula) :
    phrases (first ++ second) = phrases first ++ phrases second := by
  rw [phrases_eq_map, phrases_eq_map, phrases_eq_map, List.map_append]

/-- Minus signs are spaced in formulas if they are in each of them. -/
theorem spacesMinusAll_of_forall {formulas : List Formula}
    (spaced : ∀ formula ∈ formulas, formula.spacesMinus = true) :
    spacesMinusAll formulas = true := by
  induction formulas with
  | nil => rfl
  | cons first rest inductionHypothesis =>
    rw [List.forall_mem_cons] at spaced
    simp [spacesMinusAll, spaced.1, inductionHypothesis spaced.2]

end Formula

end DialectBridge.Statement
