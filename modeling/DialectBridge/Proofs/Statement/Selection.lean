import DialectBridge.Proofs.Statement.FormulaReading
import DialectBridge.Proofs.Statement.FormulaText

/-!
# Selections

A selection takes columns, which are formulas, from a table under a condition; it can do
without the table and without the condition. Its text is read back as the selection if its
formulas fit, which makes it a statement to try on whatever is done to formulas.
-/

namespace DialectBridge.Statement

/-- A selection of columns, with a table and a condition if it has them. -/
structure Selection (α : Type) where
  first : α
  others : List α
  table : Option PlainName
  condition : Option α

namespace Selection

variable {α β : Type}

/-- A selection with other columns and another condition. -/
def map (change : α → β) (selection : Selection α) : Selection β where
  first := change selection.first
  others := selection.others.map change
  table := selection.table
  condition := selection.condition.map change

/-- The columns of a selection. -/
def columns (selection : Selection α) : List α := selection.first :: selection.others

/-- The columns of a selection and its condition. -/
def parts (selection : Selection α) : List α := selection.columns ++ selection.condition.toList

/-- The phrases that name the table of a selection. -/
def tablePhrases : Option PlainName → List Phrase
  | none => []
  | some name => [.text "FROM ", .list [.sequence [.sequence [.name [name.identifier]]]]]

/-- The phrases of the condition of a selection. -/
def conditionPhrases : Option Phrase → List Phrase
  | none => []
  | some condition => [.text "WHERE ", condition]

/-- The phrase that a selection is. -/
def phrase (selection : Selection Phrase) : Phrase :=
  .sequence [.sequence [.sequence (.text "SELECT " :: .list selection.columns ::
    (Nested.spaced (tablePhrases selection.table) ++
      Nested.spaced (conditionPhrases selection.condition)))]]

/-- A selection that is changed twice. -/
theorem map_map {α β γ : Type} (first : α → β) (second : β → γ) (selection : Selection α) :
    (selection.map first).map second = selection.map (second ∘ first) := by
  obtain ⟨column, others, table, condition⟩ := selection
  simp [map]

/-- The parts of a selection that is changed are changed one by one. -/
theorem parts_map {α β : Type} (change : α → β) (selection : Selection α) :
    (selection.map change).parts = selection.parts.map change := by
  obtain ⟨first, others, table, condition⟩ := selection
  cases condition <;> simp [parts, columns, map]

/-! ## Texts and tokens -/

/-- The characters that name the table of a selection. -/
def tableChars : Option PlainName → List Char
  | none => []
  | some name => ' ' :: 'F' :: 'R' :: 'O' :: 'M' :: ' ' :: name.letters

/-- The characters of the condition of a selection. -/
def conditionChars : Option Formula → List Char
  | none => []
  | some condition => ' ' :: 'W' :: 'H' :: 'E' :: 'R' :: 'E' :: ' ' :: condition.chars

/-- The characters of a selection. -/
def chars (selection : Selection Formula) : List Char :=
  'S' :: 'E' :: 'L' :: 'E' :: 'C' :: 'T' :: ' ' :: (Formula.charsBetween selection.columns ++
    (tableChars selection.table ++ conditionChars selection.condition))

/-- The tokens that name the table of a selection. -/
def tableTokens : Option PlainName → List Token
  | none => []
  | some name => [.word ⟨"FROM", none⟩ "FROM", Token.ofName name.letters]

/-- The tokens of the condition of a selection. -/
def conditionTokens : Option Formula → List Token
  | none => []
  | some condition => .word ⟨"WHERE", none⟩ "WHERE" :: condition.tokens

/-- The tokens of a selection. -/
def tokens (selection : Selection Formula) : List Token :=
  .word ⟨"SELECT", none⟩ "SELECT" :: (Formula.tokensBetween selection.columns ++
    (tableTokens selection.table ++ conditionTokens selection.condition))

/-- The text of a list of formulas has commas between them. -/
theorem toList_render_list (formulas : List Formula) :
    (Phrase.list (Formula.phrases formulas)).render.toList = Formula.charsBetween formulas := by
  induction formulas with
  | nil => rfl
  | cons formula rest inductionHypothesis =>
    have first := formula.toList_render
    cases rest with
    | nil =>
      simp [Phrase.list, Phrase.separated, Formula.phrases, Phrase.render, Phrase.renderAll,
        Formula.charsBetween, Formula.charsAfter, first]
    | cons next more =>
      simp only [Phrase.list, Phrase.separated, Formula.phrases, Phrase.render,
        Formula.charsBetween] at inductionHypothesis
      simp [Phrase.list, Phrase.separated, Formula.phrases, Phrase.render, Phrase.renderAll,
        Formula.charsBetween, Formula.charsAfter, first, inductionHypothesis]

/-- The text of a selection consists of its characters. -/
theorem toList_render (selection : Selection Formula) :
    (selection.map Formula.phrase).phrase.render.toList = selection.chars := by
  obtain ⟨first, others, table, condition⟩ := selection
  have columns := toList_render_list (first :: others)
  have tableText : (Phrase.sequence (Nested.spaced (tablePhrases table))).render.toList =
      tableChars table := by
    cases table with
    | none => rfl
    | some name =>
      simp [tablePhrases, Nested.spaced, Phrase.render, Phrase.renderAll, Phrase.list,
        Phrase.separated, renderName, Identifier.render, PlainName.identifier, tableChars]
  have conditionText : (Phrase.sequence (Nested.spaced (conditionPhrases
      (condition.map Formula.phrase)))).render.toList = conditionChars condition := by
    cases condition with
    | none => rfl
    | some condition =>
      simp [conditionPhrases, Nested.spaced, Phrase.render, Phrase.renderAll, conditionChars,
        condition.toList_render]
  rw [Formula.phrases_eq_map, List.map_cons] at columns
  simp only [Phrase.render] at tableText conditionText
  simp [phrase, map, Selection.columns, chars, Phrase.render, Phrase.renderAll,
    Phrase.renderAll_append,
    columns, tableText, conditionText]

/-- Whether no minus sign stands right before another in a selection. -/
def spacesMinus (selection : Selection Formula) : Prop :=
  ∀ formula ∈ selection.parts, formula.spacesMinus = true

/-- The characters of a table are scanned as its tokens. -/
theorem scansAs_table (table : Option PlainName) {rest : List Char} (delimited : Delimited rest) :
    Token.ScansAs (tableChars table) (tableTokens table) rest := by
  cases table with
  | none => exact Token.scansAs_nil rest
  | some name =>
    have keyword : Token.ScansAs ['F', 'R', 'O', 'M', ' '] [.word ⟨"FROM", none⟩ "FROM"]
        (name.letters ++ rest) := Token.scansAs_keyword 'F' ['R', 'O', 'M'] _ (by decide) (by decide)
    exact (Token.scansAs_space _).append (keyword.append (Token.scansAs_plainName name delimited))

/-- The characters of a condition are scanned as its tokens. -/
theorem scansAs_condition (condition : Option Formula) {rest : List Char}
    (spaced : ∀ formula ∈ condition, formula.spacesMinus = true) (delimited : Delimited rest) :
    Token.ScansAs (conditionChars condition) (conditionTokens condition) rest := by
  cases condition with
  | none => exact Token.scansAs_nil rest
  | some formula =>
    have keyword : Token.ScansAs ['W', 'H', 'E', 'R', 'E', ' '] [.word ⟨"WHERE", none⟩ "WHERE"]
        (formula.chars ++ rest) :=
      Token.scansAs_keyword 'W' ['H', 'E', 'R', 'E'] _ (by decide) (by decide)
    exact (Token.scansAs_space _).append
      (keyword.append (formula.scansAs_chars (spaced formula rfl) delimited))

/-- The characters of a selection are scanned as its tokens. -/
theorem scan_chars {selection : Selection Formula} (spaced : selection.spacesMinus)
    {text : String} (written : text.toList = selection.chars) :
    Token.scan text = some selection.tokens := by
  obtain ⟨first, others, table, condition⟩ := selection
  have columnsSpaced : Formula.spacesMinusAll (first :: others) = true :=
    Formula.spacesMinusAll_of_forall fun formula member =>
      spaced formula (List.mem_append_left _ member)
  have conditionSpaced : ∀ formula ∈ condition, formula.spacesMinus = true :=
    fun formula member => spaced formula (List.mem_append_right _ (by simpa using member))
  have ended : Delimited [] := nofun
  have conditionDelimits : Delimited (conditionChars condition ++ []) := by
    cases condition with
    | none => exact ended
    | some formula => exact delimited_space _
  have tableDelimits : Delimited (tableChars table ++ conditionChars condition ++ []) := by
    cases table with
    | none => exact conditionDelimits
    | some name => exact delimited_space _
  have keyword : Token.ScansAs ['S', 'E', 'L', 'E', 'C', 'T', ' ']
      [.word ⟨"SELECT", none⟩ "SELECT"] (Formula.charsBetween (first :: others) ++
        (tableChars table ++ conditionChars condition) ++ []) :=
    Token.scansAs_keyword 'S' ['E', 'L', 'E', 'C', 'T'] _ (by decide) (by decide)
  have whole := keyword.append ((Formula.scansAs_charsBetween _ columnsSpaced tableDelimits).append
    ((scansAs_table table conditionDelimits).append
      (scansAs_condition condition conditionSpaced ended)))
  refine Token.scan_of_scansAs ?_
  rw [written]
  exact whole

/-! ## Reading -/

open Reader Nested

/-- What can follow the tables of a selection: nothing, or its condition. -/
def EndsTables (rest : List Token) : Prop :=
  rest = [] ∨ ∃ more, rest = .word ⟨"WHERE", none⟩ "WHERE" :: more

/-- The condition of a selection can follow its tables. -/
theorem endsTables_condition (condition : Option Formula) :
    EndsTables (conditionTokens condition) := by
  cases condition with
  | none => exact .inl rfl
  | some formula => exact .inr ⟨_, rfl⟩

/-- A column is no alias of another: what follows it is no name. -/
theorem aliasName_of_follows {rest : List Token} (follows : Follows rest)
    (noOperator : nextLevel rest = 0) :
    aliasName reservedColumnAliases rest = .ok (none, rest) := by
  have noAs := takesKeyword_of_ne (follows.headKeyword_ne (by decide : "AS" ∉ _))
  unfold aliasName
  simp only [bind_apply, noAs, peek_apply]
  match rest with
  | [] => rfl
  | .word identifier keyword :: more =>
    have follower : isFollower (.word identifier keyword) = true := follows _ rfl
    have known : keyword = "FROM" ∨ keyword = "WHERE" ∨ keyword = "OR" ∨ keyword = "AND" ∨
        keyword = "XOR" ∨ keyword = "OVERLAPS" := by
      simpa [isFollower, followingWords, wordInfixes] using follower
    rcases known with rfl | rfl | rfl | rfl | rfl | rfl
    · rfl
    · rfl
    all_goals exact absurd noOperator (Nat.succ_ne_zero _)
  | .text value :: _ => exact absurd rfl (follows.head?_ne (rfl : isFollower (.text value) = false))
  | .number _ :: _ => rfl
  | .nationalText _ :: _ => rfl
  | .hexadecimal _ :: _ => rfl
  | .placeholder _ :: _ => rfl
  | .sign _ :: _ => rfl

/-- A formula that fits is read as a column. -/
theorem selectedItem_tokens {formula : Formula} {depth : Nat} {rest : List Token}
    (fits : formula.fits 0 = true) (shallow : formula.depth ≤ depth) (follows : Follows rest)
    (noOperator : nextLevel rest = 0) :
    (nested true (depth + 1)).selectedItem (formula.tokens ++ rest) =
      .ok (formula.phrase, rest) := by
  have noStar := (formula.opens_tokens follows).star?
  have read := anyExpression_tokens fits shallow follows noOperator
  have noAlias := aliasName_of_follows follows noOperator
  unfold selectedItem
  simp only [bind_apply, noStar, read]
  cases formula with
  | column name =>
    have notFrom : Text.lowercased name.identifier.text ≠ "from" := by
      obtain ⟨letters, plain⟩ := name
      cases letters with
      | nil => simp [isPlainName] at plain
      | cons first more =>
        simp only [isPlainName, Bool.and_eq_true, bne_iff_ne] at plain
        exact plain.2
    simp only [Formula.phrase, PlainName.identifier] at notFrom ⊢
    simp only [notFrom, if_false, bind_apply, pure_apply, noAlias]
  | _ => simp only [Formula.phrase, bind_apply, pure_apply, noAlias, Phrase.parenthesized]

/-- A plain name that nothing follows which belongs to it is read as a table. -/
theorem joinedTables_name (inner : Nested) (name : PlainName) {rest : List Token}
    (ends : EndsTables rest) :
    inner.joinedTables (Token.ofName name.letters :: rest) =
      .ok (.sequence [.sequence [.name [name.identifier]]], rest) := by
  have plain : ["LATERAL", "TABLE"].contains (keywordOf name.letters) = false := by
    have reserved : ∀ word ∈ ["LATERAL", "TABLE"], word ∈ reservedWords := by decide
    simp only [List.contains_eq_mem, decide_eq_false_iff_not]
    exact fun member => name.keyword_not_mem (reserved _ member)
  have named : namedTable inner (Token.ofName name.letters :: rest) =
      .ok (.sequence [.name [name.identifier]], rest) := by
    have alone : qualifiedName (Token.ofName name.letters :: rest) =
        .ok ([name.identifier], rest) := by
      rcases ends with rfl | ⟨more, rfl⟩ <;> rfl
    have noAlias : tableAlias rest = .ok ([], rest) := by
      rcases ends with rfl | ⟨more, rfl⟩ <;> rfl
    have noArguments : takesSign "(" rest = .ok (false, rest) := by
      rcases ends with rfl | ⟨more, rfl⟩ <;> rfl
    have keyword : headKeyword (Token.ofName name.letters :: rest) = keywordOf name.letters := rfl
    unfold namedTable
    simp only [bind_apply, peekKeyword_apply, keyword, plain, Bool.false_eq_true, if_false,
      pure_apply, alone, noArguments, noAlias]
    rfl
  have noJoin : joinWords rest = .ok (none, rest) := by
    rcases ends with rfl | ⟨more, rfl⟩ <;> rfl
  have table (fuel : Nat) : tableWithin inner (fuel + 1) (Token.ofName name.letters :: rest) =
      .ok ((.sequence [.name [name.identifier]], false), rest) := by
    have noParenthesis : takesSign "(" (Token.ofName name.letters :: rest) =
        .ok (false, Token.ofName name.letters :: rest) := takesSign_of_ne (by simp [Token.ofName])
    rw [tableWithin]
    simp only [bind_apply, noParenthesis, Bool.false_eq_true, if_false, named]
    rfl
  unfold joinedTables joinedWith
  simp only [bind_apply, get_apply, table]
  unfold joinsWith
  simp only [bind_apply, noJoin]
  rfl

/-- The table of a selection is read up to its condition. -/
theorem tables_tokens (inner : Nested) (table : Option PlainName) {rest : List Token}
    (ends : EndsTables rest) :
    inner.tables (tableTokens table ++ rest) = .ok (tablePhrases table, rest) := by
  cases table with
  | none => rcases ends with rfl | ⟨more, rfl⟩ <;> rfl
  | some name =>
    have read := joinedTables_name inner name ends
    have single : commaSeparated inner.joinedTables (Token.ofName name.letters :: rest) =
        .ok ([.sequence [.sequence [.name [name.identifier]]]], rest) := by
      have noComma : many (takesSign ",") inner.joinedTables rest = .ok ([], rest) := by
        rcases ends with rfl | ⟨more, rfl⟩ <;> rfl
      unfold commaSeparated
      simp only [bind_apply, read, noComma]
      rfl
    have keyword : takesKeyword "FROM" (tableTokens (some name) ++ rest) =
        .ok (true, Token.ofName name.letters :: rest) := rfl
    unfold tables
    simp only [bind_apply, keyword, if_true, single]
    rfl

/-- The condition of a selection is read to the end. -/
theorem clause_tokens {condition : Option Formula} {depth : Nat}
    (fits : ∀ formula ∈ condition, formula.fits 0 = true)
    (shallow : ∀ formula ∈ condition, formula.depth ≤ depth) :
    (nested true (depth + 1)).clause "WHERE" (conditionTokens condition) =
      .ok (conditionPhrases (condition.map Formula.phrase), []) := by
  cases condition with
  | none => rfl
  | some formula =>
    have read := anyExpression_tokens (fits formula rfl) (shallow formula rfl) follows_nil rfl
    rw [List.append_nil] at read
    have keyword : takesKeyword "WHERE" (conditionTokens (some formula)) =
        .ok (true, formula.tokens) := rfl
    unfold clause
    simp only [bind_apply, keyword, if_true, read]
    rfl

/-- Whether all formulas of a selection fit. -/
def fits (selection : Selection Formula) : Prop :=
  ∀ formula ∈ selection.parts, formula.fits 0 = true

/-- Whether no formula of a selection nests deeper than a bound. -/
def isWithin (bound : Nat) (selection : Selection Formula) : Prop :=
  ∀ formula ∈ selection.parts, formula.depth ≤ bound

/-- What goes on a selection after its columns follows a column and is no column. -/
theorem follows_tail (table : Option PlainName) (condition : Option Formula) :
    Follows (tableTokens table ++ conditionTokens condition) ∧
      nextLevel (tableTokens table ++ conditionTokens condition) = 0 ∧
        (tableTokens table ++ conditionTokens condition).head? ≠ some (.sign ",") := by
  cases table with
  | some name => exact ⟨follows_cons _ (by decide), rfl, by simp [tableTokens]⟩
  | none =>
    cases condition with
    | some formula =>
      exact ⟨follows_cons _ (by decide), rfl, by simp [tableTokens, conditionTokens]⟩
    | none => exact ⟨follows_nil, rfl, by simp [tableTokens, conditionTokens]⟩

/-- The columns of a selection that fit are read up to what goes on the selection. -/
theorem columns_tokens {first : Formula} {others : List Formula} {depth : Nat}
    {rest : List Token} (fits : ∀ formula ∈ first :: others, formula.fits 0 = true)
    (shallow : ∀ formula ∈ first :: others, formula.depth ≤ depth) (follows : Follows rest)
    (noOperator : nextLevel rest = 0) (noComma : rest.head? ≠ some (.sign ",")) :
    commaSeparated (nested true (depth + 1)).selectedItem
        (Formula.tokensBetween (first :: others) ++ rest) =
      .ok (Formula.phrases (first :: others), rest) :=
  commaSeparated_tokens (fun formula member _ follows noOperator =>
    selectedItem_tokens (fits formula member) (shallow formula member) follows noOperator)
    follows noOperator noComma

/-- The tokens of a selection whose formulas fit are read as a selection. -/
theorem selection_tokens {selection : Selection Formula} {depth : Nat} (fits : selection.fits)
    (shallow : selection.isWithin depth) :
    (nested true (depth + 1)).selection selection.tokens =
      .ok (.sequence (.text "SELECT " :: .list (Formula.phrases selection.columns) ::
        (spaced (tablePhrases selection.table) ++
          spaced (conditionPhrases (selection.condition.map Formula.phrase)))), []) := by
  obtain ⟨first, others, table, condition⟩ := selection
  obtain ⟨follows, noOperator, noComma⟩ := follows_tail table condition
  have items := columns_tokens (fun formula member => fits formula (List.mem_append_left _ member))
    (fun formula member => shallow formula (List.mem_append_left _ member)) follows noOperator
    noComma
  have ofCondition {formula : Formula} (member : formula ∈ condition) :
      formula ∈ parts ⟨first, others, table, condition⟩ :=
    List.mem_append_right _ (by simpa using member)
  have tablesRead := tables_tokens (nested true (depth + 1)) table (endsTables_condition condition)
  have conditionRead := clause_tokens (fun formula member => fits formula (ofCondition member))
    (fun formula member => shallow formula (ofCondition member))
  have opens : Opens (Formula.tokensBetween (first :: others) ++
      (tableTokens table ++ conditionTokens condition)) := by
    rw [Formula.tokensBetween, List.append_assoc]
    exact first.opens_tokens (follows_tokensAfter others follows noOperator).1
  have announced : ["ON", "TOP", "INTO"].contains (headKeyword (Formula.tokensBetween
      (first :: others) ++ (tableTokens table ++ conditionTokens condition))) = false := by
    have noOn := opens.headKeyword_ne (by decide : "ON" ∈ _)
    have noTop := opens.headKeyword_ne (by decide : "TOP" ∈ _)
    have noInto := opens.headKeyword_ne (by decide : "INTO" ∈ _)
    simp [noOn, noTop, noInto]
  have keyword (rest : List Token) :
      expectKeyword "SELECT" (.word ⟨"SELECT", none⟩ "SELECT" :: rest) = .ok (⟨⟩, rest) := rfl
  have noGrouping : (nested true (depth + 1)).grouping [] = .ok ([], []) := rfl
  have noHaving : (nested true (depth + 1)).clause "HAVING" [] = .ok ([], []) := rfl
  have noWindows : (nested true (depth + 1)).namedWindows [] = .ok ([], []) := rfl
  have spacedNil : spaced [] = [] := rfl
  unfold Nested.selection
  simp only [tokens, columns, bind_apply, keyword, quantifier_of_opens opens, peekKeyword_apply,
    announced, Bool.false_eq_true, if_false, pure_apply, items, tablesRead, conditionRead,
    noGrouping, noHaving, noWindows, List.map_cons, List.map_nil, List.flatten_cons,
    List.flatten_nil, spacedNil, List.append_nil, reduceCtorEq]

/-- The tokens of a selection whose formulas fit are read as a query. -/
theorem queryAbove_tokens {selection : Selection Formula} {depth : Nat} (fits : selection.fits)
    (shallow : selection.isWithin depth) :
    (nested true (depth + 1)).queryAbove selection.tokens =
      .ok ((selection.map Formula.phrase).phrase, []) := by
  have selected := selection_tokens fits shallow
  have noNames : (nested true (depth + 1)).namedQueries selection.tokens =
      .ok ([], selection.tokens) := rfl
  have body : (nested true (depth + 1)).body selection.tokens =
      .ok (.sequence [.sequence (.text "SELECT " :: .list (Formula.phrases selection.columns) ::
        (spaced (tablePhrases selection.table) ++
          spaced (conditionPhrases (selection.condition.map Formula.phrase))))], []) := by
    have keyword : headKeyword selection.tokens = "SELECT" := rfl
    unfold Nested.body operand
    simp only [bind_apply, peekKeyword_apply, keyword, if_true, selected]
    rfl
  unfold queryAbove
  simp only [bind_apply, noNames, body]
  rw [Formula.phrases_eq_map]
  rfl

/-- How deep the formulas of a selection can nest, so that its text is read. -/
def deepest : Nat := 47

/-- A text that is scanned as a selection whose formulas fit is read as the selection. -/
theorem readAll_of_scan {selection : Selection Formula} (fits : selection.fits)
    (shallow : selection.isWithin deepest) {text : String}
    (scanned : Token.scan text = some selection.tokens) :
    readAll text = some [(selection.map Formula.phrase).phrase] := by
  have query : (nested true (maxDepth - 1)).query selection.tokens =
      .ok ((selection.map Formula.phrase).phrase, []) := queryAbove_tokens fits shallow
  have single : statement selection.tokens = .ok ((selection.map Formula.phrase).phrase, []) := by
    have keyword : headKeyword selection.tokens = "SELECT" := rfl
    unfold statement
    simp only [bind_apply, peekKeyword_apply, keyword]
    exact query
  have ended (fuel : Nat) : statementsFrom (fuel + 1) false [] = .ok ([], []) := rfl
  have whole (fuel : Nat) : statementsFrom (fuel + 2) true selection.tokens =
      .ok ([(selection.map Formula.phrase).phrase], []) := by
    have noSemicolon : takesSign ";" selection.tokens = .ok (false, selection.tokens) := rfl
    have notEmpty : selection.tokens.isEmpty = false := rfl
    rw [statementsFrom]
    simp only [bind_apply, noSemicolon, get_apply, notEmpty, Bool.false_eq_true, if_false, if_true,
      single, ended]
    rfl
  unfold readAll
  simp only [scanned]
  have fuel : 2 * selection.tokens.length + 1 = (2 * selection.tokens.length - 1) + 2 := by
    simp only [tokens, List.length_cons]
    omega
  rw [fuel, whole]

end Selection

end DialectBridge.Statement
