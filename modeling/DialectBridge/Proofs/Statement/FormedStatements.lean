import DialectBridge.Statement.Definition
import DialectBridge.Proofs.Statement.FormedExpressions

/-!
# Statements are formed

Changes of rows and definitions of tables and views are put together from names, expressions
and queries as queries are from clauses. With them every text that is read is read as formed
phrases: their parts meet at separators, and they are silent if the text is.
-/

namespace DialectBridge.Statement

open Reader
open Phrase (Formed Row Tail row_singleton formed_sequence formed_list formed_name formed_nameList
  formed_name_singleton formed_parenthesized Trailing trailing_of_isBack trailing_elim tail_columns)

variable {hushed : Mark → Prop}

namespace Nested

/-! ## Changes of rows -/

/-- What each turn of a loop keeps, the loop keeps. -/
theorem yields_forIn {α β : Type} {keeps : β → Prop} {items : List α} {start : β}
    {turn : α → β → Reader (ForInStep β)} (kept : keeps start)
    (each : ∀ item ∈ items, ∀ state, keeps state →
      Yields hushed (fun next => keeps next.value) (turn item state)) :
    Yields hushed keeps (forIn items start turn) := by
  induction items generalizing start with
  | nil => exact yields_pure kept
  | cons item rest inductionHypothesis =>
    rw [List.forall_mem_cons] at each
    rw [List.forIn_cons]
    refine (each.1 start kept).bind fun next keptNext => ?_
    cases next with
    | done state => exact yields_pure keptNext
    | yield state => exact inductionHypothesis keptNext each.2

/-- The rules for conflicts. -/
def conflictRules : List String := ["REPLACE", "ROLLBACK", "ABORT", "FAIL", "IGNORE"]

/-- Reading a rule for conflicts. -/
theorem yields_conflictRule :
    Yields hushed (fun found => ∀ rule ∈ found, rule ∈ conflictRules) conflictRule := by
  have turns : Yields hushed (fun state => ∀ found ∈ state.1, ∀ rule ∈ found, rule ∈ conflictRules)
      (forIn conflictRules ((none : Option (Option String)), ()) fun rule _ => do
        if ← Reader.takesKeywords ["OR", rule] then return ForInStep.done (some (some rule), ())
        else return ForInStep.yield (none, ())) := by
    refine yields_forIn nofun fun rule listed state _ => ?_
    refine (yields_takesKeywords _).ite ?_ ?_
    · refine yields_pure fun found same => ?_
      rw [← Option.some.inj same]
      exact fun word same => Option.some.inj same ▸ listed
    · exact yields_pure nofun
  refine turns.bind fun state listed => ?_
  dsimp only
  split
  · next found same => exact yields_pure (listed found same)
  · refine (yields_takesKeyword _).ite ?_ ?_
    · exact yields_pure fun rule same => Option.some.inj same ▸ List.mem_cons_self
    · exact yields_pure nofun

/-- The actions of a reference can stand behind it. -/
theorem yields_referenceAction :
    Yields hushed (fun action => Phrase.isBack (" " ++ action) = true) referenceAction := by
  refine (yields_takesKeywords _).ite ?_ ?_
  · exact yields_pure (by decide)
  · refine (yields_takesKeywords _).ite ?_ ?_
    · exact yields_pure (by decide)
    · refine (yields_takesKeywords _).ite ?_ ?_
      · exact yields_pure (by decide)
      · refine (yields_takesOneOf _).bind fun action listed => ?_
        have backs : ∀ action ∈ ["RESTRICT", "CASCADE"], Phrase.isBack (" " ++ action) = true := by
          decide
        cases action with
        | some action => exact yields_pure (backs _ (listed _ rfl))
        | none => exact yields_refuse

/-- The actions on an event can stand behind a phrase. -/
theorem yields_referenceActions_first {event : String}
    (joint : Phrase.isBack (" ON " ++ event) = true) :
    Yields hushed (Trailing hushed) (referenceActions.first event) := by
  refine (yields_takesKeywords _).ite ?_ ?_
  · refine yields_referenceAction.bind fun action back => yields_pure ?_
    rw [String.append_assoc]
    exact (trailing_of_isBack joint).append (trailing_of_isBack back)
  · exact yields_pure (trailing_of_isBack (by decide))

/-- The actions of a reference can stand behind it. -/
theorem yields_referenceActions : Yields hushed (Trailing hushed) referenceActions := by
  have deletes := @yields_referenceActions_first hushed "DELETE" (by decide)
  refine deletes.bind fun first trailing => ?_
  refine (yields_referenceActions_first (by decide)).bind fun updated trailingUpdated => ?_
  split
  · exact deletes.bind fun deleted trailingDeleted =>
      yields_pure (trailingDeleted.append trailingUpdated)
  · exact yields_pure (trailing.append trailingUpdated)

/-- A reference is a row. -/
theorem yields_reference {gap : String} (back : Phrase.isBack gap = true) :
    Yields hushed (Row hushed) (reference gap) := by
  refine yields_qualifiedName.bind fun table silent => ?_
  refine yields_columnList?.bind fun columns silentColumns => ?_
  refine yields_referenceActions.bind fun actions trailing => yields_pure ?_
  have listed : Tail hushed ((if columns.isEmpty then [] else [Phrase.text gap,
      .parenthesized (.list (columns.map fun column => .name [column]))]) ++ [.text actions]) := by
    split
    · exact trailing.tail
    · exact (trailing_of_isBack back).cons
        (trailing.tail.parenthesized_cons (formed_nameList silentColumns))
  exact (listed.cons (formed_name silent)).front (by decide)

/-- The columns that a rule is about make a row with its words. -/
theorem yields_ruleColumns {words : String} (front : Phrase.isFront words = true) :
    Yields hushed (Row hushed) (ruleColumns words) := by
  refine yields_columnList.bind fun columns silent => yields_pure ?_
  exact (row_singleton (formed_parenthesized (formed_nameList silent))).front front

variable {inner : Nested} (forms : inner.Forms hushed)
include forms

/-- A new value is formed. -/
theorem yields_assignment : Yields hushed (Formed hushed) inner.assignment := by
  refine yields_peek.bind fun found _ => ?_
  extract_lets withTarget
  have assigned : ∀ target, Formed hushed target →
      Yields hushed (Formed hushed) (withTarget target) := by
    intro target formed
    refine (yields_expectSign _).bind fun _ _ => ?_
    refine (forms.expression 0).bind fun value formedValue => yields_pure (formed_sequence ?_)
    exact ((row_singleton formedValue).behind (by decide)).cons formed
  split
  · refine (yields_inParentheses (yields_commaSeparated yields_qualifiedName)).bind
      fun columns silent => assigned _ (formed_parenthesized (formed_list ?_))
    exact List.forall_mem_map.mpr fun parts member => formed_name (silent parts member)
  · exact yields_qualifiedName.bind fun parts silent => assigned _ (formed_name silent)

omit forms in
/-- Looking for a query in parentheses. -/
theorem yields_startsInnerQuery : Yields hushed (fun _ => True) startsInnerQuery := by
  refine yields_get.bind fun tokens _ => ?_
  split <;> exact yields_pure trivial

/-- What is inserted is a row. -/
theorem yields_insertedRows : Yields hushed (Row hushed) inner.insertedRows := by
  refine (yields_takesKeywords _).ite ?_ ?_
  · exact yields_pure (row_singleton (Phrase.formed_text (by decide)))
  · refine yields_startsInnerQuery.bind fun starts _ => ?_
    have inserted : ∀ columns : List Identifier, (∀ name ∈ columns, SilentName hushed name) →
        Yields hushed (Row hushed) (do
          let query ← inner.query
          if columns.isEmpty then return [query]
          else return [.parenthesized (.list (columns.map fun column => .name [column])),
            .text " ", query]) := by
      intro columns silent
      refine forms.query.bind fun query formed => ?_
      split
      · exact yields_pure (row_singleton formed)
      · exact yields_pure (((row_singleton formed).behind (by decide)).cons
          (formed_parenthesized (formed_nameList silent)))
    split
    · exact inserted [] nofun
    · exact yields_columnList?.bind inserted

/-- An insertion is formed. -/
theorem yields_insertion : Yields hushed (Formed hushed) inner.insertion := by
  refine yields_conflictRule.bind fun rule listed => ?_
  refine (yields_takesKeyword _).bind fun overwrite _ => ?_
  refine (yields_takesKeyword _).bind fun into _ => ?_
  refine (yields_takesKeyword _).bind fun tableWord _ => ?_
  refine yields_qualifiedName.bind fun table silent => ?_
  refine (yields_insertedRows forms).bind fun rows row => yields_pure (formed_sequence ?_)
  refine ((row.behind (by decide)).cons (formed_name silent)).front ?_
  have fronts : ∀ rule ∈ conflictRules,
        Phrase.isFront ("INSERT OR " ++ rule ++ " INTO ") = true := by
    decide
  cases rule with
  | some rule => exact fronts rule (listed rule rfl)
  | none => cases overwrite <;> cases into <;> cases tableWord <;> decide

/-- An update is formed. -/
theorem yields_update : Yields hushed (Formed hushed) inner.update := by
  refine yields_conflictRule.bind fun rule listed => ?_
  refine (yields_joinedTables forms).bind fun table formed => ?_
  refine (yields_expectKeyword _).bind fun _ _ => ?_
  refine (yields_commaSeparated (yields_assignment forms)).bind fun assignments formedValues => ?_
  refine (yields_tables forms).bind fun source sourceRow => ?_
  refine (yields_clause forms (by decide)).bind fun condition conditionRow => ?_
  refine yields_pure (formed_sequence ?_)
  have front : Phrase.isFront (rule.elim "UPDATE " ("UPDATE OR " ++ · ++ " ")) = true := by
    have fronts : ∀ rule ∈ conflictRules, Phrase.isFront ("UPDATE OR " ++ rule ++ " ") = true := by
      decide
    cases rule with
    | some rule => exact fronts rule (listed rule rfl)
    | none => decide
  have tail := sourceRow.spaced.append conditionRow.spaced
  simpa using (((tail.cons (formed_list formedValues)).behind (by decide)).cons formed).front front

/-- A deletion is formed. -/
theorem yields_deletion : Yields hushed (Formed hushed) inner.deletion := by
  refine (yields_expectKeyword _).bind fun _ _ => ?_
  refine (yields_commaSeparated (yields_joinedTables forms)).bind fun tables formed => ?_
  refine (yields_clause forms (by decide)).bind fun condition conditionRow => ?_
  refine (yields_ordering forms).bind fun order orderRow => ?_
  refine (yields_takesKeyword _).bind fun found _ => ?_
  have ended : ∀ limit : Option Phrase, (∀ phrase ∈ limit, Formed hushed phrase) →
      Yields hushed (Formed hushed) (pure (.sequence ([.text "DELETE FROM ", .list tables] ++
        spaced condition ++ spaced order ++ limit.elim [] ([.text " LIMIT ", ·])))) := by
    intro limit formedLimit
    refine yields_pure (formed_sequence ?_)
    have limited : Tail hushed (limit.elim [] ([.text " LIMIT ", ·])) := by
      cases limit with
      | none => exact .nil
      | some phrase => exact (row_singleton (formedLimit phrase rfl)).behind (by decide)
    have tail := (conditionRow.spaced.append orderRow.spaced).append limited
    simpa using (tail.cons (formed_list formed)).front (by decide)
  cases found
  · exact ended none (by simp)
  · exact (yields_limit forms).bind ended

/-! ## Definitions -/

/-- What generates a column is a row. -/
theorem yields_generation {words : String} (front : Phrase.isFront words = true) :
    Yields hushed (Row hushed) (inner.generation words) := by
  refine (yields_inParentheses (forms.expression 0)).bind fun expression formed => ?_
  refine (yields_takesOneOf _).bind fun kept listed => yields_pure ?_
  have trailing := @trailing_elim hushed _ _ listed (by decide)
  exact (trailing.tail.cons (formed_parenthesized formed)).front front

/-- An expression in parentheses makes a row with the words before it. -/
theorem yields_check {words : String} (front : Phrase.isFront words = true) :
    Yields hushed (Row hushed) (do
      return [.text words, .parenthesized (← Reader.inParentheses inner.anyExpression)]) :=
  (yields_inParentheses (forms.expression 0)).bind fun _ formed =>
    yields_pure ((row_singleton (formed_parenthesized formed)).front front)

variable {plain : Nested} (plainForms : plain.Forms hushed)
include plainForms

/-- An option of a column is a row. -/
theorem yields_columnOption : Yields hushed (Row hushed) (columnOption inner plain) := by
  have fixed {words : String} (silent : Silent words.toList) :
      Yields hushed (Row hushed) (pure [.text words]) :=
    yields_pure (row_singleton (Phrase.formed_text silent))
  refine (yields_takesKeyword _).ite ?_ ?_
  · exact yields_qualifiedName.bind fun parts silent =>
      yields_pure ((row_singleton (formed_name silent)).front (by decide))
  refine (yields_takesKeywords _).ite ?_ ?_
  · exact fixed (by decide)
  refine (yields_takesKeyword _).ite ?_ ?_
  · exact fixed (by decide)
  refine (yields_takesKeyword _).ite ?_ ?_
  · exact (plainForms.expression 0).bind fun value formed =>
      yields_pure ((row_singleton formed).front (by decide))
  refine (yields_takesKeywords _).ite ?_ ?_
  · exact fixed (by decide)
  refine (yields_takesKeyword _).ite ?_ ?_
  · exact fixed (by decide)
  refine (yields_takesKeyword _).ite ?_ ?_
  · exact yields_reference (by decide)
  refine (yields_takesKeyword _).ite ?_ ?_
  · exact yields_check forms (by decide)
  refine (yields_takesKeywords _).ite ?_ ?_
  · exact yields_generation forms (by decide)
  refine (yields_takesKeyword _).ite ?_ ?_
  · exact yields_generation forms (by decide)
  refine (yields_takesOneOf _).bind fun word listed => ?_
  have silent : ∀ word ∈ ["AUTOINCREMENT", "ASC", "DESC"], Silent word.toList := by decide
  cases word with
  | some word => exact fixed (silent word (listed word rfl))
  | none => exact yields_pure Tail.nil.toRow

omit forms plainForms in
/-- A label can stand before any row. -/
theorem yields_labelled {α : Type} {holds : α → Prop} {after : List Phrase → Reader α}
    (goesOn : ∀ label, (∀ row, Row hushed row → Row hushed (label ++ row)) →
      Yields hushed holds (after label)) :
    Yields hushed holds (do
      if ← Reader.takesKeyword "CONSTRAINT" then
        let name ← Reader.identifier
        after [.text "CONSTRAINT ", .name [name], .text " "]
      else after []) := by
  refine (yields_takesKeyword _).ite ?_ ?_
  · refine yields_identifier.bind fun name silent => goesOn _ fun row formed => ?_
    exact ((formed.behind (by decide)).cons (formed_name_singleton silent)).front (by decide)
  · exact goesOn [] fun row formed => formed

/-- The options of a column can stand behind it. -/
theorem yields_columnOptions (fuel : Nat) :
    Yields hushed (Tail hushed) (columnOptions inner plain fuel) := by
  induction fuel with
  | zero => exact yields_refuse
  | succ fuel inductionHypothesis =>
    unfold columnOptions
    extract_lets withLabel
    refine @yields_labelled hushed _ _ withLabel fun label put => ?_
    refine (yields_columnOption forms plainForms).bind fun option row => ?_
    split
    · split
      · exact yields_pure .nil
      · exact yields_refuse
    · refine inductionHypothesis.bind fun more tail => yields_pure ?_
      simpa using (put _ (row.append tail)).behind (by decide)

/-- A column is formed. -/
theorem yields_column : Yields hushed (Formed hushed) (column inner plain) := by
  refine yields_identifier.bind fun label silent => ?_
  refine yields_peek.bind fun found _ => ?_
  extract_lets withType
  have typed : ∀ type, Trailing hushed type → Yields hushed (Formed hushed) (withType type) := by
    intro type trailing
    refine yields_get.bind fun _ _ => ?_
    refine (yields_columnOptions forms plainForms _).bind fun options tail => ?_
    exact yields_pure (formed_sequence ((trailing.cons tail).cons (formed_name_singleton silent)))
  split
  · split
    · exact typed _ (trailing_of_isBack (by decide))
    · exact DataType.yields_read.bind fun type silentType =>
        typed _ (Phrase.trailing_behind (by decide) silentType)
  · exact typed _ (trailing_of_isBack (by decide))

omit plainForms in
/-- A rule for rows is formed. -/
theorem yields_tableRule :
    Yields hushed (fun found => ∀ rule ∈ found, Formed hushed rule) inner.tableRule := by
  unfold tableRule
  extract_lets withLabel
  refine @yields_labelled hushed _ _ withLabel fun label put => ?_
  refine (yields_takesKeyword _).bind fun found _ => ?_
  extract_lets withRule
  have ended : ∀ rule, Row hushed rule →
      Yields hushed (fun found => ∀ rule ∈ found, Formed hushed rule) (withRule rule) := by
    intro rule row
    unfold withRule
    split
    · split
      · exact yields_pure (by simp)
      · exact yields_refuse
    · exact yields_pure fun phrase same => Option.some.inj same ▸ formed_sequence (put _ row)
  split
  · exact (yields_ruleColumns (by decide)).bind ended
  refine (yields_takesKeyword _).ite ?_ ?_
  · exact (yields_expectKeyword _).bind fun _ _ => (yields_ruleColumns (by decide)).bind ended
  refine (yields_takesKeyword _).ite ?_ ?_
  · refine (yields_expectKeyword _).bind fun _ _ => ?_
    refine (yields_ruleColumns (by decide)).bind fun columns row => ?_
    refine (yields_expectKeyword _).bind fun _ _ => ?_
    refine (yields_reference (by decide)).bind fun reference referenceRow => ended _ ?_
    exact row.append (referenceRow.behind (by decide))
  refine (yields_takesKeyword _).ite ?_ ?_
  · refine (yields_inParentheses (forms.expression 0)).bind fun expression formed => ?_
    refine ended [.text "CHECK ", .parenthesized expression] ?_
    exact (row_singleton (formed_parenthesized formed)).front (by decide)
  · exact ended _ Tail.nil.toRow

/-- The column or the rule that a part of a table is. -/
def TablePart.phrase : TablePart → Phrase
  | .column definition => definition
  | .rule definition => definition

/-- A part of a table is formed. -/
theorem yields_tablePart :
    Yields hushed (fun part => Formed hushed part.phrase) (tablePart inner plain) := by
  refine (yields_tableRule forms).bind fun rule formed => ?_
  cases rule with
  | some rule => exact yields_pure (formed rule rfl)
  | none =>
    refine yields_peek.bind fun found _ => ?_
    split
    · exact (yields_column forms plainForms).bind fun _ formedColumn => yields_pure formedColumn
    · exact yields_refuse

/-- The parts of a table are formed. -/
theorem yields_tableParts :
    Yields hushed (fun parts => ∀ part ∈ parts, Formed hushed part) (tableParts inner plain) := by
  refine (yields_takesSign _).ite ?_ ?_
  · refine (yields_takesSign _).ite ?_ ?_
    · exact yields_pure nofun
    · refine (yields_commaSeparated (yields_tablePart forms plainForms)).bind fun parts formed => ?_
      refine (yields_expectSign _).bind fun _ _ => yields_pure ?_
      rw [List.forall_mem_append]
      constructor
      · intro phrase member
        obtain ⟨part, inParts, same⟩ := List.mem_filterMap.mp member
        cases part with
        | column definition => exact Option.some.inj same ▸ formed _ inParts
        | rule definition => exact absurd same nofun
      · intro phrase member
        obtain ⟨part, inParts, same⟩ := List.mem_filterMap.mp member
        cases part with
        | column definition => exact absurd same nofun
        | rule definition => exact Option.some.inj same ▸ formed _ inParts
  · exact yields_pure nofun

omit plainForms in
/-- The query that defines a table can stand behind it. -/
theorem yields_definingQuery : Yields hushed (Tail hushed) inner.definingQuery := by
  refine (yields_takesKeyword _).ite ?_ ?_
  · exact forms.query.bind fun query formed =>
      yields_pure ((row_singleton formed).behind (by decide))
  · exact yields_pure .nil

/-- The definition of a table is formed. -/
theorem yields_tableDefinition {words : String}
    (fronts : ∀ condition ∈ ["IF NOT EXISTS ", ""],
      Phrase.isFront (words ++ "TABLE " ++ condition) = true) :
    Yields hushed (Formed hushed) (tableDefinition inner plain words) := by
  refine (yields_takesKeywords _).bind fun exists_ _ => ?_
  refine yields_qualifiedName.bind fun table silent => ?_
  refine (yields_tableParts forms plainForms).bind fun parts formed => ?_
  refine (yields_takesKeywords _).bind fun keyed _ => ?_
  refine (yields_takesKeyword _).bind fun strict _ => ?_
  refine (yields_definingQuery forms).bind fun query tail => yields_pure (formed_sequence ?_)
  have listed : Tail hushed (if parts.isEmpty then
        (if query.isEmpty then [Phrase.text " ()"] else [])
      else [.text " ", .parenthesized (.list parts)]) := by
    split
    · split
      · exact (trailing_of_isBack (by decide)).tail
      · exact .nil
    · exact (row_singleton (formed_parenthesized (formed_list formed))).behind (by decide)
  have options : Trailing hushed ((if keyed then " WITHOUT ROWID" else "") ++
      if strict then " STRICT" else "") := by
    cases keyed <;> cases strict <;> exact trailing_of_isBack (by decide)
  have front := fronts (if exists_ then "IF NOT EXISTS " else "") (by split <;> simp)
  have behind := (listed.append (options.cons tail)).cons (formed_name silent)
  simpa using behind.front front

omit plainForms in
/-- The definition of a view is formed. -/
theorem yields_viewDefinition {words : String}
    (fronts : ∀ condition ∈ ["IF NOT EXISTS ", ""],
      Phrase.isFront (words ++ "VIEW " ++ condition) = true) :
    Yields hushed (Formed hushed) (inner.viewDefinition words) := by
  refine (yields_takesKeywords _).bind fun exists_ _ => ?_
  refine yields_qualifiedName.bind fun view silent => ?_
  refine yields_columnList?.bind fun columns silentColumns => ?_
  refine (yields_definingQuery forms).bind fun query tail => ?_
  extract_lets defined
  have read : Yields hushed (Formed hushed) (defined ()) := by
    refine yields_pure (formed_sequence ?_)
    have front := fronts (if exists_ then "IF NOT EXISTS " else "") (by split <;> simp)
    have behind := ((tail_columns silentColumns).append tail).cons (formed_name silent)
    simpa using behind.front front
  split
  · exact yields_refuse_bind
  · exact read

/-- A definition is formed. -/
theorem yields_definition : Yields hushed (Formed hushed) (definition inner plain) := by
  refine (yields_takesKeywords _).bind fun replace _ => ?_
  refine (yields_takesOneOf _).bind fun temporary _ => ?_
  refine (yields_takesKeyword _).ite ?_ ?_
  · refine yields_tableDefinition forms plainForms ?_
    cases replace <;> cases temporary.isSome <;> decide
  · refine (yields_takesKeyword _).ite ?_ ?_
    · refine yields_viewDefinition forms ?_
      cases replace <;> cases temporary.isSome <;> decide
    · exact yields_refuse

end Nested

/-! ## Texts -/

/-- A statement is formed. -/
theorem yields_statement : Yields hushed (Formed hushed) statement := by
  have forms := @forms_nested hushed true (maxDepth - 1)
  have plainForms := @forms_nested hushed false (maxDepth - 1)
  refine yields_peekKeyword.bind fun keyword _ => ?_
  split
  · exact Nested.yields_insertion forms
  · exact yields_next.bind fun _ _ => Nested.yields_insertion forms
  · exact yields_next.bind fun _ _ => Nested.yields_update forms
  · exact yields_next.bind fun _ _ => Nested.yields_deletion forms
  · exact yields_next.bind fun _ _ => Nested.yields_definition forms plainForms
  · refine yields_peek.bind fun found _ => ?_
    split
    · exact forms.query
    · exact yields_refuse

/-- Statements are formed. -/
theorem yields_statementsFrom (fuel : Nat) (separated : Bool) :
    Yields hushed (fun statements => ∀ phrase ∈ statements, Formed hushed phrase)
      (statementsFrom fuel separated) := by
  induction fuel generalizing separated with
  | zero => exact yields_refuse
  | succ fuel inductionHypothesis =>
    refine (yields_takesSign _).ite ?_ ?_
    · exact inductionHypothesis true
    · refine yields_get.bind fun tokens _ => ?_
      split
      · exact yields_pure nofun
      · split
        · refine yields_statement.bind fun first formed => ?_
          refine (inductionHypothesis false).bind fun rest others => yields_pure ?_
          exact List.forall_mem_cons.mpr ⟨formed, others⟩
        · refine yields_peekKeyword.bind fun keyword _ => ?_
          split
          · exact yields_pure nofun
          · exact yields_refuse

/-- The statements of a silent text are formed. -/
theorem formed_readAll {text : String} {statements : List Phrase}
    (read : readAll text = some statements) (silent : SilentTo hushed text.toList) :
    Phrase.FormedAll hushed statements := by
  unfold readAll at read
  split at read
  · exact absurd read nofun
  · next tokens scanned =>
    split at read
    · next found rest run =>
      obtain rfl := Option.some.inj read
      have quiet : Hushed hushed tokens := Token.silent_scan scanned silent
      exact Phrase.formedAll_iff.mpr (yields_statementsFrom _ _ tokens quiet _ _ run).1
    · exact absurd read nofun

/-- The expression that a silent text starts with is formed. -/
theorem formed_readExpression {text : String} {expression : Phrase}
    (read : readExpression text = some expression) (silent : SilentTo hushed text.toList) :
    expression.Formed hushed := by
  unfold readExpression at read
  split at read
  · exact absurd read nofun
  · next tokens scanned =>
    split at read
    · next found rest run =>
      obtain rfl := Option.some.inj read
      have quiet : Hushed hushed tokens := Token.silent_scan scanned silent
      exact ((forms_nested true maxDepth).expression 0 tokens quiet _ _ run).1
    · exact absurd read nofun

end DialectBridge.Statement
