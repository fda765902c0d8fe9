import DialectBridge.Proofs.Statement.FormedCalls

/-!
# Queries are formed

The clauses of a query follow each other with fixed words in front of each, which begin and end
with a space. Where a clause is left out, nothing stands in its place. So each clause is a row
that can stand behind any phrase, and a query is such rows one after another.
-/

namespace DialectBridge.Statement.Nested

open Reader
open Phrase (Formed Row Tail row_singleton formed_sequence formed_list formed_name formed_nameList
  formed_name_singleton formed_parenthesized Trailing Trailing.tail trailing_of_isBack
  trailing_elim tail_columns)

variable {hushed : Mark → Prop} {inner : Nested} (forms : inner.Forms hushed)

/-! ## Tables -/

section
include forms

/-- A selected item is formed. -/
theorem yields_selectedItem : Yields hushed (Formed hushed) inner.selectedItem := by
  refine yields_star?.bind fun found formed => ?_
  cases found with
  | some star => exact yields_pure (formed star rfl)
  | none =>
    refine (forms.expression 0).bind fun item formedItem => ?_
    extract_lets labelled
    have ended : Yields hushed (Formed hushed) (labelled ()) := by
      refine (yields_aliasName _).bind fun label silent => ?_
      cases label with
      | some label =>
        refine yields_pure (formed_sequence (Tail.cons (Row.behind ?_ (by decide)) formedItem))
        exact row_singleton (formed_name_singleton (silent label rfl))
      | none => exact yields_pure formedItem
    split
    · split
      · exact yields_refuse_bind
      · exact ended
    · exact ended

end

/-- The alias of a table can stand behind it. -/
theorem yields_tableAlias : Yields hushed (Tail hushed) tableAlias := by
  refine (yields_aliasName _).bind fun label silent => ?_
  cases label with
  | some label =>
    refine yields_columnList?.bind fun columns silentColumns => yields_pure ?_
    exact ((tail_columns silentColumns).cons (formed_name_singleton (silent label rfl))).behind
      (by decide)
  | none => exact yields_pure .nil

/-- The words of a join are fixed. -/
theorem yields_joinWords :
    Yields hushed (fun found => ∀ words ∈ found, Phrase.isJoint (" " ++ words ++ " ") = true)
      joinWords := by
  have fixed {words : String} (joint : Phrase.isJoint (" " ++ words ++ " ") = true) :
      Yields hushed (fun found => ∀ words ∈ found, Phrase.isJoint (" " ++ words ++ " ") = true)
        (pure (some words)) :=
    yields_pure fun _ same => Option.some.inj same ▸ joint
  refine (yields_takesKeyword _).ite ?_ ?_
  · exact (yields_expectKeyword _).bind fun _ _ => fixed (by decide)
  · refine (yields_takesKeyword _).bind fun natural _ => ?_
    refine yields_peekKeyword.bind fun keyword _ => ?_
    split
    · refine yields_next.bind fun _ _ => fixed ?_
      cases natural <;> decide
    · refine yields_next.bind fun _ _ => (yields_expectKeyword _).bind fun _ _ => fixed ?_
      cases natural <;> decide
    · refine yields_next.bind fun _ _ => (yields_takesKeyword _).bind fun _ _ => ?_
      refine (yields_expectKeyword _).bind fun _ _ => fixed ?_
      cases natural <;> decide
    · exact yields_refuse
    · split
      · next side =>
        refine yields_next.bind fun _ _ => (yields_takesKeyword _).bind fun outer _ => ?_
        refine (yields_expectKeyword _).bind fun _ _ => fixed ?_
        rw [Bool.or_eq_true, decide_eq_true_eq, decide_eq_true_eq] at side
        rcases side with rfl | rfl <;> cases natural <;> cases outer <;> decide
      · cases natural
        · exact yields_pure nofun
        · exact yields_refuse

include forms

/-- A query in parentheses is formed as a table. -/
theorem yields_derivedTable : Yields hushed (Formed hushed) inner.derivedTable := by
  refine forms.query.bind fun query formed => ?_
  refine (yields_expectSign _).bind fun _ _ => ?_
  refine yields_tableAlias.bind fun alias_ tail => yields_pure ?_
  exact formed_sequence (tail.cons (formed_parenthesized formed))

/-- A table is formed by its name. -/
theorem yields_namedTable : Yields hushed (Formed hushed) inner.namedTable := by
  refine yields_peekKeyword.bind fun keyword _ => ?_
  extract_lets named
  have read : Yields hushed (Formed hushed) (named ()) := by
    refine yields_qualifiedName.bind fun table silent => ?_
    refine (yields_takesSign _).bind fun found _ => ?_
    extract_lets withArguments
    have ended : ∀ arguments, (∀ tail, Tail hushed tail → Tail hushed (arguments ++ tail)) →
        Yields hushed (Formed hushed) (withArguments arguments) := by
      intro arguments put
      refine yields_tableAlias.bind fun label tail => yields_pure ?_
      exact formed_sequence ((put _ tail).cons (formed_name silent))
    cases found
    · exact ended [] fun tail apart => apart
    · have listed : ∀ items, (∀ item ∈ items, Formed hushed item) →
          Yields hushed (Formed hushed) (do
            Reader.expectSign ")"
            withArguments [Phrase.parenthesized (.list items)]) := by
        intro items formed
        refine (yields_expectSign _).bind fun _ _ => ended _ fun tail apart => ?_
        exact apart.parenthesized_cons (formed_list formed)
      refine yields_peek.bind fun next _ => ?_
      split
      · exact listed [] nofun
      · exact (yields_commaSeparated (yields_argument forms)).bind listed
  split
  · exact yields_refuse_bind
  · exact read

/-- The condition of a join can stand behind a table. -/
theorem yields_joinCondition (words : String) :
    Yields hushed (Tail hushed) (inner.joinCondition words) := by
  unfold joinCondition
  split
  · exact yields_pure .nil
  · refine (yields_takesKeyword _).ite ?_ ?_
    · refine (forms.expression 0).bind fun condition formed => yields_pure ?_
      exact (row_singleton formed).behind (by decide)
    · refine (yields_takesKeyword _).ite ?_ ?_
      · refine yields_columnList.bind fun columns silent => yields_pure ?_
        have listed := Tail.nil.parenthesized_cons (formed_nameList silent)
        exact (trailing_of_isBack (by decide)).cons listed
      · exact yields_pure .nil

/-- Joins can stand behind a table, if tables are formed. -/
theorem yields_joinsWith {table : Reader (Phrase × Bool)}
    (yieldsTable : Yields hushed (fun found => Formed hushed found.1) table) (fuel : Nat) :
    Yields hushed (Tail hushed) (inner.joinsWith table fuel) := by
  induction fuel with
  | zero => exact yields_refuse
  | succ fuel inductionHypothesis =>
    refine yields_joinWords.bind fun found joint => ?_
    cases found with
    | none => exact yields_pure .nil
    | some words =>
      refine yieldsTable.bind fun joined formed => ?_
      refine (yields_joinCondition forms words).bind fun condition tail => ?_
      refine inductionHypothesis.bind fun rest others => yields_pure ?_
      exact (tail.cons formed).sequence_cons (joint words rfl) others

/-- A table with joins is formed. -/
theorem yields_joinedWith {table : Reader (Phrase × Bool)}
    (yieldsTable : Yields hushed (fun found => Formed hushed found.1) table) :
    Yields hushed (fun found => Formed hushed found.1) (inner.joinedWith table) := by
  refine yieldsTable.bind fun first formed => ?_
  refine yields_get.bind fun _ _ => ?_
  refine (yields_joinsWith forms yieldsTable _).bind fun joins tail => yields_pure ?_
  exact formed_sequence (tail.cons formed)

/-- A table within parentheses is formed. -/
theorem yields_tableWithin (fuel : Nat) :
    Yields hushed (fun found => Formed hushed found.1) (inner.tableWithin fuel) := by
  induction fuel with
  | zero => exact yields_refuse
  | succ fuel inductionHypothesis =>
    refine (yields_takesSign _).ite ?_ ?_
    · refine (yields_derivedTable forms).attempt.bind fun found formed => ?_
      cases found with
      | some table => exact yields_pure (formed table rfl)
      | none =>
        refine (yields_joinedWith forms inductionHypothesis).bind fun table formed => ?_
        obtain ⟨table, isJoin⟩ := table
        have ended : Yields hushed (fun found => Formed hushed found.1) (do
            Reader.expectSign ")"
            return (.sequence (.parenthesized table :: (← tableAlias)), true)) := by
          refine (yields_expectSign _).bind fun _ _ => ?_
          refine yields_tableAlias.bind fun label tail => yields_pure ?_
          exact formed_sequence (tail.cons (formed_parenthesized formed))
        cases isJoin
        · exact yields_refuse_bind
        · exact ended
    · exact (yields_namedTable forms).bind fun table formed => yields_pure formed

/-- Tables with joins are formed. -/
theorem yields_joinedTables : Yields hushed (Formed hushed) inner.joinedTables := by
  refine yields_get.bind fun _ _ => ?_
  exact (yields_joinedWith forms (yields_tableWithin forms _)).bind fun table formed =>
    yields_pure formed

/-! ## Selections -/

/-- A grouping is a row. -/
theorem yields_grouping : Yields hushed (Row hushed) inner.grouping := by
  refine (yields_takesKeywords _).ite ?_ ?_
  · refine (yields_takesKeyword _).bind fun all _ => ?_
    cases all
    · refine (yields_commaSeparated (forms.expression 0)).bind fun items formed => yields_pure ?_
      exact (row_singleton (formed_list formed)).front (by decide)
    · exact yields_pure (row_singleton (Phrase.formed_text (by decide)))
  · exact yields_pure Tail.nil.toRow

/-- A window with its name is formed. -/
theorem yields_namedWindow : Yields hushed (Formed hushed) inner.namedWindow := by
  refine yields_identifier.bind fun label silent => ?_
  refine (yields_expectKeyword _).bind fun _ _ => ?_
  refine (yields_takesSign _).bind fun found _ => ?_
  have ended {window : Phrase} (formed : Formed hushed window) :
      Yields hushed (Formed hushed) (pure (.sequence [.name [label], .text " AS ", window])) := by
    refine yields_pure (formed_sequence ?_)
    exact ((row_singleton formed).behind (by decide)).cons (formed_name_singleton silent)
  cases found
  · exact yields_identifier.bind fun window silentWindow =>
      ended (formed_name_singleton silentWindow)
  · exact (yields_window forms).bind fun _ => ended

/-- The windows of a selection are a row. -/
theorem yields_namedWindows : Yields hushed (Row hushed) inner.namedWindows := by
  refine (yields_takesKeyword _).ite ?_ ?_
  · refine (yields_commaSeparated (yields_namedWindow forms)).bind fun items formed => ?_
    exact yields_pure ((row_singleton (formed_list formed)).front (by decide))
  · exact yields_pure Tail.nil.toRow

/-- The tables of a selection are a row. -/
theorem yields_tables : Yields hushed (Row hushed) inner.tables := by
  refine (yields_takesKeyword _).ite ?_ ?_
  · refine (yields_commaSeparated (yields_joinedTables forms)).bind fun items formed => ?_
    exact yields_pure ((row_singleton (formed_list formed)).front (by decide))
  · exact yields_pure Tail.nil.toRow

/-- A selection is formed. -/
theorem yields_selection : Yields hushed (Formed hushed) inner.selection := by
  refine (yields_expectKeyword _).bind fun _ _ => ?_
  refine yields_quantifier.bind fun quantifier _ => ?_
  refine yields_peekKeyword.bind fun keyword _ => ?_
  extract_lets named
  have read : Yields hushed (Formed hushed) (named ()) := by
    refine (yields_commaSeparated (yields_selectedItem forms)).bind fun items formed => ?_
    refine (yields_tables forms).bind fun tables tableRow => ?_
    refine (yields_clause forms (by decide)).bind fun condition conditionRow => ?_
    refine (yields_grouping forms).bind fun grouping groupingRow => ?_
    refine (yields_clause forms (by decide)).bind fun having havingRow => ?_
    refine (yields_namedWindows forms).bind fun windows windowRow => yields_pure ?_
    have rows : ∀ row ∈ [tables, condition, grouping, having, windows].map spaced,
        Tail hushed row := by
      simp [tableRow.spaced, conditionRow.spaced, groupingRow.spaced, havingRow.spaced,
        windowRow.spaced]
    refine formed_sequence (((Phrase.tail_flatten rows).cons (formed_list formed)).front ?_)
    split <;> decide
  split
  · exact yields_refuse_bind
  · exact read

/-- A row of values is formed. -/
theorem yields_row : Yields hushed (Formed hushed) inner.row := by
  refine (yields_inParentheses (yields_commaSeparated (forms.expression 0))).bind ?_
  intro items formed
  exact yields_pure (formed_parenthesized (formed_list formed))

/-! ## Queries -/

/-- What set operators stand between is formed. -/
theorem yields_operand : Yields hushed (Formed hushed) inner.operand := by
  refine yields_peekKeyword.bind fun keyword _ => ?_
  split
  · exact yields_selection forms
  · refine (yields_takesSign _).ite ?_ ?_
    · refine forms.query.bind fun query formed => ?_
      exact (yields_expectSign _).bind fun _ _ => yields_pure (formed_parenthesized formed)
    · refine (yields_takesKeyword _).ite ?_ ?_
      · refine (yields_commaSeparated (yields_row forms)).bind fun rows formed => yields_pure ?_
        exact formed_sequence ((row_singleton (formed_list formed)).front (by decide))
      · exact yields_refuse

/-- Set operators with their operands can stand behind an operand. -/
theorem yields_operations (fuel : Nat) : Yields hushed (Tail hushed) (inner.operations fuel) := by
  induction fuel with
  | zero => exact yields_refuse
  | succ fuel inductionHypothesis =>
    refine (yields_takesOneOf _).bind fun operator listed => ?_
    cases operator with
    | none => exact yields_pure .nil
    | some operator =>
      refine (yields_takesOneOf _).bind fun kind kinds => ?_
      refine (yields_operand forms).bind fun operand formed => ?_
      refine inductionHypothesis.bind fun rest tail => yields_pure ?_
      have joints : ∀ operator ∈ ["UNION", "EXCEPT", "INTERSECT", "MINUS"],
          ∀ kind ∈ [none, some "ALL", some "DISTINCT"],
            Phrase.isJoint (" " ++ operator ++ kind.elim "" (" " ++ ·) ++ " ") = true := by
        decide
      refine (tail.cons formed).behind (joints operator (listed operator rfl) kind ?_)
      cases kind with
      | none => exact List.mem_cons_self
      | some kind => simpa using kinds kind rfl

/-- The body of a query is formed. -/
theorem yields_body : Yields hushed (Formed hushed) inner.body := by
  refine (yields_operand forms).bind fun first formed => yields_get.bind fun _ _ => ?_
  refine (yields_operations forms _).bind fun operations tail => yields_pure ?_
  exact formed_sequence (tail.cons formed)

/-- A limit is formed. -/
theorem yields_limit :
    Yields hushed (fun found => ∀ limit ∈ found, Formed hushed limit) inner.limit := by
  refine (yields_takesKeyword _).ite ?_ ?_
  · exact yields_pure nofun
  · refine (forms.expression 0).bind fun limit formed => yields_pure ?_
    rintro _ ⟨⟩
    exact formed

/-- The bounds of a query that are formed. -/
structure FormedBounds (hushed : Mark → Prop) (bounds : Bounds) : Prop where
  limit : ∀ limit ∈ bounds.limit, Formed hushed limit
  offset : ∀ offset ∈ bounds.offset, Formed hushed offset

/-- A turn of bounds keeps them formed. -/
theorem yields_boundsTurn {bounds : Bounds} (formed : FormedBounds hushed bounds) :
    Yields hushed (FormedBounds hushed) (inner.boundsTurn bounds) := by
  have commaTurn (bounds : Bounds) (formed : FormedBounds hushed bounds) :
      Yields hushed (FormedBounds hushed) (do
        if bounds.limit.isSome && bounds.offset.isNone then
          if ← Reader.takesSign "," then
            let count ← inner.anyExpression
            return { limit := some count, offset := bounds.limit }
          else return bounds
        else return bounds) := by
    split
    · refine (yields_takesSign _).ite ?_ ?_
      · refine (forms.expression 0).bind fun count formedCount => yields_pure ⟨?_, formed.limit⟩
        rintro _ ⟨⟩
        exact formedCount
      · exact yields_pure formed
    · exact yields_pure formed
  have offsetTurn {next : Bounds → Reader Bounds} (bounds : Bounds)
      (formed : FormedBounds hushed bounds)
      (after : ∀ bounds, FormedBounds hushed bounds →
        Yields hushed (FormedBounds hushed) (next bounds)) :
      Yields hushed (FormedBounds hushed) (do
        if bounds.offset.isNone then
          if ← Reader.takesKeyword "OFFSET" then
            let offset ← inner.anyExpression
            let rows ← Reader.takesOneOf ["ROW", "ROWS"]
            let unit := Phrase.text (rows.elim "" (" " ++ ·))
            next { bounds with offset := some (.sequence [offset, unit]) }
          else next bounds
        else next bounds) := by
    split
    · refine (yields_takesKeyword _).ite ?_ ?_
      · refine (forms.expression 0).bind fun offset formedOffset => ?_
        refine (yields_takesOneOf _).bind fun rows listed => after _ ⟨formed.limit, ?_⟩
        rintro _ ⟨⟩
        exact formed_sequence ((trailing_elim listed (by decide)).tail.cons formedOffset)
      · exact after _ formed
    · exact after _ formed
  unfold boundsTurn
  dsimp only
  split
  · refine (yields_takesKeyword _).ite ?_ ?_
    · refine (yields_limit forms).bind fun limit formedLimit => ?_
      exact offsetTurn ⟨limit, bounds.offset⟩ ⟨formedLimit, formed.offset⟩ commaTurn
    · exact offsetTurn _ formed commaTurn
  · exact offsetTurn _ formed commaTurn

/-- The bounds of a query can stand behind it. -/
theorem yields_bounds : Yields hushed (Tail hushed) inner.bounds := by
  refine (yields_boundsTurn forms ⟨by simp, by simp⟩).bind fun first formedFirst => ?_
  refine (yields_boundsTurn forms formedFirst).bind fun bounds formed => yields_pure ?_
  obtain ⟨limit, offset⟩ := bounds
  have bound {words : String} (joint : Phrase.isJoint words = true) {found : Option Phrase}
      (formed : ∀ phrase ∈ found, Formed hushed phrase) :
      Tail hushed (found.elim [] ([.text words, ·])) := by
    cases found with
    | none => exact .nil
    | some phrase => exact (row_singleton (formed phrase rfl)).behind joint
  exact (bound (by decide) formed.limit).append (bound (by decide) formed.offset)

/-- A query with its name is formed. -/
theorem yields_namedQuery : Yields hushed (Formed hushed) inner.namedQuery := by
  refine yields_identifier.bind fun label silent => ?_
  refine yields_columnList?.bind fun columns silentColumns => ?_
  refine (yields_expectKeyword _).bind fun _ _ => ?_
  refine (yields_inParentheses forms.query).bind fun query formed => yields_pure ?_
  refine formed_sequence (Row.append ?_ ?_)
  · exact (tail_columns silentColumns).cons (formed_name_singleton silent)
  · exact (row_singleton (formed_parenthesized formed)).behind (by decide)

/-- The named queries before a query end with a space, if there are any. -/
theorem yields_namedQueries :
    Yields hushed (fun named => ∀ row, Row hushed row → Row hushed (named ++ row))
      inner.namedQueries := by
  refine (yields_takesKeyword _).ite ?_ ?_
  · refine (yields_takesKeyword _).bind fun recursive _ => ?_
    refine (yields_commaSeparated (yields_namedQuery forms)).bind fun items formed => ?_
    refine yields_pure fun row formedRow => ?_
    refine ((formedRow.behind (by decide)).cons (formed_list formed)).front ?_
    cases recursive <;> decide
  · exact yields_pure fun row formed => formed

/-- A query is formed. -/
theorem yields_queryAbove : Yields hushed (Formed hushed) inner.queryAbove := by
  refine (yields_namedQueries forms).bind fun named before => ?_
  refine (yields_body forms).bind fun body formed => ?_
  refine (yields_ordering forms).bind fun order orderRow => ?_
  refine (yields_bounds forms).bind fun bounds tail => yields_pure (formed_sequence ?_)
  have behind := (orderRow.spaced.append tail).cons formed
  simpa using before _ behind

end DialectBridge.Statement.Nested
