import DialectBridge.Proofs.Statement.Selection
import DialectBridge.Proofs.Statement.Substitution

/-!
# What rewriting preserves

A statement that is rewritten is meant to become the statement with the native forms of its
calls, each of them one operand. The text that comes out is always read again, but the
native forms are spliced into it without parentheses. It is read as what is meant exactly
if no operator around a native form binds tighter than the native form does, and if every
part of a text says where it starts.
-/

namespace DialectBridge.Statement

open Except (eq_ok_of_toOption ok_of_bind)
open Phrase (bareAll)

namespace Phrase

/-- Phrases are changed one by one between signs that are not changed. -/
theorem map_separated {change : Phrase → Phrase} {sign : String}
    (kept : change (text sign) = text sign) (phrases : List Phrase) :
    (separated sign phrases).map change = separated sign (phrases.map change) := by
  unfold separated
  induction phrases with
  | nil => rfl
  | cons phrase rest inductionHypothesis =>
    cases rest with
    | nil => rfl
    | cons next more =>
      simp only [List.map_cons, List.intersperse_cons_cons] at inductionHypothesis ⊢
      rw [kept, inductionHypothesis]

/-- Phrases are told apart with signs between them. -/
theorem separated_injective {sign : String} {first second : List Phrase}
    (same : separated sign first = separated sign second) : first = second := by
  unfold separated at same
  refine List.ext_getElem? fun position => ?_
  have there : (first.intersperse (text sign))[2 * position]? = first[position]? :=
    List.getElem?_intersperse_two_mul
  rw [← there, same, List.getElem?_intersperse_two_mul]

/-- The bare tree of a list of phrases. -/
theorem bare_list (phrases : List Phrase) : (list phrases).bare = list (phrases.map bare) := by
  rw [list, bare, bareAll_eq_map, map_separated rfl, list]
  match phrases.map bare with
  | [] => rfl
  | [phrase] => exact unparenthesized_of_length (by simp [separated])
  | first :: second :: rest => exact unparenthesized_text _ _ _

/-- What a list of phrases is meant to become. -/
theorem meant_list (phrases : List Phrase) :
    (list phrases).meant = list (phrases.map meant) := by
  rw [list, meant, meantAll_eq_map, map_separated rfl, list]

end Phrase

/-- A text that is rewritten to another is preserved if the other is read again, and is
read as what is meant but for parentheses. -/
def Preserves (text out : String) : Prop :=
  ∃ before after, readAll text = some before ∧ readAll out = some after ∧
    bareAll after = bareAll (Phrase.meantAll before)

/-- What an expression is written as is read as what is meant exactly if what is meant fits
and parts of texts say where they start. -/
theorem Emulated.bare_rearranged_iff (expression : Emulated) :
    expression.written.rearranged.phrase.bare = expression.meant.phrase.bare ↔
      expression.meant.fits 0 = true ∧ expression.saysStarts = true := by
  have sameTokens := expression.written.sameText_rearranged.tokens
  constructor
  · intro bare
    have leaves : expression.written.tokens.countP isLeaf =
        expression.meant.tokens.countP isLeaf := by
      rw [← sameTokens, ← Formula.leaves_bare, bare, Formula.leaves_bare]
    have starts := expression.leaves_written.2 leaves
    have same : expression.written = expression.meant :=
      expression.native_of_saysStarts starts [] [.one]
    rw [same] at bare sameTokens
    have rearranged := Formula.eq_of_bare _ _ bare sameTokens
    exact ⟨rearranged ▸ Formula.fits_rearranged _, starts⟩
  · rintro ⟨fits, starts⟩
    have same : expression.written = expression.meant :=
      expression.native_of_saysStarts starts [] [.one]
    rw [same, Formula.rearranged_of_fits _ fits]

/-- A text that is rewritten has been read, and its statements have been rewritten. -/
theorem rewritesAll_of_rewrite {text out : String} (rewritten : rewrite text = .ok (some out)) :
    ∃ statements results, readAll text = some statements ∧
      Phrase.RewritesAll statements results ∧
      out = "; ".intercalate (Phrase.renderAll results) := by
  unfold rewrite at rewritten
  split at rewritten
  · unfold rewriteStatements at rewritten
    cases read : readAll text with
    | none => simp [read, pure, Except.pure] at rewritten
    | some statements =>
      simp only [read] at rewritten
      obtain ⟨results, run, rewritten⟩ := ok_of_bind rewritten
      split at rewritten
      · simp only [pure, Except.pure, Except.ok.injEq, Option.some.injEq] at rewritten
        exact ⟨statements, _, rfl, ⟨_, run, rfl⟩, rewritten.symm⟩
      · simp [pure, Except.pure] at rewritten
  · simp at rewritten

namespace Selection

open Emulated (phrases nativeAll)

/-- The name of a table is not rewritten. -/
theorem rewritesAll_table {table : Option PlainName} {results : List Phrase}
    (rewrites : Phrase.RewritesAll (Nested.spaced (tablePhrases table)) results) :
    results = Nested.spaced (tablePhrases table) := by
  cases table with
  | none => simpa [tablePhrases, Nested.spaced] using rewrites
  | some name =>
    simpa [tablePhrases, Nested.spaced, Phrase.list, Phrase.separated] using rewrites

/-- A condition is rewritten to one that has the text of the native forms. -/
theorem rewritesAll_condition {condition : Option Emulated}
    (spaced : ∀ expression ∈ condition, expression.written.spacesMinus = true)
    (shallow : ∀ expression ∈ condition, expression.written.rearranged.depth ≤ deepest)
    {results : List Phrase} (rewrites : Phrase.RewritesAll
      (Nested.spaced (conditionPhrases (condition.map Emulated.phrase))) results) :
    ∃ done : Option Formula,
      results = Nested.spaced (conditionPhrases (done.map Formula.phrase)) ∧
        conditionChars done = conditionChars (condition.map Emulated.written) := by
  cases condition with
  | none =>
    refine ⟨none, ?_, rfl⟩
    simpa [conditionPhrases, Nested.spaced] using rewrites
  | some expression =>
    simp only [Option.map_some, conditionPhrases, Nested.spaced, List.isEmpty_cons,
      Bool.false_eq_true, if_false, Phrase.rewritesAll_cons, Phrase.rewrites_text,
      Phrase.rewritesAll_nil] at rewrites
    obtain ⟨_, _, rfl, ⟨_, _, rfl, ⟨result, _, head, rfl, rfl⟩, rfl⟩, rfl⟩ := rewrites
    obtain ⟨formula, rfl, same⟩ := expression.rewrites_phrase (spaced expression rfl)
      (Nat.le_trans (shallow expression rfl) (by decide)) head
    exact ⟨some formula, rfl, by simp only [Option.map_some, conditionChars, same.chars]⟩

/-- Columns are rewritten to those that have the texts of the native forms. -/
theorem rewritesAll_columns {columns : List Emulated}
    (spaced : ∀ expression ∈ columns, expression.written.spacesMinus = true)
    (shallow : ∀ expression ∈ columns, expression.written.rearranged.depth ≤ deepest)
    {results : List Phrase}
    (rewrites : Phrase.RewritesAll (columns.map Emulated.phrase) results) :
    ∃ done, results = Formula.phrases done ∧
      Formula.SameTexts done (columns.map Emulated.written) := by
  have spacedAll : Formula.spacesMinusAll (nativeAll [] columns) = true := by
    refine Formula.spacesMinusAll_of_forall ?_
    rw [Emulated.nativeAll_eq_map]
    simpa using spaced
  have shallowAll : Formula.depthAll (Formula.rearrangedAll (nativeAll [] columns)) ≤
      deepestExpression := by
    refine Nat.le_trans (Formula.depthAll_le ?_) (by decide : deepest ≤ deepestExpression)
    rw [Emulated.nativeAll_eq_map, Formula.rearrangedAll_eq_map]
    simpa using shallow
  rw [← Emulated.phrases_eq_map] at rewrites
  rw [← Emulated.nativeAll_eq_map]
  exact Emulated.rewritesAll_phrases columns spacedAll shallowAll rewrites

/-- A selection is rewritten to one that has the text of the native forms. -/
theorem rewrites_phrase {selection : Selection Emulated}
    (spaced : ∀ expression ∈ selection.parts, expression.written.spacesMinus = true)
    (shallow : ∀ expression ∈ selection.parts, expression.written.rearranged.depth ≤ deepest)
    {result : Phrase} (rewrites : Phrase.Rewrites (selection.map Emulated.phrase).phrase result) :
    ∃ done : Selection Formula, result = (done.map Formula.phrase).phrase ∧
      done.chars = (selection.map Emulated.written).chars := by
  obtain ⟨first, others, table, condition⟩ := selection
  have ofColumns {expression : Emulated} (member : expression ∈ first :: others) :
      expression ∈ parts ⟨first, others, table, condition⟩ := List.mem_append_left _ member
  have ofCondition {expression : Emulated} (member : expression ∈ condition) :
      expression ∈ parts ⟨first, others, table, condition⟩ :=
    List.mem_append_right _ (by simpa using member)
  simp only [phrase, map, columns, Phrase.rewrites_sequence, Phrase.rewritesAll_cons,
    Phrase.rewritesAll_nil, Phrase.rewrites_text] at rewrites
  obtain ⟨_, ⟨_, _, ⟨_, ⟨_, _, ⟨_, ⟨_, _, rfl, ⟨list, tail, listRewrites, tailRewrites, rfl⟩, rfl⟩,
    rfl⟩, rfl, rfl⟩, rfl⟩, rfl, rfl⟩, rfl⟩ := rewrites
  obtain ⟨tableDone, conditionDone, tableRewrites, conditionRewrites, rfl⟩ :=
    Phrase.rewritesAll_append.mp tailRewrites
  obtain rfl := rewritesAll_table tableRewrites
  obtain ⟨conditionFormula, rfl, sameCondition⟩ := rewritesAll_condition
    (fun expression member => spaced expression (ofCondition member))
    (fun expression member => shallow expression (ofCondition member)) conditionRewrites
  obtain ⟨_, separated, rfl⟩ := Phrase.rewrites_sequence.mp listRewrites
  obtain ⟨_, columnsRewrite, rfl⟩ := separated.separated
  obtain ⟨done, rfl, sameColumns⟩ := rewritesAll_columns
    (fun expression member => spaced expression (ofColumns member))
    (fun expression member => shallow expression (ofColumns member)) columnsRewrite
  obtain ⟨sameChars, _⟩ := sameColumns.between
  cases sameColumns with
  | @cons formula _ rest _ head tail =>
    refine ⟨⟨formula, rest, table, conditionFormula⟩, ?_, ?_⟩
    · simp only [phrase, map, columns, Formula.phrases, Formula.phrases_eq_map]
      rfl
    · simp only [chars, map, columns, sameCondition]
      rw [sameChars, List.map_cons]

/-! ## Reading what comes out -/

/-- Selections of formulas with the same texts have the same tokens. -/
theorem tokens_map_eq {selection : Selection Emulated} {change other : Emulated → Formula}
    (same : ∀ expression, (change expression).SameText (other expression)) :
    (selection.map change).tokens = (selection.map other).tokens := by
  obtain ⟨first, others, table, condition⟩ := selection
  have columnsSame (expressions : List Emulated) :
      Formula.SameTexts (expressions.map change) (expressions.map other) := by
    induction expressions with
    | nil => exact .nil
    | cons expression rest inductionHypothesis => exact .cons (same expression) inductionHypothesis
  have conditionSame : conditionTokens (condition.map change) =
      conditionTokens (condition.map other) := by
    cases condition with
    | none => rfl
    | some expression => simp only [Option.map_some, conditionTokens, (same expression).tokens]
  have between := (columnsSame (first :: others)).between.2
  rw [List.map_cons, List.map_cons] at between
  simp only [tokens, map, columns, conditionSame, between]

/-- The text that a selection is rewritten to is read again, as the selection of what is
written, rearranged. -/
theorem readAll_of_rewrite {selection : Selection Emulated} {text out : String}
    (read : readAll text = some [(selection.map Emulated.phrase).phrase])
    (rewritten : rewrite text = .ok (some out))
    (spaced : ∀ expression ∈ selection.parts, expression.written.spacesMinus = true)
    (shallow : ∀ expression ∈ selection.parts, expression.written.rearranged.depth ≤ deepest) :
    readAll out = some [((selection.map fun expression => expression.written.rearranged).map
      Formula.phrase).phrase] := by
  obtain ⟨statements, results, readAs, rewrites, rfl⟩ := rewritesAll_of_rewrite rewritten
  obtain rfl : statements = [(selection.map Emulated.phrase).phrase] := by
    rw [read, Option.some.injEq] at readAs
    exact readAs.symm
  obtain ⟨_, _, head, tail, rfl⟩ := Phrase.rewritesAll_cons.mp rewrites
  obtain rfl := Phrase.rewritesAll_nil.mp tail
  obtain ⟨done, rfl, sameChars⟩ := rewrites_phrase spaced shallow head
  refine readAll_of_scan ?_ ?_ ?_
  · intro formula member
    rw [parts_map, List.mem_map] at member
    obtain ⟨expression, _, rfl⟩ := member
    exact expression.written.fits_rearranged
  · intro formula member
    rw [parts_map, List.mem_map] at member
    obtain ⟨expression, inside, rfl⟩ := member
    exact shallow expression inside
  · rw [tokens_map_eq fun expression => expression.written.sameText_rearranged]
    refine scan_chars ?_ ?_
    · intro formula member
      rw [parts_map, List.mem_map] at member
      obtain ⟨expression, inside, rfl⟩ := member
      exact spaced expression inside
    · rw [← sameChars, ← toList_render]
      simp [Phrase.renderAll]

/-! ## Comparing trees -/

/-- The bare tree of a selection is the selection of the bare trees. -/
theorem bare_phrase (selection : Selection Phrase) :
    selection.phrase.bare = (selection.map Phrase.bare).phrase := by
  obtain ⟨first, others, table, condition⟩ := selection
  have columnsBare := Phrase.bare_list (first :: others)
  have tableBare : (Nested.spaced (tablePhrases table)).map Phrase.bare =
      Nested.spaced (tablePhrases table) := by
    cases table <;> rfl
  have conditionBare : (Nested.spaced (conditionPhrases condition)).map Phrase.bare =
      Nested.spaced (conditionPhrases (condition.map Phrase.bare)) := by
    cases condition <;> rfl
  have short (phrase : Phrase) : Phrase.unparenthesized [phrase] = .sequence [phrase] :=
    Phrase.unparenthesized_of_length (by simp)
  simp only [phrase, columns, map, Phrase.bare, bareAll, columnsBare,
    Phrase.bareAll_eq_map, List.map_append, tableBare, conditionBare, short, List.map_cons,
    Phrase.unparenthesized_of_ne (by decide : "SELECT " ≠ "(")]

/-- A selection is meant to become the selection of what its parts are meant to become. -/
theorem meant_phrase (selection : Selection Phrase) :
    selection.phrase.meant = (selection.map Phrase.meant).phrase := by
  obtain ⟨first, others, table, condition⟩ := selection
  have columnsMeant := Phrase.meant_list (first :: others)
  have tableMeant : (Nested.spaced (tablePhrases table)).map Phrase.meant =
      Nested.spaced (tablePhrases table) := by
    cases table <;> rfl
  have conditionMeant : (Nested.spaced (conditionPhrases condition)).map Phrase.meant =
      Nested.spaced (conditionPhrases (condition.map Phrase.meant)) := by
    cases condition <;> rfl
  simp only [phrase, columns, map, Phrase.meant, Phrase.meantAll, columnsMeant,
    Phrase.meantAll_eq_map, List.map_append, tableMeant, conditionMeant, List.map_cons]

/-- Changed selections are the same if their parts are. -/
theorem phrase_map_eq_iff {α : Type} (selection : Selection α) (change other : α → Phrase) :
    (selection.map change).phrase = (selection.map other).phrase ↔
      ∀ part ∈ selection.parts, change part = other part := by
  obtain ⟨first, others, table, condition⟩ := selection
  constructor
  · intro same
    simp only [phrase, map, columns, Phrase.sequence.injEq, List.cons.injEq, and_true, true_and,
      Phrase.list, List.append_cancel_left_eq] at same
    have columnsSame := Phrase.separated_injective same.1
    have conditionSame : ∀ part ∈ condition, change part = other part := by
      rintro part ⟨⟩
      simpa [conditionPhrases, Nested.spaced] using same.2
    rw [← List.map_cons, ← List.map_cons, List.map_inj_left] at columnsSame
    intro part member
    rcases List.mem_append.mp member with member | member
    · exact columnsSame part member
    · exact conditionSame part (by simpa using member)
  · intro same
    have columnsSame : (first :: others).map change = (first :: others).map other :=
      List.map_congr_left fun part member => same part (List.mem_append_left _ member)
    have conditionSame : condition.map change = condition.map other :=
      Option.map_congr fun part member =>
        same part (List.mem_append_right _ (by simpa using member))
    simp only [phrase, map, columns, ← List.map_cons, columnsSame, conditionSame]

/-- A text that is rewritten is preserved if every expression in it is read again as what
is meant, but for parentheses. -/
theorem preserves_iff_bare {selection : Selection Emulated} {text out : String}
    (read : readAll text = some [(selection.map Emulated.phrase).phrase])
    (rewritten : rewrite text = .ok (some out))
    (spaced : ∀ expression ∈ selection.parts, expression.written.spacesMinus = true)
    (shallow : ∀ expression ∈ selection.parts, expression.written.rearranged.depth ≤ deepest) :
    Preserves text out ↔ ∀ expression ∈ selection.parts,
      expression.written.rearranged.phrase.bare = expression.meant.phrase.bare := by
  have again := readAll_of_rewrite read rewritten spaced shallow
  have trees : bareAll [((selection.map fun expression => expression.written.rearranged).map
        Formula.phrase).phrase] =
      bareAll (Phrase.meantAll [(selection.map Emulated.phrase).phrase]) ↔
      ∀ expression ∈ selection.parts,
        expression.written.rearranged.phrase.bare = expression.meant.phrase.bare := by
    simp only [bareAll, Phrase.meantAll, bare_phrase, meant_phrase, List.cons.injEq, and_true]
    simp only [map_map]
    rw [phrase_map_eq_iff]
    simp only [Emulated.meant_phrase, Function.comp_def]
  rw [← trees]
  constructor
  · rintro ⟨before, after, readBefore, readAfter, same⟩
    rw [read, Option.some.injEq] at readBefore
    rw [again, Option.some.injEq] at readAfter
    rw [readBefore, readAfter]
    exact same
  · exact fun same => ⟨_, _, read, again, same⟩

end Selection

/-- The name of the function that asks for a lock. -/
def lockName : PlainName := ⟨['g', 'e', 't', '_', 'l', 'o', 'c', 'k'], by decide⟩

/-- The least of a column and a number, where a lock is held. -/
def minimumUnderLock : Selection Emulated where
  first := .call ⟨['l', 'e', 'a', 's', 't'], by decide⟩
    [.column ⟨['a'], by decide⟩, .number ⟨['2'], by decide⟩]
  others := []
  table := some ⟨['t'], by decide⟩
  condition := some (.call lockName [.literal ⟨['x'], by decide⟩, .number .one])

/-- A product with a lock. -/
def productWithLock : Emulated :=
  .binary (.sign "*" 40 (by decide)) (.number ⟨['2'], by decide⟩)
    (.call lockName [.literal ⟨['a'], by decide⟩, .number .one])

/-- A part of a text that does not say where it starts is given its length as its start. -/
example : (rewrite "SELECT SUBSTRING(x FOR b) FROM t").toOption =
      some (some "SELECT substr(x, b) FROM t") ∧
    (readAll "SELECT SUBSTRING(x FOR b) FROM t").map (Phrase.renderAll ∘ Phrase.meantAll) =
      some ["SELECT substr(x, 1, b) FROM t"] := by
  decide +kernel

/-- Two minus signs that are not spaced make a comment of what follows them. -/
example : (rewrite "SELECT - - least(a, b)").toOption = some (some "SELECT --min(a, b)") ∧
    (readAll "SELECT --min(a, b)").isNone = true := by
  decide +kernel

end DialectBridge.Statement
