import DialectBridge.Statement.Rewriting
import DialectBridge.Proofs.Outcomes
import DialectBridge.Proofs.Statement.BareTree
import DialectBridge.Proofs.Statement.FormulaReading
import DialectBridge.Proofs.Statement.FormulaText
import DialectBridge.Proofs.Statement.Rearrangement

/-!
# Substitution of native forms

A call of a rewritten function stands for its native form, which is one operand wherever
the call is. The pass does not put a tree in the place of a tree, though: it writes the
arguments, and reads the text of the native form. What comes of this has the text that the
substitution has, and need not have its tree.
-/

namespace DialectBridge.Statement

open Emulation (RewriteFunction Fault)
open Except (ok_of_bind)

namespace Phrase

/-! ## What is meant -/

/-- The condition that always holds. -/
def lockPredicate : Phrase := .sequence [.text "1", .text " = ", .text "1"]

/-- The native form of a call of a rewritten function. -/
def nativeForm (function : RewriteFunction) (quantifier : Option Quantifier)
    (arguments ordering modifiers : List Phrase) : Phrase :=
  match function with
  | .least => .call [⟨"min", none⟩] quantifier arguments ordering modifiers
  | .greatest => .call [⟨"max", none⟩] quantifier arguments ordering modifiers
  | .ucase => .call [⟨"upper", none⟩] quantifier arguments ordering modifiers
  | .lcase => .call [⟨"lower", none⟩] quantifier arguments ordering modifiers
  | .substring => .call [⟨"substr", none⟩] quantifier arguments ordering modifiers
  | .getLock => lockPredicate
  | .releaseLock => lockPredicate

mutual

/-- What a phrase is meant to become: every call of a rewritten function gives way to its
native form, inner calls before outer ones, and nothing else changes. A part of a text
starts at the first character if it is not said where. -/
def meant : Phrase → Phrase
  | text words => text words
  | name parts => name parts
  | call function quantifier arguments ordering modifiers =>
    match Emulation.lookup (calledName function) with
    | some (.rewrite rewritten) =>
      nativeForm rewritten quantifier (meantAll arguments) (meantAll ordering) (meantAll modifiers)
    | _ => call function quantifier (meantAll arguments) (meantAll ordering) (meantAll modifiers)
  | substring subject start length =>
    nativeForm .substring none (subject.meant ::
      ((if start.isEmpty then [text "1"] else meantAll start) ++ meantAll length)) [] []
  | sequence parts => sequence (meantAll parts)

/-- What phrases are meant to become. -/
def meantAll : List Phrase → List Phrase
  | [] => []
  | phrase :: rest => phrase.meant :: meantAll rest

end

/-- What phrases are meant to become, one by one. -/
theorem meantAll_eq_map (phrases : List Phrase) : meantAll phrases = phrases.map meant := by
  induction phrases with
  | nil => rfl
  | cons phrase rest inductionHypothesis => rw [meantAll, inductionHypothesis, List.map_cons]

/-! ## What is done -/

/-- A phrase is rewritten to another. -/
def Rewrites (phrase result : Phrase) : Prop :=
  ∃ rewritten, phrase.rewrite = .ok rewritten ∧ rewritten.result = result

/-- Phrases are rewritten to others. -/
def RewritesAll (phrases results : List Phrase) : Prop :=
  ∃ rewritten, rewriteAll phrases = .ok rewritten ∧ rewritten.result = results

/-- A text is not rewritten. -/
@[simp]
theorem rewrites_text {words : String} {result : Phrase} :
    Rewrites (text words) result ↔ result = text words := by
  simp [Rewrites, rewrite, eq_comm]

/-- A name is not rewritten. -/
@[simp]
theorem rewrites_name {parts : List Identifier} {result : Phrase} :
    Rewrites (name parts) result ↔ result = name parts := by
  simp [Rewrites, rewrite, eq_comm]

/-- No phrases are rewritten to none. -/
@[simp]
theorem rewritesAll_nil {results : List Phrase} : RewritesAll [] results ↔ results = [] := by
  simp [RewritesAll, rewriteAll, eq_comm]

/-- Phrases are rewritten one by one. -/
@[simp]
theorem rewritesAll_cons {phrase : Phrase} {rest results : List Phrase} :
    RewritesAll (phrase :: rest) results ↔
      ∃ first others, Rewrites phrase first ∧ RewritesAll rest others ∧
        results = first :: others := by
  unfold Rewrites RewritesAll
  rw [rewriteAll]
  cases phrase.rewrite <;> cases rewriteAll rest <;>
    simp [bind, Except.bind, pure, Except.pure, eq_comm]

/-- A sequence is rewritten part by part. -/
@[simp]
theorem rewrites_sequence {parts : List Phrase} {result : Phrase} :
    Rewrites (sequence parts) result ↔
      ∃ others, RewritesAll parts others ∧ result = sequence others := by
  unfold Rewrites RewritesAll
  rw [rewrite]
  cases rewriteAll parts <;> simp [bind, Except.bind, pure, Except.pure, eq_comm]

/-- Phrases are rewritten one list after another. -/
theorem rewritesAll_append {first second results : List Phrase} :
    RewritesAll (first ++ second) results ↔
      ∃ before after, RewritesAll first before ∧ RewritesAll second after ∧
        results = before ++ after := by
  induction first generalizing results with
  | nil => simp
  | cons phrase rest inductionHypothesis =>
    simp only [List.cons_append, rewritesAll_cons, inductionHypothesis]
    constructor
    · rintro ⟨first, _, head, ⟨before, after, tail, others, rfl⟩, rfl⟩
      exact ⟨_, after, ⟨first, before, head, tail, rfl⟩, others, rfl⟩
    · rintro ⟨_, after, ⟨first, before, head, tail, rfl⟩, others, rfl⟩
      exact ⟨first, _, head, ⟨before, after, tail, others, rfl⟩, rfl⟩

/-- A phrase behind a text is rewritten where it is. -/
theorem Rewrites.behind {words : String} {phrase result : Phrase}
    (rewrites : Rewrites (sequence [text words, phrase]) result) :
    ∃ done, Rewrites phrase done ∧ result = sequence [text words, done] := by
  simp only [rewrites_sequence, rewritesAll_cons, rewrites_text, rewritesAll_nil] at rewrites
  obtain ⟨_, ⟨_, _, rfl, ⟨done, _, head, rfl, rfl⟩, rfl⟩, rfl⟩ := rewrites
  exact ⟨done, head, rfl⟩

/-- Phrases on both sides of a text are rewritten where they are. -/
theorem Rewrites.around {words : String} {left right result : Phrase}
    (rewrites : Rewrites (sequence [left, text words, right]) result) :
    ∃ first second, Rewrites left first ∧ Rewrites right second ∧
      result = sequence [first, text words, second] := by
  simp only [rewrites_sequence, rewritesAll_cons, rewrites_text, rewritesAll_nil] at rewrites
  obtain ⟨_, ⟨first, _, head, ⟨_, _, rfl, ⟨second, _, tail, rfl, rfl⟩, rfl⟩, rfl⟩, rfl⟩ := rewrites
  exact ⟨first, second, head, tail, rfl⟩

/-- A phrase between parentheses is rewritten where it is. -/
theorem Rewrites.parenthesized {phrase result : Phrase}
    (rewrites : Rewrites (list [phrase]).parenthesized result) :
    ∃ done, Rewrites phrase done ∧ result = (list [done]).parenthesized := by
  simp only [Phrase.parenthesized, list, Phrase.separated, List.intersperse, rewrites_sequence,
    rewritesAll_cons, rewrites_text, rewritesAll_nil] at rewrites
  obtain ⟨_, ⟨_, _, rfl, ⟨_, _, ⟨_, ⟨done, _, head, rfl, rfl⟩, rfl⟩, ⟨_, _, rfl, rfl, rfl⟩,
    rfl⟩, rfl⟩, rfl⟩ := rewrites
  exact ⟨done, head, rfl⟩

/-- Phrases with a sign between each two are rewritten one by one. -/
theorem RewritesAll.separated {sign : String} {phrases results : List Phrase}
    (rewrites : RewritesAll (separated sign phrases) results) :
    ∃ others, RewritesAll phrases others ∧ results = Phrase.separated sign others := by
  induction phrases generalizing results with
  | nil =>
    obtain rfl := rewritesAll_nil.mp rewrites
    exact ⟨[], rewritesAll_nil.mpr rfl, rfl⟩
  | cons phrase rest inductionHypothesis =>
    cases rest with
    | nil =>
      obtain ⟨first, others, head, tail, rfl⟩ := rewritesAll_cons.mp rewrites
      obtain rfl := rewritesAll_nil.mp tail
      exact ⟨[first], rewrites, rfl⟩
    | cons next more =>
      obtain ⟨first, _, head, marked, rfl⟩ := rewritesAll_cons.mp rewrites
      obtain ⟨_, _, mark, tail, rfl⟩ := rewritesAll_cons.mp marked
      obtain rfl := rewrites_text.mp mark
      obtain ⟨others, left, rfl⟩ := inductionHypothesis tail
      have whole := rewritesAll_cons.mpr ⟨first, others, head, left, rfl⟩
      obtain ⟨second, more, _, _, rfl⟩ := rewritesAll_cons.mp left
      exact ⟨first :: second :: more, whole, rfl⟩

/-- A call is rewritten after its arguments, to its native expression if it has one. -/
theorem Rewrites.call {function : List Identifier} {quantifier : Option Quantifier}
    {arguments ordering modifiers : List Phrase} {result : Phrase}
    (rewrites : Rewrites (call function quantifier arguments ordering modifiers) result) :
    ∃ argumentsDone orderingDone modifiersDone expression, RewritesAll arguments argumentsDone ∧
      RewritesAll ordering orderingDone ∧ RewritesAll modifiers modifiersDone ∧
      native (calledName function) argumentsDone = .ok expression ∧
      result = expression.getD
        (call function quantifier argumentsDone orderingDone modifiersDone) := by
  obtain ⟨rewritten, run, rfl⟩ := rewrites
  rw [rewrite] at run
  obtain ⟨argumentsDone, first, run⟩ := ok_of_bind run
  obtain ⟨orderingDone, second, run⟩ := ok_of_bind run
  obtain ⟨modifiersDone, third, run⟩ := ok_of_bind run
  obtain ⟨expression, found, run⟩ := ok_of_bind run
  refine ⟨_, _, _, expression, ⟨_, first, rfl⟩, ⟨_, second, rfl⟩, ⟨_, third, rfl⟩, found, ?_⟩
  cases expression with
  | none =>
    simp only [pure, Except.pure, Except.ok.injEq] at run
    rw [← run]
    rfl
  | some expression =>
    simp only [pure, Except.pure, Except.ok.injEq] at run
    rw [← run]
    rfl

/-- A part of a text is rewritten after what it is made of. -/
theorem Rewrites.substring {subject result : Phrase} {start length : List Phrase}
    (rewrites : Rewrites (substring subject start length) result) :
    ∃ subjectDone startDone lengthDone expression, Rewrites subject subjectDone ∧
      RewritesAll start startDone ∧ RewritesAll length lengthDone ∧
      native "substring" (subjectDone :: startDone ++ lengthDone) = .ok expression ∧
      result = expression.getD (substring subjectDone startDone lengthDone) := by
  obtain ⟨rewritten, run, rfl⟩ := rewrites
  rw [rewrite] at run
  obtain ⟨subjectDone, first, run⟩ := ok_of_bind run
  obtain ⟨startDone, second, run⟩ := ok_of_bind run
  obtain ⟨lengthDone, third, run⟩ := ok_of_bind run
  obtain ⟨expression, found, run⟩ := ok_of_bind run
  refine ⟨_, _, _, expression, ⟨_, first, rfl⟩, ⟨_, second, rfl⟩, ⟨_, third, rfl⟩, found, ?_⟩
  cases expression with
  | none =>
    simp only [pure, Except.pure, Except.ok.injEq] at run
    rw [← run]
    rfl
  | some expression =>
    simp only [pure, Except.pure, Except.ok.injEq] at run
    rw [← run]
    rfl

end Phrase

/-- A call of a function that is not rewritten has no native expression. -/
theorem native_eq_none {function : String} {arguments : List Phrase}
    (other : ∀ rewritten, Emulation.lookup function ≠ some (.rewrite rewritten)) :
    native function arguments = .ok none := by
  have none : Emulation.fragment function (arguments.map Phrase.render) = .ok none := by
    unfold Emulation.fragment
    split
    · next rewritten found => exact absurd found (other rewritten)
    · rfl
  unfold native
  rw [none]
  rfl

/-- A function that is not rewritten has no native expression. -/
theorem native_of_not_rewritten {function : String} {arguments : List Phrase}
    {result : Option Phrase}
    (other : ∀ rewritten, Emulation.lookup function ≠ some (.rewrite rewritten))
    (run : native function arguments = .ok result) : result = none := by
  rw [native_eq_none other] at run
  exact (Except.ok.inj run).symm

/-- The native expression of a rewritten function is read from its text. -/
theorem native_of_rewritten {function : String} {rewritten : RewriteFunction}
    {arguments : List Phrase} {result : Option Phrase}
    (found : Emulation.lookup function = some (.rewrite rewritten))
    (run : native function arguments = .ok result) :
    ∃ expression, readExpression (rewritten.fragment (arguments.map Phrase.render)) =
      some expression ∧ result = some expression := by
  unfold native Emulation.fragment at run
  simp only [found] at run
  obtain ⟨fragment, accepted, run⟩ := ok_of_bind run
  obtain ⟨_, _, accepted⟩ := ok_of_bind accepted
  obtain rfl : some (rewritten.fragment (arguments.map Phrase.render)) = fragment := by
    injection accepted
  cases read : readExpression (rewritten.fragment (arguments.map Phrase.render)) with
  | none => simp [read] at run
  | some expression =>
    simp only [read] at run
    injection run with same
    exact ⟨expression, rfl, same.symm⟩

/-! ## Expressions with emulated functions -/

/-- An expression as formulas are, with calls of emulated functions and with parts of
texts. -/
inductive Emulated where
  | number (digits : Digits)
  | literal (value : PlainText)
  | column (name : PlainName)
  | call (function : PlainName) (arguments : List Emulated)
  | substring (subject : Emulated) (start length : List Emulated)
  | group (inner : Emulated)
  | negate (operand : Emulated)
  | not (operand : Emulated)
  | binary (operator : Infix) (left right : Emulated)

/-- The digit one. -/
def Digits.one : Digits := ⟨['1'], by decide⟩

namespace Formula

/-- The number one. -/
def one : Formula := number .one

/-- The condition that always holds. -/
def lock : Formula := binary (.sign "=" 20 (by decide)) one one

/-- The native form of a call of a rewritten function. -/
def nativeForm (function : RewriteFunction) (arguments : List Formula) : Formula :=
  match function with
  | .least => call ⟨['m', 'i', 'n'], by decide⟩ arguments
  | .greatest => call ⟨['m', 'a', 'x'], by decide⟩ arguments
  | .ucase => call ⟨['u', 'p', 'p', 'e', 'r'], by decide⟩ arguments
  | .lcase => call ⟨['l', 'o', 'w', 'e', 'r'], by decide⟩ arguments
  | .substring => call ⟨['s', 'u', 'b', 's', 't', 'r'], by decide⟩ arguments
  | .getLock => lock
  | .releaseLock => lock

/-- A call, or its native form if its function is a rewritten one. -/
def called (function : PlainName) (arguments : List Formula) : Formula :=
  match Emulation.lookup (calledName [function.identifier]) with
  | some (.rewrite rewritten) => nativeForm rewritten arguments
  | _ => call function arguments

end Formula

namespace Emulated

mutual

/-- The phrase that an expression is. -/
def phrase : Emulated → Phrase
  | number digits => (Formula.number digits).phrase
  | literal value => (Formula.literal value).phrase
  | column name => (Formula.column name).phrase
  | call function arguments => .call [function.identifier] none (phrases arguments) [] []
  | substring subject start length => .substring subject.phrase (phrases start) (phrases length)
  | group inner => .parenthesized (.list [inner.phrase])
  | negate operand => .sequence [.text "-", operand.phrase]
  | not operand => .sequence [.text "NOT ", operand.phrase]
  | binary operator left right =>
    .sequence [left.phrase, .text (" " ++ operator.written ++ " "), right.phrase]

/-- The phrases that expressions are. -/
def phrases : List Emulated → List Phrase
  | [] => []
  | expression :: rest => expression.phrase :: phrases rest

end

mutual

/-- An expression with the native forms of its calls, where a part of a text starts at
`first` if it is not said where. -/
def native (first : List Formula) : Emulated → Formula
  | number digits => .number digits
  | literal value => .literal value
  | column name => .column name
  | call function arguments => .called function (nativeAll first arguments)
  | substring subject start length => .nativeForm .substring (subject.native first ::
    ((if start.isEmpty then first else nativeAll first start) ++ nativeAll first length))
  | group inner => .group (inner.native first)
  | negate operand => .negate (operand.native first)
  | not operand => .not (operand.native first)
  | binary operator left right => .binary operator (left.native first) (right.native first)

/-- Expressions with the native forms of their calls. -/
def nativeAll (first : List Formula) : List Emulated → List Formula
  | [] => []
  | expression :: rest => expression.native first :: nativeAll first rest

end

/-- The formula that an expression is meant to become. -/
def meant (expression : Emulated) : Formula := expression.native [.one]

/-- The formula whose text an expression is given: nothing is put in the place of a start
that is not said. -/
def written (expression : Emulated) : Formula := expression.native []

/-- The phrases of expressions, one by one. -/
theorem phrases_eq_map (expressions : List Emulated) :
    phrases expressions = expressions.map phrase := by
  induction expressions with
  | nil => rfl
  | cons expression rest inductionHypothesis =>
    rw [phrases, inductionHypothesis, List.map_cons]

/-- What expressions are written as, one by one. -/
theorem nativeAll_eq_map (expressions : List Emulated) :
    nativeAll [] expressions = expressions.map written := by
  induction expressions with
  | nil => rfl
  | cons expression rest inductionHypothesis =>
    rw [nativeAll, inductionHypothesis, List.map_cons]
    rfl

end Emulated

/-- A native form is the condition that always holds, or a call of the arguments. -/
theorem Formula.nativeForm_cases (function : RewriteFunction) :
    (function.native? = none ∧ ∀ arguments, nativeForm function arguments = lock) ∨
      ∃ name, ∀ arguments, nativeForm function arguments = call name arguments := by
  cases function with
  | getLock => exact .inl ⟨rfl, fun _ => rfl⟩
  | releaseLock => exact .inl ⟨rfl, fun _ => rfl⟩
  | _ => exact .inr ⟨_, fun _ => rfl⟩

/-- The native form of a call of formulas is the phrase that is meant. -/
theorem Formula.phrase_nativeForm (function : RewriteFunction) (arguments : List Formula) :
    (nativeForm function arguments).phrase =
      Phrase.nativeForm function none (phrases arguments) [] [] := by
  cases function <;> rfl

namespace Emulated

/-- There are no phrases if there are no expressions. -/
theorem isEmpty_phrases (expressions : List Emulated) :
    (phrases expressions).isEmpty = expressions.isEmpty := by
  cases expressions <;> rfl

mutual

/-- What the phrase of an expression is meant to become is the phrase of the formula that
the expression is. -/
theorem meant_phrase (expression : Emulated) :
    expression.phrase.meant = expression.meant.phrase := by
  cases expression with
  | number digits => rfl
  | literal value => rfl
  | column name => rfl
  | call function arguments =>
    have inside := meantAll_phrases arguments
    simp only [phrase, Phrase.meant, meant, native, Formula.called]
    cases Emulation.lookup (calledName [function.identifier]) with
    | none => simp [Formula.phrase, inside, Phrase.meantAll]
    | some found =>
      cases found with
      | value other => simp [Formula.phrase, inside, Phrase.meantAll]
      | rewrite rewritten => simp [Formula.phrase_nativeForm, inside, Phrase.meantAll]
  | substring subject start length =>
    have first := meant_phrase subject
    have second := meantAll_phrases start
    have third := meantAll_phrases length
    have starts : (if (phrases start).isEmpty then [Phrase.text "1"]
          else Phrase.meantAll (phrases start)) =
        Formula.phrases (if start.isEmpty then [.one] else nativeAll [.one] start) := by
      rw [isEmpty_phrases]
      split
      · rfl
      · exact second
    change _ = (Formula.nativeForm .substring (subject.meant ::
      ((if start.isEmpty then [.one] else nativeAll [.one] start) ++
        nativeAll [.one] length))).phrase
    rw [phrase, Phrase.meant, starts, third, first, Formula.phrase_nativeForm, Formula.phrases,
      Formula.phrases_append]
  | group inner =>
    have inside := meant_phrase inner
    simp only [phrase, Phrase.parenthesized, Phrase.list, Phrase.separated, List.intersperse,
      Phrase.meant, Phrase.meantAll, inside]
    rfl
  | negate operand =>
    have inside := meant_phrase operand
    simp only [phrase, Phrase.meant, Phrase.meantAll, inside]
    rfl
  | not operand =>
    have inside := meant_phrase operand
    simp only [phrase, Phrase.meant, Phrase.meantAll, inside]
    rfl
  | binary operator left right =>
    have before := meant_phrase left
    have after := meant_phrase right
    simp only [phrase, Phrase.meant, Phrase.meantAll, before, after]
    rfl

/-- What the phrases of expressions are meant to become are those of their formulas. -/
theorem meantAll_phrases (expressions : List Emulated) :
    Phrase.meantAll (phrases expressions) = Formula.phrases (nativeAll [.one] expressions) := by
  cases expressions with
  | nil => rfl
  | cons expression rest =>
    have first := meant_phrase expression
    have others := meantAll_phrases rest
    simp only [phrases, Phrase.meantAll, first, others]
    rfl

end

/-! ## Starts -/

/-- Whether a function asks for a lock. -/
def asksForLock (function : PlainName) : Bool :=
  Emulation.lookup (calledName [function.identifier]) = some (.rewrite .getLock) ||
    Emulation.lookup (calledName [function.identifier]) = some (.rewrite .releaseLock)

mutual

/-- Whether it is said of every part of a text where it starts. What stands between the
parentheses of a call that asks for a lock does not count. -/
def saysStarts : Emulated → Bool
  | number _ => true
  | literal _ => true
  | column _ => true
  | call function arguments => asksForLock function || saysStartsAll arguments
  | substring subject start length =>
    !start.isEmpty && subject.saysStarts && saysStartsAll start && saysStartsAll length
  | group inner => inner.saysStarts
  | negate operand => operand.saysStarts
  | not operand => operand.saysStarts
  | binary _ left right => left.saysStarts && right.saysStarts

/-- Whether it is said of every part of a text in some expressions where it starts. -/
def saysStartsAll : List Emulated → Bool
  | [] => true
  | expression :: rest => expression.saysStarts && saysStartsAll rest

end

/-- A call is its native form, a lock, or a call still, whatever its arguments are. -/
theorem called_cases (function : PlainName) :
    (asksForLock function = true ∧ ∀ arguments, Formula.called function arguments = .lock) ∨
      asksForLock function = false ∧ ∃ name, ∀ arguments,
        Formula.called function arguments = .call name arguments := by
  unfold asksForLock Formula.called
  cases Emulation.lookup (calledName [function.identifier]) with
  | none => exact .inr ⟨rfl, function, fun _ => rfl⟩
  | some found =>
    cases found with
    | value other => exact .inr ⟨rfl, function, fun _ => rfl⟩
    | rewrite rewritten =>
      cases rewritten with
      | getLock => exact .inl ⟨rfl, fun _ => rfl⟩
      | releaseLock => exact .inl ⟨rfl, fun _ => rfl⟩
      | least => exact .inr ⟨rfl, _, fun _ => rfl⟩
      | greatest => exact .inr ⟨rfl, _, fun _ => rfl⟩
      | ucase => exact .inr ⟨rfl, _, fun _ => rfl⟩
      | lcase => exact .inr ⟨rfl, _, fun _ => rfl⟩
      | substring => exact .inr ⟨rfl, _, fun _ => rfl⟩

mutual

/-- If it is said where parts of texts start, it does not matter what is put in the place
of a start that is not said. -/
theorem native_of_saysStarts (expression : Emulated) (starts : expression.saysStarts = true)
    (first second : List Formula) : expression.native first = expression.native second := by
  cases expression with
  | number digits => rfl
  | literal value => rfl
  | column name => rfl
  | call function arguments =>
    rw [saysStarts, Bool.or_eq_true] at starts
    rw [native, native]
    rcases called_cases function with ⟨lock, same⟩ | ⟨noLock, name, same⟩
    · rw [same, same]
    · have inside := starts.resolve_left (by simp [noLock])
      rw [nativeAll_of_saysStarts arguments inside first second]
  | substring subject start length =>
    simp only [saysStarts, Bool.and_eq_true, Bool.not_eq_true'] at starts
    rw [native, native, native_of_saysStarts subject starts.1.1.2 first second,
      nativeAll_of_saysStarts start starts.1.2 first second,
      nativeAll_of_saysStarts length starts.2 first second, starts.1.1.1]
    rfl
  | group inner => rw [native, native, native_of_saysStarts inner starts first second]
  | negate operand => rw [native, native, native_of_saysStarts operand starts first second]
  | not operand => rw [native, native, native_of_saysStarts operand starts first second]
  | binary operator left right =>
    rw [saysStarts, Bool.and_eq_true] at starts
    rw [native, native, native_of_saysStarts left starts.1 first second,
      native_of_saysStarts right starts.2 first second]

/-- If it is said where parts of texts start, it does not matter what is put in the place
of a start that is not said. -/
theorem nativeAll_of_saysStarts (expressions : List Emulated)
    (starts : saysStartsAll expressions = true) (first second : List Formula) :
    nativeAll first expressions = nativeAll second expressions := by
  cases expressions with
  | nil => rfl
  | cons expression rest =>
    rw [saysStartsAll, Bool.and_eq_true] at starts
    rw [nativeAll, nativeAll, native_of_saysStarts expression starts.1 first second,
      nativeAll_of_saysStarts rest starts.2 first second]

end

/-- The tokens of lists of formulas with a comma before each, one list after another. -/
theorem tokensAfter_append (first second : List Formula) :
    Formula.tokensAfter (first ++ second) =
      Formula.tokensAfter first ++ Formula.tokensAfter second := by
  induction first with
  | nil => rfl
  | cons formula rest inductionHypothesis =>
    simp [Formula.tokensAfter, inductionHypothesis]

/-- A call has the leaves of its arguments and one more. -/
theorem leaves_call (name : PlainName) (arguments : List Formula) :
    (Formula.call name arguments).tokens.countP isLeaf =
      (Formula.tokensBetween arguments).countP isLeaf + 1 := by
  have word : isLeaf (Token.ofName name.letters) = true := rfl
  simp [Formula.tokens, word, isLeaf_parenthesis]

mutual

/-- An expression is written with fewer words and signs than are meant, unless it is said
of every part of a text where it starts. -/
theorem leaves_written (expression : Emulated) :
    expression.written.tokens.countP isLeaf ≤ expression.meant.tokens.countP isLeaf ∧
      (expression.written.tokens.countP isLeaf = expression.meant.tokens.countP isLeaf →
        expression.saysStarts = true) := by
  cases expression with
  | number digits => exact ⟨Nat.le_refl _, fun _ => rfl⟩
  | literal value => exact ⟨Nat.le_refl _, fun _ => rfl⟩
  | column name => exact ⟨Nat.le_refl _, fun _ => rfl⟩
  | call function arguments =>
    obtain ⟨le, starts⟩ := leavesBetween_written arguments
    simp only [written, meant, native, saysStarts, Bool.or_eq_true]
    rcases called_cases function with ⟨lock, same⟩ | ⟨noLock, name, same⟩
    · rw [same, same]
      exact ⟨Nat.le_refl _, fun _ => .inl lock⟩
    · rw [same, same, leaves_call, leaves_call]
      exact ⟨by omega, fun equal => .inr (starts (by omega))⟩
  | substring subject start length =>
    obtain ⟨subjectLe, subjectSays⟩ := leaves_written subject
    obtain ⟨startLe, startSays⟩ := leavesAfter_written start
    obtain ⟨lengthLe, lengthSays⟩ := leavesAfter_written length
    simp only [written, meant] at subjectLe subjectSays
    simp only [written, meant, native, Formula.nativeForm, leaves_call, Formula.tokensBetween,
      tokensAfter_append, List.countP_append, saysStarts, Bool.and_eq_true, Bool.not_eq_true']
    cases start with
    | nil =>
      have one : (Formula.tokensAfter [.one]).countP isLeaf = 2 := by decide
      have none : (Formula.tokensAfter []).countP isLeaf = 0 := rfl
      simp only [List.isEmpty_nil, if_true, one, none]
      omega
    | cons expression rest =>
      simp only [List.isEmpty_cons, Bool.false_eq_true, if_false, true_and]
      exact ⟨by omega, fun equal => ⟨⟨subjectSays (by omega), startSays (by omega)⟩,
        lengthSays (by omega)⟩⟩
  | group inner =>
    have inside := leaves_written inner
    simp only [written, meant] at inside
    simpa [written, meant, native, Formula.tokens, isLeaf_parenthesis, saysStarts] using inside
  | negate operand =>
    have inside := leaves_written operand
    simp only [written, meant] at inside
    simpa [written, meant, native, Formula.tokens, List.countP_cons, saysStarts] using inside
  | not operand =>
    have inside := leaves_written operand
    simp only [written, meant] at inside
    simpa [written, meant, native, Formula.tokens, List.countP_cons, saysStarts] using inside
  | binary operator left right =>
    obtain ⟨leftLe, leftSays⟩ := leaves_written left
    obtain ⟨rightLe, rightSays⟩ := leaves_written right
    simp only [written, meant] at leftLe leftSays rightLe rightSays
    simp only [written, meant, native, Formula.tokens, List.countP_append, List.countP_cons,
      saysStarts, Bool.and_eq_true]
    exact ⟨by omega, fun equal => ⟨leftSays (by omega), rightSays (by omega)⟩⟩

/-- Expressions with a comma before each are written with fewer words and signs than are
meant, unless it is said of every part of a text where it starts. -/
theorem leavesAfter_written (expressions : List Emulated) :
    (Formula.tokensAfter (nativeAll [] expressions)).countP isLeaf ≤
        (Formula.tokensAfter (nativeAll [.one] expressions)).countP isLeaf ∧
      ((Formula.tokensAfter (nativeAll [] expressions)).countP isLeaf =
          (Formula.tokensAfter (nativeAll [.one] expressions)).countP isLeaf →
        saysStartsAll expressions = true) := by
  cases expressions with
  | nil => exact ⟨Nat.le_refl _, fun _ => rfl⟩
  | cons expression rest =>
    obtain ⟨firstLe, firstSays⟩ := leaves_written expression
    obtain ⟨restLe, restSays⟩ := leavesAfter_written rest
    simp only [written, meant] at firstLe firstSays
    simp only [nativeAll, Formula.tokensAfter, List.countP_cons, List.countP_append, saysStartsAll,
      Bool.and_eq_true]
    exact ⟨by omega, fun equal => ⟨firstSays (by omega), restSays (by omega)⟩⟩

/-- Expressions with commas between them are written with fewer words and signs than are
meant, unless it is said of every part of a text where it starts. -/
theorem leavesBetween_written (expressions : List Emulated) :
    (Formula.tokensBetween (nativeAll [] expressions)).countP isLeaf ≤
        (Formula.tokensBetween (nativeAll [.one] expressions)).countP isLeaf ∧
      ((Formula.tokensBetween (nativeAll [] expressions)).countP isLeaf =
          (Formula.tokensBetween (nativeAll [.one] expressions)).countP isLeaf →
        saysStartsAll expressions = true) := by
  cases expressions with
  | nil => exact ⟨Nat.le_refl _, fun _ => rfl⟩
  | cons expression rest =>
    obtain ⟨firstLe, firstSays⟩ := leaves_written expression
    obtain ⟨restLe, restSays⟩ := leavesAfter_written rest
    simp only [written, meant] at firstLe firstSays
    simp only [nativeAll, Formula.tokensBetween, List.countP_append, saysStartsAll,
      Bool.and_eq_true]
    exact ⟨by omega, fun equal => ⟨firstSays (by omega), restSays (by omega)⟩⟩

end

end Emulated

/-! ## Fragments -/

/-- How deep a formula can nest, so that it is read where it is all there is. -/
def deepestExpression : Nat := maxDepth - 1

/-- A text that is scanned as a formula is read as the formula rearranged. -/
theorem readExpression_of_scan {formula : Formula} {text : String}
    (scanned : Token.scan text = some formula.tokens)
    (shallow : formula.rearranged.depth ≤ deepestExpression) :
    readExpression text = some formula.rearranged.phrase := by
  have read := Nested.anyExpression_tokens formula.fits_rearranged shallow follows_nil rfl
  rw [List.append_nil, formula.sameText_rearranged.tokens] at read
  have whole : (nested true maxDepth).anyExpression formula.tokens =
      .ok (formula.rearranged.phrase, []) := read
  unfold readExpression
  simp only [scanned, whole]

/-- The text of a native form is scanned as the native form, whatever trees the texts of
its arguments come from. -/
theorem scan_fragment (function : RewriteFunction) {arguments given : List Formula}
    (same : Formula.SameTexts given arguments)
    (spaced : (Formula.nativeForm function arguments).spacesMinus = true) :
    Token.scan (function.fragment ((Formula.phrases given).map Phrase.render)) =
      some (Formula.nativeForm function arguments).tokens := by
  have between := Formula.toList_intercalate given
  rw [same.between.1, Phrase.renderAll_eq_map] at between
  have ofChars (written : (function.fragment ((Formula.phrases given).map Phrase.render)).toList =
      (Formula.nativeForm function arguments).chars) :
      Token.scan (function.fragment ((Formula.phrases given).map Phrase.render)) =
        some (Formula.nativeForm function arguments).tokens := by
    refine Token.scan_of_scansAs ?_
    rw [written]
    exact Formula.scansAs_chars _ spaced nofun
  have lock : Token.scan RewriteFunction.lockCondition = some Formula.lock.tokens := by decide
  cases function with
  | getLock => exact lock
  | releaseLock => exact lock
  | _ =>
    refine ofChars ?_
    simp [RewriteFunction.fragment, RewriteFunction.native?, Formula.nativeForm, Formula.chars,
      between]

/-- What is read from the text of a native form has the text of the native form. -/
theorem readExpression_fragment {function : RewriteFunction} {arguments given : List Formula}
    {expression : Phrase} (same : Formula.SameTexts given arguments)
    (spaced : (Formula.nativeForm function arguments).spacesMinus = true)
    (shallow : (Formula.nativeForm function arguments).rearranged.depth ≤ deepestExpression)
    (read : readExpression (function.fragment ((Formula.phrases given).map Phrase.render)) =
      some expression) :
    ∃ formula : Formula, expression = formula.phrase ∧
      formula.SameText (Formula.nativeForm function arguments) := by
  rw [readExpression_of_scan (scan_fragment function same spaced) shallow,
    Option.some.injEq] at read
  exact ⟨_, read.symm, Formula.sameText_rearranged _⟩

/-- What a call is rewritten to has the text of its native form, if the arguments are
rewritten to what has their texts. -/
theorem Formula.sameText_called {function : PlainName} {arguments : List Formula}
    {argumentsDone : List Phrase} {expression : Option Phrase}
    (inside : spacesMinusAll arguments = true →
      depthAll (rearrangedAll arguments) ≤ deepestExpression →
      ∃ formulas, argumentsDone = phrases formulas ∧ SameTexts formulas arguments)
    (spaced : (called function arguments).spacesMinus = true)
    (shallow : (called function arguments).rearranged.depth ≤ deepestExpression)
    (found : native (calledName [function.identifier]) argumentsDone = .ok expression) :
    ∃ formula : Formula,
      expression.getD (.call [function.identifier] none argumentsDone [] []) = formula.phrase ∧
        formula.SameText (called function arguments) := by
  have stays (notRewritten : ∀ rewritten, Emulation.lookup (calledName [function.identifier]) ≠
        some (.rewrite rewritten))
      (same : called function arguments = call function arguments) :
      ∃ formula : Formula,
        expression.getD (.call [function.identifier] none argumentsDone [] []) = formula.phrase ∧
          formula.SameText (called function arguments) := by
    rw [same] at spaced shallow ⊢
    obtain rfl := native_of_not_rewritten notRewritten found
    obtain ⟨formulas, rfl, sameAll⟩ := inside spaced (Nat.le_trans (Nat.le_succ _) shallow)
    exact ⟨call function formulas, rfl, sameAll.call function⟩
  cases looked : Emulation.lookup (calledName [function.identifier]) with
  | none => exact stays (by simp [looked]) (by simp [called, looked])
  | some kind =>
    cases kind with
    | value other => exact stays (by simp [looked]) (by simp [called, looked])
    | rewrite rewritten =>
      have native : called function arguments = nativeForm rewritten arguments := by
        simp [called, looked]
      rw [native] at spaced shallow ⊢
      obtain ⟨expression, read, rfl⟩ := native_of_rewritten looked found
      rcases nativeForm_cases rewritten with ⟨noName, lock⟩ | ⟨name, isCall⟩
      · -- The text of a lock is the same without its arguments, which may be anything.
        have alone : rewritten.fragment (argumentsDone.map Phrase.render) =
            rewritten.fragment ((phrases []).map Phrase.render) := by
          simp [RewriteFunction.fragment, noName]
        rw [alone] at read
        rw [lock, ← lock []] at spaced shallow ⊢
        exact readExpression_fragment .nil spaced shallow read
      · rw [isCall] at spaced shallow
        obtain ⟨formulas, rfl, sameAll⟩ := inside spaced (Nat.le_trans (Nat.le_succ _) shallow)
        rw [← isCall] at spaced shallow
        exact readExpression_fragment sameAll spaced shallow read

/-- What a part of a text is rewritten to has the text of its native form, if what it is made of
is rewritten to what has its texts. -/
theorem Formula.sameText_substring {subject : Formula} {start length : List Formula}
    {subjectDone : Phrase} {startDone lengthDone : List Phrase} {expression : Option Phrase}
    (first : subject.spacesMinus = true → subject.rearranged.depth ≤ deepestExpression →
      ∃ formula : Formula, subjectDone = formula.phrase ∧ formula.SameText subject)
    (second : spacesMinusAll start = true → depthAll (rearrangedAll start) ≤ deepestExpression →
      ∃ formulas, startDone = phrases formulas ∧ SameTexts formulas start)
    (third : spacesMinusAll length = true → depthAll (rearrangedAll length) ≤ deepestExpression →
      ∃ formulas, lengthDone = phrases formulas ∧ SameTexts formulas length)
    (spaced : (nativeForm .substring (subject :: (start ++ length))).spacesMinus = true)
    (shallow : (nativeForm .substring (subject :: (start ++ length))).rearranged.depth ≤
      deepestExpression)
    (found : native "substring" (subjectDone :: startDone ++ lengthDone) = .ok expression) :
    ∃ formula : Formula,
      expression.getD (.substring subjectDone startDone lengthDone) = formula.phrase ∧
        formula.SameText (nativeForm .substring (subject :: (start ++ length))) := by
  have looked : Emulation.lookup "substring" = some (.rewrite .substring) := by decide
  obtain ⟨expression, read, rfl⟩ := native_of_rewritten looked found
  have spacedParts := spaced
  have shallowParts := shallow
  simp only [nativeForm, spacesMinus, spacesMinusAll, spacesMinusAll_append,
    Bool.and_eq_true] at spacedParts
  simp only [nativeForm, rearranged, rearrangedAll, rearrangedAll_append, depth, depthAll,
    depthAll_append] at shallowParts
  obtain ⟨formula, rfl, same⟩ := first spacedParts.1 (by omega)
  obtain ⟨starting, rfl, sameStart⟩ := second spacedParts.2.1 (by omega)
  obtain ⟨counting, rfl, sameLength⟩ := third spacedParts.2.2 (by omega)
  refine readExpression_fragment (.cons same (sameStart.append sameLength)) spaced shallow ?_
  rw [phrases, phrases_append]
  exact read

namespace Emulated

open Phrase (Rewrites RewritesAll)

mutual

/-- An expression is rewritten to what has the text of its native forms. -/
theorem rewrites_phrase (expression : Emulated) (spaced : expression.written.spacesMinus = true)
    (shallow : expression.written.rearranged.depth ≤ deepestExpression) {result : Phrase}
    (rewrites : Rewrites expression.phrase result) :
    ∃ formula : Formula, result = formula.phrase ∧ formula.SameText expression.written := by
  cases expression with
  | number digits =>
    obtain rfl := Phrase.rewrites_text.mp rewrites
    exact ⟨.number digits, rfl, rfl, rfl⟩
  | literal value =>
    obtain rfl := Phrase.rewrites_text.mp rewrites
    exact ⟨.literal value, rfl, rfl, rfl⟩
  | column name =>
    obtain rfl := Phrase.rewrites_name.mp rewrites
    exact ⟨.column name, rfl, rfl, rfl⟩
  | call function arguments =>
    obtain ⟨argumentsDone, orderingDone, modifiersDone, expression, head, ordering, modifiers,
      found, rfl⟩ := rewrites.call
    obtain rfl := Phrase.rewritesAll_nil.mp ordering
    obtain rfl := Phrase.rewritesAll_nil.mp modifiers
    simp only [written, native] at spaced shallow ⊢
    exact Formula.sameText_called
      (fun spaced shallow => rewritesAll_phrases arguments spaced shallow head) spaced shallow found
  | substring subject start length =>
    obtain ⟨subjectDone, startDone, lengthDone, expression, first, second, third, found, rfl⟩ :=
      rewrites.substring
    have starts : (if start.isEmpty then [] else nativeAll [] start) = nativeAll [] start := by
      cases start <;> rfl
    simp only [written, native, starts] at spaced shallow ⊢
    exact Formula.sameText_substring
      (fun spaced shallow => rewrites_phrase subject spaced shallow first)
      (fun spaced shallow => rewritesAll_phrases start spaced shallow second)
      (fun spaced shallow => rewritesAll_phrases length spaced shallow third) spaced shallow found
  | group inner =>
    obtain ⟨inside, head, rfl⟩ := rewrites.parenthesized
    obtain ⟨formula, rfl, same⟩ := rewrites_phrase inner spaced
      (Nat.le_trans (Nat.le_succ _) shallow) head
    exact ⟨.group formula, rfl, same.group⟩
  | negate operand =>
    obtain ⟨inside, head, rfl⟩ := rewrites.behind
    simp only [written, native, Formula.spacesMinus, Bool.and_eq_true] at spaced
    obtain ⟨formula, rfl, same⟩ := rewrites_phrase operand spaced.1
      (Nat.le_trans operand.written.depth_le_negate shallow) head
    exact ⟨.negate formula, rfl, same.negate⟩
  | not operand =>
    obtain ⟨inside, head, rfl⟩ := rewrites.behind
    obtain ⟨formula, rfl, same⟩ := rewrites_phrase operand spaced
      (Nat.le_trans operand.written.depth_le_not shallow) head
    exact ⟨.not formula, rfl, same.not⟩
  | binary operator left right =>
    obtain ⟨first, second, head, tail, rfl⟩ := rewrites.around
    obtain ⟨leftWithin, rightWithin⟩ :=
      Formula.depth_le_binary operator left.written right.written
    simp only [written, native, Formula.spacesMinus, Bool.and_eq_true] at spaced
    obtain ⟨formula, rfl, same⟩ := rewrites_phrase left spaced.1
      (Nat.le_trans leftWithin shallow) head
    obtain ⟨other, rfl, sameOther⟩ := rewrites_phrase right spaced.2
      (Nat.le_trans rightWithin shallow) tail
    exact ⟨.binary operator formula other, rfl, same.binary operator sameOther⟩

/-- Expressions are rewritten to what has the texts of their native forms. -/
theorem rewritesAll_phrases (expressions : List Emulated)
    (spaced : Formula.spacesMinusAll (nativeAll [] expressions) = true)
    (shallow : Formula.depthAll (Formula.rearrangedAll (nativeAll [] expressions)) ≤
      deepestExpression) {results : List Phrase}
    (rewrites : RewritesAll (phrases expressions) results) :
    ∃ formulas, results = Formula.phrases formulas ∧
      Formula.SameTexts formulas (nativeAll [] expressions) := by
  cases expressions with
  | nil =>
    obtain rfl := Phrase.rewritesAll_nil.mp rewrites
    exact ⟨[], rfl, .nil⟩
  | cons expression rest =>
    obtain ⟨first, others, head, tail, rfl⟩ := Phrase.rewritesAll_cons.mp rewrites
    simp only [nativeAll, Formula.spacesMinusAll, Bool.and_eq_true] at spaced
    simp only [nativeAll, Formula.rearrangedAll, Formula.depthAll, Nat.max_le] at shallow
    obtain ⟨formula, rfl, same⟩ := rewrites_phrase expression spaced.1 shallow.1 head
    obtain ⟨formulas, rfl, sameAll⟩ := rewritesAll_phrases rest spaced.2 shallow.2 tail
    exact ⟨formula :: formulas, rfl, .cons same sameAll⟩

end

end Emulated

end DialectBridge.Statement
