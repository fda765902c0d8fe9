import DialectBridge.Proofs.Statement.Selection
import DialectBridge.Proofs.Statement.Substitution

/-!
# When rewriting completes

The pass gives up where a call has a number of arguments that its function does not accept.
Otherwise it writes the native form of the call on what the arguments were rewritten to, and
reads that text again. So the only other reason to give up is a native form whose text
cannot be read, and such a text can come of a statement that was read: a minus sign right
after another makes a comment of what follows. Where minus signs stand apart and phrases do
not nest too deep, the text of every native form is read.
-/

namespace DialectBridge.Statement

open Emulation (RewriteFunction Fault)
open Phrase (RewritesAll)

/-! ## Calls -/

/-- A call: the name that its function is looked up by, and its arguments. -/
structure Invocation where
  name : String
  arguments : List Phrase

namespace Invocation

/-- Whether a call has as many arguments as its function accepts, if that is a rewritten one. -/
def isAccepted (call : Invocation) : Bool :=
  match Emulation.lookup call.name with
  | some (.rewrite function) => function.arity.accepts call.arguments.length
  | _ => true

/-- The text of the native form of a call, on what its arguments are rewritten to, cannot be
read. -/
def Unreadable (call : Invocation) : Prop :=
  ∃ function results, Emulation.lookup call.name = some (.rewrite function) ∧
    RewritesAll call.arguments results ∧
    readExpression (function.fragment (results.map Phrase.render)) = none

end Invocation

namespace Phrase

mutual

/-- The calls in a phrase, inner ones before outer ones. -/
def calls : Phrase → List Invocation
  | text _ => []
  | name _ => []
  | call function _ arguments ordering modifiers =>
    callsAll arguments ++ (callsAll ordering ++ (callsAll modifiers ++
      [⟨calledName function, arguments⟩]))
  | substring subject start length =>
    subject.calls ++ (callsAll start ++ (callsAll length ++
      [⟨"substring", subject :: start ++ length⟩]))
  | sequence parts => callsAll parts

/-- The calls in phrases, in order. -/
def callsAll : List Phrase → List Invocation
  | [] => []
  | phrase :: rest => phrase.calls ++ callsAll rest

end

/-- Phrases are rewritten to equally many. -/
theorem RewritesAll.length {phrases results : List Phrase}
    (rewrites : RewritesAll phrases results) : results.length = phrases.length := by
  induction phrases generalizing results with
  | nil => rw [rewritesAll_nil.mp rewrites]
  | cons phrase rest inductionHypothesis =>
    obtain ⟨first, others, _, tail, rfl⟩ := rewritesAll_cons.mp rewrites
    rw [List.length_cons, List.length_cons, inductionHypothesis tail]

/-- What phrases are rewritten to is determined. -/
theorem RewritesAll.unique {phrases first second : List Phrase}
    (rewrites : RewritesAll phrases first) (again : RewritesAll phrases second) :
    first = second := by
  obtain ⟨done, run, rfl⟩ := rewrites
  obtain ⟨doneAgain, runAgain, rfl⟩ := again
  rw [run] at runAgain
  rw [Except.ok.inj runAgain]

end Phrase

/-! ## Runs over calls -/

/-- A run that makes the native forms of some calls either comes to its end, if all of them
can be read, or it fails for one that cannot. -/
def Settles {α : Type} (calls : List Invocation) (run : Except Fault α) : Prop :=
  (∃ value, run = .ok value ∧ ∀ call ∈ calls, ¬call.Unreadable) ∨
    (run = .error .unreadableFragment ∧ ∃ call ∈ calls, call.Unreadable)

namespace Settles

variable {α β : Type} {calls others : List Invocation}

/-- A value needs no native forms. -/
theorem pure (value : α) : Settles [] (.ok value) :=
  .inl ⟨value, rfl, by simp⟩

/-- A run that goes on after another makes the native forms of both. -/
theorem bind {first : Except Fault α} {next : α → Except Fault β} (settles : Settles calls first)
    (goesOn : ∀ value, first = .ok value → Settles others (next value)) :
    Settles (calls ++ others) (first >>= next) := by
  rcases settles with ⟨value, rfl, readable⟩ | ⟨rfl, call, member, unreadable⟩
  · rcases goesOn value rfl with ⟨result, run, alsoReadable⟩ | ⟨run, call, member, unreadable⟩
    · refine .inl ⟨result, run, ?_⟩
      rw [List.forall_mem_append]
      exact ⟨readable, alsoReadable⟩
    · exact .inr ⟨run, call, List.mem_append_right _ member, unreadable⟩
  · exact .inr ⟨rfl, call, List.mem_append_left _ member, unreadable⟩

/-- A run that ends with a value after another makes the native forms of the other. -/
theorem andThen {first : Except Fault α} {next : α → Except Fault β}
    (settles : Settles calls first)
    (ends : ∀ value, first = .ok value → ∃ result, next value = .ok result) :
    Settles calls (first >>= next) := by
  rw [← List.append_nil calls]
  refine settles.bind fun value run => ?_
  obtain ⟨result, ended⟩ := ends value run
  rw [ended]
  exact pure result

end Settles

/-- The native expression of a call of a rewritten function with an accepted number of
arguments is what is read from its text. -/
theorem native_of_accepted {name : String} {function : RewriteFunction}
    {arguments results : List Phrase}
    (looked : Emulation.lookup name = some (.rewrite function))
    (accepted : Invocation.isAccepted ⟨name, arguments⟩ = true)
    (rewrites : RewritesAll arguments results) :
    native name results =
      match readExpression (function.fragment (results.map Phrase.render)) with
      | some expression => .ok (some expression)
      | none => .error .unreadableFragment := by
  have counted : Emulation.checkArity (.rewrite function)
      (results.map Phrase.render).length = .ok () := by
    unfold Invocation.isAccepted at accepted
    rw [looked] at accepted
    rw [List.length_map, rewrites.length]
    exact if_pos accepted
  unfold native Emulation.fragment
  simp only [looked, counted]
  rfl

/-- The native expression of a call with an accepted number of arguments is made, unless its
text cannot be read. -/
theorem settles_native {name : String} {arguments results : List Phrase}
    (accepted : Invocation.isAccepted ⟨name, arguments⟩ = true)
    (rewrites : RewritesAll arguments results) :
    Settles [⟨name, arguments⟩] (native name results) := by
  by_cases isRewritten : ∃ function, Emulation.lookup name = some (.rewrite function)
  · obtain ⟨function, looked⟩ := isRewritten
    have made := native_of_accepted looked accepted rewrites
    cases read : readExpression (function.fragment (results.map Phrase.render)) with
    | some expression =>
      rw [read] at made
      refine .inl ⟨some expression, made, ?_⟩
      rw [List.forall_mem_singleton]
      rintro ⟨other, others, found, again, unread⟩
      obtain rfl : function = other := by simpa [looked] using found
      rw [again.unique rewrites, read] at unread
      exact absurd unread nofun
    | none =>
      rw [read] at made
      refine .inr ⟨made, _, List.mem_singleton_self _, ?_⟩
      exact ⟨function, results, looked, rewrites, read⟩
  · have other : ∀ function, Emulation.lookup name ≠ some (.rewrite function) :=
      not_exists.mp isRewritten
    refine .inl ⟨none, native_eq_none other, ?_⟩
    rw [List.forall_mem_singleton]
    rintro ⟨function, _, looked, _⟩
    exact other function looked

namespace Phrase

mutual

/-- A phrase is rewritten unless the text of a native form in it cannot be read. -/
theorem settles_rewrite (phrase : Phrase) (accepted : ∀ call ∈ phrase.calls, call.isAccepted = true) :
    Settles phrase.calls phrase.rewrite := by
  cases phrase with
  | text words => exact .pure _
  | name parts => exact .pure _
  | call function quantifier arguments ordering modifiers =>
    simp only [calls, List.forall_mem_append, List.forall_mem_singleton] at accepted
    obtain ⟨inArguments, inOrdering, inModifiers, own⟩ := accepted
    rw [rewrite, calls]
    refine (settles_rewriteAll arguments inArguments).bind fun argumentsDone first => ?_
    refine (settles_rewriteAll ordering inOrdering).bind fun orderingDone second => ?_
    refine (settles_rewriteAll modifiers inModifiers).bind fun modifiersDone third => ?_
    refine (settles_native own ⟨_, first, rfl⟩).andThen fun expression _ => ?_
    cases expression <;> exact ⟨_, rfl⟩
  | substring subject start length =>
    simp only [calls, List.forall_mem_append, List.forall_mem_singleton] at accepted
    obtain ⟨inSubject, inStart, inLength, own⟩ := accepted
    rw [rewrite, calls]
    refine (settles_rewrite subject inSubject).bind fun subjectDone first => ?_
    refine (settles_rewriteAll start inStart).bind fun startDone second => ?_
    refine (settles_rewriteAll length inLength).bind fun lengthDone third => ?_
    have parts : RewritesAll (subject :: start ++ length)
        (subjectDone.result :: startDone.result ++ lengthDone.result) :=
      rewritesAll_append.mpr ⟨_, _, rewritesAll_cons.mpr ⟨_, _, ⟨_, first, rfl⟩,
        ⟨_, second, rfl⟩, rfl⟩, ⟨_, third, rfl⟩, rfl⟩
    refine (settles_native own parts).andThen fun expression _ => ?_
    cases expression <;> exact ⟨_, rfl⟩
  | sequence parts =>
    rw [rewrite, calls]
    exact (settles_rewriteAll parts accepted).andThen fun _ _ => ⟨_, rfl⟩

/-- Phrases are rewritten unless the text of a native form in them cannot be read. -/
theorem settles_rewriteAll (phrases : List Phrase)
    (accepted : ∀ call ∈ callsAll phrases, call.isAccepted = true) :
    Settles (callsAll phrases) (rewriteAll phrases) := by
  cases phrases with
  | nil => exact .pure _
  | cons phrase rest =>
    simp only [callsAll, List.forall_mem_append] at accepted
    obtain ⟨inFirst, inRest⟩ := accepted
    rw [rewriteAll, callsAll]
    refine (settles_rewrite phrase inFirst).bind fun first _ => ?_
    exact (settles_rewriteAll rest inRest).andThen fun _ _ => ⟨_, rfl⟩

end

end Phrase

/-- The statements of a text are rewritten unless the text of a native form in them cannot be
read. -/
theorem settles_rewriteStatements {text : String} {statements : List Phrase}
    (read : readAll text = some statements)
    (accepted : ∀ call ∈ Phrase.callsAll statements, call.isAccepted = true) :
    Settles (Phrase.callsAll statements) (rewriteStatements text) := by
  unfold rewriteStatements
  rw [read]
  refine (Phrase.settles_rewriteAll statements accepted).andThen fun rewritten _ => ?_
  cases rewritten.changed <;> exact ⟨_, rfl⟩

/-! ## Native forms that are read -/

/-- Whether the text of a formula can be read, wherever it comes from: no minus sign stands
right before another, and it does not nest too deep. -/
def Formula.isReadable (formula : Formula) : Bool :=
  formula.spacesMinus && decide (formula.rearranged.depth ≤ deepestExpression)

namespace Emulated

mutual

/-- Whether the text of every native form in an expression can be read. -/
def isReadable : Emulated → Bool
  | number _ => true
  | literal _ => true
  | column _ => true
  | call function arguments => areReadable arguments &&
    match Emulation.lookup (calledName [function.identifier]) with
    | some (.rewrite rewritten) =>
      (Formula.nativeForm rewritten (nativeAll [] arguments)).isReadable
    | _ => true
  | substring subject start length =>
    subject.isReadable && areReadable start && areReadable length &&
      (Formula.nativeForm .substring (nativeAll [] (subject :: start ++ length))).isReadable
  | group inner => inner.isReadable
  | negate operand => operand.isReadable
  | not operand => operand.isReadable
  | binary _ left right => left.isReadable && right.isReadable

/-- Whether the text of every native form in some expressions can be read. -/
def areReadable : List Emulated → Bool
  | [] => true
  | expression :: rest => expression.isReadable && areReadable rest

end

/-- The text of a readable native form is read, whatever its arguments are rewritten to. -/
theorem not_unreadable {name : String} {function : RewriteFunction} {arguments : List Emulated}
    (looked : Emulation.lookup name = some (.rewrite function))
    (readable : (Formula.nativeForm function (nativeAll [] arguments)).isReadable = true) :
    ¬Invocation.Unreadable ⟨name, phrases arguments⟩ := by
  rintro ⟨other, results, found, rewrites, unread⟩
  obtain rfl : function = other := by simpa [looked] using found
  unfold Formula.isReadable at readable
  rw [Bool.and_eq_true, decide_eq_true_eq] at readable
  obtain ⟨spaced, shallow⟩ := readable
  have reads {given actual : List Formula} (same : Formula.SameTexts given actual)
      (spaced : (Formula.nativeForm function actual).spacesMinus = true)
      (shallow : (Formula.nativeForm function actual).rearranged.depth ≤ deepestExpression) :
      readExpression (function.fragment ((Formula.phrases given).map Phrase.render)) ≠ none := by
    rw [readExpression_of_scan (scan_fragment function same spaced) shallow]
    exact nofun
  rcases Formula.nativeForm_cases function with ⟨noName, lock⟩ | ⟨name, isCall⟩
  · -- The text of a lock is the same without its arguments, which may be anything.
    have alone : function.fragment (results.map Phrase.render) =
        function.fragment ((Formula.phrases []).map Phrase.render) := by
      simp [RewriteFunction.fragment, noName]
    rw [lock, ← lock []] at spaced shallow
    exact reads .nil spaced shallow (alone ▸ unread)
  · have inside := spaced
    have within := shallow
    rw [isCall] at inside within
    obtain ⟨formulas, rfl, same⟩ :=
      rewritesAll_phrases arguments inside (Nat.le_trans (Nat.le_succ _) within) rewrites
    exact reads same spaced shallow unread

mutual

/-- The calls in a readable expression have native forms whose texts are read. -/
theorem readable_calls (expression : Emulated) (readable : expression.isReadable = true) :
    ∀ call ∈ expression.phrase.calls, ¬call.Unreadable := by
  cases expression with
  | number digits => exact nofun
  | literal value => exact nofun
  | column name => exact nofun
  | call function arguments =>
    rw [isReadable, Bool.and_eq_true] at readable
    obtain ⟨inside, own⟩ := readable
    simp only [phrase, Phrase.calls, Phrase.callsAll, List.nil_append, List.forall_mem_append,
      List.forall_mem_singleton]
    refine ⟨readable_callsAll arguments inside, ?_⟩
    rintro ⟨rewritten, results, looked, rest⟩
    dsimp only at looked
    rw [looked] at own
    exact not_unreadable looked own ⟨rewritten, results, looked, rest⟩
  | substring subject start length =>
    simp only [isReadable, Bool.and_eq_true] at readable
    obtain ⟨⟨⟨inSubject, inStart⟩, inLength⟩, own⟩ := readable
    have looked : Emulation.lookup "substring" = some (.rewrite .substring) := by decide
    have parts : phrases (subject :: start ++ length) =
        subject.phrase :: phrases start ++ phrases length := by
      simp [phrases_eq_map]
    simp only [phrase, Phrase.calls, List.forall_mem_append, List.forall_mem_singleton, ← parts]
    exact ⟨readable_calls subject inSubject, readable_callsAll start inStart,
      readable_callsAll length inLength, not_unreadable looked own⟩
  | group inner =>
    have inside := readable_calls inner readable
    simpa [phrase, Phrase.parenthesized, Phrase.list, Phrase.separated, Phrase.calls,
      Phrase.callsAll] using inside
  | negate operand =>
    have inside := readable_calls operand readable
    simpa [phrase, Phrase.calls, Phrase.callsAll] using inside
  | not operand =>
    have inside := readable_calls operand readable
    simpa [phrase, Phrase.calls, Phrase.callsAll] using inside
  | binary operator left right =>
    rw [isReadable, Bool.and_eq_true] at readable
    have before := readable_calls left readable.1
    have after := readable_calls right readable.2
    simp only [phrase, Phrase.calls, Phrase.callsAll, List.nil_append, List.append_nil,
      List.forall_mem_append]
    exact ⟨before, after⟩

/-- The calls in readable expressions have native forms whose texts are read. -/
theorem readable_callsAll (expressions : List Emulated)
    (readable : areReadable expressions = true) :
    ∀ call ∈ Phrase.callsAll (phrases expressions), ¬call.Unreadable := by
  cases expressions with
  | nil => exact nofun
  | cons expression rest =>
    rw [areReadable, Bool.and_eq_true] at readable
    rw [phrases, Phrase.callsAll, List.forall_mem_append]
    exact ⟨readable_calls expression readable.1, readable_callsAll rest readable.2⟩

end

end Emulated

/-! ## Selections -/

namespace Phrase

/-- The calls in phrases, one after another. -/
theorem callsAll_eq_flatMap (phrases : List Phrase) : callsAll phrases = phrases.flatMap calls := by
  induction phrases with
  | nil => rfl
  | cons phrase rest inductionHypothesis =>
    rw [callsAll, inductionHypothesis, List.flatMap_cons]

/-- Signs between phrases are no calls. -/
theorem callsAll_separated (sign : String) (phrases : List Phrase) :
    callsAll (separated sign phrases) = callsAll phrases := by
  unfold separated
  induction phrases with
  | nil => rfl
  | cons phrase rest inductionHypothesis =>
    cases rest with
    | nil => rfl
    | cons next more =>
      rw [List.intersperse_cons_cons, callsAll, callsAll, calls, List.nil_append, callsAll,
        inductionHypothesis]

end Phrase

/-- The calls in a selection are those in its columns and in its condition. -/
theorem Selection.calls_phrase (selection : Selection Phrase) :
    selection.phrase.calls = Phrase.callsAll selection.parts := by
  obtain ⟨first, others, table, condition⟩ := selection
  have inTable : Phrase.callsAll (Nested.spaced (tablePhrases table)) = [] := by
    cases table <;> rfl
  have inCondition : Phrase.callsAll (Nested.spaced (conditionPhrases condition)) =
      Phrase.callsAll condition.toList := by
    cases condition <;> simp [conditionPhrases, Nested.spaced, Phrase.callsAll, Phrase.calls]
  have inColumns : (Phrase.list (first :: others)).calls = Phrase.callsAll (first :: others) := by
    rw [Phrase.list, Phrase.calls, Phrase.callsAll_separated]
  simp only [Selection.phrase, Selection.parts, Selection.columns, Phrase.calls, Phrase.callsAll,
    List.append_nil, List.nil_append, inColumns, Phrase.callsAll_eq_flatMap, List.flatMap_append]
    at inTable inCondition ⊢
  rw [inTable, inCondition, List.nil_append, List.flatMap_cons]

/-- The calls in a selection of readable expressions have native forms whose texts are read. -/
theorem Selection.readable_calls (selection : Selection Emulated)
    (readable : ∀ expression ∈ selection.parts, expression.isReadable = true) :
    ∀ call ∈ Phrase.callsAll [(selection.map Emulated.phrase).phrase], ¬call.Unreadable := by
  intro call member
  rw [Phrase.callsAll, Phrase.callsAll, List.append_nil, calls_phrase, Phrase.callsAll_eq_flatMap,
    Selection.parts_map, List.mem_flatMap] at member
  obtain ⟨phrase, inParts, inPhrase⟩ := member
  obtain ⟨expression, part, rfl⟩ := List.mem_map.mp inParts
  exact expression.readable_calls (readable expression part) call inPhrase

/-! ## Comments in native forms -/

namespace Token

/-- Two minus signs make a comment of what follows them, to the end of the line. -/
theorem scanFrom_comment (fuel : Nat) (afterWord : Bool) {rest : List Char} (oneLine : '\n' ∉ rest)
    (enough : ('-' :: '-' :: rest).length ≤ fuel) :
    scanFrom fuel afterWord ('-' :: '-' :: rest) = some [] := by
  have line : ∀ c ∈ rest, (c != '\n') = true := by
    intro c member
    rw [bne_iff_ne]
    rintro rfl
    exact oneLine member
  have endsLine : ∀ c, ([] : List Char).head? = some c → (c != '\n') = false := by simp
  cases fuel with
  | zero => simp at enough
  | succ fuel =>
    have step : scanStep afterWord '-' ('-' :: rest) = some (none, []) := by
      change some (none, (rest.dropWhile (· != '\n')).drop 1) = _
      have dropped := (Text.takeWhile_dropWhile_append line endsLine).2
      rw [List.append_nil] at dropped
      rw [dropped, List.drop_nil]
    have ended : scanFrom fuel false [] = some [] := by cases fuel <;> rfl
    rw [scanFrom, step]
    exact ended

/-- Before a comment stands all there is. -/
theorem scan_of_comment {text : String} {front rest : List Char} {tokens : List Token}
    (cut : text.toList = front ++ '-' :: '-' :: rest) (oneLine : '\n' ∉ rest)
    (scans : ScansAs front tokens ('-' :: '-' :: rest)) : scan text = some tokens := by
  unfold scan
  rw [cut]
  obtain ⟨left, flag, enough, scanned⟩ := scans _ false (Nat.le_refl _)
  rw [scanned, scanFrom_comment left flag oneLine enough, Option.map_some, List.append_nil]

end Token

/-- The text of a native form whose arguments begin with two minus signs is not read, unless
a line ends in them. -/
theorem readExpression_of_comment {function : RewriteFunction} {native : String}
    (called : function.native? = some native) {texts : List String} {rest : List Char}
    (minuses : (", ".intercalate texts).toList = '-' :: '-' :: rest) (oneLine : '\n' ∉ rest) :
    readExpression (function.fragment texts) = none := by
  have cut : (function.fragment texts).toList =
      (native.toList ++ ['(']) ++ '-' :: '-' :: (rest ++ [')']) := by
    unfold RewriteFunction.fragment
    rw [called]
    simp [minuses]
  have oneLineStill : '\n' ∉ rest ++ [')'] := by simpa using oneLine
  have opening (after : List Char) :
      Token.ScansAs (native.toList ++ ['(']) [Token.ofName native.toList, .sign "("] after := by
    have delimited : Delimited ('(' :: after) := by
      rintro _ ⟨⟩
      simp
    have name : Token.ScansAs native.toList [Token.ofName native.toList] ('(' :: after) := by
      cases function <;> simp [RewriteFunction.native?] at called <;> subst called <;>
        exact Token.scansAs_name (by decide) (List.all_eq_true.mp (by decide)) delimited
    exact name.append (Token.scansAs_open after)
  unfold readExpression
  rw [Token.scan_of_comment cut oneLineStill (opening _)]
  cases function <;> simp [RewriteFunction.native?] at called <;> subst called <;> decide +kernel

/-- The arguments of a call that has a native form by name begin with two minus signs, once
they are rewritten, and no line ends in them. -/
def Invocation.OpensComment (call : Invocation) : Prop :=
  ∃ function native results rest, Emulation.lookup call.name = some (.rewrite function) ∧
    function.native? = some native ∧ RewritesAll call.arguments results ∧
    (", ".intercalate (results.map Phrase.render)).toList = '-' :: '-' :: rest ∧ '\n' ∉ rest

/-- A call whose arguments open a comment has a native form that cannot be read. -/
theorem Invocation.OpensComment.unreadable {call : Invocation} (opens : call.OpensComment) :
    call.Unreadable := by
  obtain ⟨function, native, results, rest, looked, called, rewrites, minuses, oneLine⟩ := opens
  exact ⟨function, results, looked, rewrites, readExpression_of_comment called minuses oneLine⟩

/-! ## Rewriting as a whole -/

/-- A call on a column under two minus signs, with something between them, and on another
column. -/
def callOnNegation (function first second : PlainName) (between : Emulated → Emulated) :
    Emulated :=
  .call function [.negate (between (.negate (.column first))), .column second]

end DialectBridge.Statement
