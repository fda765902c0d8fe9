import DialectBridge.Proofs.Statement.Completing
import DialectBridge.Proofs.Statement.FormedStatements
import DialectBridge.Proofs.Statement.Preservation

/-!
# Rewriting again

A run leaves a text as it is exactly if no call of a rewritten function is in what the text is
read as, or if it does not even mention one. A run that changes a text puts a native form in
the place of every call. But native forms are read from their texts, and it is a text that is
handed on. Neither need be read as the phrases that it was written from: what stood in a
literal can be read as a call, which is rewritten by the next run.

Where the names of rewritten functions stand in calls of them only, this cannot be. There is
no such name left in the text that comes out, and no way to read one into it.
-/

namespace DialectBridge.Statement

open Emulation (RewriteFunction Fault)
open Except (eq_ok_of_toOption ok_of_bind)

/-- Whether a name is not that of a rewritten function. -/
def isNativeName (name : String) : Bool :=
  match Emulation.lookup name with
  | some (.rewrite _) => false
  | _ => true

/-- A name is native exactly if no rewritten function is found under it. -/
theorem isNativeName_iff {name : String} :
    isNativeName name = true ↔ ∀ function, Emulation.lookup name ≠ some (.rewrite function) := by
  unfold isNativeName
  split
  · next function looked => simp [looked]
  · next other => exact ⟨fun _ => other, fun _ => rfl⟩

/-- Whether a call is left as it is: its function is not a rewritten one. -/
def Invocation.isNative (call : Invocation) : Bool := isNativeName call.name

/-- The function that a part of a text is a call of. -/
theorem lookup_substring : Emulation.lookup "substring" = some (.rewrite .substring) := by
  decide

namespace Phrase

mutual

/-- A phrase without calls of rewritten functions stays as it is. -/
theorem rewrite_of_native (phrase : Phrase) (native : ∀ call ∈ phrase.calls, call.isNative = true) :
    phrase.rewrite = .ok ⟨phrase, false⟩ := by
  cases phrase with
  | text words => rfl
  | name parts => rfl
  | call function quantifier arguments ordering modifiers =>
    simp only [calls, List.forall_mem_append, List.forall_mem_singleton] at native
    obtain ⟨inArguments, inOrdering, inModifiers, own⟩ := native
    have other := isNativeName_iff.mp own
    rw [rewrite, rewriteAll_of_native arguments inArguments,
      rewriteAll_of_native ordering inOrdering, rewriteAll_of_native modifiers inModifiers]
    simp only [bind, Except.bind, native_eq_none other, pure, Except.pure, Bool.or_self]
  | substring subject start length =>
    simp only [calls, List.forall_mem_append, List.forall_mem_singleton] at native
    exact absurd lookup_substring (isNativeName_iff.mp native.2.2.2 _)
  | sequence parts =>
    simp only [rewrite, rewriteAll_of_native parts native, bind, Except.bind, pure, Except.pure]

/-- Phrases without calls of rewritten functions stay as they are. -/
theorem rewriteAll_of_native (phrases : List Phrase)
    (native : ∀ call ∈ callsAll phrases, call.isNative = true) :
    rewriteAll phrases = .ok ⟨phrases, false⟩ := by
  cases phrases with
  | nil => rfl
  | cons phrase rest =>
    simp only [callsAll, List.forall_mem_append] at native
    simp only [rewriteAll, rewrite_of_native phrase native.1, rewriteAll_of_native rest native.2,
      bind, Except.bind, pure, Except.pure, Bool.or_self]

end

mutual

/-- A phrase in which nothing has changed has no calls of rewritten functions. -/
theorem native_of_unchanged (phrase : Phrase) {rewritten : Rewritten Phrase}
    (run : phrase.rewrite = .ok rewritten) (unchanged : rewritten.changed = false) :
    ∀ call ∈ phrase.calls, call.isNative = true := by
  cases phrase with
  | text words => exact nofun
  | name parts => exact nofun
  | call function quantifier arguments ordering modifiers =>
    rw [rewrite] at run
    obtain ⟨argumentsDone, first, run⟩ := ok_of_bind run
    obtain ⟨orderingDone, second, run⟩ := ok_of_bind run
    obtain ⟨modifiersDone, third, run⟩ := ok_of_bind run
    obtain ⟨expression, made, run⟩ := ok_of_bind run
    cases expression with
    | some expression =>
      obtain rfl := Except.ok.inj run
      exact absurd unchanged (Ne.symm Bool.false_ne_true)
    | none =>
      obtain rfl := Except.ok.inj run
      simp only [Bool.or_eq_false_iff] at unchanged
      simp only [calls, List.forall_mem_append, List.forall_mem_singleton]
      refine ⟨native_of_unchangedAll arguments first unchanged.1.1,
        native_of_unchangedAll ordering second unchanged.1.2,
        native_of_unchangedAll modifiers third unchanged.2, ?_⟩
      refine isNativeName_iff.mpr fun function looked => ?_
      obtain ⟨_, _, isSome⟩ := native_of_rewritten looked made
      exact absurd isSome nofun
  | substring subject start length =>
    rw [rewrite] at run
    obtain ⟨subjectDone, first, run⟩ := ok_of_bind run
    obtain ⟨startDone, second, run⟩ := ok_of_bind run
    obtain ⟨lengthDone, third, run⟩ := ok_of_bind run
    obtain ⟨expression, made, run⟩ := ok_of_bind run
    obtain ⟨read, _, rfl⟩ := native_of_rewritten lookup_substring made
    obtain rfl := Except.ok.inj run
    exact absurd unchanged (Ne.symm Bool.false_ne_true)
  | sequence parts =>
    rw [rewrite] at run
    obtain ⟨partsDone, first, run⟩ := ok_of_bind run
    obtain rfl := Except.ok.inj run
    exact native_of_unchangedAll parts first unchanged

/-- Phrases in which nothing has changed have no calls of rewritten functions. -/
theorem native_of_unchangedAll (phrases : List Phrase) {rewritten : Rewritten (List Phrase)}
    (run : rewriteAll phrases = .ok rewritten) (unchanged : rewritten.changed = false) :
    ∀ call ∈ callsAll phrases, call.isNative = true := by
  cases phrases with
  | nil => exact nofun
  | cons phrase rest =>
    rw [rewriteAll] at run
    obtain ⟨first, head, run⟩ := ok_of_bind run
    obtain ⟨others, tail, run⟩ := ok_of_bind run
    obtain rfl := Except.ok.inj run
    simp only [Bool.or_eq_false_iff] at unchanged
    rw [callsAll, List.forall_mem_append]
    exact ⟨native_of_unchanged phrase head unchanged.1,
      native_of_unchangedAll rest tail unchanged.2⟩

end

end Phrase

/-- In what a text is read as, if it can be read, there is no call of a rewritten function. -/
def IsNative (text : String) : Prop :=
  ∀ statements, readAll text = some statements →
    ∀ call ∈ Phrase.callsAll statements, call.isNative = true

/-- A text stays as it is when its statements are rewritten exactly if it has no call of a
rewritten function in what it is read as. -/
theorem rewriteStatements_eq_none_iff {text : String} :
    rewriteStatements text = .ok none ↔ IsNative text := by
  unfold rewriteStatements IsNative
  cases read : readAll text with
  | none => exact ⟨fun _ => nofun, fun _ => rfl⟩
  | some statements =>
    simp only [Option.some.injEq, forall_eq']
    constructor
    · intro run
      obtain ⟨rewritten, done, run⟩ := ok_of_bind run
      have unchanged : rewritten.changed = false := by
        cases changed : rewritten.changed with
        | false => rfl
        | true =>
          rw [changed] at run
          exact absurd (Except.ok.inj run) nofun
      exact Phrase.native_of_unchangedAll statements done unchanged
    · intro native
      rw [Phrase.rewriteAll_of_native statements native]
      rfl

/-- A text stays as it is exactly if it mentions no rewritten function, or has no call of one
in what it is read as. -/
theorem rewrite_eq_none_iff {text : String} :
    rewrite text = .ok none ↔ mentionsRewritten text = false ∨ IsNative text := by
  unfold rewrite
  by_cases mentions : mentionsRewritten text = true
  · rw [if_pos mentions, mentions, rewriteStatements_eq_none_iff]
    simp only [Bool.true_eq_false, false_or]
  · rw [if_neg mentions]
    exact ⟨fun _ => .inl (Bool.not_eq_true _ ▸ mentions), fun _ => rfl⟩

/-! ## Quiet statements -/

namespace Phrase

mutual

/-- Whether a phrase has the names of rewritten functions in calls of them only. What stands
behind the arguments of such a call does not matter, since it is left out. -/
def isQuiet : Phrase → Bool
  | text words => decide (Silent words.toList)
  | name parts => parts.all fun part => decide (Silent part.render.toList)
  | call function _ arguments ordering modifiers =>
    areQuiet arguments && (!isNativeName (calledName function) ||
      (function.all fun part => decide (Silent part.render.toList)) &&
        areQuiet ordering && areQuiet modifiers)
  | substring subject start length => subject.isQuiet && areQuiet start && areQuiet length
  | sequence parts => areQuiet parts

/-- Whether phrases have the names of rewritten functions in calls of them only. -/
def areQuiet : List Phrase → Bool
  | [] => true
  | phrase :: rest => phrase.isQuiet && areQuiet rest

end

variable {phrases results : List Phrase}

/-- Phrases begin with a separator after they are rewritten if they did before. -/
theorem startApart_of_rewrites (rewrites : RewritesAll phrases results)
    (starts : startApart phrases = true) : startApart results = true := by
  induction phrases using startApart.induct generalizing results with
  | case1 => exact rewritesAll_nil.mp rewrites ▸ rfl
  | case2 words rest inductionHypothesis =>
    obtain ⟨_, others, head, tail, rfl⟩ := rewritesAll_cons.mp rewrites
    obtain rfl := rewrites_text.mp head
    simp only [startApart, Bool.and_eq_true, Bool.or_eq_true] at starts ⊢
    exact ⟨starts.1, starts.2.imp id (inductionHypothesis tail)⟩
  | case3 words inner rest =>
    obtain ⟨_, others, head, tail, rfl⟩ := rewritesAll_cons.mp rewrites
    obtain ⟨_, inside, rfl⟩ := rewrites_sequence.mp head
    obtain ⟨_, others, first, _, rfl⟩ := rewritesAll_cons.mp inside
    obtain rfl := rewrites_text.mp first
    exact starts
  | case4 phrases notNil notText notSequence =>
    rw [startApart_eq_false notNil notText notSequence] at starts
    exact absurd starts Bool.false_ne_true

/-- Phrases meet at separators after they are rewritten if they did before. -/
theorem jointed_of_rewrites (rewrites : RewritesAll phrases results)
    (joints : jointed phrases = true) : jointed results = true := by
  induction phrases generalizing results with
  | nil => exact rewritesAll_nil.mp rewrites ▸ rfl
  | cons phrase rest inductionHypothesis =>
    obtain ⟨first, others, head, tail, rfl⟩ := rewritesAll_cons.mp rewrites
    rw [jointed, Bool.and_eq_true, Bool.or_eq_true] at joints ⊢
    refine ⟨joints.1.imp (fun ends => ?_) (startApart_of_rewrites tail),
      inductionHypothesis tail joints.2⟩
    cases phrase with
    | text words => exact rewrites_text.mp head ▸ ends
    | _ => exact absurd ends Bool.false_ne_true

end Phrase

/-- The native form of a call on silent arguments is silent. -/
theorem silent_fragment {hushed : Mark → Prop} (function : RewriteFunction)
    {arguments : List String} (silent : ∀ argument ∈ arguments, SilentTo hushed argument.toList) :
    SilentTo hushed (function.fragment arguments).toList := by
  have inside := Phrase.silent_intercalate (by decide : Phrase.isJoint ", " = true) silent
  have silentName : ∀ name ∈ function.native?, Silent name.toList := by
    cases function <;> decide
  unfold RewriteFunction.fragment
  split
  · exact Silent.to (by decide) hushed
  · next native named =>
    have shape : (native ++ "(" ++ ", ".intercalate arguments ++ ")").toList =
        native.toList ++ '(' :: ((", ".intercalate arguments).toList ++ [')']) := by simp
    rw [shape, silent_append_cons (by decide), silent_concat (by decide)]
    exact ⟨(silentName native named).to hushed, inside⟩

/-- The native expression of a rewritten function on hushed arguments is hushed. -/
theorem formed_native {hushed : Mark → Prop} (inCapitals : hushed capitals) {function : String}
    {rewritten : RewriteFunction} {arguments : List Phrase}
    {expression : Option Phrase} (looked : Emulation.lookup function = some (.rewrite rewritten))
    (formed : Phrase.FormedAll hushed arguments)
    (made : native function arguments = .ok expression) (default : Phrase) :
    (expression.getD default).Formed hushed := by
  obtain ⟨found, read, rfl⟩ := native_of_rewritten looked made
  refine formed_readExpression read (silent_fragment rewritten ?_)
  rw [← Phrase.renderAll_eq_map]
  exact Phrase.silent_renderAll inCapitals arguments formed

/-- Each of some silent names is silent. -/
theorem silent_of_all {parts : List Identifier}
    (silent : (parts.all fun part => decide (Silent part.render.toList)) = true) :
    ∀ part ∈ parts, Silent part.render.toList :=
  fun part member => of_decide_eq_true (List.all_eq_true.mp silent part member)

namespace Phrase

mutual

/-- A quiet phrase is rewritten to a hushed one. -/
theorem formed_of_rewrites (phrase : Phrase) (formed : phrase.Formed fun _ => False)
    (quiet : phrase.isQuiet = true) {result : Phrase} (rewrites : Rewrites phrase result) :
    result.Formed fun _ => True := by
  cases phrase with
  | text words =>
    obtain rfl := rewrites_text.mp rewrites
    exact formed_text (of_decide_eq_true quiet)
  | name parts =>
    obtain rfl := rewrites_name.mp rewrites
    exact fun part member => (silent_of_all quiet part member).to _
  | call function quantifier arguments ordering modifiers =>
    obtain ⟨argumentsDone, orderingDone, modifiersDone, expression, inArguments, inOrdering,
      inModifiers, made, rfl⟩ := rewrites.call
    obtain ⟨-, formedArguments, ⟨formedOrdering, joints, starts⟩, formedModifiers, apart⟩ := formed
    simp only [isQuiet, Bool.and_eq_true, Bool.or_eq_true, Bool.not_eq_true'] at quiet
    obtain ⟨quietArguments, elsewhere⟩ := quiet
    have argumentsFormed :=
      formed_of_rewritesAll arguments formedArguments quietArguments inArguments
    by_cases own : isNativeName (calledName function) = true
    · obtain ⟨⟨named, quietOrdering⟩, quietModifiers⟩ :=
        elsewhere.resolve_left (by rw [own]; exact nofun)
      obtain rfl := native_of_not_rewritten (isNativeName_iff.mp own) made
      exact ⟨fun part member => (silent_of_all named part member).to _,
        argumentsFormed, ⟨formed_of_rewritesAll ordering formedOrdering quietOrdering inOrdering,
          jointed_of_rewrites inOrdering joints, startApart_of_rewrites inOrdering starts⟩,
        formed_of_rewritesAll modifiers formedModifiers quietModifiers inModifiers,
        jointed_of_rewrites inModifiers apart⟩
    · simp only [isNativeName_iff, not_forall, not_not] at own
      obtain ⟨rewritten, looked⟩ := own
      exact formed_native trivial looked argumentsFormed made _
  | substring subject start length =>
    obtain ⟨subjectDone, startDone, lengthDone, expression, inSubject, inStart, inLength, made,
      rfl⟩ := rewrites.substring
    obtain ⟨-, formedSubject, formedStart, formedLength⟩ := formed
    simp only [isQuiet, Bool.and_eq_true] at quiet
    obtain ⟨⟨quietSubject, quietStart⟩, quietLength⟩ := quiet
    refine formed_native trivial lookup_substring ?_ made _
    have before := formed_of_rewrites subject formedSubject quietSubject inSubject
    have between := formed_of_rewritesAll start formedStart quietStart inStart
    have after := formed_of_rewritesAll length formedLength quietLength inLength
    rw [formedAll_iff] at between after ⊢
    rw [List.cons_append, List.forall_mem_cons, List.forall_mem_append]
    exact ⟨before, between, after⟩
  | sequence parts =>
    obtain ⟨others, inside, rfl⟩ := rewrites_sequence.mp rewrites
    exact ⟨formed_of_rewritesAll parts formed.1 quiet inside, jointed_of_rewrites inside formed.2⟩

/-- Quiet phrases are rewritten to hushed ones. -/
theorem formed_of_rewritesAll (phrases : List Phrase) (formed : FormedAll (fun _ => False) phrases)
    (quiet : areQuiet phrases = true) {results : List Phrase}
    (rewrites : RewritesAll phrases results) : FormedAll (fun _ => True) results := by
  cases phrases with
  | nil => exact rewritesAll_nil.mp rewrites ▸ trivial
  | cons phrase rest =>
    obtain ⟨first, others, head, tail, rfl⟩ := rewritesAll_cons.mp rewrites
    rw [areQuiet, Bool.and_eq_true] at quiet
    exact ⟨formed_of_rewrites phrase formed.1 quiet.1 head,
      formed_of_rewritesAll rest formed.2 quiet.2 tail⟩

end

end Phrase

/-- Whether a call is the one of the function behind the keyword of a part of a text. -/
def Invocation.IsSubstring (call : Invocation) : Prop := call.name = "substring"

namespace Phrase

variable {hushed : Mark → Prop}

mutual

/-- A hushed phrase has no calls of rewritten functions, other than parts of texts where their
keyword is not hushed. -/
theorem native_of_formed (inSmallLetters : ∀ mark, InSmallLetters mark → hushed mark)
    (phrase : Phrase) (formed : phrase.Formed hushed) :
    ∀ call ∈ phrase.calls, call.isNative = true ∨ (¬hushed capitals ∧ call.IsSubstring) := by
  cases phrase with
  | text words => exact nofun
  | name parts => exact nofun
  | call function quantifier arguments ordering modifiers =>
    obtain ⟨named, inArguments, ⟨inOrdering, -, -⟩, inModifiers, -⟩ := formed
    have silentName : SilentTo hushed (renderName function).toList :=
      silent_intercalate (by decide) (List.forall_mem_map.mpr named)
    have other := (silentName.mono inSmallLetters).lookup_ne
    simp only [calls, List.forall_mem_append, List.forall_mem_singleton]
    exact ⟨native_of_formedAll inSmallLetters arguments inArguments,
      native_of_formedAll inSmallLetters ordering inOrdering,
      native_of_formedAll inSmallLetters modifiers inModifiers,
      .inl (isNativeName_iff.mpr other)⟩
  | substring subject start length =>
    obtain ⟨loud, inSubject, inStart, inLength⟩ := formed
    simp only [calls, List.forall_mem_append, List.forall_mem_singleton]
    exact ⟨native_of_formed inSmallLetters subject inSubject,
      native_of_formedAll inSmallLetters start inStart,
      native_of_formedAll inSmallLetters length inLength, .inr ⟨loud, rfl⟩⟩
  | sequence parts => exact native_of_formedAll inSmallLetters parts formed.1

/-- Hushed phrases have no calls of rewritten functions, other than parts of texts where their
keyword is not hushed. -/
theorem native_of_formedAll (inSmallLetters : ∀ mark, InSmallLetters mark → hushed mark)
    (phrases : List Phrase) (formed : FormedAll hushed phrases) :
    ∀ call ∈ callsAll phrases, call.isNative = true ∨ (¬hushed capitals ∧ call.IsSubstring) := by
  cases phrases with
  | nil => exact nofun
  | cons phrase rest =>
    rw [callsAll, List.forall_mem_append]
    exact ⟨native_of_formed inSmallLetters phrase formed.1,
      native_of_formedAll inSmallLetters rest formed.2⟩

end

end Phrase

/-- A silent text has no call of a rewritten function. -/
theorem isNative_of_silent {text : String} (silent : Silent text.toList) : IsNative text := by
  intro statements read call member
  have formed := formed_readAll read (silent.to fun _ => True)
  have native := Phrase.native_of_formedAll (fun _ _ => trivial) statements formed call member
  exact native.resolve_right fun loud => loud.1 trivial

/-- Quiet statements are rewritten to a silent text. -/
theorem silent_of_rewrite {text out : String} {statements : List Phrase}
    (read : readAll text = some statements) (quiet : Phrase.areQuiet statements = true)
    (rewritten : rewrite text = .ok (some out)) : Silent out.toList := by
  obtain ⟨before, results, readAs, rewrites, rfl⟩ := rewritesAll_of_rewrite rewritten
  obtain rfl := Option.some.inj (read.symm.trans readAs)
  have formed : Phrase.FormedAll (fun _ => False) statements := formed_readAll read fun _ _ => nofun
  have hushed := Phrase.formed_of_rewritesAll statements formed quiet rewrites
  rw [← silentTo_all_iff]
  exact Phrase.silent_intercalate (by decide) (Phrase.silent_renderAll trivial results hushed)

/-! ## Formulas -/

namespace Formula

/-- The functions that are called in a formula, in order. -/
def functions (formula : Formula) : List String := formula.phrase.calls.map Invocation.name

/-- A call is of its function, after those in its arguments. -/
theorem functions_call (function : PlainName) (arguments : List Formula) :
    (call function arguments).functions =
      arguments.flatMap functions ++ [calledName [function.identifier]] := by
  unfold functions
  simp [phrase, Phrase.calls, Phrase.callsAll, Phrase.callsAll_eq_flatMap, phrases_eq_map,
    List.map_flatMap, List.flatMap_map]

/-- A group calls what it groups. -/
theorem functions_group (inner : Formula) : (group inner).functions = inner.functions := by
  simp [functions, phrase, Phrase.parenthesized, Phrase.list, Phrase.separated, Phrase.calls,
    Phrase.callsAll]

/-- A negation calls what is negated. -/
theorem functions_negate (operand : Formula) : (negate operand).functions = operand.functions := by
  simp [functions, phrase, Phrase.calls, Phrase.callsAll]

/-- A logical negation calls what is negated. -/
theorem functions_not (operand : Formula) : (not operand).functions = operand.functions := by
  simp [functions, phrase, Phrase.calls, Phrase.callsAll]

/-- An operator calls what its operands call. -/
theorem functions_binary (operator : Infix) (left right : Formula) :
    (binary operator left right).functions = left.functions ++ right.functions := by
  simp [functions, phrase, Phrase.calls, Phrase.callsAll]

/-- A formula with an operator after it calls what both operands call. -/
theorem functions_attach (left : Formula) (operator : Infix) (right : Formula) :
    (left.attach operator right).functions = left.functions ++ right.functions := by
  fun_induction attach left operator right with
  | case1 left stops => exact functions_binary _ _ _
  | case2 operand goesOn inductionHypothesis =>
    rw [functions_negate, functions_negate, inductionHypothesis]
  | case3 operand goesOn inductionHypothesis =>
    rw [functions_not, functions_not, inductionHypothesis]
  | case4 outer first second goesOn inductionHypothesis =>
    rw [functions_binary, functions_binary, inductionHypothesis, List.append_assoc]
  | case5 left goesOn notNegation notNot notBinary => exact functions_binary _ _ _

/-- What takes an operand calls the same before any of them. -/
theorem functions_extend {head : Formula → Formula} {front : List String} (level : Nat)
    (formula : Formula)
    (heads : ∀ formula : Formula, (head formula).functions = front ++ formula.functions) :
    (extend head level formula).functions = front ++ formula.functions := by
  fun_induction extend head level formula with
  | case1 operator left right taken => exact heads _
  | case2 operator left right notTaken inductionHypothesis =>
    rw [functions_attach, inductionHypothesis, functions_binary, List.append_assoc]
  | case3 formula notBinary => exact heads _

/-- A rearranged formula calls what the formula calls. -/
theorem functions_rearranged (formula : Formula) :
    formula.rearranged.functions = formula.functions := by
  induction formula using induction_on_parts with
  | number digits => rfl
  | literal value => rfl
  | column name => rfl
  | call function arguments inductionHypothesis =>
    rw [rearranged, functions_call, functions_call, rearrangedAll_eq_map, List.flatMap_map,
      List.flatMap_congr inductionHypothesis]
  | group inner inductionHypothesis =>
    rw [rearranged, functions_group, functions_group, inductionHypothesis]
  | negate operand inductionHypothesis =>
    rw [rearranged, @functions_extend negate [] _ _ functions_negate, inductionHypothesis,
      functions_negate, List.nil_append]
  | not operand inductionHypothesis =>
    rw [rearranged, @functions_extend not [] _ _ functions_not, inductionHypothesis,
      functions_not, List.nil_append]
  | binary operator left right before after =>
    rw [rearranged, functions_extend _ _ (functions_attach left.rearranged operator), before,
      after, functions_binary]

/-- No function that is called in a formula is a rewritten one. -/
def IsNative (formula : Formula) : Prop := ∀ name ∈ formula.functions, isNativeName name = true

/-- A call of a function that is not rewritten is native if its arguments are. -/
theorem IsNative.call {function : PlainName} {arguments : List Formula}
    (own : isNativeName (calledName [function.identifier]) = true)
    (native : ∀ argument ∈ arguments, argument.IsNative) :
    (Formula.call function arguments).IsNative := by
  rw [IsNative, functions_call, List.forall_mem_append, List.forall_mem_singleton,
    List.forall_mem_flatMap]
  exact ⟨native, own⟩

/-- A native form of native arguments is native. -/
theorem isNative_nativeForm (function : RewriteFunction) {arguments : List Formula}
    (native : ∀ argument ∈ arguments, argument.IsNative) :
    (nativeForm function arguments).IsNative := by
  cases function with
  | getLock => exact nofun
  | releaseLock => exact nofun
  | _ => exact .call (by decide) native

/-- A call is native, or becomes so, if its arguments are native. -/
theorem isNative_called (function : PlainName) {arguments : List Formula}
    (native : ∀ argument ∈ arguments, argument.IsNative) :
    (called function arguments).IsNative := by
  unfold called
  split
  · next rewritten _ => exact isNative_nativeForm rewritten native
  · next other => exact .call (isNativeName_iff.mpr other) native

end Formula

namespace Emulated

mutual

/-- What an expression is written as is native. -/
theorem isNative_written (expression : Emulated) : expression.written.IsNative := by
  cases expression with
  | number digits => exact nofun
  | literal value => exact nofun
  | column name => exact nofun
  | call function arguments =>
    rw [written, native]
    exact Formula.isNative_called function (isNative_nativeAll arguments)
  | substring subject start length =>
    rw [written, native]
    have inStart : ∀ formula ∈ if start.isEmpty then [] else nativeAll [] start,
        formula.IsNative := by
      split
      · exact nofun
      · exact isNative_nativeAll start
    refine Formula.isNative_nativeForm _ ?_
    rw [List.forall_mem_cons, List.forall_mem_append]
    exact ⟨isNative_written subject, inStart, isNative_nativeAll length⟩
  | group inner =>
    rw [written, native, Formula.IsNative, Formula.functions_group]
    exact isNative_written inner
  | negate operand =>
    rw [written, native, Formula.IsNative, Formula.functions_negate]
    exact isNative_written operand
  | not operand =>
    rw [written, native, Formula.IsNative, Formula.functions_not]
    exact isNative_written operand
  | binary operator left right =>
    rw [written, native, Formula.IsNative, Formula.functions_binary, List.forall_mem_append]
    exact ⟨isNative_written left, isNative_written right⟩

/-- What expressions are written as is native. -/
theorem isNative_nativeAll (expressions : List Emulated) :
    ∀ formula ∈ nativeAll [] expressions, formula.IsNative := by
  cases expressions with
  | nil => exact nofun
  | cons expression rest =>
    rw [nativeAll, List.forall_mem_cons]
    exact ⟨isNative_written expression, isNative_nativeAll rest⟩

end

end Emulated

/-- The calls in a selection of native formulas are native. -/
theorem Selection.native_calls {selection : Selection Formula}
    (native : ∀ formula ∈ selection.parts, formula.IsNative) :
    ∀ call ∈ Phrase.callsAll [(selection.map Formula.phrase).phrase], call.isNative = true := by
  intro call member
  rw [Phrase.callsAll, Phrase.callsAll, List.append_nil, calls_phrase, Phrase.callsAll_eq_flatMap,
    Selection.parts_map, List.mem_flatMap] at member
  obtain ⟨phrase, inParts, inPhrase⟩ := member
  obtain ⟨formula, part, rfl⟩ := List.mem_map.mp inParts
  exact native formula part call.name (List.mem_map_of_mem inPhrase)

/-- A selection is rewritten to a text that is read again, without calls of rewritten
functions. -/
theorem Selection.isNative_of_rewrite {selection : Selection Emulated} {text out : String}
    (read : readAll text = some [(selection.map Emulated.phrase).phrase])
    (rewritten : rewrite text = .ok (some out))
    (spaced : ∀ expression ∈ selection.parts, expression.written.spacesMinus = true)
    (shallow : ∀ expression ∈ selection.parts, expression.written.rearranged.depth ≤ deepest) :
    (readAll out).isSome = true ∧ IsNative out := by
  have again := readAll_of_rewrite read rewritten spaced shallow
  refine ⟨by rw [again]; rfl, fun statements readAs => ?_⟩
  obtain rfl := Option.some.inj (again.symm.trans readAs)
  refine native_calls fun formula member => ?_
  rw [parts_map, List.mem_map] at member
  obtain ⟨expression, _, rfl⟩ := member
  rw [Formula.IsNative, Formula.functions_rearranged]
  exact expression.isNative_written

end DialectBridge.Statement
