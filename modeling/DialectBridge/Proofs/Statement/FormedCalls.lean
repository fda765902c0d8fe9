import DialectBridge.Proofs.Statement.Layout
import DialectBridge.Proofs.Statement.Running

/-!
# Readers that give formed phrases

A reader yields a property if whatever it gives has it, and if it leaves silent tokens of
silent ones. This is kept when readers are put together, so that each reader of statements is
followed once, in the order in which it reads, and what it gives is put together in the same
order. In which ways the tokens are silent is left open: if nothing is hushed, all that is asked
of the phrases is that their parts meet at separators.

Expressions and queries hold each other. Their readers are taken as they come, with the
assumption that they give formed phrases, until the depth that they are given is counted down.
-/

namespace DialectBridge.Statement

namespace Reader

variable {α β : Type} {hushed : Mark → Prop} {holds : α → Prop} {next : β → Prop}

/-! ## What readers give -/

/-- Tokens that are silent in the ways that are hushed. -/
def Hushed (hushed : Mark → Prop) (tokens : List Token) : Prop :=
  ∀ token ∈ tokens, token.SilentTo hushed

/-- What a reader gives from hushed tokens has a property, and it leaves hushed tokens. -/
def Yields (hushed : Mark → Prop) (holds : α → Prop) (reader : Reader α) : Prop :=
  ∀ tokens, Hushed hushed tokens → ∀ value rest, reader tokens = .ok (value, rest) →
    holds value ∧ Hushed hushed rest

/-- The end of hushed tokens. -/
theorem Hushed.tail {token : Token} {rest : List Token} (quiet : Hushed hushed (token :: rest)) :
    Hushed hushed rest :=
  (List.forall_mem_cons.mp quiet).2

/-- The first of hushed tokens. -/
theorem Hushed.head {token : Token} {rest : List Token} (quiet : Hushed hushed (token :: rest)) :
    token.SilentTo hushed :=
  (List.forall_mem_cons.mp quiet).1

/-- Taking nothing. -/
theorem yields_pure {value : α} (held : holds value) :
    Yields hushed holds (pure value : Reader α) := by
  rintro tokens quiet _ _ ⟨⟩
  exact ⟨held, quiet⟩

/-- Refusing for any reason gives nothing. -/
theorem yields_throw (refusal : Refusal) : Yields hushed holds (throw refusal : Reader α) := by
  intro tokens _ value rest run
  exact absurd run nofun

/-- Refusing gives nothing. -/
theorem yields_refuse : Yields hushed holds (refuse : Reader α) := yields_throw .unexpected

/-- Refusing gives nothing to go on with. -/
theorem yields_refuse_bind {second : α → Reader β} :
    Yields hushed next ((refuse : Reader α) >>= second) := by
  intro tokens _ value rest run
  exact absurd run nofun

/-- One reader after another. -/
theorem Yields.bind {first : Reader α} {second : α → Reader β} (before : Yields hushed holds first)
    (after : ∀ value, holds value → Yields hushed next (second value)) :
    Yields hushed next (first >>= second) := by
  intro tokens quiet value rest run
  rw [bind_apply] at run
  cases read : first tokens with
  | error refusal => simp [read] at run
  | ok result =>
    rw [read] at run
    obtain ⟨held, left⟩ := before tokens quiet _ _ read
    exact after _ held _ left _ _ run

/-- Reading on in one of two ways. -/
theorem Yields.ite {condition : Reader Bool} {first second : Reader α}
    (before : Yields hushed (fun _ => True) condition) (yes : Yields hushed holds first)
    (no : Yields hushed holds second) :
    Yields hushed holds (do if ← condition then first else second) := by
  refine before.bind fun found _ => ?_
  cases found
  · exact no
  · exact yes

/-- Trying a reader. -/
theorem Yields.attempt {reader : Reader α} (yields : Yields hushed holds reader) :
    Yields hushed (fun found => ∀ value ∈ found, holds value) (attempt reader) := by
  intro tokens quiet found rest run
  unfold Reader.attempt at run
  split at run
  · next value left read =>
    obtain ⟨rfl, rfl⟩ := Prod.mk.inj (Except.ok.inj run)
    obtain ⟨held, quietLeft⟩ := yields tokens quiet value left read
    refine ⟨?_, quietLeft⟩
    rintro _ ⟨⟩
    exact held
  · obtain ⟨rfl, rfl⟩ := Prod.mk.inj (Except.ok.inj run)
    exact ⟨nofun, quiet⟩
  · exact absurd run nofun

/-! ## Signs and keywords -/

/-- Looking at all tokens. -/
theorem yields_get : Yields hushed (Hushed hushed) (get : Reader (List Token)) := by
  rintro tokens quiet _ _ ⟨⟩
  exact ⟨quiet, quiet⟩

/-- Going on with other tokens. -/
theorem yields_set {tokens : List Token} (quiet : Hushed hushed tokens) :
    Yields hushed (fun _ => True) (set tokens : Reader PUnit) := by
  rintro _ _ _ _ ⟨⟩
  exact ⟨trivial, quiet⟩

/-- Looking at the next token. -/
theorem yields_peek :
    Yields hushed (fun found => ∀ token ∈ found, token.SilentTo hushed) peek := by
  rintro tokens quiet _ _ ⟨⟩
  exact ⟨fun token member => quiet token (List.mem_of_mem_head? member), quiet⟩

/-- Looking at the next keyword. -/
theorem yields_peekKeyword : Yields hushed (fun _ => True) peekKeyword := by
  intro tokens quiet keyword rest run
  rw [peekKeyword_apply] at run
  obtain ⟨rfl, rfl⟩ := Prod.mk.inj (Except.ok.inj run)
  exact ⟨trivial, quiet⟩

/-- Taking the next token. -/
theorem yields_next : Yields hushed (fun token => token.SilentTo hushed) Reader.next := by
  intro tokens quiet token rest run
  cases tokens with
  | nil => exact absurd run nofun
  | cons first others =>
    obtain ⟨rfl, rfl⟩ := Prod.mk.inj (Except.ok.inj run)
    exact ⟨quiet.head, quiet.tail⟩

/-- Looking for a sign. -/
theorem yields_takesSign (sign : String) : Yields hushed (fun _ => True) (takesSign sign) := by
  intro tokens quiet found rest run
  cases tokens with
  | nil =>
    obtain ⟨rfl, rfl⟩ := Prod.mk.inj (Except.ok.inj run)
    exact ⟨trivial, quiet⟩
  | cons first others =>
    rw [takesSign_cons] at run
    split at run
    · obtain ⟨rfl, rfl⟩ := Prod.mk.inj (Except.ok.inj run)
      exact ⟨trivial, quiet.tail⟩
    · obtain ⟨rfl, rfl⟩ := Prod.mk.inj (Except.ok.inj run)
      exact ⟨trivial, quiet⟩

/-- Taking a sign. -/
theorem yields_expectSign (sign : String) : Yields hushed (fun _ => True) (expectSign sign) := by
  refine (yields_takesSign sign).ite ?_ ?_
  · exact yields_pure trivial
  · exact yields_refuse

/-- What is left behind keywords is the end of the tokens. -/
theorem dropKeywords_suffix {keywords : List String} {tokens rest : List Token}
    (run : dropKeywords keywords tokens = some rest) : rest <:+ tokens := by
  induction keywords generalizing tokens with
  | nil => exact Option.some.inj run ▸ List.suffix_refl _
  | cons keyword keywords inductionHypothesis =>
    cases tokens with
    | nil => simp [dropKeywords] at run
    | cons token others =>
      cases token with
      | word identifier found =>
        rw [dropKeywords] at run
        split at run
        · exact (inductionHypothesis run).trans (List.suffix_cons _ _)
        · simp at run
      | _ => simp [dropKeywords] at run

/-- Looking for keywords. -/
theorem yields_takesKeywords (keywords : List String) :
    Yields hushed (fun _ => True) (takesKeywords keywords) := by
  intro tokens quiet found rest run
  rw [takesKeywords_apply] at run
  cases dropped : dropKeywords keywords tokens with
  | none =>
    rw [dropped] at run
    obtain ⟨rfl, rfl⟩ := Prod.mk.inj (Except.ok.inj run)
    exact ⟨trivial, quiet⟩
  | some left =>
    rw [dropped] at run
    obtain ⟨rfl, rfl⟩ := Prod.mk.inj (Except.ok.inj run)
    exact ⟨trivial, fun token member =>
      quiet token ((dropKeywords_suffix dropped).subset member)⟩

/-- Looking for a keyword. -/
theorem yields_takesKeyword (keyword : String) :
    Yields hushed (fun _ => True) (takesKeyword keyword) :=
  yields_takesKeywords [keyword]

/-- Taking a keyword. -/
theorem yields_expectKeyword (keyword : String) :
    Yields hushed (fun _ => True) (expectKeyword keyword) := by
  refine (yields_takesKeyword keyword).ite ?_ ?_
  · exact yields_pure trivial
  · exact yields_refuse

/-- Taking one of some keywords. -/
theorem yields_takesOneOf (keywords : List String) :
    Yields hushed (fun found => ∀ word ∈ found, word ∈ keywords) (takesOneOf keywords) := by
  refine yields_peekKeyword.bind fun keyword _ => ?_
  split
  · next listed =>
    refine yields_next.bind fun _ _ => yields_pure ?_
    rintro _ ⟨⟩
    exact List.contains_iff_mem.mp listed
  · exact yields_pure nofun

/-! ## Many items -/

/-- Reading items. -/
theorem yields_itemsWhile {goesOn : Reader Bool} {item : Reader α}
    (condition : Yields hushed (fun _ => True) goesOn) (one : Yields hushed holds item)
    (fuel : Nat) : Yields hushed (fun items => ∀ value ∈ items, holds value)
      (itemsWhile goesOn item fuel) := by
  induction fuel with
  | zero => exact yields_refuse
  | succ fuel inductionHypothesis =>
    refine condition.bind fun found _ => ?_
    cases found
    · exact yields_pure nofun
    · refine one.bind fun first held => inductionHypothesis.bind fun rest others => ?_
      exact yields_pure (List.forall_mem_cons.mpr ⟨held, others⟩)

/-- Reading many items. -/
theorem yields_many {goesOn : Reader Bool} {item : Reader α}
    (condition : Yields hushed (fun _ => True) goesOn) (one : Yields hushed holds item) :
    Yields hushed (fun items => ∀ value ∈ items, holds value) (many goesOn item) :=
  yields_get.bind fun _ _ => yields_itemsWhile condition one _

/-- Reading items with commas. -/
theorem yields_commaSeparated {item : Reader α} (one : Yields hushed holds item) :
    Yields hushed (fun items => ∀ value ∈ items, holds value) (commaSeparated item) :=
  one.bind fun _ held => (yields_many (yields_takesSign ",") one).bind fun _ others =>
    yields_pure (List.forall_mem_cons.mpr ⟨held, others⟩)

/-- Reading between parentheses. -/
theorem yields_inParentheses {reader : Reader α} (yields : Yields hushed holds reader) :
    Yields hushed holds (inParentheses reader) :=
  (yields_expectSign "(").bind fun _ _ => yields.bind fun _ held =>
    (yields_expectSign ")").bind fun _ _ => yields_pure held

/-! ## Names -/

/-- A name that is silent in the ways that are hushed. -/
def SilentName (hushed : Mark → Prop) (identifier : Identifier) : Prop :=
  SilentTo hushed identifier.text.toList

/-- Reading a name. -/
theorem yields_identifier : Yields hushed (SilentName hushed) identifier := by
  refine yields_next.bind fun token silent => ?_
  cases token with
  | word identifier keyword => exact yields_pure silent.1
  | text value => exact yields_pure silent
  | number digits => exact yields_refuse
  | nationalText value => exact yields_refuse
  | hexadecimal digits => exact yields_refuse
  | placeholder name => exact yields_refuse
  | sign mark => exact yields_refuse

/-- Reading a qualified name. -/
theorem yields_qualifiedName :
    Yields hushed (fun parts => ∀ part ∈ parts, SilentName hushed part) qualifiedName :=
  yields_identifier.bind fun _ held => (yields_many (yields_takesSign ".") yields_identifier).bind
    fun _ others => yields_pure (List.forall_mem_cons.mpr ⟨held, others⟩)

/-- Reading names in parentheses. -/
theorem yields_columnList :
    Yields hushed (fun names => ∀ name ∈ names, SilentName hushed name) columnList :=
  yields_inParentheses (yields_commaSeparated yields_identifier)

/-- Reading names in parentheses, if there are any. -/
theorem yields_columnList? :
    Yields hushed (fun names => ∀ name ∈ names, SilentName hushed name) columnList? := by
  refine yields_peek.bind fun _ _ => ?_
  split
  · exact yields_columnList
  · exact yields_pure nofun

/-- Reading an alias. -/
theorem yields_aliasName (reserved : List String) :
    Yields hushed (fun found => ∀ name ∈ found, SilentName hushed name) (aliasName reserved) := by
  refine (yields_takesKeyword "AS").bind fun announced _ => ?_
  refine yields_peek.bind fun found silent => ?_
  split
  · next identifier keyword =>
    split
    · refine yields_next.bind fun _ _ => yields_pure ?_
      rintro _ ⟨⟩
      exact (silent _ rfl).1
    · exact yields_pure nofun
  · next value =>
    refine yields_next.bind fun _ _ => yields_pure ?_
    rintro _ ⟨⟩
    exact silent _ rfl
  · split
    · exact yields_refuse
    · exact yields_pure nofun

end Reader

namespace Phrase

variable {hushed : Mark → Prop}

/-- A silent name is formed. -/
theorem formed_name {parts : List Identifier}
    (silent : ∀ part ∈ parts, Reader.SilentName hushed part) : (name parts).Formed hushed :=
  fun part member => Identifier.silent_render (silent part member)

/-- One silent name is formed. -/
theorem formed_name_singleton {part : Identifier} (silent : Reader.SilentName hushed part) :
    (name [part]).Formed hushed :=
  formed_name (List.forall_mem_singleton.mpr silent)

/-- Names in a list are formed. -/
theorem formed_nameList {names : List Identifier}
    (silent : ∀ name ∈ names, Reader.SilentName hushed name) :
    (list (names.map fun column => name [column])).Formed hushed :=
  formed_list (List.forall_mem_map.mpr fun column member =>
    formed_name_singleton (silent column member))

/-- A call is formed if all that it is made of is. -/
theorem formed_call {function : List Identifier} {quantifier : Option Quantifier}
    {arguments ordering modifiers : List Phrase}
    (named : ∀ part ∈ function, Reader.SilentName hushed part)
    (inArguments : ∀ argument ∈ arguments, argument.Formed hushed)
    (inOrdering : Tail hushed ordering) (inModifiers : Row hushed modifiers) :
    (call function quantifier arguments ordering modifiers).Formed hushed :=
  ⟨formed_name named, formedAll_iff.mpr inArguments,
    ⟨inOrdering.formed, inOrdering.joints, inOrdering.apart⟩, inModifiers.formed,
    inModifiers.joints⟩

/-- Names in parentheses can stand behind a phrase. -/
theorem tail_columns {names : List Identifier}
    (silent : ∀ name ∈ names, Reader.SilentName hushed name) : Tail hushed (columns names) := by
  unfold columns
  split
  · exact .nil
  · exact (row_singleton (formed_parenthesized (formed_nameList silent))).behind (by decide)

end Phrase

namespace Nested

open Reader
open Phrase (Formed Row Tail row_singleton formed_sequence formed_list formed_name
  formed_name_singleton formed_parenthesized formed_call Trailing Trailing.tail trailing_of_isBack
  trailing_elim)

variable {hushed : Mark → Prop}

/-- The readers of what a phrase may hold give formed phrases. -/
structure Forms (hushed : Mark → Prop) (inner : Nested) : Prop where
  expression : ∀ level, Yields hushed (Formed hushed) (inner.expression level)
  query : Yields hushed (Formed hushed) inner.query

/-- The names of a star are silent, and it leaves hushed tokens. -/
theorem hushed_starAfter {parts names : List Identifier} {tokens rest : List Token}
    (run : starAfter parts tokens = .ok (some (names, rest)))
    (silent : ∀ part ∈ parts, SilentName hushed part) (quiet : Hushed hushed tokens) :
    (∀ name ∈ names, SilentName hushed name) ∧ Hushed hushed rest := by
  induction parts, tokens using starAfter.induct with
  | case1 parts others =>
    obtain ⟨rfl, rfl⟩ := Prod.mk.inj (Option.some.inj (Except.ok.inj run))
    exact ⟨silent, quiet.tail.tail⟩
  | case2 parts identifier keyword others inductionHypothesis =>
    refine inductionHypothesis run ?_ quiet.tail.tail
    rw [List.forall_mem_append, List.forall_mem_singleton]
    exact ⟨silent, quiet.tail.head.1⟩
  | case3 parts value others inductionHypothesis =>
    refine inductionHypothesis run ?_ quiet.tail.tail
    rw [List.forall_mem_append, List.forall_mem_singleton]
    exact ⟨silent, quiet.tail.head⟩
  | case4 parts others noStar noWord noText =>
    rw [starAfter.eq_4 _ _ noStar noWord noText] at run
    exact absurd run nofun
  | case5 parts others noStar noWord noText noPoint =>
    rw [starAfter.eq_5 _ _ noStar noWord noText noPoint] at run
    exact absurd run nofun

/-- A star is formed. -/
theorem yields_star? : Yields hushed (fun found => ∀ star ∈ found, Formed hushed star) star? := by
  have qualified {tokens others : List Token} {first : Identifier}
      (silent : SilentName hushed first) (quiet : Hushed hushed others)
      (quietTokens : Hushed hushed tokens)
      {give : Option (List Identifier × List Token) → Option Phrase × List Token}
      (unnamed : give none = (none, tokens))
      (named : ∀ names left,
        give (some (names, left)) = (some (.sequence [.name names, .text ".*"]), left))
      {found : Option Phrase} {rest : List Token}
      (run : (starAfter [first] others).map give = .ok (found, rest)) :
      (∀ star ∈ found, Formed hushed star) ∧ Hushed hushed rest := by
    cases after : starAfter [first] others with
    | error refusal => simp [after, Except.map] at run
    | ok result =>
      rw [after] at run
      have given := Except.ok.inj run
      cases result with
      | none =>
        obtain ⟨rfl, rfl⟩ := Prod.mk.inj (unnamed.symm.trans given)
        exact ⟨by simp, quietTokens⟩
      | some result =>
        obtain ⟨names, left⟩ := result
        obtain ⟨rfl, rfl⟩ := Prod.mk.inj ((named names left).symm.trans given)
        obtain ⟨silentNames, quietLeft⟩ :=
          hushed_starAfter after (List.forall_mem_singleton.mpr silent) quiet
        refine ⟨?_, quietLeft⟩
        rintro _ ⟨⟩
        exact formed_sequence ((trailing_of_isBack (by decide)).tail.cons
          (formed_name silentNames))
  intro tokens quiet found rest run
  unfold star? at run
  dsimp only at run
  split at run
  · obtain ⟨rfl, rfl⟩ := Prod.mk.inj (Except.ok.inj run)
    refine ⟨?_, quiet.tail⟩
    rintro _ ⟨⟩
    exact Phrase.formed_text (by decide)
  · next identifier keyword others =>
    have silent : SilentName hushed identifier := quiet.head.1
    exact qualified silent quiet.tail quiet rfl (fun _ _ => rfl) run
  · next value others =>
    have silent : SilentName hushed ⟨value, some .single⟩ := quiet.head
    exact qualified silent quiet.tail quiet rfl (fun _ _ => rfl) run
  · obtain ⟨rfl, rfl⟩ := Prod.mk.inj (Except.ok.inj run)
    exact ⟨by simp, quiet⟩

variable {inner : Nested} (forms : inner.Forms hushed)
include forms

/-- A star or an expression is formed. -/
theorem yields_starOrExpression : Yields hushed (Formed hushed) inner.starOrExpression := by
  refine yields_star?.bind fun found formed => ?_
  cases found with
  | some star => exact yields_pure (formed star rfl)
  | none => exact forms.expression 0

omit forms in
/-- A label can stand before any phrase. -/
theorem yields_argumentLabel :
    Yields hushed (fun label => ∀ phrase, phrase.Formed hushed → Row hushed (label ++ [phrase]))
      argumentLabel := by
  refine yields_identifier.bind fun label silent => ?_
  refine (yields_takesKeyword "VALUE").bind fun found _ => ?_
  have labelled {words : String} (joint : Phrase.isJoint words = true) (phrase : Phrase)
      (formed : phrase.Formed hushed) : Row hushed [.name [label], .text words, phrase] :=
    ((row_singleton formed).behind joint).cons (formed_name_singleton silent)
  split
  · exact yields_pure (labelled (by decide))
  · exact (yields_expectSign "=>").bind fun _ _ => yields_pure (labelled (by decide))

/-- An argument is formed. -/
theorem yields_argument : Yields hushed (Formed hushed) inner.argument := by
  have labelled : Yields hushed (Formed hushed) (do
      let label ← argumentLabel
      return .sequence (label ++ [← inner.starOrExpression])) :=
    yields_argumentLabel.bind fun label row =>
      (yields_starOrExpression forms).bind fun phrase formed =>
        yields_pure (formed_sequence (row phrase formed))
  refine labelled.attempt.bind fun found formed => ?_
  cases found with
  | some argument => exact yields_pure (formed argument rfl)
  | none => exact yields_starOrExpression forms

omit forms in
/-- The words of a direction can stand behind a phrase. -/
theorem yields_direction : Yields hushed (Trailing hushed) direction := by
  refine (yields_takesOneOf _).bind fun sense listed => ?_
  have senses := @trailing_elim hushed _ _ listed (by decide)
  have ended {nulls : String} (back : Phrase.isBack nulls = true) :
      Yields hushed (Trailing hushed) (pure ((sense.elim "" (" " ++ ·)) ++ nulls)) :=
    yields_pure (senses.append (trailing_of_isBack back))
  refine (yields_takesKeywords _).ite ?_ ?_
  · exact ended (by decide)
  · refine (yields_takesKeywords _).bind fun found _ => ?_
    cases found <;> exact ended (by decide)

/-- An expression to order by is formed. -/
theorem yields_orderItem : Yields hushed (Formed hushed) inner.orderItem :=
  (forms.expression 0).bind fun _ formed => yields_direction.bind fun _ trailing =>
    yields_pure (formed_sequence (trailing.tail.cons formed))

/-- An ordering is a row. -/
theorem yields_ordering : Yields hushed (Row hushed) inner.ordering := by
  refine (yields_takesKeywords _).ite ?_ ?_
  · refine (yields_commaSeparated (yields_orderItem forms)).bind fun items formed => ?_
    exact yields_pure ((row_singleton (formed_list formed)).front (by decide))
  · exact yields_pure Phrase.Tail.nil.toRow

/-- A clause is a row. -/
theorem yields_clause {keyword : String} (front : Phrase.isFront (keyword ++ " ") = true) :
    Yields hushed (Row hushed) (inner.clause keyword) := by
  refine (yields_takesKeyword keyword).bind fun found _ => ?_
  split
  · refine (forms.expression 0).bind fun expression formed => ?_
    exact yields_pure ((row_singleton formed).front front)
  · exact yields_pure Phrase.Tail.nil.toRow

omit forms in
/-- Reading a quantifier. -/
theorem yields_quantifier : Yields hushed (fun _ => True) quantifier := by
  refine (yields_takesKeyword "ALL").bind fun all _ => ?_
  refine (yields_takesKeyword "DISTINCT").bind fun distinct _ => ?_
  cases all <;> cases distinct
  · exact yields_pure trivial
  · exact yields_pure trivial
  · exact yields_pure trivial
  · exact yields_refuse

/-- An end of a frame is a row. -/
theorem yields_frameEnd : Yields hushed (Row hushed) inner.frameEnd := by
  unfold frameEnd
  refine (yields_takesKeywords _).ite ?_ ?_
  · exact yields_pure (row_singleton (Phrase.formed_text (by decide)))
  · have sided {distance : Phrase} (formed : Formed hushed distance)
        {given : Option String → Reader (List Phrase)} (unsaid : given none = refuse)
        (said : ∀ side, given (some side) = pure [distance, .text (" " ++ side)]) :
        Yields hushed (Row hushed) (takesOneOf ["PRECEDING", "FOLLOWING"] >>= given) := by
      refine (yields_takesOneOf _).bind fun side listed => ?_
      cases side with
      | none => exact unsaid ▸ yields_refuse
      | some side =>
        rw [said]
        exact yields_pure ((trailing_elim listed (by decide)).tail.cons formed)
    refine (yields_takesKeyword _).ite ?_ ?_
    · have unbounded : Yields hushed (Formed hushed) (pure (.text "UNBOUNDED")) :=
        yields_pure (Phrase.formed_text (by decide))
      refine unbounded.bind fun distance formed => ?_
      refine sided formed ?_ fun side => ?_ <;> rfl
    · refine (forms.expression 0).bind fun distance formed => ?_
      refine sided formed ?_ fun side => ?_ <;> rfl

/-- A frame is a row. -/
theorem yields_frame : Yields hushed (Row hushed) inner.frame := by
  refine (yields_takesOneOf _).bind fun unit listed => ?_
  cases unit with
  | none => exact yields_refuse
  | some unit =>
    have fronts : ∀ unit ∈ ["ROWS", "RANGE", "GROUPS"],
        Phrase.isFront (unit ++ " BETWEEN ") = true ∧ Phrase.isFront (unit ++ " ") = true := by
      decide
    obtain ⟨between, alone⟩ := fronts unit (listed unit rfl)
    refine (yields_takesKeyword _).ite ?_ ?_
    · refine (yields_frameEnd forms).bind fun first row => ?_
      refine (yields_expectKeyword _).bind fun _ _ => ?_
      refine (yields_frameEnd forms).bind fun last end_ => ?_
      exact yields_pure ((row.append (end_.behind (by decide))).front between)
    · exact (yields_frameEnd forms).bind fun _ row => yields_pure (row.front alone)

/-- A window is formed. -/
theorem yields_window : Yields hushed (Formed hushed) inner.window := by
  refine yields_peek.bind fun found silent => ?_
  extract_lets withBase
  have based : ∀ base, Row hushed base → Yields hushed (Formed hushed) (withBase base) := by
    intro base baseRow
    refine (yields_takesKeywords _).bind fun found _ => ?_
    extract_lets withPartition
    have partitioned : ∀ partition, Row hushed partition →
        Yields hushed (Formed hushed) (withPartition partition) := by
      intro partition partitionRow
      refine (yields_ordering forms).bind fun order orderRow => ?_
      refine yields_peek.bind fun found _ => ?_
      extract_lets withFrame
      have framed : ∀ frame, Row hushed frame →
          Yields hushed (Formed hushed) (withFrame frame) := by
        intro frame frameRow
        have rows : ∀ row ∈ [base, partition, order, frame], Row hushed row := by
          simp [baseRow, partitionRow, orderRow, frameRow]
        refine (yields_expectSign ")").bind fun _ _ => yields_pure (formed_parenthesized ?_)
        refine formed_sequence (Phrase.row_separated (by decide) (List.forall_mem_map.mpr ?_))
        exact fun row member => formed_sequence (rows row (List.mem_of_mem_filter member))
      split
      · exact framed _ Phrase.Tail.nil.toRow
      · exact (yields_frame forms).bind framed
    split
    · refine (yields_commaSeparated (forms.expression 0)).bind fun items formed => ?_
      exact partitioned _ ((row_singleton (formed_list formed)).front (by decide))
    · exact partitioned _ Phrase.Tail.nil.toRow
  split
  · next identifier keyword =>
    split
    · exact based _ Phrase.Tail.nil.toRow
    · refine yields_next.bind fun _ _ => based _ (row_singleton (formed_name_singleton ?_))
      exact (silent _ rfl).1
  · exact based _ Phrase.Tail.nil.toRow

/-- What follows the arguments of a call can stand behind a phrase. -/
theorem yields_modifiers : Yields hushed (Tail hushed) inner.modifiers := by
  refine (yields_takesKeyword _).bind fun found _ => ?_
  extract_lets withFilter
  have filtered : ∀ filter, Tail hushed filter →
      Yields hushed (Tail hushed) (withFilter filter) := by
    intro filter filterTail
    refine (yields_takesOneOf _).bind fun treatment listed => ?_
    extract_lets withNulls
    have treated : ∀ nulls, Tail hushed nulls → Yields hushed (Tail hushed) (withNulls nulls) := by
      intro nulls nullsTail
      have ended : ∀ window, Tail hushed window →
          Yields hushed (Tail hushed) (pure (filter ++ nulls ++ window)) :=
        fun window windowTail => yields_pure ((filterTail.append nullsTail).append windowTail)
      have windowed : ∀ window, Formed hushed window →
          Yields hushed (Tail hushed) (pure (filter ++ nulls ++ [.text " OVER ", window])) :=
        fun window formed => ended _ ((row_singleton formed).behind (by decide))
      refine (yields_takesKeyword _).ite ?_ ?_
      · refine (yields_takesSign _).ite ?_ ?_
        · exact (yields_window forms).bind windowed
        · exact yields_identifier.bind fun label silent => windowed _ (formed_name_singleton silent)
      · exact ended _ .nil
    split
    · next treatment =>
      have backs : ∀ word ∈ ["RESPECT", "IGNORE"],
          Phrase.isBack (" " ++ word ++ " NULLS") = true := by decide
      refine (yields_expectKeyword _).bind fun _ _ => treated _ ?_
      exact (trailing_of_isBack (backs _ (listed _ rfl))).tail
    · exact treated _ .nil
  split
  · refine (yields_takesSign _).ite ?_ ?_
    · refine (yields_clause forms (by decide)).bind fun condition row => ?_
      split
      · exact filtered _ .nil
      · refine (yields_expectSign _).bind fun _ _ => filtered _ ?_
        exact (row.append (trailing_of_isBack (by decide)).tail).behind (by decide)
    · exact filtered _ .nil
  · exact filtered _ .nil

/-- The arguments of a call are formed, and the ordering can stand behind them. -/
theorem yields_arguments : Yields hushed
    (fun found => (∀ argument ∈ found.2.1, Formed hushed argument) ∧ Tail hushed found.2.2)
    inner.arguments := by
  refine (yields_expectSign _).bind fun _ _ => ?_
  refine (yields_takesSign _).ite ?_ ?_
  · exact yields_pure ⟨nofun, .nil⟩
  · refine yields_quantifier.bind fun quantifier _ => ?_
    refine (yields_commaSeparated (yields_argument forms)).bind fun arguments formed => ?_
    refine (yields_ordering forms).bind fun order orderRow => ?_
    refine (yields_clause forms (by decide)).bind fun limit limitRow => ?_
    refine (yields_expectSign _).bind fun _ _ => yields_pure ?_
    exact ⟨formed, orderRow.spaced.append limitRow.spaced⟩

/-- A call is formed. -/
theorem yields_call {function : List Identifier}
    (named : ∀ part ∈ function, SilentName hushed part) :
    Yields hushed (Formed hushed) (inner.call function) := by
  refine (yields_arguments forms).bind fun found formed => ?_
  refine (yields_modifiers forms).bind fun modifiers tail => yields_pure ?_
  exact formed_call named formed.1 formed.2 tail.toRow

end Nested

end DialectBridge.Statement
