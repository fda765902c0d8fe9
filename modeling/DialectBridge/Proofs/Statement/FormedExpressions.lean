import DialectBridge.Statement.Expression
import DialectBridge.Proofs.Statement.FormedQueries

/-!
# Expressions are formed

What is written in an expression without a part of its own, as types, keywords and literals
are, is fixed words or comes from one token. Signs of operators are written with spaces, and a
sign before an operand is a separator itself. An expression is read up to the depth that is
left for it, and the induction on this depth closes the circle of expressions and queries.
-/

namespace DialectBridge.Statement

open Reader
open Phrase (Formed Row Tail row_singleton formed_sequence formed_list formed_name formed_nameList
  formed_name_singleton formed_parenthesized Trailing trailing_of_isBack trailing_elim tail_columns)

variable {hushed : Mark → Prop}

/-- What is looked up is listed. -/
theorem mem_of_lookup {α : Type} {entries : List (String × α)} {key : String} {value : α}
    (found : entries.lookup key = some value) : (key, value) ∈ entries := by
  obtain ⟨before, after, rfl, -⟩ := List.lookup_eq_some_iff.mp found
  exact List.mem_append_right _ List.mem_cons_self

/-! ## Data types -/

namespace DataType

/-- Words in parentheses can stand behind a phrase. -/
theorem trailing_parenthesized {words : String} (silent : SilentTo hushed words.toList) :
    Trailing hushed ("(" ++ words ++ ")") :=
  (Phrase.trailing_behind (by decide) silent).append (trailing_of_isBack (by decide))

/-- A size is silent. -/
theorem yields_size : Yields hushed (fun words => SilentTo hushed words.toList) size := by
  refine yields_next.bind fun token _ => ?_
  cases token with
  | number digits =>
    dsimp only
    split
    · next number _ =>
      split
      · refine yields_pure ?_
        refine Token.silent_of_isNumeric fun c member => Token.isNumeric_of_digit ?_
        have inside : c ∈ Nat.toDigits 10 number := by simpa using member
        exact Nat.isDigit_of_mem_toDigits (by decide) (by decide) inside
      · exact yields_refuse
    · exact yields_refuse
  | word identifier keyword => exact yields_refuse
  | text value => exact yields_refuse
  | nationalText value => exact yields_refuse
  | hexadecimal digits => exact yields_refuse
  | placeholder name => exact yields_refuse
  | sign mark => exact yields_refuse

/-- Looking for a parenthesis. -/
theorem yields_opens : Yields hushed (fun _ => True) opens :=
  yields_peek.bind fun _ _ => yields_pure trivial

/-- Something in parentheses, or nothing, can stand behind a phrase. -/
theorem yields_optional {reader : Reader String}
    (yields : Yields hushed (fun words => SilentTo hushed words.toList) reader) :
    Yields hushed (Trailing hushed) (do
      if ← opens then return "(" ++ (← inParentheses reader) ++ ")" else return "") := by
  refine yields_opens.ite ?_ ?_
  · exact (yields_inParentheses yields).bind fun _ silent =>
      yields_pure (trailing_parenthesized silent)
  · exact yields_pure (trailing_of_isBack (by decide))

/-- A size in parentheses can stand behind a phrase. -/
theorem yields_sizeSuffix : Yields hushed (Trailing hushed) sizeSuffix :=
  yields_optional yields_size

/-- A length in parentheses can stand behind a phrase. -/
theorem yields_lengthSuffix : Yields hushed (Trailing hushed) lengthSuffix := by
  refine yields_optional ?_
  refine (yields_takesKeyword _).ite ?_ ?_
  · exact yields_pure (Silent.to (by decide) hushed)
  · refine yields_size.bind fun length silent => ?_
    refine (yields_takesOneOf _).bind fun unit listed => ?_
    cases unit with
    | none => exact yields_pure silent
    | some unit =>
      have back := @trailing_elim hushed _ _ listed (by decide)
      refine yields_pure ?_
      rw [String.append_assoc]
      exact back.silent_append silent

/-- A precision and a scale in parentheses can stand behind a phrase. -/
theorem yields_exactSuffix : Yields hushed (Trailing hushed) exactSuffix := by
  refine yields_optional ?_
  refine yields_size.bind fun precision silent => ?_
  refine (yields_takesSign _).ite ?_ ?_
  · refine yields_size.bind fun scale silentScale => yields_pure ?_
    rw [String.toList_append, String.toList_append, List.append_assoc]
    exact (silent_append_cons (by decide)).mpr ⟨silent, silentScale⟩
  · exact yields_pure silent

/-- The words about a zone can stand behind a phrase. -/
theorem yields_zoneSuffix : Yields hushed (Trailing hushed) zoneSuffix := by
  refine (yields_takesKeyword _).ite ?_ ?_
  · refine (yields_expectKeyword _).bind fun _ _ => (yields_expectKeyword _).bind fun _ _ => ?_
    exact yields_pure (trailing_of_isBack (by decide))
  · refine (yields_takesKeyword _).ite ?_ ?_
    · refine (yields_expectKeyword _).bind fun _ _ => (yields_expectKeyword _).bind fun _ _ => ?_
      exact yields_pure (trailing_of_isBack (by decide))
    · exact yields_pure (trailing_of_isBack (by decide))

/-- What stands after the word of a type can stand behind a phrase. -/
theorem yields_suffix (word : String) (shape : Shape) :
    Yields hushed (Trailing hushed) (suffix word shape) := by
  cases shape with
  | bare => exact yields_pure (trailing_of_isBack (by decide))
  | sized => exact yields_sizeSuffix
  | signable =>
    refine yields_sizeSuffix.bind fun size trailing => ?_
    refine (yields_takesKeyword _).ite ?_ ?_
    · exact yields_pure (trailing.append (trailing_of_isBack (by decide)))
    · exact yields_pure trailing
  | lengthy => exact yields_lengthSuffix
  | varying =>
    refine (yields_takesKeyword _).ite ?_ ?_
    · exact yields_lengthSuffix.bind fun _ trailing =>
        yields_pure ((trailing_of_isBack (by decide)).append trailing)
    · refine (yields_takesKeywords _).ite ?_ ?_
      · exact yields_sizeSuffix.bind fun _ trailing =>
          yields_pure ((trailing_of_isBack (by decide)).append trailing)
      · exact yields_lengthSuffix
  | exact =>
    have ended (isPrecise : Bool) : Yields hushed (Trailing hushed)
        (if isPrecise then return " PRECISION" else exactSuffix) := by
      split
      · exact yields_pure (trailing_of_isBack (by decide))
      · exact yields_exactSuffix
    unfold suffix
    dsimp only
    split
    · exact (yields_takesKeyword _).bind fun isPrecise _ => ended isPrecise
    · exact ended false
  | zoned =>
    exact yields_sizeSuffix.bind fun _ size => yields_zoneSuffix.bind fun _ zone =>
      yields_pure (size.append zone)

/-- A modifier of a type is silent. -/
theorem yields_modifier : Yields hushed (fun words => SilentTo hushed words.toList) modifier := by
  refine yields_next.bind fun token silent => ?_
  cases token with
  | word identifier keyword => exact yields_pure silent.1
  | number digits => exact yields_pure silent
  | text value => exact yields_pure silent
  | nationalText value => exact yields_refuse
  | hexadecimal digits => exact yields_refuse
  | placeholder name => exact yields_refuse
  | sign mark => exact yields_refuse

/-- The modifiers of a type can stand behind a phrase. -/
theorem yields_modifiers : Yields hushed (Trailing hushed) modifiers := by
  refine yields_opens.ite ?_ ?_
  · refine (yields_inParentheses (yields_commaSeparated yields_modifier)).bind ?_
    intro words silent
    exact yields_pure (trailing_parenthesized (Phrase.silent_intercalate (by decide) silent))
  · exact yields_pure (trailing_of_isBack (by decide))

/-- A type is silent. -/
theorem yields_read : Yields hushed (fun type => SilentTo hushed type.text.toList) read := by
  refine yields_peekKeyword.bind fun keyword _ => ?_
  split
  · next shape known =>
    have fixed : ∀ entry ∈ shapes, Silent entry.1.toList := by decide
    have silent : Silent keyword.toList := fixed _ (mem_of_lookup known)
    refine yields_next.bind fun _ _ => (yields_suffix keyword shape).bind fun words trailing => ?_
    exact yields_pure (trailing.silent_append (silent.to hushed))
  · refine yields_peek.bind fun found _ => ?_
    split
    · refine yields_qualifiedName.bind fun parts silent => ?_
      refine yields_modifiers.bind fun modifiers trailing => yields_pure ?_
      refine trailing.silent_append (Phrase.silent_intercalate (by decide) ?_)
      exact List.forall_mem_map.mpr (formed_name silent)
    · exact yields_refuse

end DataType

namespace Nested

/-! ## Literals -/

/-- A literal is formed. -/
theorem yields_literal : Yields hushed (Formed hushed) literal := by
  have between {opening value : String} (front : Phrase.isFront opening = true)
      (silent : SilentTo hushed value.toList) : Formed hushed (.text (opening ++ value ++ "'")) :=
    (trailing_of_isBack (by decide)).silent_append (Phrase.silent_behind front silent)
  refine yields_next.bind fun token silent => ?_
  cases token with
  | number digits => exact yields_pure silent
  | text value => exact yields_pure (silent_quoted (by decide) silent)
  | nationalText value => exact yields_pure (between (by decide) silent)
  | hexadecimal digits => exact yields_pure (between (by decide) silent)
  | placeholder name => exact yields_pure silent
  | word identifier keyword =>
    dsimp only
    split
    · exact yields_pure (Phrase.formed_text (by decide))
    · exact yields_pure (Phrase.formed_text (by decide))
    · exact yields_pure (Phrase.formed_text (by decide))
    · split
      · exact yields_pure (formed_name_singleton silent.1)
      · exact yields_refuse
  | sign mark =>
    dsimp only
    split
    · next isMark =>
      have marked {label : String} (silent : SilentTo hushed label.toList) :
          Formed hushed (.text (mark ++ label)) := by
        refine Phrase.silent_behind ?_ silent
        rw [Bool.or_eq_true, decide_eq_true_eq, decide_eq_true_eq] at isMark
        rcases isMark with rfl | rfl <;> decide
      refine yields_next.bind fun token silent => ?_
      cases token with
      | word identifier keyword => exact yields_pure (marked silent.1)
      | number digits => exact yields_pure (marked silent)
      | text value => exact yields_refuse
      | nationalText value => exact yields_refuse
      | hexadecimal digits => exact yields_refuse
      | placeholder name => exact yields_refuse
      | sign other => exact yields_refuse
    · exact yields_refuse

/-- A literal after its type is formed. -/
theorem yields_typedLiteral : Yields hushed (Formed hushed) typedLiteral := by
  refine DataType.yields_read.bind fun type silent => ?_
  have read : Yields hushed (Formed hushed) (do
      return .sequence [.text (type.text ++ " "), ← literal]) := by
    refine yields_literal.bind fun value formed => yields_pure (formed_sequence ?_)
    refine (row_singleton formed).cons_text ?_ ?_
    · rw [String.toList_append]
      exact (silent_concat (by decide)).mpr silent
    · rw [String.toList_append]
      exact endsApart_append_of_ne (by decide) (by decide)
  dsimp only
  split
  · exact read
  · exact yields_refuse_bind

variable {inner : Nested} (forms : inner.Forms hushed)
include forms

/-! ## Forms of their own -/

/-- The branches of a case can stand behind a phrase. -/
theorem yields_branches (fuel : Nat) : Yields hushed (Tail hushed) (inner.branches fuel) := by
  induction fuel with
  | zero => exact yields_refuse
  | succ fuel inductionHypothesis =>
    refine (forms.expression 0).bind fun condition formed => ?_
    refine (yields_expectKeyword _).bind fun _ _ => ?_
    refine (forms.expression 0).bind fun result formedResult => ?_
    refine (yields_takesKeyword _).bind fun found _ => ?_
    have ended (more : List Phrase) (tail : Tail hushed more) : Yields hushed (Tail hushed)
        (pure (.text " WHEN " :: condition :: .text " THEN " :: result :: more)) := by
      refine yields_pure ?_
      exact (((tail.cons formedResult).behind (by decide)).cons formed).behind (by decide)
    cases found
    · exact ended [] .nil
    · exact inductionHypothesis.bind ended

/-- A case is formed. -/
theorem yields_caseExpression : Yields hushed (Formed hushed) inner.caseExpression := by
  refine (yields_takesKeyword _).bind fun found _ => ?_
  extract_lets withSubject
  have ended : ∀ subject, Tail hushed subject →
      Yields hushed (Formed hushed) (withSubject subject) := by
    intro subject subjectTail
    refine yields_get.bind fun _ _ => ?_
    refine (yields_branches forms _).bind fun branches branchTail => ?_
    refine (yields_clause forms (by decide)).bind fun otherwise row => ?_
    refine (yields_expectKeyword _).bind fun _ _ => yields_pure (formed_sequence ?_)
    have last : Tail hushed [.text " END"] := (trailing_of_isBack (by decide)).tail
    have tail := ((subjectTail.append branchTail).append row.spaced).append last
    exact tail.cons (Phrase.formed_text (by decide))
  cases found
  · refine (forms.expression 0).bind fun subject formed => ?_
    refine (yields_expectKeyword _).bind fun _ _ => ended _ ?_
    exact (row_singleton formed).behind (by decide)
  · exact ended _ .nil

/-- A cast is formed. -/
theorem yields_castExpression : Yields hushed (Formed hushed) inner.castExpression := by
  refine yields_inParentheses ?_
  refine (forms.expression 0).bind fun value formed => ?_
  refine (yields_expectKeyword _).bind fun _ _ => ?_
  refine DataType.yields_read.bind fun type silent => yields_pure (formed_sequence ?_)
  have trailing : Trailing hushed (" AS " ++ type.text ++ ")") :=
    (Phrase.trailing_behind (by decide) silent).append (trailing_of_isBack (by decide))
  exact (trailing.tail.cons formed).front (by decide)

/-- A query that is asked for rows is formed. -/
theorem yields_existsExpression {words : String} (front : Phrase.isFront (words ++ " ") = true) :
    Yields hushed (Formed hushed) (inner.existsExpression words) :=
  (yields_inParentheses forms.query).bind fun _ formed =>
    yields_pure (formed_sequence ((row_singleton (formed_parenthesized formed)).front front))

/-- A negation is formed. -/
theorem yields_negation : Yields hushed (Formed hushed) inner.negation := by
  refine (yields_takesKeyword _).ite ?_ ?_
  · exact yields_existsExpression forms (by decide)
  · refine (forms.expression 15).bind fun operand formed => yields_pure (formed_sequence ?_)
    exact (row_singleton formed).front (by decide)

/-- A rounding is formed. -/
theorem yields_rounding {keyword : String} (front : Phrase.isFront (keyword ++ "(") = true) :
    Yields hushed (Formed hushed) (inner.rounding keyword) := by
  refine yields_inParentheses ?_
  refine (forms.expression 0).bind fun value formed => ?_
  have ended (scale : String) (trailing : Trailing hushed scale) : Yields hushed (Formed hushed)
      (pure (.sequence [.text (keyword ++ "("), value, .text (scale ++ ")")])) := by
    refine yields_pure (formed_sequence (Row.front ?_ front))
    exact (trailing.append (trailing_of_isBack (by decide))).tail.cons formed
  refine (yields_takesSign _).ite ?_ ?_
  · refine yields_next.bind fun token silent => ?_
    cases token with
    | number digits =>
      exact ended (", " ++ digits) (Phrase.trailing_behind (by decide) silent)
    | word identifier keyword => exact yields_refuse_bind
    | text value => exact yields_refuse_bind
    | nationalText value => exact yields_refuse_bind
    | hexadecimal digits => exact yields_refuse_bind
    | placeholder name => exact yields_refuse_bind
    | sign mark => exact yields_refuse_bind
  · exact ended "" (trailing_of_isBack (by decide))

/-- A position is formed. -/
theorem yields_position {identifier : Identifier} (silent : SilentName hushed identifier) :
    Yields hushed (Formed hushed) (inner.position identifier) := by
  have positioned : Yields hushed (Formed hushed) (Reader.inParentheses do
      let part ← inner.expression 20
      Reader.expectKeyword "IN"
      let whole ← inner.anyExpression
      return .sequence [.text "POSITION(", part, .text " IN ", whole, .text ")"]) := by
    refine yields_inParentheses ?_
    refine (forms.expression 20).bind fun part formed => ?_
    refine (yields_expectKeyword _).bind fun _ _ => ?_
    refine (forms.expression 0).bind fun whole formedWhole => yields_pure (formed_sequence ?_)
    have last := (@trailing_of_isBack hushed ")" (by decide)).tail.cons formedWhole
    exact ((last.behind (by decide)).cons formed).front (by decide)
  refine positioned.attempt.bind fun found formed => ?_
  cases found with
  | some phrase => exact yields_pure (formed phrase rfl)
  | none => exact yields_call forms (List.forall_mem_singleton.mpr silent)

omit forms in
/-- Looking for one thing or another. -/
theorem yields_takesEither {first second : Reader Bool}
    (before : Yields hushed (fun _ => True) first) (after : Yields hushed (fun _ => True) second) :
    Yields hushed (fun _ => True) (takesEither first second) := by
  refine before.bind fun found _ => ?_
  split
  · exact yields_pure trivial
  · exact after

/-- A part of a text is formed where its keyword is not hushed. -/
theorem yields_substring (loud : ¬hushed capitals) :
    Yields hushed (Formed hushed) inner.substring := by
  refine yields_inParentheses ((forms.expression 0).bind fun subject formed => ?_)
  refine (yields_takesEither (yields_takesSign ",") (yields_takesKeyword "FROM")).bind ?_
  intro found _
  extract_lets withStart
  have started : ∀ start, Phrase.FormedAll hushed start →
      Yields hushed (Formed hushed) (withStart start) := by
    intro start formedStart
    refine (yields_takesEither (yields_takesKeyword "FOR") (yields_takesSign ",")).bind ?_
    intro found _
    have ended : ∀ length, Phrase.FormedAll hushed length →
        Yields hushed (Formed hushed) (pure (.substring subject start length)) :=
      fun length formedLength => yields_pure ⟨loud, formed, formedStart, formedLength⟩
    cases found
    · exact ended [] trivial
    · exact (forms.expression 0).bind fun length formedLength => ended _ ⟨formedLength, trivial⟩
  cases found
  · exact started [] trivial
  · exact (forms.expression 0).bind fun start formedStart => started _ ⟨formedStart, trivial⟩

/-- A trimming is formed. -/
theorem yields_trimming : Yields hushed (Formed hushed) inner.trimming := by
  refine yields_inParentheses ((yields_takesOneOf _).bind fun side listed => ?_)
  refine (forms.expression 0).bind fun first formed => ?_
  have front : Phrase.isFront ("TRIM(" ++ side.elim "" (· ++ " ")) = true := by
    have fronts : ∀ side ∈ [none, some "BOTH", some "LEADING", some "TRAILING"],
        Phrase.isFront ("TRIM(" ++ side.elim "" (· ++ " ")) = true := by decide
    refine fronts side ?_
    cases side with
    | none => exact List.mem_cons_self
    | some side => simpa using listed side rfl
  have ended (rest : List Phrase) (tail : Tail hushed rest) : Yields hushed (Formed hushed)
      (pure (.sequence (.text ("TRIM(" ++ side.elim "" (· ++ " ")) :: first :: rest ++
        [.text ")"]))) := by
    refine yields_pure (formed_sequence ?_)
    exact ((tail.append (trailing_of_isBack (by decide)).tail).cons formed).front front
  refine (yields_takesKeyword _).ite ?_ ?_
  · refine (forms.expression 0).bind fun whole formedWhole => ended _ ?_
    exact (row_singleton formedWhole).behind (by decide)
  · exact ended [] .nil

/-- A moment is formed. -/
theorem yields_currentMoment {identifier : Identifier} (silent : SilentName hushed identifier) :
    Yields hushed (Formed hushed) (inner.currentMoment identifier) := by
  refine yields_peek.bind fun found _ => ?_
  split
  · refine (yields_arguments forms).bind fun found formed => yields_pure ?_
    exact Phrase.formed_call (List.forall_mem_singleton.mpr silent) formed.1 formed.2 Tail.nil.toRow
  · exact yields_pure (formed_name_singleton silent)

omit forms in
/-- Looking for a query. -/
theorem yields_startsQuery : Yields hushed (fun _ => True) startsQuery :=
  yields_peekKeyword.bind fun _ _ => yields_pure trivial

/-- The inside of parentheses is formed with them. -/
theorem yields_parentheses : Yields hushed (Formed hushed) inner.parentheses := by
  refine yields_inParentheses (yields_startsQuery.bind fun found _ => ?_)
  split
  · exact forms.query.bind fun _ formed => yields_pure (formed_parenthesized formed)
  · exact (yields_commaSeparated (forms.expression 0)).bind fun _ formed =>
      yields_pure (formed_parenthesized (formed_list formed))

/-- What a name starts is formed. -/
theorem yields_named {identifier : Identifier} (silent : SilentName hushed identifier) :
    Yields hushed (Formed hushed) (inner.named identifier) := by
  have alone : Yields hushed (Formed hushed) (pure (.name [identifier])) :=
    yields_pure (formed_name_singleton silent)
  have announced : Yields hushed (Formed hushed) (do
      return .sequence [.name [identifier], .text " ", ← literal]) := by
    refine yields_literal.bind fun value formed => yields_pure (formed_sequence ?_)
    exact ((row_singleton formed).behind (by decide)).cons (formed_name_singleton silent)
  refine yields_peek.bind fun found _ => ?_
  split
  · exact yields_call forms (List.forall_mem_singleton.mpr silent)
  · split
    · exact announced
    · exact alone
  · split
    · exact announced
    · exact alone
  · exact alone

/-! ## Expressions -/

mutual

/-- What a keyword starts is formed. -/
theorem yields_special {identifier : Identifier} (silent : SilentName hushed identifier)
    {keyword : String} (other : hushed capitals → keyword ≠ "SUBSTRING") (fuel : Nat) :
    Yields hushed (fun found => ∀ phrase ∈ found, Formed hushed phrase)
      (special inner identifier keyword fuel) := by
  cases fuel with
  | zero => exact yields_refuse
  | succ fuel =>
    have given {reader : Reader Phrase} (yields : Yields hushed (Formed hushed) reader) :
        Yields hushed (fun found => ∀ phrase ∈ found, Formed hushed phrase)
          (do return some (← reader)) :=
      yields.bind fun _ formed => yields_pure fun _ same => Option.some.inj same ▸ formed
    have fixed {words : String} (silent : Silent words.toList) :
        Yields hushed (fun found => ∀ phrase ∈ found, Formed hushed phrase)
          (pure (some (.text words))) :=
      yields_pure fun _ same => Option.some.inj same ▸ Phrase.formed_text silent
    unfold special
    split
    · exact fixed (by decide)
    · exact fixed (by decide)
    · exact fixed (by decide)
    · exact given (yields_caseExpression forms)
    · exact given (yields_castExpression forms)
    · exact given (yields_existsExpression forms (by decide))
    · exact given (yields_rounding forms (by decide))
    · exact given (yields_rounding forms (by decide))
    · refine yields_peek.bind fun found _ => ?_
      split
      · exact given (yields_position forms silent)
      · exact yields_pure nofun
    · exact given (yields_substring forms fun applies => other applies rfl)
    · exact given (yields_trimming forms)
    · exact given (yields_negation forms)
    · refine (yields_prefixed fuel).bind fun amount formed => ?_
      refine (yields_takesOneOf _).bind fun unit listed => yields_pure fun _ same => ?_
      rw [← Option.some.inj same]
      have row := (trailing_elim listed (by decide)).tail.cons formed
      exact formed_sequence (row.front (by decide))
    · split
      · exact given (yields_currentMoment forms silent)
      · exact yields_pure nofun

/-- An expression without operators behind it is formed. -/
theorem yields_prefixed (fuel : Nat) : Yields hushed (Formed hushed) (prefixed inner fuel) := by
  cases fuel with
  | zero => exact yields_refuse
  | succ fuel =>
    unfold prefixed
    refine yields_typedLiteral.attempt.bind fun found formed => ?_
    cases found with
    | some phrase => exact yields_pure (formed phrase rfl)
    | none =>
      refine yields_peek.bind fun found silent => ?_
      split
      · next identifier keyword =>
        refine yields_next.bind fun _ _ => yields_get.bind fun tokens quiet => ?_
        have silentName : SilentName hushed identifier := (silent _ rfl).1
        have other : hushed capitals → keyword ≠ "SUBSTRING" := (silent _ rfl).2
        split
        · next phrase rest run =>
          obtain ⟨formed, left⟩ := yields_special silentName other fuel tokens quiet _ _ run
          exact (yields_set left).bind fun _ _ => yields_pure (formed phrase rfl)
        · exact yields_named forms silentName
        · split
          · exact yields_throw _
          · split
            · next phrase rest run =>
              obtain ⟨formed, left⟩ := yields_named forms silentName tokens quiet _ _ run
              exact (yields_set left).bind fun _ _ => yields_pure formed
            · exact yields_throw _
      · refine yields_next.bind fun _ _ => (forms.expression 40).bind fun operand formed => ?_
        exact yields_pure (formed_sequence ((row_singleton formed).front (by decide)))
      · refine yields_next.bind fun _ _ => (forms.expression 40).bind fun operand formed => ?_
        exact yields_pure (formed_sequence ((row_singleton formed).front (by decide)))
      · exact yields_parentheses forms
      · exact yields_literal

end

omit forms in
/-- A phrase with a rule for comparing texts is formed. -/
theorem yields_collation (collates : Bool) {phrase : Phrase} (formed : Formed hushed phrase) :
    Yields hushed (Formed hushed) (collation collates phrase) := by
  unfold collation
  split
  · refine (yields_takesKeyword _).ite ?_ ?_
    · refine yields_qualifiedName.bind fun parts silent => yields_pure (formed_sequence ?_)
      exact ((row_singleton (formed_name silent)).behind (by decide)).cons formed
    · exact yields_pure formed
  · exact yields_pure formed

/-- The members of a phrase are formed with it. -/
theorem yields_members (fuel : Nat) {root : Phrase} (formed : Formed hushed root) :
    Yields hushed (Formed hushed) (inner.members fuel root) := by
  induction fuel generalizing root with
  | zero => exact yields_refuse
  | succ fuel inductionHypothesis =>
    refine yields_get.bind fun tokens quiet => ?_
    split
    · exact yields_pure formed
    · next value rest =>
      have silent : SilentName hushed ⟨value, some .single⟩ := quiet.tail.head
      refine (yields_set quiet.tail.tail).bind fun _ _ => inductionHypothesis ?_
      exact Phrase.formed_access formed (formed_name_singleton silent)
    · refine (yields_set quiet.tail).bind fun _ _ => ?_
      refine (forms.expression 100).bind fun member formedMember => inductionHypothesis ?_
      exact Phrase.formed_access formed formedMember
    · exact yields_pure formed

/-- A condition can stand behind a phrase. -/
theorem yields_condition : Yields hushed (Tail hushed) inner.condition := by
  refine (yields_takesKeyword _).bind fun negated _ => ?_
  refine (yields_takesOneOf _).bind fun state listed => ?_
  cases state with
  | some state =>
    have backs : ∀ state ∈ ["NULL", "TRUE", "FALSE", "UNKNOWN"],
        Phrase.isBack (" IS NOT " ++ state) = true ∧ Phrase.isBack (" IS " ++ state) = true := by
      decide
    obtain ⟨no, yes⟩ := backs state (listed state rfl)
    cases negated
    · exact yields_pure (trailing_of_isBack yes).tail
    · exact yields_pure (trailing_of_isBack no).tail
  | none =>
    refine (yields_expectKeyword _).bind fun _ _ => (yields_expectKeyword _).bind fun _ _ => ?_
    refine (forms.expression 0).bind fun other formed => yields_pure ?_
    refine (row_singleton formed).behind ?_
    cases negated <;> decide

/-- What an expression is looked up in is a row. -/
theorem yields_membership : Yields hushed (Row hushed) inner.membership := by
  refine yields_inParentheses ((yields_body forms).attempt.bind fun found formed => ?_)
  cases found with
  | some query => exact yields_pure (row_singleton (formed_parenthesized (formed query rfl)))
  | none =>
    refine yields_peek.bind fun next _ => ?_
    split
    · exact yields_pure (row_singleton (Phrase.formed_text (by decide)))
    · exact (yields_commaSeparated (forms.expression 0)).bind fun items formed =>
        yields_pure (row_singleton (formed_parenthesized (formed_list formed)))

omit forms in
/-- The escape of a pattern can stand behind it. -/
theorem yields_escape : Yields hushed (Tail hushed) escape := by
  refine (yields_takesKeyword _).ite ?_ ?_
  · refine yields_next.bind fun token silent => ?_
    cases token with
    | text value =>
      have trailing : Trailing hushed (" ESCAPE '" ++ value ++ "'") :=
        (Phrase.trailing_behind (by decide) silent).append (trailing_of_isBack (by decide))
      exact yields_pure trailing.tail
    | word identifier keyword => exact yields_refuse
    | number digits => exact yields_refuse
    | nationalText value => exact yields_refuse
    | hexadecimal digits => exact yields_refuse
    | placeholder name => exact yields_refuse
    | sign mark => exact yields_refuse
  · exact yields_pure .nil

/-- A test can stand behind what is tested. -/
theorem yields_test : Yields hushed (Tail hushed) inner.test := by
  refine (yields_takesKeyword _).bind fun negated _ => ?_
  refine (yields_takesOneOf _).bind fun keyword listed => ?_
  split
  · refine (yields_membership forms).bind fun row formed => yields_pure (formed.behind ?_)
    cases negated <;> decide
  · refine (forms.expression 20).bind fun low formedLow => ?_
    refine (yields_expectKeyword _).bind fun _ _ => ?_
    refine (forms.expression 20).bind fun high formedHigh => yields_pure ?_
    refine (((row_singleton formedHigh).behind (by decide)).cons formedLow).behind ?_
    cases negated <;> decide
  · next keyword _ _ =>
    have joints : ∀ word ∈ negatable, ∀ negated : Bool,
        Phrase.isJoint ((if negated then " NOT " else " ") ++ (word ++ " ")) = true := by
      decide
    have tested {words : String}
        (joint : Phrase.isJoint ((if negated then " NOT " else " ") ++ words) = true) :
        Yields hushed (Tail hushed) (do
          let pattern ← inner.expression 19
          let escape ← if keyword = "REGEXP" || keyword = "RLIKE" then pure [] else escape
          return .text ((if negated then " NOT " else " ") ++ words) :: pattern :: escape) := by
      refine (forms.expression 19).bind fun pattern formed => ?_
      have ended (escape : List Phrase) (tail : Tail hushed escape) :=
        @yields_pure _ hushed (Tail hushed) _ ((tail.cons formed).behind joint)
      dsimp only
      split
      · exact ended [] .nil
      · exact yields_escape.bind ended
    split
    · refine (yields_expectKeyword _).bind fun _ _ => tested ?_
      cases negated <;> decide
    · exact tested (joints _ (listed _ rfl) _)
  · exact yields_refuse

/-- An operator with its operand can stand behind a phrase. -/
theorem yields_operandAfter {operator : String}
    (joint : Phrase.isJoint (" " ++ operator ++ " ") = true) (level : Nat) :
    Yields hushed (Tail hushed) (inner.operandAfter operator level) := by
  refine yields_peekKeyword.bind fun keyword _ => ?_
  split
  · exact yields_refuse_bind
  · exact (forms.expression level).bind fun operand formed =>
      yields_pure ((row_singleton formed).behind joint)

/-- An operator can stand behind a phrase with what belongs to it. -/
theorem yields_operation (level : Nat) : Yields hushed (Tail hushed) (inner.operation level) := by
  refine (yields_takesKeyword _).ite ?_ ?_
  · exact (forms.expression 0).bind fun operand formed =>
      yields_pure ((row_singleton formed).behind (by decide))
  · refine yields_peek.bind fun found _ => ?_
    split
    · next mark =>
      refine yields_next.bind fun _ _ => ?_
      split
      · refine DataType.yields_read.bind fun type silent => yields_pure ?_
        exact (Phrase.trailing_behind (by decide) silent).tail
      · split
        · next operator found =>
          have joints : ∀ entry ∈ operators, Phrase.isJoint (" " ++ entry.2.2 ++ " ") = true := by
            decide
          exact yields_operandAfter forms (joints _ (mem_of_lookup found)) level
        · exact yields_refuse
    · next identifier keyword =>
      split
      · next listed =>
        have joints : ∀ word ∈ ["AND", "OR", "XOR", "OVERLAPS"],
            Phrase.isJoint (" " ++ word ++ " ") = true := by decide
        refine yields_next.bind fun _ _ => ?_
        exact yields_operandAfter forms (joints _ (List.contains_iff_mem.mp listed)) level
      · split
        · exact yields_next.bind fun _ _ => yields_condition forms
        · split
          · refine (yields_takesKeywords _).bind fun _ _ => ?_
            exact (forms.expression level).bind fun operand formed =>
              yields_pure ((row_singleton formed).behind (by decide))
          · exact yields_test forms
    · exact yields_refuse

/-- Operators behind a phrase are formed with it. -/
theorem yields_operatorsAbove (level fuel : Nat) {left : Phrase} (formed : Formed hushed left) :
    Yields hushed (Formed hushed) (inner.operatorsAbove level fuel left) := by
  induction fuel generalizing left with
  | zero => exact yields_refuse
  | succ fuel inductionHypothesis =>
    refine yields_get.bind fun tokens _ => ?_
    dsimp only
    split
    · exact yields_pure formed
    · refine (yields_operation forms _).bind fun operation tail => inductionHypothesis ?_
      exact formed_sequence (tail.cons formed)

/-- An expression is formed. -/
theorem yields_expressionAbove (collates : Bool) (level : Nat) :
    Yields hushed (Formed hushed) (inner.expressionAbove collates level) := by
  refine yields_get.bind fun _ _ => ?_
  refine (yields_prefixed forms _).bind fun first formed => ?_
  refine (yields_collation collates formed).bind fun collated formedCollated => ?_
  refine (yields_members forms _ formedCollated).bind fun whole formedWhole => ?_
  exact yields_operatorsAbove forms level _ formedWhole

end Nested

/-- Whatever may nest to a depth is formed. -/
theorem forms_nested (collates : Bool) (depth : Nat) : (nested collates depth).Forms hushed := by
  induction depth with
  | zero => exact ⟨fun _ => yields_throw _, yields_throw _⟩
  | succ depth inductionHypothesis =>
    exact ⟨fun level => Nested.yields_expressionAbove inductionHypothesis collates level,
      Nested.yields_queryAbove inductionHypothesis⟩

end DialectBridge.Statement
