import DialectBridge.Proofs.Statement.Silence

/-!
# Where the parts of a phrase meet

A phrase is written part after part. In the layout of statements two parts always meet at a
separator: a text between them begins or ends with one. So nothing is read over the border of
two parts that is not in one of them, whatever the parts are rewritten to.

A hushed phrase is one that is read from silent tokens. Its parts are silent, and where the
keyword of a part of a text is hushed as well, none of them is such a part, so that its whole
text is silent.
-/

namespace DialectBridge.Statement

namespace Phrase

/-! ## Joints -/

/-- Whether a phrase is a text that ends with a separator, or an empty one. -/
def endsApart : Phrase → Bool
  | text words => Statement.endsApart words.toList
  | _ => false

/-- Whether phrases begin with a text that begins with a separator, if they have a text. -/
def startApart : List Phrase → Bool
  | [] => true
  | text words :: rest =>
    Statement.startsApart words.toList && (words != "" || startApart rest)
  | sequence (text words :: _) :: _ => Statement.startsApart words.toList && words != ""
  | _ => false

/-- Whether each two phrases in a row meet at a separator. -/
def jointed : List Phrase → Bool
  | [] => true
  | phrase :: rest => (phrase.endsApart || startApart rest) && jointed rest

mutual

/-- The parts of a phrase meet at separators. If it is hushed, no name of a rewritten function
is found in it, and no part of a text is in it. -/
def Formed (hushed : Mark → Prop) : Phrase → Prop
  | text words => SilentTo hushed words.toList
  | name parts => ∀ part ∈ parts, SilentTo hushed part.render.toList
  | call function _ arguments ordering modifiers =>
    (∀ part ∈ function, SilentTo hushed part.render.toList) ∧ FormedAll hushed arguments ∧
      (FormedAll hushed ordering ∧ jointed ordering = true ∧ startApart ordering = true) ∧
      FormedAll hushed modifiers ∧ jointed modifiers = true
  | substring subject start length => ¬hushed capitals ∧ subject.Formed hushed ∧
      FormedAll hushed start ∧ FormedAll hushed length
  | sequence parts => FormedAll hushed parts ∧ jointed parts = true

/-- The parts of each of some phrases meet at separators. -/
def FormedAll (hushed : Mark → Prop) : List Phrase → Prop
  | [] => True
  | phrase :: rest => phrase.Formed hushed ∧ FormedAll hushed rest

end

/-- All of some phrases are formed if each of them is. -/
theorem formedAll_iff {hushed : Mark → Prop} {phrases : List Phrase} :
    FormedAll hushed phrases ↔ ∀ phrase ∈ phrases, phrase.Formed hushed := by
  induction phrases with
  | nil => simp [FormedAll]
  | cons phrase rest inductionHypothesis =>
    rw [FormedAll, List.forall_mem_cons, inductionHypothesis]

/-- Formed phrases, each two of which meet at a separator. -/
structure Row (hushed : Mark → Prop) (phrases : List Phrase) : Prop where
  formed : FormedAll hushed phrases
  joints : jointed phrases = true

/-- A row that can stand behind another. -/
structure Tail (hushed : Mark → Prop) (phrases : List Phrase) : Prop
    extends Row hushed phrases where
  apart : startApart phrases = true

variable {hushed : Mark → Prop} {words : String} {phrase : Phrase}
  {first second phrases : List Phrase}

/-- Fixed words are formed. -/
theorem formed_text (silent : Silent words.toList) : (text words).Formed hushed := silent.to hushed

/-- A sequence is formed if its parts make a row. -/
theorem formed_sequence (row : Row hushed phrases) : (sequence phrases).Formed hushed :=
  ⟨row.formed, row.joints⟩

/-- No phrases are a row. -/
theorem Tail.nil : Tail hushed [] := ⟨⟨trivial, rfl⟩, rfl⟩

/-- What stands behind another phrase makes a row with it. -/
theorem Tail.cons (tail : Tail hushed phrases) (formed : phrase.Formed hushed) :
    Row hushed (phrase :: phrases) :=
  ⟨⟨formed, tail.formed⟩, by simp [jointed, tail.apart, tail.joints]⟩

/-- One phrase is a row. -/
theorem row_singleton (formed : phrase.Formed hushed) : Row hushed [phrase] :=
  Tail.nil.cons formed

/-- A text that ends with a separator makes a row with what stands behind it. -/
theorem Row.cons_text (row : Row hushed phrases) (silent : SilentTo hushed words.toList)
    (ends : Statement.endsApart words.toList = true) : Row hushed (text words :: phrases) :=
  ⟨⟨silent, row.formed⟩, by simp [jointed, endsApart, ends, row.joints]⟩

/-- A row that begins with a text which begins with a separator can stand behind another. -/
theorem Row.tail (row : Row hushed (text words :: phrases))
    (starts : Statement.startsApart words.toList = true) (nonempty : words ≠ "") :
    Tail hushed (text words :: phrases) :=
  ⟨row, by simp [startApart, starts, nonempty]⟩

/-- Phrases begin with a separator if all that they are put together from do. -/
theorem startApart_append (before : startApart first = true) (after : startApart second = true) :
    startApart (first ++ second) = true := by
  induction first using startApart.induct with
  | case1 => exact after
  | case2 words rest inductionHypothesis =>
    simp only [startApart, Bool.and_eq_true, Bool.or_eq_true] at before
    simp only [List.cons_append, startApart, Bool.and_eq_true, Bool.or_eq_true]
    exact ⟨before.1, before.2.imp id inductionHypothesis⟩
  | case3 words inner rest => exact before
  | case4 phrases notNil notText notSequence =>
    rw [startApart.eq_def] at before
    split at before
    · exact absurd rfl notNil
    · exact absurd rfl (notText _ _)
    · exact absurd rfl (notSequence _ _ _)
    · exact absurd before Bool.false_ne_true

/-- Rows are put together where the second can stand behind another. -/
theorem Row.append (row : Row hushed first) (tail : Tail hushed second) :
    Row hushed (first ++ second) := by
  have formed : FormedAll hushed (first ++ second) := by
    rw [formedAll_iff, List.forall_mem_append, ← formedAll_iff, ← formedAll_iff]
    exact ⟨row.formed, tail.formed⟩
  have joined {phrases : List Phrase} (joints : jointed phrases = true) :
      jointed (phrases ++ second) = true := by
    induction phrases with
    | nil => exact tail.joints
    | cons phrase rest inductionHypothesis =>
      simp only [jointed, Bool.and_eq_true, Bool.or_eq_true] at joints
      simp only [List.cons_append, jointed, Bool.and_eq_true, Bool.or_eq_true]
      exact ⟨joints.1.imp id (startApart_append · tail.apart), inductionHypothesis joints.2⟩
  exact ⟨formed, joined row.joints⟩

/-- What can stand behind another phrase can do so together. -/
theorem Tail.append (before : Tail hushed first) (after : Tail hushed second) :
    Tail hushed (first ++ second) :=
  ⟨before.toRow.append after, startApart_append before.apart after.apart⟩

/-- What can stand behind another phrase can do so in any number. -/
theorem tail_flatten {rows : List (List Phrase)} (tails : ∀ row ∈ rows, Tail hushed row) :
    Tail hushed rows.flatten := by
  induction rows with
  | nil => exact .nil
  | cons row rest inductionHypothesis =>
    rw [List.forall_mem_cons] at tails
    exact tails.1.append (inductionHypothesis tails.2)

/-- Whether a text is fixed words that can stand between any two phrases. -/
def isJoint (words : String) : Bool :=
  decide (Silent words.toList) && Statement.startsApart words.toList &&
    Statement.endsApart words.toList && words != ""

/-- Fixed words between two phrases. -/
theorem Row.behind (row : Row hushed phrases) (joint : isJoint words = true) :
    Tail hushed (text words :: phrases) := by
  simp only [isJoint, Bool.and_eq_true, decide_eq_true_eq, bne_iff_ne] at joint
  obtain ⟨⟨⟨silent, starts⟩, ends⟩, nonempty⟩ := joint
  exact (row.cons_text (silent.to hushed) ends).tail starts nonempty

/-- A sequence that begins with fixed words can stand behind any phrase. -/
theorem Row.sequence_cons (row : Row hushed first) (joint : isJoint words = true)
    (tail : Tail hushed second) : Tail hushed (sequence (text words :: first) :: second) := by
  refine ⟨tail.cons (formed_sequence (row.behind joint).toRow), ?_⟩
  simp only [isJoint, Bool.and_eq_true] at joint
  simp [startApart, joint]

/-- Whether a text is fixed words that can stand in front of any phrase. -/
def isFront (words : String) : Bool :=
  decide (Silent words.toList) && Statement.endsApart words.toList

/-- Fixed words in front of a phrase. -/
theorem Row.front (row : Row hushed phrases) (front : isFront words = true) :
    Row hushed (text words :: phrases) := by
  simp only [isFront, Bool.and_eq_true, decide_eq_true_eq] at front
  exact row.cons_text (front.1.to hushed) front.2

/-- Words that can stand behind any phrase: silent ones, if they are hushed, that begin with a
separator if there are any. -/
structure Trailing (hushed : Mark → Prop) (words : String) : Prop where
  silent : SilentTo hushed words.toList
  starts : Statement.startsApart words.toList = true

/-- Whether a text is fixed words that can stand behind any phrase. -/
def isBack (words : String) : Bool :=
  decide (Silent words.toList) && Statement.startsApart words.toList

/-- Fixed words behind a phrase. -/
theorem trailing_of_isBack (back : isBack words = true) : Trailing hushed words := by
  simp only [isBack, Bool.and_eq_true, decide_eq_true_eq] at back
  exact ⟨back.1.to hushed, back.2⟩

/-- Silent words are silent behind fixed ones. -/
theorem silent_behind {more : String} (front : isFront words = true)
    (silent : SilentTo hushed more.toList) : SilentTo hushed (words ++ more).toList := by
  simp only [isFront, Bool.and_eq_true, decide_eq_true_eq] at front
  rw [String.toList_append]
  exact (front.1.to hushed).append silent (.inl front.2)

/-- Silent words can stand behind a phrase after fixed ones. -/
theorem trailing_behind {more : String} (joint : isJoint words = true)
    (silent : SilentTo hushed more.toList) : Trailing hushed (words ++ more) := by
  simp only [isJoint, Bool.and_eq_true, decide_eq_true_eq, bne_iff_ne] at joint
  obtain ⟨⟨⟨silentWords, starts⟩, ends⟩, nonempty⟩ := joint
  refine ⟨silent_behind (by simp [isFront, silentWords, ends]) silent, ?_⟩
  rw [String.toList_append]
  exact startsApart_append_of_ne (by simpa using nonempty) starts

/-- Silent words are silent with trailing ones behind them. -/
theorem Trailing.silent_append {more : String} (behind : Trailing hushed more)
    (silent : SilentTo hushed words.toList) : SilentTo hushed (words ++ more).toList := by
  rw [String.toList_append]
  exact silent.append behind.silent (.inr behind.starts)

/-- Words behind others. -/
theorem Trailing.append {more : String} (trailing : Trailing hushed words)
    (behind : Trailing hushed more) : Trailing hushed (words ++ more) := by
  refine ⟨behind.silent_append trailing.silent, ?_⟩
  rw [String.toList_append]
  exact startsApart_append trailing.starts behind.starts

/-- A word that may be left out can stand behind a phrase after a space. -/
theorem trailing_elim {found : Option String} {keywords : List String}
    (listed : ∀ word ∈ found, word ∈ keywords)
    (silent : ∀ word ∈ keywords, isBack (" " ++ word) = true) :
    Trailing hushed (found.elim "" (" " ++ ·)) := by
  cases found with
  | none => exact trailing_of_isBack (by decide)
  | some word => exact trailing_of_isBack (silent word (listed word rfl))

/-- Trailing words before what can stand behind them. -/
theorem Trailing.cons (trailing : Trailing hushed words) (tail : Tail hushed phrases) :
    Tail hushed (text words :: phrases) :=
  ⟨tail.cons trailing.silent, by simp [startApart, trailing.starts, tail.apart]⟩

/-- Trailing words behind a phrase. -/
theorem Trailing.tail (trailing : Trailing hushed words) : Tail hushed [text words] :=
  trailing.cons .nil

/-- Phrases with a sign between each two make a row. -/
theorem row_separated {sign : String} (joint : isJoint sign = true)
    (formed : ∀ phrase ∈ phrases, phrase.Formed hushed) :
    Row hushed (separated sign phrases) := by
  unfold separated
  induction phrases with
  | nil => exact Tail.nil.toRow
  | cons phrase rest inductionHypothesis =>
    rw [List.forall_mem_cons] at formed
    cases rest with
    | nil => exact row_singleton formed.1
    | cons next more =>
      rw [List.intersperse_cons_cons]
      exact ((inductionHypothesis formed.2).behind joint).cons formed.1

/-- A list of formed phrases is formed. -/
theorem formed_list (formed : ∀ phrase ∈ phrases, phrase.Formed hushed) :
    (list phrases).Formed hushed :=
  formed_sequence (row_separated (by decide) formed)

/-- A formed phrase is formed in parentheses. -/
theorem formed_parenthesized (formed : phrase.Formed hushed) :
    (parenthesized phrase).Formed hushed :=
  formed_sequence (((trailing_of_isBack (by decide)).tail.cons formed).front (by decide))

/-- A phrase in parentheses can stand behind another. -/
theorem Tail.parenthesized_cons (tail : Tail hushed phrases) (formed : phrase.Formed hushed) :
    Tail hushed (parenthesized phrase :: phrases) :=
  ⟨tail.cons (formed_parenthesized formed), rfl⟩

/-- A clause can stand behind a phrase, after a space. -/
theorem Row.spaced (row : Row hushed phrases) : Tail hushed (Nested.spaced phrases) := by
  cases phrases with
  | nil => exact .nil
  | cons phrase rest => exact row.behind (by decide)

/-- What is reached through formed phrases is formed. -/
theorem formed_access {root member : Phrase} (formed : root.Formed hushed)
    (formedMember : member.Formed hushed) : (root.access member).Formed hushed := by
  unfold access
  split
  · exact List.forall_mem_append.mpr ⟨formed, formedMember⟩
  · obtain ⟨named, others⟩ := formedMember
    exact ⟨List.forall_mem_append.mpr ⟨formed, named⟩, others⟩
  · exact formed_sequence (((row_singleton formedMember).behind (by decide)).cons formed)

/-! ## Texts of phrases -/

/-- Silent texts with a separator between each two are silent. -/
theorem silent_intercalate {sign : String} (joint : isJoint sign = true) {texts : List String}
    (silent : ∀ words ∈ texts, SilentTo hushed words.toList) :
    SilentTo hushed (sign.intercalate texts).toList := by
  simp only [isJoint, Bool.and_eq_true, decide_eq_true_eq, bne_iff_ne] at joint
  obtain ⟨⟨⟨silentSign, starts⟩, ends⟩, nonempty⟩ := joint
  induction texts with
  | nil => exact silent_nil
  | cons words rest inductionHypothesis =>
    rw [List.forall_mem_cons] at silent
    cases rest with
    | nil => exact String.intercalate_singleton ▸ silent.1
    | cons next more =>
      rw [String.intercalate_cons_cons, String.toList_append, String.toList_append]
      have front := silent.1.append (silentSign.to hushed) (.inr starts)
      refine front.append (inductionHypothesis silent.2) (.inl ?_)
      exact endsApart_append_of_ne (by simpa using nonempty) ends

/-- Phrases that begin with neither a text nor a sequence with a text in front are not told apart
from what is before them. -/
theorem startApart_eq_false (notNil : phrases ≠ [])
    (notText : ∀ words rest, phrases ≠ text words :: rest)
    (notSequence : ∀ words inner rest, phrases ≠ sequence (text words :: inner) :: rest) :
    startApart phrases = false := by
  rw [startApart.eq_def]
  split
  · exact absurd rfl notNil
  · exact absurd rfl (notText _ _)
  · exact absurd rfl (notSequence _ _ _)
  · rfl

/-- Phrases that begin with a separator are written so. -/
theorem startsApart_join (starts : startApart phrases = true) :
    Statement.startsApart (String.join (renderAll phrases)).toList = true := by
  induction phrases using startApart.induct with
  | case1 => rfl
  | case2 words rest inductionHypothesis =>
    rw [startApart, Bool.and_eq_true, Bool.or_eq_true, bne_iff_ne] at starts
    rw [renderAll, String.join_cons, String.toList_append, render]
    by_cases empty : words = ""
    · subst empty
      exact inductionHypothesis (starts.2.resolve_left (absurd rfl))
    · exact startsApart_append_of_ne (by simpa using empty) starts.1
  | case3 words inner rest =>
    rw [startApart, Bool.and_eq_true, bne_iff_ne] at starts
    rw [renderAll, String.join_cons, render, renderAll, String.join_cons, render,
      String.toList_append, String.toList_append, List.append_assoc]
    exact startsApart_append_of_ne (by simpa using starts.2) starts.1
  | case4 phrases notNil notText notSequence =>
    rw [startApart_eq_false notNil notText notSequence] at starts
    exact absurd starts Bool.false_ne_true

/-- Silent phrases that meet at separators are written as a silent text. -/
theorem silent_join (joints : jointed phrases = true)
    (silent : ∀ words ∈ renderAll phrases, SilentTo hushed words.toList) :
    SilentTo hushed (String.join (renderAll phrases)).toList := by
  induction phrases with
  | nil => exact silent_nil
  | cons phrase rest inductionHypothesis =>
    rw [renderAll, List.forall_mem_cons] at silent
    rw [jointed, Bool.and_eq_true, Bool.or_eq_true] at joints
    rw [renderAll, String.join_cons, String.toList_append]
    have tail := inductionHypothesis joints.2 silent.2
    refine silent.1.append tail (joints.1.imp (fun ends => ?_) startsApart_join)
    cases phrase with
    | text words => exact ends
    | _ => exact absurd ends Bool.false_ne_true

/-- A call is written as a silent text if all that it is written from is silent. -/
theorem silent_renderCall {function : List Identifier} {quantifier : Option Quantifier}
    {arguments ordering modifiers : List String}
    (silentName : SilentTo hushed (renderName function).toList)
    (silentArguments : SilentTo hushed (", ".intercalate arguments).toList)
    (silentOrdering : SilentTo hushed (String.join ordering).toList)
    (starts : Statement.startsApart (String.join ordering).toList = true)
    (silentModifiers : SilentTo hushed (String.join modifiers).toList) :
    SilentTo hushed (renderCall function quantifier arguments ordering modifiers).toList := by
  obtain ⟨words, front, shape⟩ : ∃ words, isFront words = true ∧
      (renderCall function quantifier arguments ordering modifiers).toList =
        (renderName function).toList ++ '(' :: (words.toList ++
          (", ".intercalate arguments).toList ++ (String.join ordering).toList ++
            ')' :: (String.join modifiers).toList) := by
    cases quantifier with
    | none => exact ⟨"", by decide, by simp [renderCall]⟩
    | some quantifier =>
      cases quantifier with
      | all => exact ⟨"ALL ", by decide, by simp [renderCall, Quantifier.keyword]⟩
      | distinct => exact ⟨"DISTINCT ", by decide, by simp [renderCall, Quantifier.keyword]⟩
  rw [isFront, Bool.and_eq_true, decide_eq_true_eq] at front
  have inside :=
    ((front.1.to hushed).append silentArguments (.inl front.2)).append silentOrdering (.inr starts)
  rw [shape, silent_append_cons (by decide), silent_append_cons (by decide)]
  exact ⟨silentName, inside, silentModifiers⟩

mutual

/-- A hushed phrase is written as a silent text, if the keyword is hushed. -/
theorem silent_render (inCapitals : hushed capitals) (phrase : Phrase)
    (formed : phrase.Formed hushed) : SilentTo hushed phrase.render.toList := by
  cases phrase with
  | text words => exact formed
  | name parts =>
    refine silent_intercalate (by decide) ?_
    rw [List.forall_mem_map]
    exact formed
  | call function quantifier arguments ordering modifiers =>
    obtain ⟨named, inArguments, ⟨inOrdering, orderingJoints, starts⟩, inModifiers, joints⟩ := formed
    have silentName := silent_intercalate (by decide : isJoint "." = true)
      (List.forall_mem_map.mpr named)
    have silentArguments := silent_intercalate (by decide : isJoint ", " = true)
      (silent_renderAll inCapitals arguments inArguments)
    have silentOrdering :=
      silent_join orderingJoints (silent_renderAll inCapitals ordering inOrdering)
    have silentModifiers := silent_join joints (silent_renderAll inCapitals modifiers inModifiers)
    exact silent_renderCall silentName silentArguments
      silentOrdering (startsApart_join starts) silentModifiers
  | substring subject start length => exact absurd inCapitals formed.1
  | sequence parts => exact silent_join formed.2 (silent_renderAll inCapitals parts formed.1)

/-- Hushed phrases are written as silent texts, if the keyword is hushed. -/
theorem silent_renderAll (inCapitals : hushed capitals) (phrases : List Phrase)
    (formed : FormedAll hushed phrases) :
    ∀ words ∈ renderAll phrases, SilentTo hushed words.toList := by
  cases phrases with
  | nil => exact nofun
  | cons phrase rest =>
    rw [renderAll, List.forall_mem_cons]
    exact ⟨silent_render inCapitals phrase formed.1, silent_renderAll inCapitals rest formed.2⟩

end

end Phrase

end DialectBridge.Statement
