import DialectBridge.Proofs.Statement.Idempotence

/-!
# The quick test

Before a text is read, it is looked through for the names of the rewritten functions, in lower
case. A text in which none is found is left as it is, without being read. That saves the
reading, and should change nothing: had the text been read, no call in it should have been of
a rewritten function.

For calls by name this is so, since a name is put in lower case too before it is looked up. A
part of a text is told otherwise, by a keyword, and keywords are told in capitals. There are
characters that are ASCII letters in capitals but not in lower case, such as the long s. A
keyword that is written with one of them is hidden from the test, and the call behind it stays
as it is. In texts without such characters no call is hidden.
-/

namespace DialectBridge.Statement

open Text (lowerImage upperToAscii)
open Except (eq_ok_of_toOption)

/-- In what a text is read as, if it can be read, no part of a text is taken. -/
def TakesNoPart (text : String) : Prop :=
  ∀ statements, readAll text = some statements →
    ∀ call ∈ Phrase.callsAll statements, ¬call.IsSubstring

/-- The call of the function behind the keyword is one of a rewritten function. -/
theorem Invocation.IsSubstring.not_native {call : Invocation} (isSubstring : call.IsSubstring) :
    call.isNative = false := by
  rw [Invocation.isNative, isSubstring]
  decide

/-! ## What the test finds -/

section

variable {text : String}

/-- Where the test finds no name, only calls behind the keyword are of rewritten functions. -/
theorem native_or_isSubstring (unmentioned : mentionsRewritten text = false)
    {statements : List Phrase} (read : readAll text = some statements) :
    ∀ call ∈ Phrase.callsAll statements, call.isNative = true ∨ call.IsSubstring := by
  have formed : Phrase.FormedAll InSmallLetters statements :=
    formed_readAll read (mentionsRewritten_eq_false_iff.mp unmentioned)
  intro call member
  have native := Phrase.native_of_formedAll (fun _ hushed => hushed) statements formed call member
  exact native.imp_right And.right

/-- Where the test finds no name, a text has no calls of rewritten functions exactly if it takes
no part of a text. -/
theorem isNative_iff_takesNoPart (unmentioned : mentionsRewritten text = false) :
    IsNative text ↔ TakesNoPart text := by
  refine forall₂_congr fun statements read => forall₂_congr fun call member => ?_
  constructor
  · intro native isSubstring
    exact Bool.false_ne_true (isSubstring.not_native.symm.trans native)
  · exact (native_or_isSubstring unmentioned read call member).resolve_right

end

/-! ## What the characters tell -/

/-- Whether a character is of ASCII, or is not made of ASCII letters in capitals. -/
def isPlain (c : Char) : Bool := decide (c.toNat < 0x80) || upperToAscii c == [c]

/-- The capital of a plain character. -/
def plainCapital (c : Char) : Char := if c.toNat < 0x80 then c.toUpper else c

/-- Plain characters are put in capitals one by one. -/
theorem upperToAscii_of_isPlain {c : Char} (plain : isPlain c = true) :
    upperToAscii c = [plainCapital c] := by
  simp only [isPlain, Bool.or_eq_true, decide_eq_true_eq, beq_iff_eq] at plain
  unfold plainCapital
  split
  · next ascii => rw [upperToAscii, if_pos ascii]
  · next beyond => exact plain.resolve_left beyond

/-- A character that has a capital of ASCII has the same lower case as the capital. -/
theorem lowerImage_of_plainCapital {c : Char} (ascii : (plainCapital c).toNat < 0x80) :
    lowerImage c = [(plainCapital c).toLower] := by
  unfold plainCapital at ascii ⊢
  split at ascii
  · next small =>
    rw [if_pos small]
    exact Text.of_codes_below (fun c => lowerImage c = [c.toUpper.toLower]) (by decide +kernel)
      small
  · next beyond => exact absurd ascii beyond

/-- A stretch of ASCII that is found in the capitals of plain characters is found in their lower
case, in lower case. -/
theorem infix_lowerImage_of_infix_capitals {stretch text : List Char}
    (plain : ∀ c ∈ text, isPlain c = true) (ascii : ∀ c ∈ stretch, c.toNat < 0x80)
    (occurs : stretch <:+: text.flatMap upperToAscii) :
    stretch.map Char.toLower <:+: text.flatMap lowerImage := by
  have capitalized : text.flatMap upperToAscii = text.map plainCapital := by
    rw [List.map_eq_flatMap]
    exact List.flatMap_congr fun c member => upperToAscii_of_isPlain (plain c member)
  rw [capitalized] at occurs
  obtain ⟨front, back, whole⟩ := occurs
  obtain ⟨before, after, rfl, beginning, -⟩ := List.map_eq_append_iff.mp whole.symm
  obtain ⟨left, middle, rfl, -, rfl⟩ := List.map_eq_append_iff.mp beginning
  have same : middle.flatMap lowerImage = (middle.map plainCapital).map Char.toLower := by
    rw [List.map_map, List.map_eq_flatMap]
    exact List.flatMap_congr fun c member =>
      lowerImage_of_plainCapital (ascii _ (List.mem_map_of_mem member))
  rw [← same, List.flatMap_append, List.flatMap_append]
  exact ⟨_, _, rfl⟩

/-- A text of plain characters in which the test finds no name is silent. -/
theorem silent_of_isPlain {text : String} (plain : ∀ c ∈ text.toList, isPlain c = true)
    (unmentioned : mentionsRewritten text = false) : Silent text.toList := by
  have silent := mentionsRewritten_eq_false_iff.mp unmentioned
  have listed : "substring" ∈ Emulation.rewriteNames := by decide
  refine silent_iff.mpr ⟨silent, fun occurs => ?_⟩
  exact silent ⟨lowerImage, "substring".toList⟩
    (List.mem_cons_of_mem _ (List.mem_map_of_mem listed)) (inSmallLetters_of_mem listed)
    (infix_lowerImage_of_infix_capitals plain (by decide) occurs)

/-! ## With the test and without it -/

end DialectBridge.Statement
