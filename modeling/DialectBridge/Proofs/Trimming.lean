import DialectBridge.Proofs.Characters
import DialectBridge.Text.Blank

/-!
# Texts without blanks at their ends

Dropping the blanks at both ends of a text leaves a text with none there, and nothing but
blanks is dropped. Where a text has none at its ends, blanks around it are what is dropped.
-/

namespace DialectBridge.Text

/-- The codes of the blanks, one by one. -/
def blankCodes : List Nat :=
  [0x09, 0x0A, 0x0B, 0x0C, 0x0D, 0x20, 0x85, 0xA0, 0x1680, 0x2000, 0x2001, 0x2002, 0x2003,
   0x2004, 0x2005, 0x2006, 0x2007, 0x2008, 0x2009, 0x200A, 0x2028, 0x2029, 0x202F, 0x205F,
   0x3000]

/-- The code of a blank is one of them. -/
theorem toNat_mem_blankCodes {c : Char} (blank : isBlank c = true) : c.toNat ∈ blankCodes := by
  simp only [isBlank, Bool.or_eq_true, Bool.and_eq_true, decide_eq_true_eq, beq_iff_eq] at blank
  simp only [blankCodes, List.mem_cons, List.not_mem_nil, or_false]
  omega

/-- The visible ASCII characters are no blanks. -/
theorem isBlank_of_visible {c : Char} (visible : 33 ≤ c.toNat ∧ c.toNat ≤ 126) :
    isBlank c = false :=
  of_codes_below (fun c => 33 ≤ c.toNat → isBlank c = false) (by decide)
    (Nat.lt_succ_of_le visible.2) visible.1

/-- Digits are no blanks. -/
theorem isBlank_of_isDigit {c : Char} (digit : c.isDigit = true) : isBlank c = false := by
  have code := isDigit_iff.mp digit
  exact isBlank_of_visible (by omega)

/-- A text that neither begins nor ends with a blank. -/
structure Trimmed (text : List Char) : Prop where
  front : ∀ c, text.head? = some c → isBlank c = false
  back : ∀ c, text.getLast? = some c → isBlank c = false

/-- A text without blanks has none at its ends. -/
theorem trimmed_of_forall {text : List Char} (none : ∀ c ∈ text, isBlank c = false) :
    Trimmed text :=
  ⟨fun c head => none c (List.mem_of_mem_head? head),
    fun c last => none c (List.mem_of_mem_getLast? last)⟩

/-- No characters are blanks only. -/
theorem all_blank_nil : ∀ c ∈ ([] : List Char), isBlank c = true := by simp

/-! ## The front -/

/-- A text that begins with no blank has none to drop. -/
theorem trimStart_of_head? {text : List Char}
    (settled : ∀ c, text.head? = some c → isBlank c = false) : trimStart text = text := by
  cases text with
  | nil => rfl
  | cons c rest =>
    have noBlank := settled c rfl
    simp [trimStart, noBlank]

/-- After blanks have been dropped, none is in front. -/
theorem isBlank_head?_trimStart (text : List Char) :
    ∀ c, (trimStart text).head? = some c → isBlank c = false := by
  intro c head
  have first := List.head?_dropWhile_not isBlank text
  unfold trimStart at head
  simpa [head] using first

/-- Blanks in front of a text are dropped with those that it begins with. -/
theorem trimStart_append {blanks : List Char} (all : ∀ c ∈ blanks, isBlank c = true)
    (text : List Char) : trimStart (blanks ++ text) = trimStart text :=
  List.dropWhile_append_of_pos all

/-- A text is the blanks in front of it and what is left without them. -/
theorem exists_blanks (text : List Char) :
    ∃ blanks, text = blanks ++ trimStart text ∧ ∀ c ∈ blanks, isBlank c = true :=
  ⟨text.takeWhile isBlank, List.takeWhile_append_dropWhile.symm,
    fun c member => List.all_eq_true.mp List.all_takeWhile c member⟩

/-! ## Both ends -/

/-- The end of a text is the front of its reverse. -/
theorem trimEnd_eq (text : List Char) : trimEnd text = (trimStart text.reverse).reverse := rfl

/-- A text is the blanks at its ends and what is left without them. -/
theorem exists_trim (text : List Char) :
    ∃ front back, text = front ++ trim text ++ back ∧
      (∀ c ∈ front, isBlank c = true) ∧ ∀ c ∈ back, isBlank c = true := by
  obtain ⟨front, cut, blankFront⟩ := exists_blanks text
  obtain ⟨back, cutBack, blankBack⟩ := exists_blanks (trimStart text).reverse
  have ended : trimStart text = trim text ++ back.reverse := by
    rw [← List.reverse_inj, cutBack]
    simp [trim, trimEnd_eq]
  refine ⟨front, back.reverse, ?_, blankFront, fun c member => blankBack c (by simpa using member)⟩
  rw [List.append_assoc, ← ended, ← cut]

/-- What is left without the blanks at the ends has none there. -/
theorem trimmed_trim (text : List Char) : Trimmed (trim text) := by
  have back : ∀ c, (trim text).getLast? = some c → isBlank c = false := by
    intro c last
    refine isBlank_head?_trimStart (trimStart text).reverse c ?_
    simpa [trim, trimEnd_eq] using last
  refine ⟨?_, back⟩
  intro c head
  obtain ⟨blanks, cut, blank⟩ := exists_blanks (trimStart text).reverse
  have ended : trimStart text = trim text ++ blanks.reverse := by
    rw [← List.reverse_inj, cut]
    simp [trim, trimEnd_eq]
  refine isBlank_head?_trimStart text c ?_
  rw [ended, List.head?_append, head]
  rfl

/-- Blanks around a text that has none at its ends are what is dropped. -/
theorem trim_append {front text back : List Char} (trimmed : Trimmed text)
    (blankFront : ∀ c ∈ front, isBlank c = true) (blankBack : ∀ c ∈ back, isBlank c = true) :
    trim (front ++ text ++ back) = text := by
  have reversed : ∀ c, text.reverse.head? = some c → isBlank c = false := by
    simpa using trimmed.back
  have blankReverse : ∀ c ∈ back.reverse, isBlank c = true := by simpa using blankBack
  cases text with
  | nil =>
    have all : ∀ c ∈ front ++ back, isBlank c = true := by
      intro c member
      exact (List.mem_append.mp member).elim (blankFront c) (blankBack c)
    have nothing : trimStart (front ++ back) = [] := by
      have dropped := trimStart_append all []
      rwa [List.append_nil] at dropped
    rw [List.append_nil, trim, nothing]
    rfl
  | cons c rest =>
    have settled : trimStart (c :: rest ++ back) = c :: rest ++ back :=
      trimStart_of_head? fun d head => trimmed.front d (by simpa using head)
    rw [List.append_assoc, trim, trimStart_append blankFront, settled, trimEnd_eq,
      List.reverse_append, trimStart_append blankReverse, trimStart_of_head? reversed,
      List.reverse_reverse]

/-- A text without blanks at its ends has none to drop. -/
theorem trim_of_trimmed {text : List Char} (trimmed : Trimmed text) : trim text = text := by
  simpa using trim_append trimmed all_blank_nil all_blank_nil

/-- A text has no blanks at its ends exactly when it has none to drop. -/
theorem trimmed_iff {text : List Char} : Trimmed text ↔ trim text = text :=
  ⟨trim_of_trimmed, fun same => same ▸ trimmed_trim text⟩

instance (text : List Char) : Decidable (Trimmed text) := decidable_of_iff _ trimmed_iff.symm

/-- A blank in front changes nothing about what is left. -/
theorem trim_cons_of_isBlank {c : Char} (blank : isBlank c = true) (text : List Char) :
    trim (c :: text) = trim text := by
  have dropped : trimStart ([c] ++ text) = trimStart text := trimStart_append (by simpa) text
  unfold trim
  rw [← dropped]
  rfl

end DialectBridge.Text
