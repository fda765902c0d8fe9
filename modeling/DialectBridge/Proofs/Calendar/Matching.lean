import DialectBridge.Proofs.Calendar.Quantities

/-!
# Texts in a layout

A text is written in a layout if it is what the pieces of the layout stand for, one after the
other, and nothing else. Numbers may have blanks in front, and a number goes on for as long as
there are digits and it has not as many of them as it may have. Reading a text by a layout gives
exactly the parts that the text has, if it is written in the layout, and fails otherwise.
-/

namespace DialectBridge.Calendar

open Decimal (Digital ofDigits)
open Text (isBlank)

/-! ## Digits -/

/-- Digits of a number that has at most so many, in front of a rest. -/
structure Stretch (limit : Nat) (digits rest : List Char) : Prop where
  nonempty : digits ≠ []
  digital : Digital digits
  short : digits.length ≤ limit
  maximal : digits.length = limit ∨ EndsDigits rest

/-- The first of the digits in front are a stretch, if there are any. What is behind them begins
with the first character that is no digit, or with what is too far behind. -/
theorem stretch_takeWhile {limit : Nat} {text : List Char}
    (nonempty : (text.take limit).takeWhile Char.isDigit ≠ []) :
    ∃ rest, text = (text.take limit).takeWhile Char.isDigit ++ rest ∧
      Stretch limit ((text.take limit).takeWhile Char.isDigit) rest := by
  have front := (text.take limit).takeWhile_append_dropWhile (p := Char.isDigit)
  have digital : Digital ((text.take limit).takeWhile Char.isDigit) :=
    fun c member => List.all_eq_true.mp List.all_takeWhile c member
  have ended := List.head?_dropWhile_not Char.isDigit (text.take limit)
  generalize (text.take limit).takeWhile Char.isDigit = digits at *
  generalize (text.take limit).dropWhile Char.isDigit = others at *
  have whole : text = digits ++ (others ++ text.drop limit) := by
    rw [← List.append_assoc, front, List.take_append_drop]
  have length := congrArg List.length front
  rw [List.length_append, List.length_take] at length
  refine ⟨others ++ text.drop limit, whole, nonempty, digital, by omega, ?_⟩
  cases others with
  | nil =>
    by_cases long : limit ≤ text.length
    · rw [List.length_nil] at length
      exact .inl (by omega)
    · rw [List.drop_of_length_le (by omega)]
      exact .inr endsDigits_nil
  | cons c others =>
    refine .inr (endsDigits_cons _ ?_)
    simpa using ended

/-- The digits that are taken are a stretch in front of what is left. -/
theorem takeDigits_eq_some_iff {limit : Nat} {text digits rest : List Char} :
    takeDigits limit text = some (digits, rest) ↔
      text = digits ++ rest ∧ Stretch limit digits rest := by
  constructor
  · intro taken
    unfold takeDigits at taken
    by_cases none : (text.take limit).takeWhile Char.isDigit = []
    · simp [none] at taken
    · obtain ⟨others, whole, stretch⟩ := stretch_takeWhile none
      have behind := congrArg (List.drop ((text.take limit).takeWhile Char.isDigit).length) whole
      rw [List.drop_left] at behind
      simp only [List.isEmpty_iff, none, if_false, Option.some.injEq, Prod.mk.injEq,
        behind] at taken
      obtain ⟨rfl, rfl⟩ := taken
      exact ⟨whole, stretch⟩
  · rintro ⟨rfl, stretch⟩
    rcases stretch.maximal with full | ended
    · have front : (digits ++ rest).take limit = digits := by rw [← full, List.take_left]
      have all := (Text.takeWhile_dropWhile_append stretch.digital endsDigits_nil).1
      rw [List.append_nil] at all
      unfold takeDigits
      rw [front, all]
      simp [stretch.nonempty]
    · exact takeDigits_append stretch.digital stretch.nonempty stretch.short ended

/-- All digits are taken that stand in front of what is left. -/
theorem takeAllDigits_eq_some_iff {text digits rest : List Char} :
    takeAllDigits text = some (digits, rest) ↔
      text = digits ++ rest ∧ digits ≠ [] ∧ Digital digits ∧ EndsDigits rest := by
  unfold takeAllDigits
  rw [takeDigits_eq_some_iff]
  constructor
  · rintro ⟨rfl, stretch⟩
    refine ⟨rfl, stretch.nonempty, stretch.digital, ?_⟩
    rcases stretch.maximal with full | ended
    · have none : rest = [] := by simpa using full
      rw [none]
      exact endsDigits_nil
    · exact ended
  · rintro ⟨rfl, nonempty, digital, ended⟩
    exact ⟨rfl, nonempty, digital, by simp, .inr ended⟩

/-- A text that begins with digits begins with no blank. -/
theorem Stretch.isBlank_head? {limit : Nat} {digits rest : List Char}
    (stretch : Stretch limit digits rest) :
    ∀ c, (digits ++ rest).head? = some c → isBlank c = false := by
  intro c head
  rw [List.head?_append, List.head?_eq_some_head stretch.nonempty, Option.some_or] at head
  obtain rfl := Option.some.inj head
  exact Text.isBlank_of_isDigit (stretch.digital _ (List.head_mem stretch.nonempty))

/-- The blanks in front of a text are left out. -/
theorem trimStart_eq_iff {text rest : List Char} : Text.trimStart text = rest ↔
    (∃ blanks : Blanks, text = blanks.chars ++ rest) ∧
      ∀ c, rest.head? = some c → isBlank c = false := by
  constructor
  · rintro rfl
    obtain ⟨blanks, whole, blank⟩ := Text.exists_blanks text
    exact ⟨⟨⟨blanks, blank⟩, whole⟩, Text.isBlank_head?_trimStart text⟩
  · rintro ⟨⟨blanks, rfl⟩, visible⟩
    rw [Text.trimStart_append blanks.blank, Text.trimStart_of_head? visible]

/-! ## Pieces -/

/-- A year in front of a rest: up to four digits, or a sign and any number of digits. -/
inductive YearText : List Char → Int → List Char → Prop where
  | plain {digits rest : List Char} (stretch : Stretch 4 digits rest) :
      YearText (digits ++ rest) (ofDigits digits) rest
  | signed {sign : Sign} (signed : sign ≠ .unsigned) {digits rest : List Char}
      (nonempty : digits ≠ []) (digital : Digital digits) (ended : EndsDigits rest) :
      YearText (sign.chars ++ (digits ++ rest)) (sign.factor * ofDigits digits) rest

/-- A year that begins with a digit has up to four of them. -/
theorem readYear_plain {c : Char} (digit : c.isDigit = true) (text : List Char) :
    readYear (c :: text) =
      (takeDigits 4 (c :: text)).map fun taken => ((ofDigits taken.1 : Int), taken.2) := by
  unfold readYear
  split
  · next minus => exact absurd ((List.cons.inj minus).1 ▸ digit) (by decide)
  · next plus => exact absurd ((List.cons.inj plus).1 ▸ digit) (by decide)
  · rfl

/-- A year is read as it is written. -/
theorem readYear_eq_some_iff {text rest : List Char} {year : Int} :
    readYear text = some (year, rest) ↔ YearText text year rest := by
  constructor
  · intro read
    unfold readYear at read
    split at read
    · obtain ⟨⟨digits, others⟩, taken, same⟩ := Option.map_eq_some_iff.mp read
      obtain ⟨rfl, nonempty, digital, ended⟩ := takeAllDigits_eq_some_iff.mp taken
      obtain ⟨rfl, rfl⟩ := Prod.mk.inj same
      have negative : -(ofDigits digits : Int) = Sign.minus.factor * ofDigits digits := by
        simp [Sign.factor]
      rw [negative]
      exact .signed (by decide : Sign.minus ≠ .unsigned) nonempty digital ended
    · obtain ⟨⟨digits, others⟩, taken, same⟩ := Option.map_eq_some_iff.mp read
      obtain ⟨rfl, nonempty, digital, ended⟩ := takeAllDigits_eq_some_iff.mp taken
      obtain ⟨rfl, rfl⟩ := Prod.mk.inj same
      have positive : (ofDigits digits : Int) = Sign.plus.factor * ofDigits digits := by
        simp [Sign.factor]
      rw [positive]
      exact .signed (by decide : Sign.plus ≠ .unsigned) nonempty digital ended
    · obtain ⟨⟨digits, others⟩, taken, same⟩ := Option.map_eq_some_iff.mp read
      obtain ⟨rfl, stretch⟩ := takeDigits_eq_some_iff.mp taken
      obtain ⟨rfl, rfl⟩ := Prod.mk.inj same
      exact .plain stretch
  · rintro (stretch | ⟨signed, nonempty, digital, ended⟩)
    · have taken := takeDigits_eq_some_iff.mpr ⟨rfl, stretch⟩
      obtain ⟨c, others, digits⟩ := List.exists_cons_of_ne_nil stretch.nonempty
      have digit := stretch.digital c (by simp [digits])
      rw [digits, List.cons_append] at taken ⊢
      rw [readYear_plain digit, taken]
      rfl
    · next sign digits =>
      have taken := takeAllDigits_eq_some_iff.mpr ⟨rfl, nonempty, digital, ended⟩
      cases sign with
      | unsigned => exact absurd rfl signed
      | plus =>
        change readYear ('+' :: (digits ++ rest)) = _
        simp [readYear_plus, taken, Sign.factor]
      | minus =>
        change readYear ('-' :: (digits ++ rest)) = _
        simp [readYear_minus, taken, Sign.factor]

/-- A piece of a layout in front of a rest, and what the parts are with it. -/
inductive Piece.Takes : Piece → Parts → List Char → Parts → List Char → Prop where
  | year {parts : Parts} (blanks : Blanks) {text rest : List Char} {year : Int}
      (written : YearText text year rest) :
      Takes .year parts (blanks.chars ++ text) { parts with year := year } rest
  | part {parts : Parts} (part : Part) (blanks : Blanks) {digits rest : List Char}
      (stretch : Stretch 2 digits rest) :
      Takes (.part part) parts (blanks.chars ++ (digits ++ rest))
        (parts.set part (ofDigits digits)) rest
  | mark {parts : Parts} (c : Char) (rest : List Char) :
      Takes (.mark c) parts (c :: rest) parts rest
  | gap {parts : Parts} (blanks : Blanks) {rest : List Char}
      (visible : ∀ c, rest.head? = some c → isBlank c = false) :
      Takes .gap parts (blanks.chars ++ rest) parts rest
  | noFraction {parts : Parts} {rest : List Char} (noPoint : rest.head? ≠ some '.') :
      Takes .fraction parts rest parts rest
  | fraction {parts : Parts} {digits rest : List Char} (nonempty : digits ≠ [])
      (digital : Digital digits) (ended : EndsDigits rest) :
      Takes .fraction parts ('.' :: (digits ++ rest))
        { parts with nanos := nanosOfDigits digits } rest

/-- A year begins with no blank. -/
theorem YearText.isBlank_head? {text rest : List Char} {year : Int}
    (written : YearText text year rest) : ∀ c, text.head? = some c → isBlank c = false := by
  cases written with
  | plain stretch => exact stretch.isBlank_head?
  | signed signed nonempty digital ended =>
    rename_i sign digits
    cases sign with
    | unsigned => exact absurd rfl signed
    | plus =>
      rintro _ ⟨⟩
      decide
    | minus =>
      rintro _ ⟨⟩
      decide

/-- A year begins with a digit or a sign, and so with no letter. -/
theorem YearText.exists_front {text rest : List Char} {year : Int}
    (written : YearText text year rest) : ∃ c others, text = c :: others ∧ c.toNat ≤ 57 := by
  cases written with
  | plain stretch =>
    obtain ⟨c, digits, rfl⟩ := List.exists_cons_of_ne_nil stretch.nonempty
    have digit := Text.isDigit_iff.mp (stretch.digital c List.mem_cons_self)
    exact ⟨c, _, List.cons_append, digit.2⟩
  | signed signed nonempty digital ended =>
    rename_i sign digits
    cases sign with
    | unsigned => exact absurd rfl signed
    | plus => exact ⟨'+', digits ++ rest, rfl, by decide⟩
    | minus => exact ⟨'-', digits ++ rest, rfl, by decide⟩

/-- What a piece consumes stands in front of the text. -/
theorem Piece.takes_of_read {piece : Piece} {parts next : Parts} {text rest : List Char}
    (read : piece.read parts text = some (next, rest)) : piece.Takes parts text next rest := by
  cases piece with
  | year =>
    obtain ⟨⟨year, others⟩, written, same⟩ := Option.map_eq_some_iff.mp read
    obtain ⟨rfl, rfl⟩ := Prod.mk.inj same
    obtain ⟨⟨blanks, whole⟩, _⟩ := trimStart_eq_iff.mp (Eq.refl (Text.trimStart text))
    rw [whole]
    exact .year blanks (readYear_eq_some_iff.mp written)
  | part part =>
    obtain ⟨⟨digits, others⟩, taken, same⟩ := Option.map_eq_some_iff.mp read
    obtain ⟨rfl, rfl⟩ := Prod.mk.inj same
    obtain ⟨cut, stretch⟩ := takeDigits_eq_some_iff.mp taken
    obtain ⟨⟨blanks, whole⟩, _⟩ := trimStart_eq_iff.mp cut
    rw [whole]
    exact .part part blanks stretch
  | mark c =>
    cases text with
    | nil => exact absurd read (by simp [Piece.read])
    | cons head others =>
      unfold Piece.read at read
      dsimp only at read
      split at read
      · next same =>
        obtain ⟨rfl, rfl⟩ := Prod.mk.inj (Option.some.inj read)
        rw [same]
        exact .mark c _
      · exact absurd read (by simp)
  | gap =>
    obtain ⟨rfl, cut⟩ := Prod.mk.inj (Option.some.inj read)
    obtain ⟨⟨blanks, rfl⟩, visible⟩ := trimStart_eq_iff.mp cut
    exact .gap blanks visible
  | fraction =>
    unfold Piece.read at read
    dsimp only at read
    split at read
    · obtain ⟨⟨digits, others⟩, taken, same⟩ := Option.map_eq_some_iff.mp read
      obtain ⟨rfl, nonempty, digital, ended⟩ := takeAllDigits_eq_some_iff.mp taken
      obtain ⟨rfl, rfl⟩ := Prod.mk.inj same
      exact .fraction nonempty digital ended
    · next noPoint =>
      obtain ⟨rfl, rfl⟩ := Prod.mk.inj (Option.some.inj read)
      refine .noFraction fun point => ?_
      cases text with
      | nil => exact absurd point (by simp)
      | cons c others => exact noPoint others (by rw [Option.some.inj point])

/-- A piece consumes what it has in front of the text. -/
theorem Piece.Takes.read_eq {piece : Piece} {parts next : Parts} {text rest : List Char}
    (takes : piece.Takes parts text next rest) : piece.read parts text = some (next, rest) := by
  cases takes with
  | year blanks written =>
    have cut := trimStart_eq_iff.mpr ⟨⟨blanks, rfl⟩, written.isBlank_head?⟩
    simp [Piece.read, cut, readYear_eq_some_iff.mpr written]
  | part part blanks stretch =>
    have cut := trimStart_eq_iff.mpr ⟨⟨blanks, rfl⟩, stretch.isBlank_head?⟩
    simp [Piece.read, cut, takeDigits_eq_some_iff.mpr ⟨rfl, stretch⟩]
  | mark c others => exact Piece.read_mark parts c rest
  | gap blanks visible =>
    simp [Piece.read, trimStart_eq_iff.mpr ⟨⟨blanks, rfl⟩, visible⟩]
  | noFraction noPoint =>
    unfold Piece.read
    dsimp only
    split
    · exact absurd rfl noPoint
    · rfl
  | fraction nonempty digital ended =>
    simp [Piece.read, takeAllDigits_eq_some_iff.mpr ⟨rfl, nonempty, digital, ended⟩]

/-- A piece is consumed exactly where the text has it in front. -/
theorem Piece.read_eq_some_iff {piece : Piece} {parts next : Parts} {text rest : List Char} :
    piece.read parts text = some (next, rest) ↔ piece.Takes parts text next rest :=
  ⟨takes_of_read, Takes.read_eq⟩

/-- A text is written in a layout that begins with some parts: it is what the pieces take, one
after the other, and nothing else. -/
inductive Written : List Piece → Parts → List Char → Parts → Prop where
  | done (parts : Parts) : Written [] parts [] parts
  | piece {piece : Piece} {pieces : List Piece} {parts next last : Parts}
      {text rest : List Char} (takes : piece.Takes parts text next rest)
      (further : Written pieces next rest last) : Written (piece :: pieces) parts text last

/-- A text is read by a layout exactly if it is written in it. -/
theorem readPieces_eq_some_iff {pieces : List Piece} {parts last : Parts} {text : List Char} :
    readPieces pieces parts text = some last ↔ Written pieces parts text last := by
  induction pieces generalizing parts text with
  | nil =>
    constructor
    · intro read
      cases text with
      | nil =>
        obtain rfl := Option.some.inj read
        exact .done parts
      | cons c rest => exact absurd read (by simp [readPieces])
    · rintro ⟨⟩
      rfl
  | cons piece pieces inductionHypothesis =>
    constructor
    · intro read
      unfold readPieces at read
      cases taken : piece.read parts text with
      | none => simp [taken] at read
      | some result =>
        obtain ⟨next, rest⟩ := result
        rw [taken] at read
        exact .piece (Piece.read_eq_some_iff.mp taken) (inductionHypothesis.mp read)
    · rintro (_ | ⟨takes, further⟩)
      unfold readPieces
      rw [Piece.read_eq_some_iff.mpr takes]
      exact inductionHypothesis.mpr further

end DialectBridge.Calendar
