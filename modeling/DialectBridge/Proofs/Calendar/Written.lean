import DialectBridge.Calendar.Layout
import DialectBridge.Calendar.Specifier
import DialectBridge.Proofs.Calendar.Shifting
import DialectBridge.Proofs.Decimal.WholeNumbers
import DialectBridge.Proofs.Trimming

/-!
# Written moments are read back

The canonical text of a moment is its date and its time of day, each number padded, with
marks between them and a sign on years of other than four digits. A fraction of the second
may follow. Every number ends at a mark, so the first of the layouts takes the text apart as
it was put together, whatever the year is; no such text starts as the zero date does.
-/

namespace DialectBridge.Calendar

open Decimal (Digital padded ofDigits digital_padded ofDigits_padded length_padded padded_ne_nil)

/-! ## Stretches of digits -/

/-- What a stretch of digits ends at: the end of the text or no digit. -/
def EndsDigits (rest : List Char) : Prop := ∀ c, rest.head? = some c → c.isDigit = false

/-- Digits end at the end of a text. -/
theorem endsDigits_nil : EndsDigits [] := nofun

/-- Digits end at a character that is none. -/
theorem endsDigits_cons {c : Char} (rest : List Char) (mark : c.isDigit = false) :
    EndsDigits (c :: rest) := by
  rintro _ ⟨⟩
  exact mark

/-- A text that begins with a digit has no blanks in front. -/
theorem trimStart_of_digital {digits : List Char} (digital : Digital digits)
    (nonempty : digits ≠ []) (rest : List Char) :
    Text.trimStart (digits ++ rest) = digits ++ rest := by
  obtain ⟨c, others, rfl⟩ := List.exists_cons_of_ne_nil nonempty
  refine Text.trimStart_of_head? ?_
  rintro _ ⟨⟩
  exact Text.isBlank_of_isDigit (digital c List.mem_cons_self)

/-- A stretch of digits that is not too long is taken as a whole. -/
theorem takeDigits_append {limit : Nat} {digits rest : List Char} (digital : Digital digits)
    (nonempty : digits ≠ []) (short : digits.length ≤ limit) (ended : EndsDigits rest) :
    takeDigits limit (digits ++ rest) = some (digits, rest) := by
  have within : EndsDigits (rest.take (limit - digits.length)) := by
    intro c head
    refine ended c ?_
    cases rest with
    | nil => simp at head
    | cons d more =>
      cases left : limit - digits.length with
      | zero => simp [left] at head
      | succ count => simpa [left] using head
  have taken : ((digits ++ rest).take limit).takeWhile Char.isDigit = digits := by
    rw [List.take_append, List.take_of_length_le short]
    exact (Text.takeWhile_dropWhile_append digital within).1
  unfold takeDigits
  rw [taken]
  simp [nonempty]

/-- A stretch of digits of any length is taken as a whole where all of it is asked for. -/
theorem takeAllDigits_append {digits rest : List Char} (digital : Digital digits)
    (nonempty : digits ≠ []) (ended : EndsDigits rest) :
    takeAllDigits (digits ++ rest) = some (digits, rest) :=
  takeDigits_append digital nonempty (by simp) ended

/-! ## Years -/

/-- A written year begins with a digit or a sign, and with a digit exactly where it has four
of them. -/
theorem writeYear_cases (year : Int) :
    (0 ≤ year ∧ year ≤ 9999 ∧ (writeYear year).toList = (padded 4 year.toNat).toList) ∨
      (year < 0 ∧ (writeYear year).toList = '-' :: (padded 4 year.natAbs).toList) ∨
      (9999 < year ∧ (writeYear year).toList = '+' :: (padded 4 year.natAbs).toList) := by
  unfold writeYear
  by_cases plain : 0 ≤ year ∧ year ≤ 9999
  · rw [if_pos plain]
    exact .inl ⟨plain.1, plain.2, rfl⟩
  · rw [if_neg plain]
    by_cases before : year < 0
    · exact .inr (.inl ⟨before, by simp [before]⟩)
    · exact .inr (.inr ⟨by omega, by simp [before]⟩)

/-- The first character of a written year is a digit or a sign. -/
theorem exists_front_writeYear (year : Int) :
    ∃ c rest, (writeYear year).toList = c :: rest ∧ 43 ≤ c.toNat ∧ c.toNat ≤ 57 := by
  rcases writeYear_cases year with ⟨_, _, written⟩ | ⟨_, written⟩ | ⟨_, written⟩
  · have digits := digital_padded 4 year.toNat
    obtain ⟨c, rest, cut⟩ := List.exists_cons_of_ne_nil (padded_ne_nil 4 year.toNat)
    rw [cut] at digits
    have code := Text.isDigit_iff.mp (digits c List.mem_cons_self)
    exact ⟨c, rest, written.trans cut, by omega, code.2⟩
  · exact ⟨_, _, written, by decide, by decide⟩
  · exact ⟨_, _, written, by decide, by decide⟩

/-- Blanks are dropped before a year, and a written year begins with none. -/
theorem trimStart_writeYear (year : Int) (rest : List Char) :
    Text.trimStart ((writeYear year).toList ++ rest) = (writeYear year).toList ++ rest := by
  obtain ⟨c, others, written, least, most⟩ := exists_front_writeYear year
  rw [written]
  refine Text.trimStart_of_head? ?_
  rintro _ ⟨⟩
  exact Text.isBlank_of_visible (by omega)

/-- A year that begins with a digit has at most four of them. -/
theorem readYear_digits {digits rest : List Char} (digital : Digital digits)
    (nonempty : digits ≠ []) (short : digits.length ≤ 4) (ended : EndsDigits rest) :
    readYear (digits ++ rest) = some ((ofDigits digits : Int), rest) := by
  have taken := takeDigits_append digital nonempty short ended
  obtain ⟨c, others, rfl⟩ := List.exists_cons_of_ne_nil nonempty
  have digit := Text.isDigit_iff.mp (digital c List.mem_cons_self)
  unfold readYear
  split
  · next minus =>
    obtain ⟨rfl, _⟩ := List.cons.inj minus
    exact absurd digit (by decide)
  · next plus =>
    obtain ⟨rfl, _⟩ := List.cons.inj plus
    exact absurd digit (by decide)
  · rw [taken]
    rfl

/-- A year after a minus sign is negative and has any number of digits. -/
theorem readYear_minus (text : List Char) : readYear ('-' :: text) =
    (takeAllDigits text).map fun taken => (-(ofDigits taken.1 : Int), taken.2) := rfl

/-- A year after a plus sign has any number of digits. -/
theorem readYear_plus (text : List Char) : readYear ('+' :: text) =
    (takeAllDigits text).map fun taken => ((ofDigits taken.1 : Int), taken.2) := rfl

/-- A written year is read back. -/
theorem readYear_writeYear (year : Int) {rest : List Char} (ended : EndsDigits rest) :
    readYear ((writeYear year).toList ++ rest) = some (year, rest) := by
  have signed (n : Nat) : takeAllDigits ((padded 4 n).toList ++ rest) =
      some ((padded 4 n).toList, rest) :=
    takeAllDigits_append (digital_padded _ _) (padded_ne_nil _ _) ended
  rcases writeYear_cases year with ⟨first, last, written⟩ | ⟨before, written⟩ | ⟨after, written⟩
  · have short : (padded 4 year.toNat).toList.length ≤ 4 :=
      Nat.le_of_eq (length_padded (by decide) (by omega))
    rw [written, readYear_digits (digital_padded _ _) (padded_ne_nil _ _) short ended,
      ofDigits_padded, Int.toNat_of_nonneg first]
  · have negative : -(year.natAbs : Int) = year := by omega
    rw [written, List.cons_append, readYear_minus, signed, Option.map_some, ofDigits_padded,
      negative]
  · have positive : (year.natAbs : Int) = year := by omega
    rw [written, List.cons_append, readYear_plus, signed, Option.map_some, ofDigits_padded,
      positive]

/-! ## Pieces -/

namespace Piece

variable (parts : Parts)

/-- A written year is consumed. -/
theorem read_year (year : Int) {rest : List Char} (ended : EndsDigits rest) :
    Piece.year.read parts ((writeYear year).toList ++ rest) =
      some ({ parts with year := year }, rest) := by
  unfold read
  dsimp only
  rw [trimStart_writeYear, readYear_writeYear year ended]
  rfl

/-- A number of two digits is consumed. -/
theorem read_part (part : Part) {n : Nat} (below : n < 100) {rest : List Char}
    (ended : EndsDigits rest) :
    (Piece.part part).read parts ((padded 2 n).toList ++ rest) =
      some (parts.set part n, rest) := by
  have taken : takeDigits 2 ((padded 2 n).toList ++ rest) = some ((padded 2 n).toList, rest) :=
    takeDigits_append (digital_padded _ _) (padded_ne_nil _ _)
      (Nat.le_of_eq (length_padded (by decide) below)) ended
  unfold read
  dsimp only
  rw [trimStart_of_digital (digital_padded _ _) (padded_ne_nil _ _), taken, Option.map_some,
    ofDigits_padded]

/-- A mark is consumed. -/
theorem read_mark (c : Char) (rest : List Char) :
    (Piece.mark c).read parts (c :: rest) = some (parts, rest) := by
  unfold read
  dsimp only
  rw [if_pos rfl]

/-- One blank before a number is consumed. -/
theorem read_gap (n : Nat) (rest : List Char) :
    Piece.gap.read parts (' ' :: ((padded 2 n).toList ++ rest)) =
      some (parts, (padded 2 n).toList ++ rest) := by
  have blank : ∀ c ∈ [' '], Text.isBlank c = true := List.forall_mem_singleton.mpr (by decide)
  have dropped : Text.trimStart (' ' :: ((padded 2 n).toList ++ rest)) =
      Text.trimStart ((padded 2 n).toList ++ rest) := Text.trimStart_append blank _
  unfold read
  dsimp only
  rw [dropped, trimStart_of_digital (digital_padded _ _) (padded_ne_nil _ _)]

end Piece

/-! ## Moments -/

/-- A fraction of the second with a point before its digits; nothing without digits. -/
def fractionChars (digits : List Char) : List Char :=
  if digits.isEmpty then [] else '.' :: digits

/-- Digits of a fraction stand after a point. -/
theorem fractionChars_of_ne_nil {digits : List Char} (nonempty : digits ≠ []) :
    fractionChars digits = '.' :: digits := if_neg (by simpa using nonempty)

/-- The characters of a time of day. -/
def timeChars (hour minute second : Nat) : List Char :=
  (padded 2 hour).toList ++ ':' :: ((padded 2 minute).toList ++ ':' :: (padded 2 second).toList)

/-- The characters of a date and a time of day. -/
def momentChars (date : Date) (hour minute second : Nat) : List Char :=
  (writeYear date.year).toList ++ '-' :: ((padded 2 date.month).toList ++
    '-' :: ((padded 2 date.day).toList ++ ' ' :: timeChars hour minute second))

/-- The canonical text of a moment consists of its characters. -/
theorem toList_writeMoment (moment : Moment) :
    (writeMoment moment).toList = momentChars moment.date moment.clock.hour moment.clock.minute
      moment.clock.writtenSecond := by
  simp [writeMoment, writeDate, writeTime, Component.render, Component.afterHour, momentChars,
    timeChars]

/-- A fraction of the second is consumed to the end. -/
theorem Piece.read_fraction (parts : Parts) (still : parts.nanos = 0) {digits : List Char}
    (digital : Digital digits) :
    Piece.fraction.read parts (fractionChars digits) =
      some ({ parts with nanos := nanosOfDigits digits }, []) := by
  unfold fractionChars read
  cases digits with
  | nil =>
    have none : nanosOfDigits [] = parts.nanos := still.symm
    simp [none]
  | cons c rest =>
    have taken := takeAllDigits_append digital (List.cons_ne_nil c rest) endsDigits_nil
    rw [List.append_nil] at taken
    simp [taken]

/-- After a fraction comes no digit before its point. -/
theorem endsDigits_fractionChars (digits : List Char) : EndsDigits (fractionChars digits) := by
  unfold fractionChars
  split
  · exact endsDigits_nil
  · exact endsDigits_cons _ (by decide)

section

variable (date : Date) {hour minute second : Nat} {digits : List Char}

/-- The first layout takes a written moment apart. -/
theorem readPieces_momentChars (hours : hour < 100) (minutes : minute < 100)
    (seconds : second < 100) (digital : Digital digits) :
    readPieces (datePieces ++ secondPieces .gap ++ [.fraction]) {}
        (momentChars date hour minute second ++ fractionChars digits) =
      some ⟨date.year, date.month, date.day, hour, minute, second, nanosOfDigits digits⟩ := by
  obtain ⟨firstMonth, lastMonth⟩ := date.month_mem
  have lastDay := Nat.le_trans date.onCalendar.2 (daysInMonth_le date.year date.month)
  have dash (rest : List Char) : EndsDigits ('-' :: rest) := endsDigits_cons rest (by decide)
  have colon (rest : List Char) : EndsDigits (':' :: rest) := endsDigits_cons rest (by decide)
  have blank (rest : List Char) : EndsDigits (' ' :: rest) := endsDigits_cons rest (by decide)
  have ended := endsDigits_fractionChars digits
  simp only [momentChars, timeChars, datePieces, secondPieces, minutePieces, List.cons_append,
    List.nil_append, List.append_assoc, readPieces, Piece.read_mark, Piece.read_gap,
    Piece.read_year _ _ (dash _), Piece.read_part _ _ (by omega : date.month < 100) (dash _),
    Piece.read_part _ _ (by omega : date.day < 100) (blank _),
    Piece.read_part _ _ hours (colon _), Piece.read_part _ _ minutes (colon _),
    Piece.read_part _ _ seconds ended]
  rw [Piece.read_fraction _ rfl digital]
  rfl

/-- Nine decimal places of a second count its nanoseconds. -/
theorem nanosOfDigits_eq (digits : List Char) :
    nanosOfDigits digits = ofDigits (Decimal.places 9 digits) := by
  have missing : 9 - (digits.take 9).length = 9 - digits.length := by
    rw [List.length_take]
    omega
  unfold nanosOfDigits
  dsimp only
  rw [missing, Nat.pow_eq, Decimal.places_eq, Decimal.ofDigits_append, Decimal.ofDigits_zeros,
    List.length_replicate, Nat.add_zero, Nat.mul_comm]

/-- Fraction digits give less than a second. -/
theorem nanosOfDigits_lt (digital : Digital digits) : nanosOfDigits digits < nanosPerSecond := by
  have below := Decimal.ofDigits_lt (Decimal.digital_places 9 digital)
  rwa [Decimal.length_places, ← nanosOfDigits_eq] at below

/-- The parts of a time of day name the time that has so many seconds. -/
theorem moment?_parts (hours : hour < 24) (minutes : minute < 60) (seconds : second < 60)
    (digital : Digital digits) :
    ∃ clock : Clock, clock.seconds = 3600 * hour + 60 * minute + second ∧
      clock.nanos = nanosOfDigits digits ∧
      Parts.moment? ⟨date.year, date.month, date.day, hour, minute, second,
        nanosOfDigits digits⟩ = some ⟨date, clock⟩ := by
  have fraction := nanosOfDigits_lt digital
  let clock : Clock := ⟨3600 * hour + 60 * minute + second, nanosOfDigits digits,
    by unfold secondsPerDay; omega, by omega⟩
  have found : Clock.ofParts? (3600 * hour + 60 * minute + second) (nanosOfDigits digits) =
      some clock := Clock.ofParts?_eq_some_iff.mpr ⟨rfl, rfl⟩
  have noLeap : second ≠ 60 := Nat.ne_of_lt seconds
  refine ⟨clock, rfl, rfl, ?_⟩
  unfold Parts.moment?
  rw [if_pos ⟨hours, minutes, Nat.le_of_lt seconds⟩]
  simp [noLeap, found, date.ofParts?_self]

/-- A written moment does not start as the zero date does: the month is not zero. -/
theorem not_zeroDate (rest : List Char) :
    zeroDate.isPrefixOf (momentChars date hour minute second ++ rest) = false := by
  obtain ⟨firstMonth, lastMonth⟩ := date.month_mem
  have twoDigits : (padded 2 date.month).toList.length = 2 :=
    length_padded (by decide) (by omega)
  rw [Bool.eq_false_iff]
  intro zero
  obtain ⟨others, same⟩ := List.isPrefixOf_iff_prefix.mp zero
  unfold momentChars at same
  rcases writeYear_cases date.year with ⟨first, last, written⟩ | ⟨_, written⟩ | ⟨_, written⟩
  · have fourDigits : (padded 4 date.year.toNat).toList.length = 4 :=
      length_padded (by decide) (by omega)
    rw [written, List.append_assoc] at same
    change ['0', '0', '0', '0'] ++ '-' :: '0' :: '0' :: '-' :: '0' :: '0' :: others = _ at same
    obtain ⟨_, tails⟩ := List.append_inj same fourDigits.symm
    rw [List.cons_append, List.append_assoc] at tails
    have months := (List.cons.inj tails).2
    change ['0', '0'] ++ '-' :: '0' :: '0' :: others = _ at months
    obtain ⟨month, _⟩ := List.append_inj months twoDigits.symm
    have none : ofDigits (padded 2 date.month).toList = 0 := by
      rw [← month]
      rfl
    rw [ofDigits_padded] at none
    omega
  all_goals
    rw [written] at same
    exact absurd (List.cons.inj same).1 (by decide)

/-- A text that ends with a digit ends with no blank. -/
theorem isBlank_getLast?_append (front : List Char) {last : List Char} (digital : Digital last)
    (nonempty : last ≠ []) :
    ∀ c, (front ++ last).getLast? = some c → Text.isBlank c = false := by
  intro c back
  rw [List.getLast?_append, List.getLast?_eq_some_getLast nonempty, Option.some_or] at back
  obtain rfl := Option.some.inj back
  exact Text.isBlank_of_isDigit (digital _ (List.getLast_mem nonempty))

/-- A written moment has no blanks at its ends: it ends with a digit of its fraction or of
its second. -/
theorem trimmed_momentChars (digital : Digital digits) :
    Text.Trimmed (momentChars date hour minute second ++ fractionChars digits) := by
  constructor
  · intro c head
    refine Text.isBlank_head?_trimStart (momentChars date hour minute second ++
      fractionChars digits) c ?_
    unfold momentChars at head ⊢
    rw [List.append_assoc] at head ⊢
    rwa [trimStart_writeYear]
  · cases digits with
    | nil =>
      have cut : momentChars date hour minute second ++ fractionChars [] =
          ((writeYear date.year).toList ++ '-' :: ((padded 2 date.month).toList ++
            '-' :: ((padded 2 date.day).toList ++ ' ' :: ((padded 2 hour).toList ++
              ':' :: ((padded 2 minute).toList ++ [':']))))) ++ (padded 2 second).toList := by
        simp [momentChars, timeChars, fractionChars]
      rw [cut]
      exact isBlank_getLast?_append _ (digital_padded _ _) (padded_ne_nil _ _)
    | cons d rest =>
      have cut : momentChars date hour minute second ++ fractionChars (d :: rest) =
          (momentChars date hour minute second ++ ['.']) ++ (d :: rest) := by
        simp [fractionChars]
      rw [cut]
      exact isBlank_getLast?_append _ digital (List.cons_ne_nil d rest)

/-- A written moment with a fraction of the second is read as that moment. -/
theorem read_momentChars (hours : hour < 24) (minutes : minute < 60) (seconds : second < 60)
    (digital : Digital digits) :
    ∃ clock : Clock, clock.seconds = 3600 * hour + 60 * minute + second ∧
      clock.nanos = nanosOfDigits digits ∧
      Stamp.read (momentChars date hour minute second ++ fractionChars digits) =
        some (.at ⟨date, clock⟩) := by
  obtain ⟨clock, clockSeconds, nanos, found⟩ := moment?_parts date hours minutes seconds digital
  have pieces := readPieces_momentChars date (by omega : hour < 100) (by omega : minute < 100)
    (by omega : second < 100) digital
  refine ⟨clock, clockSeconds, nanos, ?_⟩
  unfold Stamp.read
  dsimp only
  rw [Text.trim_of_trimmed (trimmed_momentChars date digital), not_zeroDate date,
    if_neg Bool.false_ne_true]
  unfold layouts readLayout
  rw [List.findSome?_cons, pieces, Option.bind_some, found]
  rfl

end

/-- The canonical text of a moment with whole seconds is read as that moment. -/
theorem read_writeMoment {moment : Moment} (whole : moment.IsWhole) :
    Stamp.read (writeMoment moment).toList = some (.at moment) := by
  have below := moment.clock.seconds_lt
  unfold secondsPerDay at below
  have second : moment.clock.writtenSecond = moment.clock.seconds % 60 := by
    unfold Clock.writtenSecond Clock.second
    rw [whole]
    rfl
  have hours : moment.clock.hour < 24 := by
    unfold Clock.hour
    omega
  have minutes : moment.clock.minute < 60 := Nat.mod_lt _ (by decide)
  have seconds : moment.clock.writtenSecond < 60 := by omega
  have noDigits : Digital [] := nofun
  obtain ⟨clock, clockSeconds, nanos, read⟩ :=
    read_momentChars moment.date hours minutes seconds noDigits
  have same : clock = moment.clock := by
    have wholeClock : clock.nanos = moment.clock.nanos := nanos.trans whole.symm
    have sameSeconds : clock.seconds = moment.clock.seconds := by
      rw [clockSeconds, second]
      unfold Clock.hour Clock.minute
      omega
    exact Option.some.inj ((Clock.ofParts?_eq_some_iff.mpr ⟨rfl, rfl⟩).symm.trans
      (Clock.ofParts?_eq_some_iff.mpr ⟨sameSeconds.symm, wholeClock.symm⟩))
  rw [toList_writeMoment]
  rw [same] at read
  simpa [fractionChars] using read

end DialectBridge.Calendar
