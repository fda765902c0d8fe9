import Mathlib.Data.List.Pairwise
import DialectBridge.Proofs.Calendar.Matching

/-!
# Texts that are read as moments

The layouts overlap, but no two of them make different parts out of one text: which of them is
tried first makes no difference. So a text is read as a moment exactly if it is written in one
of the layouts with parts that name the moment. A text that begins as the zero date does names
none, since its month is zero, whatever is behind it.
-/

namespace DialectBridge.Calendar

/-! ## Parts -/

/-- The moment that some parts name has them, with its second as it is written. Only the last
second of a minute can be written as a leap second. -/
structure Parts.Names (parts : Parts) (moment : Moment) : Prop where
  year : moment.date.year = parts.year
  month : moment.date.month = parts.month
  day : moment.date.day = parts.day
  hour : moment.clock.hour = parts.hour
  minute : moment.clock.minute = parts.minute
  second : moment.clock.writtenSecond = parts.second
  fraction : moment.clock.fraction = parts.nanos
  leap : moment.clock.isLeap = true → moment.clock.second = 59

/-- The seconds and nanoseconds that are counted for a time of day are those that it has,
exactly if it has the parts that they are counted for. -/
theorem Clock.counted_iff {clock : Clock} {hour minute second nanos : Nat}
    (below : nanos < nanosPerSecond) :
    let leap := if second = 60 then 1 else 0
    ((hour < 24 ∧ minute < 60 ∧ second ≤ 60) ∧
        clock.seconds = 3600 * hour + 60 * minute + (second - leap) ∧
        clock.nanos = nanosPerSecond * leap + nanos) ↔
      (clock.hour = hour ∧ clock.minute = minute) ∧ clock.writtenSecond = second ∧
        clock.fraction = nanos ∧ (clock.isLeap = true → clock.second = 59) := by
  have seconds := clock.seconds_lt
  have nanosLt := clock.nanos_lt
  unfold secondsPerDay at seconds
  unfold nanosPerSecond at nanosLt below
  unfold Clock.hour Clock.minute writtenSecond fraction isLeap Clock.second nanosPerSecond
  dsimp only
  rw [decide_eq_true_eq]
  split <;> omega

/-- Parts with less than a second of nanoseconds are those of the moment that they name. -/
theorem Parts.moment?_eq_some_iff {parts : Parts} (below : parts.nanos < nanosPerSecond)
    {moment : Moment} : parts.moment? = some moment ↔ parts.Names moment := by
  have counted := @Clock.counted_iff moment.clock parts.hour parts.minute parts.second _ below
  unfold moment?
  dsimp only at counted ⊢
  generalize (if parts.second = 60 then 1 else 0) = leap at counted ⊢
  constructor
  · intro found
    by_cases bounds : parts.hour < 24 ∧ parts.minute < 60 ∧ parts.second ≤ 60
    · rw [if_pos bounds] at found
      split at found
      · next date clock onDate atTime =>
        obtain rfl := Option.some.inj found
        obtain ⟨year, month, day⟩ := Date.ofParts?_eq_some_iff.mp onDate
        obtain ⟨⟨hour, minute⟩, second, fraction, last⟩ :=
          counted.mp ⟨bounds, Clock.ofParts?_eq_some_iff.mp atTime⟩
        exact ⟨year, month, day, hour, minute, second, fraction, last⟩
      · exact absurd found (Option.some_ne_none moment).symm
    · rw [if_neg bounds] at found
      exact absurd found (Option.some_ne_none moment).symm
  · rintro ⟨year, month, day, hour, minute, second, fraction, last⟩
    obtain ⟨bounds, atTime⟩ := counted.mpr ⟨⟨hour, minute⟩, second, fraction, last⟩
    rw [if_pos bounds, Date.ofParts?_eq_some_iff.mpr ⟨year, month, day⟩,
      Clock.ofParts?_eq_some_iff.mpr atTime]

/-- No piece makes a second of nanoseconds. -/
theorem Piece.Takes.nanos_lt {piece : Piece} {parts next : Parts} {text rest : List Char}
    (takes : piece.Takes parts text next rest) (below : parts.nanos < nanosPerSecond) :
    next.nanos < nanosPerSecond := by
  cases takes with
  | year | mark | gap | noFraction => exact below
  | part part => cases part <;> exact below
  | fraction nonempty digital ended => exact nanosOfDigits_lt digital

/-- No layout makes a second of nanoseconds. -/
theorem Written.nanos_lt {pieces : List Piece} {parts last : Parts} {text : List Char}
    (written : Written pieces parts text last) (below : parts.nanos < nanosPerSecond) :
    last.nanos < nanosPerSecond := by
  induction written with
  | done parts => exact below
  | piece takes further inductionHypothesis => exact inductionHypothesis (takes.nanos_lt below)

/-- Only the month makes a month. -/
theorem Piece.Takes.month_eq {piece : Piece} {parts next : Parts} {text rest : List Char}
    (takes : piece.Takes parts text next rest) (noMonth : piece ≠ .part .month) :
    next.month = parts.month := by
  cases takes with
  | year | mark | gap | noFraction | fraction => rfl
  | part part =>
    cases part with
    | month => exact absurd rfl noMonth
    | day | hour | minute | second => rfl

/-- A layout without a month makes none. -/
theorem Written.month_eq {pieces : List Piece} {parts last : Parts} {text : List Char}
    (written : Written pieces parts text last) (noMonth : .part .month ∉ pieces) :
    last.month = parts.month := by
  induction written with
  | done parts => rfl
  | piece takes further inductionHypothesis =>
    have first : _ ≠ Piece.part .month := (List.ne_of_not_mem_cons noMonth).symm
    have others := List.not_mem_of_not_mem_cons noMonth
    exact (inductionHypothesis others).trans (takes.month_eq first)

/-! ## Layouts -/

/-- Two layouts that both read a text make the same parts out of it. -/
def Agree (layout other : List Piece) : Prop :=
  ∀ (parts last result : Parts) (text : List Char),
    readPieces layout parts text = some last → readPieces other parts text = some result →
      last = result

/-- A layout agrees with itself. -/
theorem Agree.refl (layout : List Piece) : Agree layout layout := by
  intro parts last result text first second
  exact Option.some.inj (first.symm.trans second)

/-- Two layouts agree in either order. -/
theorem Agree.symm {layout other : List Piece} (agree : Agree layout other) :
    Agree other layout := by
  intro parts last result text first second
  exact (agree _ _ _ _ second first).symm

instance : Std.Symm Agree := ⟨fun _ _ => Agree.symm⟩

/-- Layouts that begin with the same pieces agree if they do behind them. -/
theorem Agree.append {layout other : List Piece} (agree : Agree layout other)
    (front : List Piece) : Agree (front ++ layout) (front ++ other) := by
  induction front with
  | nil => exact agree
  | cons piece pieces inductionHypothesis =>
    intro parts last result text first second
    rw [List.cons_append, readPieces] at first second
    cases taken : piece.read parts text with
    | none => simp [taken] at first
    | some behind =>
      rw [taken] at first second
      exact inductionHypothesis _ _ _ _ first second

/-- Nothing and a layout that reads no empty text agree. -/
theorem agree_nil {layout : List Piece} (refused : ∀ parts, readPieces layout parts [] = none) :
    Agree [] layout := by
  intro parts last result text first second
  cases text with
  | nil => exact absurd ((refused parts).symm.trans second) (Option.some_ne_none result).symm
  | cons c rest => exact absurd first (by simp [readPieces])

/-- A fraction that is missing makes no difference. -/
theorem agree_nil_fraction : Agree [] [.fraction] := by
  intro parts last result text first second
  cases text with
  | nil => exact Option.some.inj (first.symm.trans second)
  | cons c rest => exact absurd first (by simp [readPieces])

/-- No text has both a mark and, with or without a gap, digits in front. -/
theorem agree_gap_mark {part : Part} {c : Char} (visible : Text.isBlank c = false)
    (noDigit : c.isDigit = false) (pieces others : List Piece) :
    Agree (.gap :: .part part :: pieces) (.mark c :: others) := by
  intro parts last result text first second
  cases text with
  | nil => exact absurd second (by simp [readPieces, Piece.read])
  | cons d rest =>
    by_cases same : d = c
    · have start : Text.trimStart (d :: rest) = d :: rest := by
        apply Text.trimStart_of_head?
        rintro _ ⟨⟩
        rw [same, visible]
      have refused : takeDigits 2 (d :: rest) = none := by simp [takeDigits, same, noDigit]
      simp [readPieces, Piece.read, start, refused] at first
    · simp [readPieces, Piece.read, same] at second

/-- The layouts of a time of day behind a date, in the order of the layouts. -/
def timeLayouts : List (List Piece) :=
  [secondPieces .gap ++ [.fraction], secondPieces (.mark 'T') ++ [.fraction],
    secondPieces .gap, secondPieces (.mark 'T'), minutePieces .gap, []]

/-- Every layout is one of a date with one of a time of day behind it, or none. -/
theorem layouts_eq : layouts = timeLayouts.map (datePieces ++ ·) := rfl

/-- Any two layouts of a time of day agree: those with seconds up to their fraction, and the
others since no text goes on as both of them do. -/
theorem timeLayouts_agree : timeLayouts.Pairwise Agree := by
  have visible : Text.isBlank 'T' = false := by decide
  have noDigit : 'T'.isDigit = false := by decide
  have gapMark (pieces others : List Piece) :
      Agree (.gap :: .part .hour :: pieces) (.mark 'T' :: others) :=
    agree_gap_mark visible noDigit pieces others
  have fractions (separator : Piece) :
      Agree (secondPieces separator ++ [.fraction]) (secondPieces separator) := by
    have agree := agree_nil_fraction.append (secondPieces separator)
    rw [List.append_nil] at agree
    exact agree.symm
  have seconds (pieces : List Piece) :
      Agree (minutePieces .gap ++ .mark ':' :: pieces) (minutePieces .gap) := by
    have behind : Agree [] (.mark ':' :: pieces) := agree_nil fun _ => rfl
    have agree := behind.append (minutePieces .gap)
    rw [List.append_nil] at agree
    exact agree.symm
  unfold timeLayouts
  simp only [List.pairwise_cons, List.forall_mem_cons, List.Pairwise.nil, List.not_mem_nil,
    false_implies, implies_true, and_true]
  refine ⟨⟨gapMark _ _, fractions _, gapMark _ _, seconds _, ?_⟩,
    ⟨(gapMark _ _).symm, fractions _, (gapMark _ _).symm, ?_⟩,
    ⟨gapMark _ _, seconds _, ?_⟩, ⟨(gapMark _ _).symm, ?_⟩, ?_⟩
  all_goals exact (agree_nil fun _ => rfl).symm

/-- Any two layouts agree. -/
theorem layouts_agree : ∀ layout ∈ layouts, ∀ other ∈ layouts, Agree layout other := by
  have pairwise : layouts.Pairwise Agree := by
    rw [layouts_eq, List.pairwise_map]
    exact timeLayouts_agree.imp fun agree => agree.append datePieces
  intro layout inLayouts other alsoIn
  exact pairwise.forall_of_forall (fun layout _ => .refl layout) inLayouts alsoIn

/-! ## The zero date -/

/-- No layout names a moment in a text that begins as the zero date does: its month is zero. -/
theorem not_names_of_zeroDate {layout : List Piece} (listed : layout ∈ layouts)
    {text : List Char} (zero : zeroDate <+: text) {parts : Parts}
    (written : Written layout {} text parts) (moment : Moment) : ¬parts.Names moment := by
  rw [layouts_eq] at listed
  obtain ⟨time, timeListed, rfl⟩ := List.mem_map.mp listed
  obtain ⟨rest, rfl⟩ := zero
  have noMonth : ∀ time ∈ timeLayouts, Piece.part .month ∉ time := by decide
  have behind : readPieces (datePieces ++ time) {} (zeroDate ++ rest) =
      readPieces time {} rest := rfl
  have read := readPieces_eq_some_iff.mpr written
  rw [behind] at read
  have month := (readPieces_eq_some_iff.mp read).month_eq (noMonth time timeListed)
  intro named
  have first := moment.date.month_mem.1
  rw [named.month, month] at first
  exact absurd first (by decide)

/-- A text is read as the zero date exactly if it begins as that does, without the blanks around
it. -/
theorem Stamp.read_eq_zero_iff {text : List Char} :
    read text = some .zero ↔ zeroDate <+: Text.trim text := by
  unfold read
  dsimp only
  rw [← List.isPrefixOf_iff_prefix]
  constructor
  · intro zero
    by_contra noZero
    rw [if_neg noZero] at zero
    obtain ⟨moment, _, same⟩ := Option.map_eq_some_iff.mp zero
    exact Stamp.noConfusion same
  · intro zero
    rw [if_pos zero]

/-- The layouts of a time of day by itself. -/
def clockLayouts : List (List Piece) :=
  [[.part .hour, .mark ':', .part .minute],
    [.part .hour, .mark ':', .part .minute, .mark ':', .part .second],
    [.part .hour, .mark ':', .part .minute, .mark ':', .part .second, .fraction]]

/-- A text that marks the zero date: with nothing behind it, or with a time of day behind a space
or a T that has no digits other than zeros. -/
inductive IsZeroText : List Char → Prop where
  | date : IsZeroText zeroDate
  | dateTime {separator : Char} (apart : separator = ' ' ∨ separator = 'T')
      {layout : List Piece} (listed : layout ∈ clockLayouts) {time : List Char} {parts : Parts}
      (written : Written layout {} time parts)
      (zeros : ∀ c ∈ time, c.isDigit = true → c = '0') :
      IsZeroText (zeroDate ++ separator :: time)

/-- A text that marks the zero date begins as it does. -/
theorem IsZeroText.zeroDate_prefix {text : List Char} (zero : IsZeroText text) :
    zeroDate <+: text := by
  cases zero with
  | date => exact List.prefix_rfl
  | dateTime => exact List.prefix_append _ _

/-- Behind the zero date comes a space or a T, or nothing. -/
theorem IsZeroText.head?_mem {rest : List Char} (zero : IsZeroText (zeroDate ++ rest)) :
    rest.head? ∈ [none, some ' ', some 'T'] := by
  generalize whole : zeroDate ++ rest = text at zero
  cases zero with
  | date =>
    obtain rfl := List.append_right_eq_self.mp whole
    decide
  | dateTime apart =>
    obtain rfl := List.append_cancel_left whole
    rcases apart with rfl | rfl <;> simp

/-! ## Moments -/

/-- A text is written in one of the layouts, with parts that name a moment. -/
def IsWritten (text : List Char) (moment : Moment) : Prop :=
  ∃ layout ∈ layouts, ∃ parts, Written layout {} text parts ∧ parts.Names moment

/-- A text is written in a layout with parts that name a moment exactly if the layout reads the
moment. -/
theorem readLayout_eq_some_iff {layout : List Piece} {text : List Char} {moment : Moment} :
    readLayout layout text = some moment ↔
      ∃ parts, Written layout {} text parts ∧ parts.Names moment := by
  unfold readLayout
  rw [Option.bind_eq_some_iff]
  have below : ({} : Parts).nanos < nanosPerSecond := by decide
  constructor
  · rintro ⟨parts, read, found⟩
    have written := readPieces_eq_some_iff.mp read
    exact ⟨parts, written, (Parts.moment?_eq_some_iff (written.nanos_lt below)).mp found⟩
  · rintro ⟨parts, written, named⟩
    refine ⟨parts, readPieces_eq_some_iff.mpr written, ?_⟩
    exact (Parts.moment?_eq_some_iff (written.nanos_lt below)).mpr named

/-- Two layouts that both read a moment read the same one. -/
theorem readLayout_unique {layout other : List Piece} (inLayouts : layout ∈ layouts)
    (alsoIn : other ∈ layouts) {text : List Char} {moment result : Moment}
    (first : readLayout layout text = some moment)
    (second : readLayout other text = some result) : moment = result := by
  obtain ⟨parts, read, found⟩ := Option.bind_eq_some_iff.mp first
  obtain ⟨others, alsoRead, alsoFound⟩ := Option.bind_eq_some_iff.mp second
  obtain rfl := layouts_agree layout inLayouts other alsoIn _ _ _ _ read alsoRead
  exact Option.some.inj (found.symm.trans alsoFound)

/-- A text is read as a moment exactly if it is written in one of the layouts with parts that
name the moment, without the blanks around it. -/
theorem Stamp.read_eq_at_iff {text : List Char} {moment : Moment} :
    read text = some (.at moment) ↔ IsWritten (Text.trim text) moment := by
  constructor
  · intro found
    have noZero : ¬zeroDate.isPrefixOf (Text.trim text) = true := by
      intro zero
      have asZero := read_eq_zero_iff.mpr (List.isPrefixOf_iff_prefix.mp zero)
      exact Stamp.noConfusion (Option.some.inj (asZero.symm.trans found))
    unfold read at found
    dsimp only at found
    rw [if_neg noZero] at found
    obtain ⟨result, first, same⟩ := Option.map_eq_some_iff.mp found
    obtain rfl := Stamp.at.inj same
    obtain ⟨layout, listed, read⟩ := List.exists_of_findSome?_eq_some first
    exact ⟨layout, listed, readLayout_eq_some_iff.mp read⟩
  · rintro ⟨layout, listed, parts, written, named⟩
    have noZero : ¬zeroDate.isPrefixOf (Text.trim text) = true := by
      intro zero
      exact not_names_of_zeroDate listed (List.isPrefixOf_iff_prefix.mp zero) written moment named
    have readBy := readLayout_eq_some_iff.mpr ⟨parts, written, named⟩
    unfold read
    dsimp only
    rw [if_neg noZero]
    have some : (layouts.findSome? (readLayout · (Text.trim text))).isSome = true :=
      List.findSome?_isSome_iff.mpr ⟨layout, listed, by rw [readBy]; rfl⟩
    obtain ⟨result, first⟩ := Option.isSome_iff_exists.mp some
    obtain ⟨other, alsoIn, alsoRead⟩ := List.exists_of_findSome?_eq_some first
    obtain rfl := readLayout_unique listed alsoIn readBy alsoRead
    rw [first]
    rfl

/-- A text that is read as a moment begins with a digit or a sign, behind blanks. -/
theorem Stamp.exists_front {text : List Char} {moment : Moment}
    (found : read text = some (.at moment)) :
    ∃ c rest, Text.trim text = c :: rest ∧ c.toNat ≤ 57 := by
  obtain ⟨layout, listed, parts, written, _⟩ := read_eq_at_iff.mp found
  have trimmed := Text.trimmed_trim text
  generalize Text.trim text = whole at written trimmed
  rw [layouts_eq] at listed
  obtain ⟨time, _, rfl⟩ := List.mem_map.mp listed
  obtain _ | ⟨takes, _⟩ := written
  obtain ⟨blanks, year⟩ := takes
  obtain ⟨c, rest, rfl, noLetter⟩ := year.exists_front
  cases inFront : blanks.chars with
  | nil => exact ⟨c, rest, rfl, noLetter⟩
  | cons blank others =>
    rw [inFront] at trimmed
    have settled : Text.isBlank blank = false := trimmed.1 blank rfl
    have isBlank := blanks.blank blank (by simp [inFront])
    exact absurd isBlank (by simp [settled])

end DialectBridge.Calendar
