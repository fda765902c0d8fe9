import DialectBridge.Proofs.Calendar.Weeks
import DialectBridge.Proofs.Emulation.DateComponents

/-!
# Weeks as dates are formatted

A date is formatted with a year and the number of its week. A year and a number behind it are
read back from their text, so two dates have the same text exactly if they have the same year
and the same number.

The year and the number of weeks that start on Mondays are those of the week. The year that
goes with weeks that start on Sundays is that of the date: such a week has one text in each
year that it has days of.
-/

namespace DialectBridge.Emulation

open Calendar (Date Moment SameWeek Stamp renderFormat writeYear)
open Decimal (padded)

/-- A year and the number of a week in it, with a blank between them. -/
def yearAndWeek (year : Int) (week : Nat) : List Char :=
  (writeYear year).toList ++ ' ' :: (padded 2 week).toList

/-- The text of a year and a week has both of them in it. -/
theorem yearAndWeek_inj {year otherYear : Int} {week otherWeek : Nat} :
    yearAndWeek year week = yearAndWeek otherYear otherWeek ↔
      year = otherYear ∧ week = otherWeek := by
  constructor
  · intro same
    have blank (n : Nat) : Calendar.EndsDigits (' ' :: (padded 2 n).toList) :=
      Calendar.endsDigits_cons _ (by decide)
    have read := congrArg Calendar.readYear same
    unfold yearAndWeek at read
    rw [Calendar.readYear_writeYear year (blank week),
      Calendar.readYear_writeYear otherYear (blank otherWeek)] at read
    obtain ⟨sameYear, sameRest⟩ := Prod.mk.inj (Option.some.inj read)
    have sameNumber := congrArg Decimal.ofDigits (List.cons.inj sameRest).2
    rw [Decimal.ofDigits_padded, Decimal.ofDigits_padded] at sameNumber
    exact ⟨sameYear, sameNumber⟩
  · rintro ⟨rfl, rfl⟩
    rfl

/-- Two date texts are formatted, and to equal texts exactly under a condition. -/
def FormatsAlikeIff (env : Environment) (format first second : String) (condition : Prop) :
    Prop :=
  ∃ firstText secondText,
    evaluate env "date_format" [.text first, .text format] = .ok (.text firstText) ∧
      evaluate env "date_format" [.text second, .text format] = .ok (.text secondText) ∧
      (firstText = secondText ↔ condition)

/-- A text that is read as a moment is formatted, as the moment is. -/
theorem evaluate_date_format (env : Environment) (format : String) {text : String}
    {moment : Moment} (read : Stamp.read text.toList = some (.at moment)) :
    evaluate env "date_format" [.text text, .text format] =
      .ok (.text (String.ofList (renderFormat moment format.toList))) :=
  (evaluate_name env .dateFormat rfl).trans (formatDate_of_read "date_format" format read)

/-- Two texts that are read as moments are formatted alike where the moments are. -/
theorem formatsAlikeIff_of_read (env : Environment) {format first second : String}
    {moment other : Moment} {condition : Prop}
    (readFirst : Stamp.read first.toList = some (.at moment))
    (readSecond : Stamp.read second.toList = some (.at other))
    (alike : renderFormat moment format.toList = renderFormat other format.toList ↔ condition) :
    FormatsAlikeIff env format first second condition :=
  ⟨_, _, evaluate_date_format env format readFirst, evaluate_date_format env format readSecond,
    String.ofList_inj.trans alike⟩

/-- Formatted with the year and the number of their weeks that start on Mondays, two dates have
the same text exactly if they are in the same of these weeks. With the year and the number that
go with weeks that start on Sundays, they have the same text exactly if they are in the same of
these weeks and in the same year.

Proof: the texts are equal if the year and the number are. In one year, equal numbers are those
of one week; the year that a Monday-started week belongs to is the same for all of its days. -/
theorem week_texts_equal_iff (env : Environment) {first second : String} {moment other : Moment}
    (readFirst : Stamp.read first.toList = some (.at moment))
    (readSecond : Stamp.read second.toList = some (.at other)) :
    FormatsAlikeIff env "%x %v" first second
        (SameWeek 1 moment.date.toDay other.date.toDay) ∧
      FormatsAlikeIff env "%X %V" first second
        (SameWeek 0 moment.date.toDay other.date.toDay ∧ moment.date.year = other.date.year) := by
  have mondayFormat : "%x %v".toList = ['%', 'x', ' ', '%', 'v'] := by decide
  have sundayFormat : "%X %V".toList = ['%', 'X', ' ', '%', 'V'] := by decide
  have mondayText (moment : Moment) : renderFormat moment "%x %v".toList =
      yearAndWeek (Calendar.weekYear moment.date.toDay)
        (Calendar.weekOfWeekYear moment.date.toDay) := by
    simp [mondayFormat, renderFormat, Calendar.renderSpecifier, Calendar.Component.ofSpecifier?,
      Calendar.Component.render, yearAndWeek]
  have sundayText (moment : Moment) : renderFormat moment "%X %V".toList =
      yearAndWeek moment.date.year (Calendar.sundayWeek moment.date.toDay) := by
    simp [sundayFormat, renderFormat, Calendar.renderSpecifier, Calendar.Component.ofSpecifier?,
      Calendar.Component.render, yearAndWeek]
  constructor
  · refine formatsAlikeIff_of_read env readFirst readSecond ?_
    rw [mondayText, mondayText, yearAndWeek_inj]
    exact Calendar.weekYear_and_week_eq_iff
  · refine formatsAlikeIff_of_read env readFirst readSecond ?_
    rw [sundayText, sundayText, yearAndWeek_inj, ← moment.date.yearOfDay_toDay,
      ← other.date.yearOfDay_toDay]
    exact Calendar.yearOfDay_and_sundayWeek_eq_iff

/-- The last Monday of 2024. -/
def lastMonday : Date := ⟨2024, 12, 30, by decide, by decide⟩

/-- The Wednesday after it, in the next year. -/
def newYear : Date := ⟨2025, 1, 1, by decide, by decide⟩

/-- A Monday and the Wednesday after it in the next year: the week of both is the first one of
the next year, and the year that goes with weeks that start on Sundays is not the same. -/
theorem week_over_new_year_formatted :
    Stamp.read "2024-12-30".toList = some (.at (.startOf lastMonday)) ∧
      Stamp.read "2025-01-01".toList = some (.at (.startOf newYear)) ∧
      SameWeek 1 lastMonday.toDay newYear.toDay ∧ lastMonday.year ≠ newYear.year ∧
      FormatsAlikeIff epoch "%x %v" "2024-12-30" "2025-01-01"
        (SameWeek 1 lastMonday.toDay newYear.toDay) ∧
      FormatsAlikeIff epoch "%X %V" "2024-12-30" "2025-01-01"
        (SameWeek 0 lastMonday.toDay newYear.toDay ∧ lastMonday.year = newYear.year) := by
  have readMonday : Stamp.read "2024-12-30".toList = some (.at (.startOf lastMonday)) := by
    decide
  have readNewYear : Stamp.read "2025-01-01".toList = some (.at (.startOf newYear)) := by
    decide
  have sameWeek : SameWeek 1 lastMonday.toDay newYear.toDay := ⟨lastMonday.toDay, by decide⟩
  have formatted := week_texts_equal_iff epoch readMonday readNewYear
  have dates : (Moment.startOf lastMonday).date = lastMonday ∧
      (Moment.startOf newYear).date = newYear := ⟨rfl, rfl⟩
  rw [dates.1, dates.2] at formatted
  exact ⟨readMonday, readNewYear, sameWeek, by decide, formatted⟩

/-- The last Sunday of 2023. -/
def lastSunday : Date := ⟨2023, 12, 31, by decide, by decide⟩

/-- The Monday after it, in the next year. -/
def newYearMonday : Date := ⟨2024, 1, 1, by decide, by decide⟩

/-- A Sunday and the Monday after it in the next year are in one week that starts on a Sunday,
and are formatted with different years and numbers for it. -/
theorem new_year_week_written_twice :
    SameWeek 0 lastSunday.toDay newYearMonday.toDay ∧
      evaluate epoch "date_format" [.text "2023-12-31", .text "%X %V"] = .ok (.text "2023 53") ∧
      evaluate epoch "date_format" [.text "2024-01-01", .text "%X %V"] = .ok (.text "2024 00") ∧
      ¬FormatsAlikeIff epoch "%X %V" "2023-12-31" "2024-01-01"
        (SameWeek 0 lastSunday.toDay newYearMonday.toDay) := by
  have sameWeek : SameWeek 0 lastSunday.toDay newYearMonday.toDay :=
    ⟨lastSunday.toDay, by decide⟩
  have readSunday : Stamp.read "2023-12-31".toList = some (.at (.startOf lastSunday)) := by
    decide
  have readMonday : Stamp.read "2024-01-01".toList = some (.at (.startOf newYearMonday)) := by
    decide
  have sundayText : String.ofList (renderFormat (.startOf lastSunday) "%X %V".toList) =
      "2023 53" := by decide
  have mondayText : String.ofList (renderFormat (.startOf newYearMonday) "%X %V".toList) =
      "2024 00" := by decide
  have sundayGiven := evaluate_date_format epoch "%X %V" readSunday
  have mondayGiven := evaluate_date_format epoch "%X %V" readMonday
  rw [sundayText] at sundayGiven
  rw [mondayText] at mondayGiven
  refine ⟨sameWeek, sundayGiven, mondayGiven, ?_⟩
  rintro ⟨first, second, firstGiven, secondGiven, alike⟩
  obtain rfl : "2023 53" = first := by simpa using sundayGiven.symm.trans firstGiven
  obtain rfl : "2024 00" = second := by simpa using mondayGiven.symm.trans secondGiven
  exact absurd (alike.mpr sameWeek) (by decide)

end DialectBridge.Emulation
