import DialectBridge.Proofs.Calendar.DayNumbers

/-!
# Weeks and the years that number them

A week is seven days from a given weekday on. Weeks that start on Mondays belong as a whole to
the year of their Thursday, so that year and the number of the week in it tell weeks apart.
Weeks that start on Sundays are numbered in the year of each of their days: the number and
that year tell them apart only from day to day of one year, and a week that New Year falls in
has two of them.

In both cases a week is known by one of its days, its first or its Thursday; two such days of
one year with equal numbers are less than seven days apart, and so are the same day.
-/

namespace DialectBridge.Calendar

/-- Two days are in one of the weeks that start on a weekday, Sunday being zero. -/
def SameWeek (start : Nat) (first second : Int) : Prop :=
  ∃ opening, weekday opening = start ∧ opening ≤ first ∧ first < opening + 7 ∧
    opening ≤ second ∧ second < opening + 7

/-- The Sunday that starts the week of a day. -/
def weekSunday (day : Int) : Int := day - weekday day

/-- Days are in one week that starts on a Sunday exactly if they have the same Sunday. -/
theorem sameWeek_sunday_iff {first second : Int} :
    SameWeek 0 first second ↔ weekSunday first = weekSunday second := by
  unfold SameWeek weekSunday weekday
  constructor
  · rintro ⟨opening, sunday, _⟩
    omega
  · intro same
    exact ⟨first - ((first + 4) % 7).toNat, by omega, by omega, by omega, by omega, by omega⟩

/-- Days are in one week that starts on a Monday exactly if they have the same Thursday. -/
theorem sameWeek_monday_iff {first second : Int} :
    SameWeek 1 first second ↔ weekThursday first = weekThursday second := by
  unfold SameWeek weekThursday weekday weekdayFromMonday
  constructor
  · rintro ⟨opening, monday, _⟩
    omega
  · intro same
    exact ⟨first - ((first + 3) % 7).toNat, by omega, by omega, by omega, by omega, by omega⟩

/-- The year and the number of a week that starts on a Monday tell it from all others. -/
theorem weekYear_and_week_eq_iff {first second : Int} :
    weekYear first = weekYear second ∧ weekOfWeekYear first = weekOfWeekYear second ↔
      SameWeek 1 first second := by
  rw [sameWeek_monday_iff]
  constructor
  · rintro ⟨sameYear, sameNumber⟩
    have firstInYear := (yearOfDay_bounds (weekThursday first)).1
    have secondInYear := (yearOfDay_bounds (weekThursday second)).1
    unfold weekYear at sameYear
    unfold weekOfWeekYear dayOfYear at sameNumber
    rw [sameYear] at sameNumber firstInYear
    generalize firstDayOfYear (yearOfDay (weekThursday second)) = newYear at *
    -- Both are Thursdays, so they are a number of weeks apart.
    unfold weekThursday weekdayFromMonday at *
    omega
  · intro same
    unfold weekYear weekOfWeekYear
    rw [same]
    exact ⟨rfl, rfl⟩

/-- The year of a day and the number in it of its week that starts on a Sunday tell the week
from all others of the year. -/
theorem yearOfDay_and_sundayWeek_eq_iff {first second : Int} :
    yearOfDay first = yearOfDay second ∧ sundayWeek first = sundayWeek second ↔
      SameWeek 0 first second ∧ yearOfDay first = yearOfDay second := by
  rw [sameWeek_sunday_iff, @and_comm (weekSunday first = weekSunday second)]
  refine and_congr_right fun sameYear => ?_
  have firstInYear := (yearOfDay_bounds first).1
  have secondInYear := (yearOfDay_bounds second).1
  unfold sundayWeek dayOfYear
  rw [sameYear] at firstInYear ⊢
  generalize firstDayOfYear (yearOfDay second) = newYear at *
  -- Both first days are Sundays, so they are a number of weeks apart.
  unfold weekSunday weekday
  omega

end DialectBridge.Calendar
