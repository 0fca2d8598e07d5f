/-!
# Moments

A moment is a whole second of the calendar, in no particular time zone.  The
calendar reaches from the year -262143 to the year 262142 and has a year zero.
The sixty-first second of a minute is kept for leap seconds, in any minute.

Moments are ordered as their fields are read, so a leap second comes after the
second before it and before the next minute.
-/

namespace Scenario

namespace Calendar

/-- The year has a twenty-ninth of February. -/
def isLeap (year : Int) : Bool :=
  year % 4 == 0 && (year % 100 != 0 || year % 400 == 0)

/-- The number of days of a month, or zero if there is no such month. -/
def daysInMonth (year : Int) (month : Nat) : Nat :=
  match month with
  | 1 => 31
  | 2 => if isLeap year then 29 else 28
  | 3 => 31
  | 4 => 30
  | 5 => 31
  | 6 => 30
  | 7 => 31
  | 8 => 31
  | 9 => 30
  | 10 => 31
  | 11 => 30
  | 12 => 31
  | _ => 0

/-- The first year of the calendar. -/
def firstYear : Int := -262143

/-- The last year of the calendar. -/
def lastYear : Int := 262142

end Calendar

/-- A second of the calendar. -/
structure Moment where
  year : Int
  month : Nat
  day : Nat
  hour : Nat
  minute : Nat
  second : Nat
  year_mem : Calendar.firstYear ≤ year ∧ year ≤ Calendar.lastYear
  day_mem : 1 ≤ day ∧ day ≤ Calendar.daysInMonth year month
  hour_lt : hour < 24
  minute_lt : minute < 60
  second_le : second ≤ 60
deriving DecidableEq, Repr

namespace Moment

/-- The moment with the given fields, if the calendar has it. -/
def ofFields?
    (year : Int)
    (month day hour minute second : Nat) :
    Option Moment :=
  if valid :
      (Calendar.firstYear ≤ year ∧ year ≤ Calendar.lastYear) ∧
      (1 ≤ day ∧ day ≤ Calendar.daysInMonth year month) ∧
      hour < 24 ∧ minute < 60 ∧ second ≤ 60 then
    some {
      year, month, day, hour, minute, second
      year_mem := valid.1
      day_mem := valid.2.1
      hour_lt := valid.2.2.1
      minute_lt := valid.2.2.2.1
      second_le := valid.2.2.2.2 }
  else
    none

theorem fields_of_ofFields?
    {year : Int}
    {month day hour minute second : Nat}
    {moment : Moment}
    (found : ofFields? year month day hour minute second = some moment) :
    moment.year = year ∧
      moment.month = month ∧
      moment.day = day ∧
      moment.hour = hour ∧
      moment.minute = minute ∧
      moment.second = second := by
  unfold ofFields? at found
  split at found
  · cases found
    exact ⟨rfl, rfl, rfl, rfl, rfl, rfl⟩
  · cases found

/-- Every moment is the moment with its fields. -/
@[simp]
theorem ofFields?_fields (moment : Moment) :
    ofFields? moment.year moment.month moment.day moment.hour moment.minute
        moment.second =
      some moment := by
  have valid := And.intro moment.year_mem (And.intro moment.day_mem
    (And.intro moment.hour_lt (And.intro moment.minute_lt moment.second_le)))
  simp [ofFields?, valid]

/-- The months of the calendar are numbered from one to twelve. -/
theorem month_mem (moment : Moment) :
    1 ≤ moment.month ∧ moment.month ≤ 12 := by
  have bounds := moment.day_mem
  unfold Calendar.daysInMonth at bounds
  split at bounds <;> omega

/-- The fields in the order in which moments are compared by them. -/
def fields (moment : Moment) : List Int :=
  [moment.year, moment.month, moment.day, moment.hour, moment.minute,
    moment.second]

/-- A moment is before another if its fields come first. -/
instance : LT Moment where
  lt earlier later := earlier.fields < later.fields

instance (earlier later : Moment) : Decidable (earlier < later) :=
  inferInstanceAs (Decidable (earlier.fields < later.fields))

/-- The date, as year, month and day, that is the given number of days after
the first of January 1970.  Years are counted from March on, in cycles of 400
years or 146097 days. -/
def dateOfDays (days : Int) : Int × Nat × Nat :=
  let shifted := days + 719468
  let cycle := Int.fdiv shifted 146097
  let dayOfCycle := (shifted - cycle * 146097).toNat
  let yearOfCycle :=
    (dayOfCycle - dayOfCycle / 1460 + dayOfCycle / 36524 -
      dayOfCycle / 146096) / 365
  let dayOfYear :=
    dayOfCycle - (365 * yearOfCycle + yearOfCycle / 4 - yearOfCycle / 100)
  let monthFromMarch := (5 * dayOfYear + 2) / 153
  let day := dayOfYear - (153 * monthFromMarch + 2) / 5 + 1
  let month := if monthFromMarch < 10 then monthFromMarch + 3
    else monthFromMarch - 9
  let year := (yearOfCycle : Int) + cycle * 400
  (if month ≤ 2 then year + 1 else year, month, day)

/-- The fields, from the year to the second, of what is the given number of
seconds after the beginning of 1970, leap seconds not counted. -/
def fieldsOfSeconds (seconds : Int) : Int × Nat × Nat × Nat × Nat × Nat :=
  let (year, month, day) := dateOfDays (Int.fdiv seconds 86400)
  let secondOfDay := (Int.fmod seconds 86400).toNat
  (year, month, day, secondOfDay / 3600, secondOfDay / 60 % 60,
    secondOfDay % 60)

/-- The moment that is the given number of seconds after the beginning of
1970; none beyond the calendar. -/
def ofSeconds? (seconds : Int) : Option Moment :=
  let (year, month, day, hour, minute, second) := fieldsOfSeconds seconds
  ofFields? year month day hour minute second

end Moment

end Scenario
