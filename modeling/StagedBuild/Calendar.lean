/-!
# The calendar

Days and times of day in universal time. Days are counted from the first of January 1970, and
seconds from its start; both may be negative. Every fourth year is a leap year, but of the full
centuries only every fourth.
-/

namespace StagedBuild

/-- A day of the calendar and a time of it. -/
structure Moment where
  year : Int
  month : Nat
  day : Nat
  hour : Nat := 0
  minute : Nat := 0
  second : Nat := 0
  /-- Billionths of a second. -/
  nanos : Nat := 0
  deriving DecidableEq, Repr, Inhabited

namespace Calendar

/-- How many seconds a day has. -/
def daySeconds : Int := 86400

/-- How many billionths a second has. -/
def billion : Int := 1000000000

/-- The number of a day. The year is taken to start in March, so that its last day is the one that
may be missing. -/
def dayNumber (year : Int) (month day : Nat) : Int :=
  let year := if month ≤ 2 then year - 1 else year
  let era := year.fdiv 400
  let inEra := year - era * 400
  let inYear : Int := ((153 * ((month + 9) % 12) + 2) / 5 + day : Nat) - 1
  era * 146097 + inEra * 365 + inEra / 4 - inEra / 100 + inYear - 719468

/-- The year, month and day of a number. -/
def dayOfNumber (number : Int) : Int × Nat × Nat :=
  let shifted := number + 719468
  let era := shifted.fdiv 146097
  let inEra := shifted - era * 146097
  let yearOfEra := (inEra - inEra / 1460 + inEra / 36524 - inEra / 146096) / 365
  let inYear := (inEra - (365 * yearOfEra + yearOfEra / 4 - yearOfEra / 100)).toNat
  let shiftedMonth := (5 * inYear + 2) / 153
  let day := inYear - (153 * shiftedMonth + 2) / 5 + 1
  let month := if shiftedMonth < 10 then shiftedMonth + 3 else shiftedMonth - 9
  let year := yearOfEra + era * 400
  (if month ≤ 2 then year + 1 else year, month, day)

/-- The names of months and of days of the week, of which Sunday is the first. -/
def months : List String :=
  ["January", "February", "March", "April", "May", "June", "July", "August", "September",
   "October", "November", "December"]
@[inherit_doc months] def weekdays : List String :=
  ["Sunday", "Monday", "Tuesday", "Wednesday", "Thursday", "Friday", "Saturday"]

end Calendar

namespace Moment

open Calendar

/-- The moment so many billionths of a second after the start of 1970. -/
def ofNanos (time : Int) : Moment :=
  let seconds := time.fdiv billion
  let number := seconds.fdiv daySeconds
  let inDay := (seconds - number * daySeconds).toNat
  let (year, month, day) := dayOfNumber number
  ⟨year, month, day, inDay / 3600, inDay / 60 % 60, inDay % 60, (time - seconds * billion).toNat⟩

/-- The number of its day. -/
def dayNumber (moment : Moment) : Int :=
  Calendar.dayNumber moment.year moment.month moment.day

/-- The seconds since the start of 1970. -/
def seconds (moment : Moment) : Int :=
  moment.dayNumber * daySeconds +
    (moment.hour * 3600 + moment.minute * 60 + moment.second : Nat)

/-- The billionths of a second since the start of 1970. -/
def toNanos (moment : Moment) : Int :=
  moment.seconds * billion + moment.nanos

/-- The place of its day in the week, from Sunday on. -/
def weekday (moment : Moment) : Nat :=
  ((moment.dayNumber + 4).fmod 7).toNat

/-- The place of its day in the year, from zero on. -/
def yearDay (moment : Moment) : Nat :=
  (moment.dayNumber - Calendar.dayNumber moment.year 1 1).toNat

/-- The year that its week belongs to, and the place of the week in that year. Weeks start on
Monday and belong to the year that has their Thursday. -/
def week (moment : Moment) : Int × Nat :=
  let thursday := moment.dayNumber + 3 - ((moment.weekday + 6) % 7 : Nat)
  let (year, _, _) := dayOfNumber thursday
  (year, ((thursday - Calendar.dayNumber year 1 1) / 7).toNat + 1)

/-- There is such a day and such a time. -/
def isValid (moment : Moment) : Bool :=
  let (year, month, day) := dayOfNumber moment.dayNumber
  year == moment.year && month == moment.month && day == moment.day && moment.hour < 24 &&
    moment.minute < 60 && moment.second < 60

end Moment

end StagedBuild
