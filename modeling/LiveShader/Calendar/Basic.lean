/-!
# Dates and times of day

A timestamp is a calendar date with a time of day in nanoseconds.  A leap second is
a second with a whole second or more of nanoseconds.  A timestamp can hold one behind
any second, but is made from its parts with one behind the second 59 only.  Instants
are counted from a fixed timestamp, in nanoseconds and without leap seconds.
-/

namespace LiveShader.Calendar

/-- A date with a time of day. -/
structure Timestamp where
  year : Int
  month : Nat
  day : Nat
  hour : Nat
  minute : Nat
  second : Nat
  nano : Nat
  deriving Repr, DecidableEq

/-- Whether a year has 366 days. -/
def isLeapYear (year : Int) : Bool :=
  (year % 4 == 0 && year % 100 != 0) || year % 400 == 0

/-- The number of days of a month. -/
def daysInMonth (year : Int) (month : Nat) : Nat :=
  if month = 2 then (if isLeapYear year then 29 else 28)
  else if [4, 6, 9, 11].contains month then 30
  else 31

/-- The first and the last year that dates reach. -/
def firstYear : Int := -262143

/-- The last year that dates reach. -/
def lastYear : Int := 262142

namespace Timestamp

/-- Whether the date is one of the calendar. -/
def hasValidDate (stamp : Timestamp) : Bool :=
  firstYear ≤ stamp.year && stamp.year ≤ lastYear &&
    1 ≤ stamp.month && stamp.month ≤ 12 &&
    1 ≤ stamp.day && stamp.day ≤ daysInMonth stamp.year stamp.month

/-- Whether the time is one of a day; there may be a leap second behind any second. -/
def hasValidTime (stamp : Timestamp) : Bool :=
  stamp.hour < 24 && stamp.minute < 60 && stamp.second < 60 && stamp.nano < 2000000000

/-- Whether the timestamp exists. -/
def isValid (stamp : Timestamp) : Bool := stamp.hasValidDate && stamp.hasValidTime

/-- Whether a leap second, if the timestamp is in one, is behind the second 59. -/
def leapsAtMinuteEnd (stamp : Timestamp) : Bool :=
  stamp.nano < 1000000000 || stamp.second == 59

/-- Whether the timestamp exists and can be made from its parts. -/
def isMakeable (stamp : Timestamp) : Bool := stamp.isValid && stamp.leapsAtMinuteEnd

end Timestamp

/-- The number of days from the first of March of year zero to a date. -/
def dayNumber (year : Int) (month day : Nat) : Int :=
  let shifted : Int := if month ≤ 2 then year - 1 else year
  let era := Int.fdiv shifted 400
  let yearOfEra := shifted - era * 400
  let monthFromMarch : Int := ((month + 9) % 12 : Nat)
  let dayOfYear := (153 * monthFromMarch + 2) / 5 + day - 1
  era * 146097 + yearOfEra * 365 + yearOfEra / 4 - yearOfEra / 100 + dayOfYear

/-- The date of a day number. -/
def dateOfDayNumber (number : Int) : Int × Nat × Nat :=
  let era := Int.fdiv number 146097
  let dayOfEra := number - era * 146097
  let yearOfEra := (dayOfEra - dayOfEra / 1460 + dayOfEra / 36524 - dayOfEra / 146096) / 365
  let dayOfYear := dayOfEra - (365 * yearOfEra + yearOfEra / 4 - yearOfEra / 100)
  let monthFromMarch := (5 * dayOfYear + 2) / 153
  let day := dayOfYear - (153 * monthFromMarch + 2) / 5 + 1
  let month := if monthFromMarch < 10 then monthFromMarch + 3 else monthFromMarch - 9
  let year := yearOfEra + era * 400
  (if month ≤ 2 then year + 1 else year, month.toNat, day.toNat)

/-- The timestamp of the instant zero. -/
def epoch : Timestamp := ⟨2024, 1, 2, 3, 4, 5, 0⟩

/-- The timestamp a number of nanoseconds after the instant zero. -/
def timestampAt (nanos : Int) : Timestamp :=
  let nanosPerDay : Int := 86400000000000
  let fromMidnight : Int :=
    ((epoch.hour * 60 + epoch.minute) * 60 + epoch.second : Nat) * 1000000000 + nanos
  let days := Int.fdiv fromMidnight nanosPerDay
  let rest := (fromMidnight - days * nanosPerDay).toNat
  let (year, month, day) :=
    dateOfDayNumber (dayNumber epoch.year epoch.month epoch.day + days)
  { year := year
    month := month
    day := day
    hour := rest / 3600000000000
    minute := rest / 60000000000 % 60
    second := rest / 1000000000 % 60
    nano := rest % 1000000000 }

end LiveShader.Calendar
