import QueryBook.Text.Quoted

/-!
# Time of a record

Seconds since the beginning of 1970 are turned into a date of the Gregorian calendar and a
time of day, without regard to time zones.  Days are counted from the first of March of the
year zero, so that the leap day is the last day of its year; four hundred years are 146097
days.

Seconds are counted in 64 bits and years, from 1900, in 32; what lies beyond names no moment.
-/

namespace QueryBook.Log

/-- Why a number of seconds has no time that could be shown. -/
inductive ClockError where
  | noWholeNumber (kind : String)
  | notANumber
  | secondsOutOfRange
  | yearOutOfRange
  | yearTooLarge
  | zeroInPattern
  deriving DecidableEq

def ClockError.text : ClockError → List Char
  | noWholeNumber kind =>
    '\'' :: kind.toList ++ "' object cannot be interpreted as an integer".toList
  | notANumber => "Invalid value NaN (not a number)".toList
  | secondsOutOfRange => "timestamp out of range for platform time_t".toList
  | yearOutOfRange => "[Errno 75] Value too large for defined data type".toList
  | yearTooLarge => "signed integer is greater than maximum".toList
  | zeroInPattern => "embedded null character".toList

structure Moment where
  seconds : Int
  year : Int
  month : Nat
  day : Nat
  deriving DecidableEq

namespace Moment

def daysOf (seconds : Int) : Int :=
  seconds / 86400

/-- The moment that lies a number of seconds after the beginning of 1970. -/
def ofSeconds (seconds : Int) : Moment :=
  let days := daysOf seconds + 719468
  let era := days / 146097
  let dayOfEra := (days % 146097).toNat
  let yearOfEra :=
    (dayOfEra - dayOfEra / 1460 + dayOfEra / 36524 - dayOfEra / 146096) / 365
  let dayOfYear := dayOfEra - (365 * yearOfEra + yearOfEra / 4 - yearOfEra / 100)
  let monthFromMarch := (5 * dayOfYear + 2) / 153
  let month := if monthFromMarch < 10 then monthFromMarch + 3 else monthFromMarch - 9
  { seconds := seconds
    year := yearOfEra + era * 400 + (if month ≤ 2 then 1 else 0)
    month := month
    day := dayOfYear - (153 * monthFromMarch + 2) / 5 + 1 }

/-- The moment, if its seconds and its year can be counted. -/
def ofSeconds? (seconds : Int) : Except ClockError Moment :=
  if seconds < -Nat.pow 2 63 ∨ Nat.pow 2 63 ≤ seconds then .error .secondsOutOfRange
  else
    let m := ofSeconds seconds
    if m.year - 1900 < -Nat.pow 2 31 ∨ Nat.pow 2 31 ≤ m.year - 1900 then .error .yearOutOfRange
    else .ok m

def secondOfDay (m : Moment) : Nat :=
  (m.seconds % 86400).toNat

def hour (m : Moment) : Nat :=
  m.secondOfDay / 3600

def minute (m : Moment) : Nat :=
  m.secondOfDay / 60 % 60

def second (m : Moment) : Nat :=
  m.secondOfDay % 60

/-- Zero is Sunday. -/
def weekday (m : Moment) : Nat :=
  ((daysOf m.seconds + 4) % 7).toNat

def isLeap (year : Int) : Bool :=
  year % 4 = 0 && (year % 100 ≠ 0 || year % 400 = 0)

def daysBefore (leap : Bool) (month : Nat) : Nat :=
  ([0, 31, 59, 90, 120, 151, 181, 212, 243, 273, 304, 334].getD (month - 1) 0) +
    if leap && 2 < month then 1 else 0

/-- Zero is the first of January. -/
def dayOfYear (m : Moment) : Nat :=
  daysBefore (isLeap m.year) m.month + m.day - 1

def weekdayNames : List String :=
  ["Sunday", "Monday", "Tuesday", "Wednesday", "Thursday", "Friday", "Saturday"]

def monthNames : List String :=
  ["January", "February", "March", "April", "May", "June", "July", "August", "September",
    "October", "November", "December"]

def weekdayName (m : Moment) : List Char :=
  (weekdayNames.getD m.weekday "").toList

def monthName (m : Moment) : List Char :=
  (monthNames.getD (m.month - 1) "").toList

def faceHour (m : Moment) : Nat :=
  if m.hour % 12 = 0 then 12 else m.hour % 12

def halfDay (m : Moment) : List Char :=
  if m.hour < 12 then ['A', 'M'] else ['P', 'M']

def two (n : Nat) : List Char :=
  Text.padded 2 (Text.decimal n)

/-- Two characters with a blank in front if need be. -/
def twoBlank (n : Nat) : List Char :=
  if n < 10 then ' ' :: Text.decimal n else Text.decimal n

def yearText (m : Moment) : List Char :=
  Text.signed m.year

def yearOfCentury (year : Int) : Nat :=
  (year % 100).toNat

def isoDate (m : Moment) : List Char :=
  m.yearText ++ '-' :: two m.month ++ '-' :: two m.day

def slashedDate (m : Moment) : List Char :=
  two m.month ++ '/' :: two m.day ++ '/' :: two (yearOfCentury m.year)

def hourMinute (m : Moment) : List Char :=
  two m.hour ++ ':' :: two m.minute

def timeOfDay (m : Moment) : List Char :=
  m.hourMinute ++ ':' :: two m.second

/-- The time of day as a clock face shows it. -/
def faceTime (m : Moment) : List Char :=
  two m.faceHour ++ ':' :: two m.minute ++ ':' :: two m.second ++ ' ' :: m.halfDay

def fullDate (m : Moment) : List Char :=
  m.weekdayName.take 3 ++ ' ' :: m.monthName.take 3 ++ ' ' :: twoBlank m.day ++
    ' ' :: m.timeOfDay ++ ' ' :: m.yearText

/-- Whole weeks that have begun on the given weekday by this day of the year. -/
def weeksFrom (start : Nat) (m : Moment) : Nat :=
  (m.dayOfYear + 7 - (m.weekday + 7 - start) % 7) / 7

/-- Weeks of a year that are counted by their Thursdays. -/
def weeksInYear (year : Int) : Nat :=
  let last (y : Int) : Int := (y + y / 4 - y / 100 + y / 400) % 7
  if last year = 4 ∨ last (year - 1) = 3 then 53 else 52

/-- Year and number of the week, a week belonging to the year of its Thursday.  The year
after the last one that can be counted is the first one. -/
def isoWeek (m : Moment) : Int × Nat :=
  let monday := (m.weekday + 6) % 7
  let week : Int := ((m.dayOfYear : Int) - monday + 10) / 7
  if week < 1 then (m.year - 1, weeksInYear (m.year - 1))
  else if week.toNat > weeksInYear m.year then (Int.bmod (m.year + 1) (Nat.pow 2 32), 1)
  else (m.year, week.toNat)

end Moment

end QueryBook.Log
