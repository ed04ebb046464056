import Clearing.Text.Ascii
/-!
Dates of the Gregorian calendar and moments in universal time, to the
nanosecond and with leap seconds.
-/

namespace Clearing

def isLeapYear (year : Int) : Bool :=
  year % 4 == 0 && (year % 100 != 0 || year % 400 == 0)

/-- The number of days of a month, counted from one. -/
def daysInMonth (year : Int) (month : Nat) : Nat :=
  if month = 2 then
    if isLeapYear year then 29 else 28
  else if month = 4 ∨ month = 6 ∨ month = 9 ∨ month = 11 then
    30
  else
    31

structure Date where
  year : Int
  month : Nat
  day : Nat
  month_pos : 1 ≤ month := by decide
  month_le : month ≤ 12 := by decide
  day_pos : 1 ≤ day := by decide
  day_le : day ≤ daysInMonth year month := by decide
deriving DecidableEq

namespace Date

/-- The years that a date may lie in. -/
def YearInRange (year : Int) : Prop :=
  -262143 ≤ year ∧ year ≤ 262142

instance (year : Int) : Decidable (YearInRange year) :=
  inferInstanceAs (Decidable (_ ∧ _))

/-- The day with the given numbers, if the calendar has it. -/
def ofNumbers? (year : Int) (month day : Nat) : Option Date :=
  if valid : 1 ≤ month ∧ month ≤ 12 ∧ 1 ≤ day ∧ day ≤ daysInMonth year month then
    some
      { year, month, day
        month_pos := valid.1
        month_le := valid.2.1
        day_pos := valid.2.2.1
        day_le := valid.2.2.2 }
  else
    none

def next (date : Date) : Date :=
  let following :=
    if date.day < daysInMonth date.year date.month then
      ofNumbers? date.year date.month (date.day + 1)
    else if date.month < 12 then
      ofNumbers? date.year (date.month + 1) 1
    else
      ofNumbers? (date.year + 1) 1 1
  following.getD date

def previous (date : Date) : Date :=
  let preceding :=
    if 1 < date.day then
      ofNumbers? date.year date.month (date.day - 1)
    else if 1 < date.month then
      ofNumbers? date.year (date.month - 1)
        (daysInMonth date.year (date.month - 1))
    else
      ofNumbers? (date.year - 1) 12 31
  preceding.getD date

end Date

/-- A moment in universal time.  Second 60 is a leap second. -/
structure Timestamp where
  date : Date
  hour : Nat
  minute : Nat
  second : Nat
  nanosecond : Nat
  hour_lt : hour < 24 := by decide
  minute_lt : minute < 60 := by decide
  second_le : second ≤ 60 := by decide
  nanosecond_lt : nanosecond < 10 ^ 9 := by decide
deriving DecidableEq

namespace Timestamp

/-- The time of day with the given numbers, if the clock shows it. -/
def ofNumbers? (date : Date) (hour minute second nanosecond : Nat) :
    Option Timestamp :=
  if valid : hour < 24 ∧ minute < 60 ∧ second ≤ 60 ∧ nanosecond < 10 ^ 9 then
    some
      { date, hour, minute, second, nanosecond
        hour_lt := valid.1
        minute_lt := valid.2.1
        second_le := valid.2.2.1
        nanosecond_lt := valid.2.2.2 }
  else
    none

/-- Move to another hour and minute, on the same day or a neighbouring one. -/
def atMinute (moment : Timestamp) (date : Date) (minuteOfDay : Nat) : Timestamp :=
  { moment with
    date := date
    hour := minuteOfDay / 60 % 24
    minute := minuteOfDay % 60
    hour_lt := Nat.mod_lt _ (by decide)
    minute_lt := Nat.mod_lt _ (by decide) }

/-- The moment at which a clock ahead by `offset` minutes shows these numbers. -/
def fromOffset (shown : Timestamp) (offset : Int) : Timestamp :=
  let minutes : Int := 60 * shown.hour + shown.minute - offset
  if minutes < 0 then
    shown.atMinute shown.date.previous (minutes + 1440).toNat
  else if 1440 ≤ minutes then
    shown.atMinute shown.date.next (minutes - 1440).toNat
  else
    shown.atMinute shown.date minutes.toNat

/-- One nanosecond later. -/
def tick (moment : Timestamp) : Timestamp :=
  if more : moment.nanosecond + 1 < 10 ^ 9 then
    { moment with
      nanosecond := moment.nanosecond + 1
      nanosecond_lt := more }
  else
    let minutes := 60 * moment.hour + moment.minute + 1
    if next : moment.second + 1 < 60 then
      { moment with
        second := moment.second + 1
        nanosecond := 0
        second_le := Nat.le_of_lt next
        nanosecond_lt := by decide }
    else
      let start : Timestamp :=
        { moment with
          second := 0
          nanosecond := 0
          second_le := by decide
          nanosecond_lt := by decide }
      if minutes < 1440 then
        start.atMinute moment.date minutes
      else
        start.atMinute moment.date.next 0

/-- The number of days from the start of the era to the start of a year. -/
def daysBefore (year : Int) : Int :=
  let past := year - 1
  365 * past + past / 4 - past / 100 + past / 400

/-- The number of days since the start of 1970. -/
def unixDays (date : Date) : Int :=
  let earlier := (List.range (date.month - 1)).foldl
    (fun days month => days + daysInMonth date.year (month + 1)) 0
  daysBefore date.year - daysBefore 1970 + earlier + date.day - 1

/-- The number of milliseconds since the start of 1970. -/
def unixMilliseconds (moment : Timestamp) : Int :=
  let minutes := 60 * moment.hour + moment.minute
  1000 * (86400 * unixDays moment.date + 60 * minutes + moment.second) +
    moment.nanosecond / 10 ^ 6

/-- Noon of the first of May 2024. -/
def sample : Timestamp where
  date := { year := 2024, month := 5, day := 1 }
  hour := 12
  minute := 0
  second := 0
  nanosecond := 0

instance : Inhabited Timestamp := ⟨sample⟩

end Timestamp

end Clearing
