/-!
# Instants

A date of the proleptic Gregorian calendar and a time of day in UTC, to the nanosecond.  A minute
may have a leap second, written as second 60.

An offset from UTC is shorter than a day, so moving a local time to UTC changes the date by one day
at most: `Date.next?` and `Date.previous?` are all the calendar arithmetic there is.
-/

namespace StatusRouter

/-- The first year that dates reach. -/
def firstYear : Int := -262143

/-- The last year that dates reach. -/
def lastYear : Int := 262142

def isLeapYear (year : Int) : Bool :=
  year % 4 == 0 && (year % 100 != 0 || year % 400 == 0)

/-- The number of days of a month; zero for a number that is no month. -/
def daysInMonth (year : Int) (month : Nat) : Nat :=
  match month with
  | 2 => if isLeapYear year then 29 else 28
  | 4 | 6 | 9 | 11 => 30
  | 1 | 3 | 5 | 7 | 8 | 10 | 12 => 31
  | _ => 0

/-- A day of the calendar. -/
structure Date where
  year : Int
  month : Nat
  day : Nat
  year_mem : firstYear ≤ year ∧ year ≤ lastYear
  day_mem : 1 ≤ day ∧ day ≤ daysInMonth year month
  deriving DecidableEq

namespace Date

/-- The day with the given numbers, if the calendar has it. -/
def ofNumbers? (year : Int) (month day : Nat) : Option Date :=
  if hyear : firstYear ≤ year ∧ year ≤ lastYear then
    if hday : 1 ≤ day ∧ day ≤ daysInMonth year month then
      some ⟨year, month, day, hyear, hday⟩
    else none
  else none

/-- The following day. -/
def next? (date : Date) : Option Date :=
  if date.day < daysInMonth date.year date.month then
    ofNumbers? date.year date.month (date.day + 1)
  else if date.month < 12 then ofNumbers? date.year (date.month + 1) 1
  else ofNumbers? (date.year + 1) 1 1

/-- The day before. -/
def previous? (date : Date) : Option Date :=
  if 1 < date.day then ofNumbers? date.year date.month (date.day - 1)
  else if 1 < date.month then
    ofNumbers? date.year (date.month - 1) (daysInMonth date.year (date.month - 1))
  else ofNumbers? (date.year - 1) 12 31

theorem ofNumbers?_self (date : Date) :
    ofNumbers? date.year date.month date.day = some date := by
  simp [ofNumbers?, date.year_mem, date.day_mem]

end Date

/-- A time in UTC, to the nanosecond. -/
structure Instant where
  date : Date
  /-- Minutes since midnight. -/
  minute : Nat
  /-- Seconds of the minute; 60 is a leap second. -/
  second : Nat
  nanosecond : Nat
  minute_lt : minute < 1440
  second_le : second ≤ 60
  nanosecond_lt : nanosecond < 1000000000
  deriving DecidableEq

namespace Instant

/-- The time with the given numbers, if they are in range. -/
def ofNumbers? (date : Date) (minute second nanosecond : Nat) : Option Instant :=
  if hminute : minute < 1440 then
    if hsecond : second ≤ 60 then
      if hnano : nanosecond < 1000000000 then
        some ⟨date, minute, second, nanosecond, hminute, hsecond, hnano⟩
      else none
    else none
  else none

/-- The UTC time of a local time at an offset of so many minutes east of UTC. -/
def ofLocal? (date : Date) (minute second nanosecond : Nat) (offset : Int) : Option Instant :=
  let shifted : Int := minute - offset
  if shifted < 0 then
    date.previous?.bind fun date => ofNumbers? date (shifted + 1440).toNat second nanosecond
  else if 1440 ≤ shifted then
    date.next?.bind fun date => ofNumbers? date (shifted - 1440).toNat second nanosecond
  else ofNumbers? date shifted.toNat second nanosecond

/-- The time without the fraction of its second. -/
def wholeSecond (t : Instant) : Instant :=
  { t with nanosecond := 0, nanosecond_lt := by decide }

theorem ofLocal?_self (t : Instant) :
    ofLocal? t.date t.minute t.second t.nanosecond 0 = some t := by
  have h := t.minute_lt
  have hlow : ¬ (t.minute : Int) - 0 < 0 := by omega
  have hhigh : ¬ (1440 : Int) ≤ t.minute - 0 := by omega
  rw [ofLocal?, if_neg hlow, if_neg hhigh]
  simp [ofNumbers?, h, t.second_le, t.nanosecond_lt]

end Instant

end StatusRouter
