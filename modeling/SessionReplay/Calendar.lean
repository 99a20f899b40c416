/-!
# Calendar

* `isDate` — the days that the calendar has;
* `daysBefore` — the number of days from the first of January 1970 to a day.
-/

namespace SessionReplay.Calendar

/-- A year with a twenty-ninth of February. -/
def isLeapYear (year : Nat) : Bool :=
  year % 4 == 0 && (year % 100 != 0 || year % 400 == 0)

/-- The days of a month. -/
def daysInMonth (year month : Nat) : Nat :=
  if month = 2 then if isLeapYear year then 29 else 28
  else if month = 4 ∨ month = 6 ∨ month = 9 ∨ month = 11 then 30
  else 31

/-- A day that the calendar has. -/
def isDate (year month day : Nat) : Bool :=
  1 ≤ month && month ≤ 12 && 1 ≤ day && day ≤ daysInMonth year month

/-- The days of the months before a month. -/
def daysOfMonths (year month : Nat) : Nat :=
  (List.range (month - 1)).foldl (fun days m => days + daysInMonth year (m + 1)) 0

/-- The days from the start of year 0 to the start of a year. -/
def daysOfYears (year : Nat) : Nat :=
  365 * year + (year + 3) / 4 - (year + 99) / 100 + (year + 399) / 400

/-- The days from the first of January 1970 to a day. -/
def daysBefore (year month day : Nat) : Int :=
  (daysOfYears year + daysOfMonths year month + (day - 1) : Nat) - (daysOfYears 1970 : Nat)

end SessionReplay.Calendar
