import Formulary.Number.Layout

/-!
# Calendar and instants

The length of months, and the instants that rows are stamped with: seconds since
the start of the year 2024, written as a date and a time of day.
-/

namespace Formulary

namespace Calendar

/-- A year with a 29th of February. -/
def isLeapYear (year : Nat) : Bool :=
  year % 4 == 0 && (year % 100 != 0 || year % 400 == 0)

/-- The number of days of a month, counted from one. -/
def daysInMonth (year month : Nat) : Nat :=
  if month = 2 then if isLeapYear year then 29 else 28
  else if month = 4 || month = 6 || month = 9 || month = 11 then 30
  else 31

theorem daysInMonth_pos (year month : Nat) : 0 < daysInMonth year month := by
  unfold daysInMonth
  split
  · split <;> decide
  · split <;> decide

/-- The month after a month. -/
def nextMonth (year month : Nat) : Nat × Nat :=
  if month = 12 then (year + 1, 1) else (year, month + 1)

/-- The date that lies a number of days after the first of a month. -/
def dateAfter (year month days : Nat) : Nat × Nat × Nat :=
  if h : days < daysInMonth year month then (year, month, days + 1)
  else
    let next := nextMonth year month
    dateAfter next.1 next.2 (days - daysInMonth year month)
termination_by days
decreasing_by
  have := daysInMonth_pos year month
  omega

end Calendar

/-- Seconds since the start of the year 2024. -/
abbrev Instant := Nat

/-- A number with at least two digits. -/
def twoDigits (n : Nat) : List Char := Number.padLeft 2 (Nat.toDigits 10 n)

/-- An instant as date and time of day. -/
def Instant.text (t : Instant) : String :=
  let (year, month, day) := Calendar.dateAfter 2024 1 (t / 86400)
  String.ofList (Number.padLeft 4 (Nat.toDigits 10 year) ++ '-' :: twoDigits month
    ++ '-' :: twoDigits day ++ 'T' :: twoDigits (t / 3600 % 24)
    ++ ':' :: twoDigits (t / 60 % 60) ++ ':' :: twoDigits (t % 60))

end Formulary
