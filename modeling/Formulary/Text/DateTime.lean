import Formulary.Calendar
import Formulary.Text.Blank

/-!
# Date-times

The texts that are a date and a time of day with an offset, such as
`2024-02-29T23:59:00.5+01:00`: four, two and two digits, the letter `T`, hours,
minutes and seconds, perhaps a fraction, and `Z` or a signed offset.  Letters may
be of either case.  The date has to exist; there is no year zero and no leap
second.  One line feed at the end is let pass.
-/

namespace Formulary.Text

/-- The value of an ASCII digit. -/
def asciiDigit? (c : Char) : Option Nat :=
  if c.isDigit then some (c.toNat - 0x30) else none

/-- The number that the first `count` characters of a text stand for, all digits,
and the rest. -/
def takeNumber? : (count : Nat) → List Char → Option (Nat × List Char)
  | 0, s => some (0, s)
  | count + 1, c :: rest => do
    let d ← asciiDigit? c
    let (n, rest) ← takeNumber? count rest
    return (d * 10 ^ count + n, rest)
  | _ + 1, [] => none

/-- The rest of a text after a character that it has to start with. -/
def takeChar? (c : Char) : List Char → Option (List Char)
  | d :: rest => if d.toUpper = c then some rest else none
  | [] => none

/-- The rest of a text after an optional fraction of a second. -/
def dropFraction? : List Char → Option (List Char)
  | '.' :: c :: rest => if c.isDigit then some (rest.dropWhile Char.isDigit) else none
  | ['.'] => none
  | s => some s

/-- Hours and minutes of a day. -/
def isClock (hour minute : Nat) : Bool := hour < 24 && minute < 60

/-- An offset to universal time: the letter `Z`, or a sign, hours and minutes. -/
def isOffset (s : List Char) : Bool :=
  match s with
  | [c] => c.toUpper = 'Z'
  | c :: rest =>
    (c = '+' || c = '-') &&
      match (do
        let (hour, rest) ← takeNumber? 2 rest
        let (minute, rest) ← takeNumber? 2 (← takeChar? ':' rest)
        return (hour, minute, rest)) with
      | some (hour, minute, rest) => isClock hour minute && rest.isEmpty
      | none => false
  | [] => false

/-- A date and time of day with an offset. -/
def isDateTime (text : String) : Bool :=
  let parts := do
    let (year, s) ← takeNumber? 4 (dropLineEnd text.toList)
    let (month, s) ← takeNumber? 2 (← takeChar? '-' s)
    let (day, s) ← takeNumber? 2 (← takeChar? '-' s)
    let (hour, s) ← takeNumber? 2 (← takeChar? 'T' s)
    let (minute, s) ← takeNumber? 2 (← takeChar? ':' s)
    let (second, s) ← takeNumber? 2 (← takeChar? ':' s)
    let s ← dropFraction? s
    return (year, month, day, hour, minute, second, s)
  match parts with
  | some (year, month, day, hour, minute, second, s) =>
    year != 0 && 1 ≤ month && month ≤ 12 && 1 ≤ day && day ≤ Calendar.daysInMonth year month
      && isClock hour minute && second < 60 && isOffset s
  | none => false

end Formulary.Text
