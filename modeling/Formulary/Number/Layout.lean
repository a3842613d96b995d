import Formulary.Number.Shortest

/-!
# Numbers as text

Integers in decimal digits, and doubles by their shortest decimal.  A
`FloatLayout` fixes what a format may choose: where positional writing begins
and ends, how wide an exponent is, and the names of the special values.
-/

namespace Formulary.Number

/-- An integer in decimal digits. -/
def integerText (n : Int) : String :=
  let digits := Nat.toDigits 10 n.natAbs
  String.ofList (if n < 0 then '-' :: digits else digits)

/-- The choices of a text form of doubles. -/
structure FloatLayout where
  /-- The least decimal exponent of the first digit that is written positionally. -/
  leastPositional : Int
  /-- The first decimal exponent that is no longer written positionally. -/
  firstScientific : Int
  /-- The least number of digits of an exponent. -/
  exponentWidth : Nat
  /-- The name of what is no number. -/
  nan : String
  /-- The name of positive infinity; the negative one has a minus before it. -/
  infinity : String

/-- A list of digits, filled up with zeros on the left. -/
def padLeft (width : Nat) (digits : List Char) : List Char :=
  List.replicate (width - digits.length) '0' ++ digits

/-- Digits with a point after the first `point` of them; a whole number keeps
one zero after the point. -/
def positional (digits : List Char) (point : Int) : List Char :=
  match point with
  | .ofNat n =>
    if n = 0 then '0' :: '.' :: digits
    else if n < digits.length then digits.take n ++ '.' :: digits.drop n
    else digits ++ List.replicate (n - digits.length) '0' ++ ['.', '0']
  | .negSucc n => '0' :: '.' :: List.replicate (n + 1) '0' ++ digits

/-- Digits with a point after the first and a power of ten. -/
def scientific (layout : FloatLayout) (digits : List Char) (exponent : Int) : List Char :=
  let leading := match digits with
    | [] => []
    | [d] => [d]
    | d :: ds => d :: '.' :: ds
  leading ++ 'e' :: (if exponent < 0 then '-' else '+')
    :: padLeft layout.exponentWidth (Nat.toDigits 10 exponent.natAbs)

/-- A positive decimal in a layout. -/
def decimalText (layout : FloatLayout) (d : Decimal) : List Char :=
  let digits := Nat.toDigits 10 d.coefficient
  let exponent := d.exponent + digits.length - 1
  if layout.leastPositional ≤ exponent && exponent < layout.firstScientific then
    positional digits (exponent + 1)
  else scientific layout digits exponent

/-- A double in a layout. -/
def floatText (layout : FloatLayout) : Binary64 → String
  | .finite negative m e =>
    let digits := if m = 0 then ['0', '.', '0'] else decimalText layout (Binary64.shortest m e)
    String.ofList (if negative then '-' :: digits else digits)
  | .infinite negative => (if negative then "-" else "") ++ layout.infinity
  | .nan _ => layout.nan

/-- Doubles as messages and stored texts show them: positional from `0.0001` up
to sixteen whole digits, exponents of two digits or more. -/
def plainLayout : FloatLayout where
  leastPositional := -4
  firstScientific := 16
  exponentWidth := 2
  nan := "nan"
  infinity := "inf"

/-! ## No text is empty -/

theorem integerText_ne_empty (n : Int) : integerText n ≠ "" := by
  rw [integerText, ne_eq, String.ofList_eq_empty_iff]
  split
  · exact List.cons_ne_nil _ _
  · exact Nat.toDigits_ne_nil

theorem positional_ne_nil (digits : List Char) (point : Int) : positional digits point ≠ [] := by
  unfold positional
  split
  · split
    · exact List.cons_ne_nil _ _
    · split <;> simp
  · simp

theorem decimalText_ne_nil (layout : FloatLayout) (d : Decimal) : decimalText layout d ≠ [] := by
  unfold decimalText
  dsimp only
  split
  · exact positional_ne_nil _ _
  · simp [scientific]

theorem floatText_plainLayout_ne_empty (x : Binary64) : floatText plainLayout x ≠ "" := by
  cases x with
  | finite negative m e =>
    rw [floatText, ne_eq, String.ofList_eq_empty_iff]
    split
    · exact List.cons_ne_nil _ _
    · split
      · exact List.cons_ne_nil _ _
      · exact decimalText_ne_nil _ _
  | infinite negative => cases negative <;> decide
  | nan => simp [floatText, plainLayout]

end Formulary.Number
