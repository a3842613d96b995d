import Formulary.Number.Binary64
import Formulary.Text.Digit

/-!
# Numbers from text

Integers and decimals as people write them: the digits may be of any script, and
single underscores may join digits.  Nothing may stand around the number.  An
integer has at most `maxIntegerDigits` digits, leading zeros included.
-/

namespace Formulary.Number

open Text

/-- The most digits that an integer may be read from or be written in. -/
def maxIntegerDigits : Nat := 4300

/-- The number that a list of decimal digits stands for. -/
def ofDigits (digits : List Nat) : Nat :=
  digits.foldl (fun n d => 10 * n + d) 0

/-- A text without the underscores that join two digits; an underscore anywhere
else makes it no number. -/
def dropJoints (afterDigit : Bool) : List Char → Option (List Char)
  | [] => some []
  | c :: rest =>
    if c = '_' then
      if afterDigit && (rest.head?.bind digit?).isSome then dropJoints false rest else none
    else (dropJoints (digit? c).isSome rest).map (c :: ·)

/-- A leading sign, taken off: whether it is a minus, and the rest. -/
def takeSign : List Char → Bool × List Char
  | '-' :: rest => (true, rest)
  | '+' :: rest => (false, rest)
  | s => (false, s)

/-- The digits that a text starts with, and the rest. -/
def takeDigits : List Char → List Nat × List Char
  | [] => ([], [])
  | c :: rest =>
    match digit? c with
    | some d => let (ds, rest) := takeDigits rest; (d :: ds, rest)
    | none => ([], c :: rest)

/-- The integer that a text stands for. -/
def integer? (s : List Char) : Option Int := do
  let (negative, body) := takeSign s
  let digits ← (← dropJoints false body).mapM digit?
  if digits.isEmpty || digits.length > maxIntegerDigits then none
  else if negative then some (-ofDigits digits)
  else some (ofDigits digits)

/-- The power of ten written after a decimal's digits: nothing, or the letter
`e`, a sign and digits. -/
def exponent? : List Char → Option Int
  | [] => some 0
  | c :: rest =>
    if c = 'e' || c = 'E' then
      let (negative, body) := takeSign rest
      match takeDigits body with
      | (d :: ds, []) =>
        let n : Int := ofDigits (d :: ds)
        some (if negative then -n else n)
      | _ => none
    else none

/-- The double that an unsigned decimal stands for: digits with at most one
point before, between or after them, and an exponent. -/
def unsignedDecimal? (negative : Bool) (s : List Char) : Option Binary64 :=
  let (whole, rest) := takeDigits s
  let (fraction, rest) := match rest with
    | '.' :: rest => takeDigits rest
    | _ => ([], rest)
  if whole.isEmpty && fraction.isEmpty then none
  else
    (exponent? rest).map fun e =>
      .ofDecimal negative (ofDigits (whole ++ fraction)) (e - fraction.length)

/-- The double that a text stands for: a decimal, or a name of an infinity or of
what is no number in letters of either case. -/
def decimal? (s : List Char) : Option Binary64 := do
  let (negative, body) := takeSign s
  match String.ofList (body.map Char.toLower) with
  | "nan" => some (.nan false)
  | "inf" | "infinity" => some (.infinite negative)
  | _ => unsignedDecimal? negative (← dropJoints false body)

theorem dropJoints_digits {s : List Char} (h : ∀ c ∈ s, c ≠ '_') (afterDigit : Bool) :
    dropJoints afterDigit s = some s := by
  induction s generalizing afterDigit with
  | nil => rfl
  | cons c s ih =>
    simp [dropJoints, h c (by simp), ih fun d hd => h d (by simp [hd])]

end Formulary.Number
