import Formulary.Text.Escaped
import Formulary.Text.Printable

/-!
# Quoted texts

How a text is shown inside a message: between quote marks, with a backslash
before the mark and before a backslash, and with an escape for every character
that is not printable and for every lone half of a surrogate pair.
-/

namespace Formulary.Text

/-- The single quote mark. -/
def singleQuote : Char := '\x27'

/-- The double quote mark. -/
def doubleQuote : Char := '\x22'

/-- The mark around quoted code points: single, unless there are single marks
among them and no double one. -/
def quoteMark (ps : List CodePoint) : Char :=
  if ps.contains (.char singleQuote) && !ps.contains (.char doubleQuote) then doubleQuote
  else singleQuote

/-- One character of a text quoted with `mark`. -/
def quoteChar (mark c : Char) : List Char :=
  if c = mark || c = '\\' then ['\\', c]
  else if c = '\n' then ['\\', 'n']
  else if c = '\r' then ['\\', 'r']
  else if c = '\t' then ['\\', 't']
  else if isPrintable c then [c]
  else if c.toNat < 0x100 then '\\' :: 'x' :: hexDigits 2 c.toNat
  else if c.toNat < 0x10000 then '\\' :: 'u' :: hexDigits 4 c.toNat
  else '\\' :: 'U' :: hexDigits 8 c.toNat

/-- One code point of a text quoted with `mark`. -/
def quotePoint (mark : Char) : CodePoint → List Char
  | .char c => quoteChar mark c
  | .half h => escapeHalf h

/-- A text in quotes. -/
def quoted (t : Text) : String :=
  let ps := t.points
  let mark := quoteMark ps
  String.ofList (mark :: ps.flatMap (quotePoint mark) ++ [mark])

end Formulary.Text
