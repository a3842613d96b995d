import Formulary.Number.Layout
import Formulary.Text.Quoted
import Formulary.Value.Basic

/-!
# Writing JSON

The compact text of a value: no blanks, members in their order, and no escapes
but for the quote mark, the backslash and the control characters.  Numbers that
are not finite are written by name, as `Json.read` reads them.

Lone halves of surrogate pairs stay as they are in the text; `encode` escapes
them too, so that the text has a UTF-8 form.
-/

namespace Formulary.Json

/-- One character of a JSON string. -/
def escapeChar (c : Char) : List Char :=
  if c = '\x22' then ['\\', '\x22']
  else if c = '\\' then ['\\', '\\']
  else if c = '\n' then ['\\', 'n']
  else if c = '\r' then ['\\', 'r']
  else if c = '\t' then ['\\', 't']
  else if c = '\x08' then ['\\', 'b']
  else if c = '\x0c' then ['\\', 'f']
  else if c.toNat < 0x20 then '\\' :: 'u' :: Text.hexDigits 4 c.toNat
  else [c]

/-- One code point of a JSON string. -/
def escapePoint : CodePoint → List CodePoint
  | .char c => (escapeChar c).map .char
  | .half h => [.half h]

/-- A JSON string. -/
def writeString (t : Text) : Text :=
  .ofPoints (.char '\x22' :: t.points.flatMap escapePoint ++ [.char '\x22'])

/-- Doubles in JSON: as in messages, with the special values under the names
that JSON readers accept. -/
def floatLayout : Number.FloatLayout :=
  { Number.plainLayout with nan := "NaN", infinity := "Infinity" }

mutual

/-- The JSON text of a value. -/
def write : Value → Text
  | .null => "null"
  | .bool true => "true"
  | .bool false => "false"
  | .int n => Number.integerText n
  | .float x => Number.floatText floatLayout x
  | .str s => writeString s
  | .list items => "[" ++ Text.intercalate "," (writeItems items) ++ "]"
  | .object members => "\x7b" ++ Text.intercalate "," (writeMembers members) ++ "\x7d"

/-- The JSON texts of the values of a list. -/
def writeItems : List Value → List Text
  | [] => []
  | v :: vs => write v :: writeItems vs

/-- The JSON texts of the members of an object. -/
def writeMembers : List (Text × Value) → List Text
  | [] => []
  | (k, v) :: ms => (writeString k ++ ":" ++ write v) :: writeMembers ms

end

/-- The JSON text of a value, to be sent. -/
def encode (v : Value) : String := (write v).escaped

end Formulary.Json
