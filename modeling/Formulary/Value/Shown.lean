import Formulary.Number.Layout
import Formulary.Text.Quoted
import Formulary.Value.Basic

/-!
# Values inside messages

How a value is shown in an error text or a log line: texts in quotes, lists and
objects in brackets, numbers in full.  `plain` is the same but for a text, which
stands there without quotes.
-/

namespace Formulary.Value

mutual

/-- A value as messages show it. -/
def shown : Value → String
  | .null => "None"
  | .bool true => "True"
  | .bool false => "False"
  | .int n => Number.integerText n
  | .float x => Number.floatText Number.plainLayout x
  | .str s => Text.quoted s
  | .list items => "[" ++ String.intercalate ", " (shownItems items) ++ "]"
  | .object members => "\x7b" ++ String.intercalate ", " (shownMembers members) ++ "\x7d"

/-- The values of a list as messages show them. -/
def shownItems : List Value → List String
  | [] => []
  | v :: vs => shown v :: shownItems vs

/-- The members of an object as messages show them. -/
def shownMembers : List (Text × Value) → List String
  | [] => []
  | (k, v) :: ms => (Text.quoted k ++ ": " ++ shown v) :: shownMembers ms

end

/-- A value as part of a sentence: a text stands for itself. -/
def plain : Value → Text
  | .str s => s
  | v => shown v

end Formulary.Value
