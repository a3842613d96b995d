import Formulary.Text.Quoted
import Formulary.Value.Basic

/-!
# Faults

Data of a shape that a step of work does not foresee.  Nothing is reported to
the caller in such a case but the fault itself.
-/

namespace Formulary

/-- A value that cannot be used as it has to be. -/
inductive Fault where
  /-- A value that has no items was to be gone over. -/
  | notIterable (v : Value)
  /-- A value without attributes was asked for one. -/
  | noAttribute (v : Value) (name : String)
  /-- A text without a UTF-8 form was to be put where UTF-8 is asked for. -/
  | unencodable (t : Text)
deriving DecidableEq

/-- The first run of lone halves among code points: how many characters come
before it, and the run. -/
def firstHalves (ps : List CodePoint) : Nat × List CodePoint :=
  let (whole, rest) := ps.span fun p => !p.isHalf
  (whole.length, rest.takeWhile CodePoint.isHalf)

/-- What is said about the lone halves of a text. -/
def unencodableMessage (t : Text) : String :=
  let (start, halves) := firstHalves t.points
  let what := match halves with
    | [p] => "character " ++ Text.quoted (.ofPoints [p]) ++ " in position " ++ toString start
    | _ =>
      "characters in position " ++ toString start ++ "-" ++ toString (start + halves.length - 1)
  "'utf-8' codec can't encode " ++ what ++ ": surrogates not allowed"

/-- The wording of a fault. -/
def Fault.message : Fault → String
  | .notIterable v => "'" ++ v.kind ++ "' object is not iterable"
  | .noAttribute v name => "'" ++ v.kind ++ "' object has no attribute '" ++ name ++ "'"
  | .unencodable t => unencodableMessage t

/-- What one passes through when going over a value, or the fault that it has no
items. -/
def Value.items (v : Value) : Except Fault (List Value) :=
  match v.items? with
  | some items => .ok items
  | none => .error (.notIterable v)

end Formulary
