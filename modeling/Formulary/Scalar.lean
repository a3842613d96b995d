import Formulary.Value.Basic

/-!
# Scalars

The values that a document's variable or a field's default may hold: truth
values, integers, doubles and texts, each kept in the kind it came in.
-/

namespace Formulary

/-- A value that is neither null nor made of other values. -/
inductive Scalar where
  | bool (b : Bool)
  | int (n : Int)
  | float (x : Binary64)
  | str (s : Text)
deriving DecidableEq, Inhabited

namespace Scalar

/-- A scalar as a value. -/
def toValue : Scalar → Value
  | .bool b => .bool b
  | .int n => .int n
  | .float x => .float x
  | .str s => .str s

end Scalar

namespace Scalar

/-- A scalar as a JSON text keeps it. -/
def settled : Scalar → Scalar
  | .float x => .float x.settled
  | a => a

theorem toValue_settled (a : Scalar) : a.settled.toValue = a.toValue.settled := by
  cases a <;> simp [settled, toValue, Value.settled]

end Scalar

namespace Value

/-- The scalar that a value is. -/
def scalar? : Value → Option Scalar
  | .bool b => some (.bool b)
  | .int n => some (.int n)
  | .float x => some (.float x)
  | .str s => some (.str s)
  | _ => none

@[simp] theorem scalar?_toValue (a : Scalar) : a.toValue.scalar? = some a := by
  cases a <;> rfl

theorem scalar?_eq_some_iff {v : Value} {a : Scalar} : v.scalar? = some a ↔ v = a.toValue := by
  cases v <;> cases a <;> simp [scalar?, Scalar.toValue]

end Value

theorem Scalar.toValue_inj {a b : Scalar} : a.toValue = b.toValue ↔ a = b := by
  constructor
  · intro h
    have := congrArg Value.scalar? h
    simpa using this
  · rintro rfl
    rfl

/-- Named scalars, as a group of a document's variables. -/
abbrev Variables := Entries Scalar

/-- A group of variables as a JSON text keeps it. -/
def Variables.settled (vars : Variables) : Variables := vars.mapValues Scalar.settled

/-- A group of variables as an object. -/
def Variables.toValue (vars : Variables) : Value :=
  .object (vars.mapValues Scalar.toValue)

end Formulary
