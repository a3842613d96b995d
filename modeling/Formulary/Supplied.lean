/-!
# Supplied attributes

An attribute of a payload is left out, given as null or given with a value, and
a partial update has to tell the three apart.
-/

namespace Formulary

/-- An attribute as a payload supplies it. -/
inductive Supplied (α : Type) where
  | absent
  | null
  | value (a : α)
deriving DecidableEq, Inhabited

namespace Supplied

variable {α β : Type}

/-- The payload names the attribute, with null or with a value. -/
def isSupplied : Supplied α → Bool
  | .absent => false
  | _ => true

/-- The value, where there is one. -/
def toOption : Supplied α → Option α
  | .value a => some a
  | _ => none

/-- The value, or another where there is none. -/
def getD (a : Supplied α) (default : α) : α := a.toOption.getD default

/-- An attribute that may hold null, after an update: the old value where nothing
is supplied, none where null is. -/
def update (old : Option α) : Supplied α → Option α
  | .absent => old
  | .null => none
  | .value a => some a

/-- What is supplied, null replaced by the empty value; nothing when the
attribute is left out. -/
def change? (empty : α) : Supplied α → Option α
  | .absent => none
  | .null => some empty
  | .value a => some a

end Supplied

end Formulary
