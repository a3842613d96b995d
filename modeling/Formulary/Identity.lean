import Formulary.Text.Blank

/-!
# Identities

Who makes a request, read from its headers.  An identity that is blank is taken
as none, and only a request with an identity may touch a customer's rows.
-/

namespace Formulary

/-- Header lines, in order. -/
abbrev Headers := List (String × String)

namespace Headers

/-- A header name in small letters.  Header names are ASCII. -/
def foldName (name : String) : String := String.ofList (name.toList.map Char.toLower)

/-- The value of the first header of a name, given in small letters. -/
def value? (headers : Headers) (name : String) : Option String :=
  (headers.find? fun (n, _) => foldName n = name).map Prod.snd

end Headers

/-- Who makes a request. -/
structure Identity where
  /-- The key of the customer; empty when the request gives none. -/
  customerId : String
  customerName : Option String
deriving DecidableEq, Inhabited, Repr

namespace Identity

/-- The identity that a request carries. -/
def ofHeaders (headers : Headers) : Identity where
  customerId := Text.trimmed ((headers.value? "x-auth-id").getD "")
  customerName := headers.value? "x-customer-name"

/-- The request says who makes it. -/
def isKnown (identity : Identity) : Bool := identity.customerId ≠ ""

/-- An identity is unknown exactly when the first header that could give it is
missing or blank. -/
theorem isKnown_ofHeaders (headers : Headers) :
    (ofHeaders headers).isKnown
      ↔ ∃ value, headers.value? "x-auth-id" = some value ∧ Text.isBlankText value = false := by
  rw [isKnown, decide_eq_true_iff, ofHeaders, ne_eq, Text.trimmed_eq_empty_iff]
  cases headers.value? "x-auth-id" with
  | none => simp [Text.isBlankText]
  | some value => simp

end Identity

end Formulary
