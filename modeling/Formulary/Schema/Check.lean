import Formulary.Schema.Basic
import Formulary.Text.DateTime
import Formulary.Text.Uri
import Formulary.Value.Shown

/-!
# Checking variables against a schema

What a group of variables violates of its schema, in the order of the schema's
keys: for every property that is given its type, options, format and minimal
length, then the required properties that are missing.  A group that is no
object violates only that.
-/

namespace Formulary

/-- What can be wrong with a group of variables. -/
inductive ViolationCause where
  | notObject (v : Value)
  | wrongType (v : Value) (type : SchemaType)
  | missing (name : Text)
  | notAnOption (v : Value) (options : List Value)
  | wrongFormat (v : Value) (format : Format)
  | empty (v : Value)
deriving DecidableEq

/-- A violation and the property that it is about, if it is about one. -/
structure Violation where
  property : Option Text
  cause : ViolationCause
deriving DecidableEq

/-- The wording of a violation. -/
def ViolationCause.message : ViolationCause → String
  | .notObject v => v.shown ++ " is not of type 'object'"
  | .wrongType v type => v.shown ++ " is not of type " ++ Text.quoted type.token
  | .missing name => Text.quoted name ++ " is a required property"
  | .notAnOption v options => v.shown ++ " is not one of " ++ (Value.list options).shown
  | .wrongFormat v format => v.shown ++ " is not a " ++ Text.quoted format.token
  | .empty v => v.shown ++ " should be non-empty"

/-- A value is of a schema type.  Every integer and every double is a number;
truth values are not. -/
def Value.isOfType : Value → SchemaType → Bool
  | .str _, .string => true
  | .int _, .number | .float _, .number => true
  | .bool _, .boolean => true
  | _, _ => false

/-- A text has a format.  An address of mail has an at sign; phone numbers are not
checked. -/
def Format.holds : Format → Text → Bool
  | .email, t => t.points.contains (.char '@')
  | .dateTime, t => t.string?.any Text.isDateTime
  | .uri, t => t.string?.any Text.isUri
  | .phone, _ => true

namespace PropertySchema

/-- What a value violates of the type of its property. -/
def typeViolations (p : PropertySchema) (v : Value) : List ViolationCause :=
  if v.isOfType p.type then [] else [.wrongType v p.type]

/-- What a value violates of the options of its property. -/
def optionViolations (p : PropertySchema) (v : Value) : List ViolationCause :=
  match p.options with
  | some options => if options.any fun o => o.same v then [] else [.notAnOption v options]
  | none => []

/-- What a text violates of the format of its property. -/
def formatViolations (p : PropertySchema) (v : Value) : List ViolationCause :=
  match p.format, v with
  | some format, .str s => if format.holds s then [] else [.wrongFormat v format]
  | _, _ => []

/-- What a text violates of the minimal length of its property. -/
def lengthViolations (p : PropertySchema) (v : Value) : List ViolationCause :=
  if p.nonEmpty && v = .str "" then [.empty v] else []

/-- What a value violates of its property, in order. -/
def violations (p : PropertySchema) (v : Value) : List ViolationCause :=
  p.typeViolations v ++ p.optionViolations v ++ p.formatViolations v ++ p.lengthViolations v

end PropertySchema

namespace GroupSchema

/-- What the properties that are given violate, in the order of the schema. -/
def propertyViolations (g : GroupSchema) (members : Entries Value) : List Violation :=
  g.properties.flatMap fun (name, p) =>
    match members.get? name with
    | some v => (p.violations v).map fun cause => ⟨some name, cause⟩
    | none => []

/-- The required properties that are not given, in the order of the schema. -/
def missingViolations (g : GroupSchema) (members : Entries Value) : List Violation :=
  (g.required.filter fun name => !members.has name).map fun name => ⟨none, .missing name⟩

/-- What a group of variables violates of its schema. -/
def violations (g : GroupSchema) : Value → List Violation
  | .object members => g.propertyViolations members ++ g.missingViolations members
  | v => [⟨none, .notObject v⟩]

end GroupSchema

end Formulary
