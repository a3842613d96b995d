import Formulary.Value.Basic

/-!
# Kinds of fields

What a template may declare about a field, and what a schema says about it: the
declared type gives the schema type, and the validation kind, independently of
it, gives the format.  Stored templates hold both as tokens; a token that is not
known stands for plain text, or for no format.
-/

namespace Formulary

/-- The declared type of a field. -/
inductive FieldType where
  | text
  | number
  | date
  | select
  | checkbox
  | textarea
deriving DecidableEq, Inhabited, Repr

/-- What the text of a field is supposed to be. -/
inductive ValidationKind where
  | none
  | email
  | phone
  | date
  | number
  | url
deriving DecidableEq, Inhabited, Repr

/-- The type that a schema gives to a property. -/
inductive SchemaType where
  | string
  | number
  | boolean
deriving DecidableEq, Inhabited, Repr

/-- The format that a schema gives to a property. -/
inductive Format where
  | dateTime
  | email
  | phone
  | uri
deriving DecidableEq, Inhabited, Repr

/-! ## Tokens -/

namespace FieldType

/-- Every declared type, in the order in which messages list them. -/
def all : List FieldType := [.text, .number, .date, .select, .checkbox, .textarea]

/-- The token of a declared type. -/
def token : FieldType → String
  | .text => "text"
  | .number => "number"
  | .date => "date"
  | .select => "select"
  | .checkbox => "checkbox"
  | .textarea => "textarea"

/-- The declared type that a value is the token of. -/
def ofValue? (v : Value) : Option FieldType :=
  all.find? fun t => v = .str t.token

@[simp] theorem ofValue?_token (t : FieldType) : ofValue? (.str t.token) = some t := by
  cases t <;> decide

end FieldType

namespace ValidationKind

/-- Every validation kind, in the order in which messages list them. -/
def all : List ValidationKind := [.none, .email, .phone, .date, .number, .url]

/-- The token of a validation kind. -/
def token : ValidationKind → String
  | .none => "none"
  | .email => "email"
  | .phone => "phone"
  | .date => "date"
  | .number => "number"
  | .url => "url"

/-- The validation kind that a value is the token of. -/
def ofValue? (v : Value) : Option ValidationKind :=
  all.find? fun k => v = .str k.token

@[simp] theorem ofValue?_token (k : ValidationKind) : ofValue? (.str k.token) = some k := by
  cases k <;> decide

end ValidationKind

/-- The token of a schema type. -/
def SchemaType.token : SchemaType → String
  | .string => "string"
  | .number => "number"
  | .boolean => "boolean"

/-- The token of a format. -/
def Format.token : Format → String
  | .dateTime => "date-time"
  | .email => "email"
  | .phone => "phone"
  | .uri => "uri"

/-! ## From declarations to schemas -/

/-- The schema type of a declared type. -/
def FieldType.schemaType : FieldType → SchemaType
  | .number => .number
  | .checkbox => .boolean
  | .text | .textarea | .date | .select => .string

/-- The format of a validation kind. -/
def ValidationKind.format? : ValidationKind → Option Format
  | .date => some .dateTime
  | .email => some .email
  | .phone => some .phone
  | .url => some .uri
  | .none | .number => Option.none

/-- The schema type of a stored type: that of its token, or text. -/
def SchemaType.ofValue (v : Value) : SchemaType :=
  ((FieldType.ofValue? v).map FieldType.schemaType).getD .string

/-- The format of a stored validation kind: that of its token, or none. -/
def Format.ofValue? (v : Value) : Option Format :=
  (ValidationKind.ofValue? v).bind ValidationKind.format?

@[simp] theorem SchemaType.ofValue_token (t : FieldType) :
    SchemaType.ofValue (.str t.token) = t.schemaType := by
  simp [SchemaType.ofValue]

@[simp] theorem Format.ofValue?_token (k : ValidationKind) :
    Format.ofValue? (.str k.token) = k.format? := by
  simp [Format.ofValue?]

end Formulary
