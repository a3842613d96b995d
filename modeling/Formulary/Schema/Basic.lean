import Formulary.FieldGroup

/-!
# Schemas

The JSON Schema of a template: for each field group an object schema whose
properties are the fields.  `toValue` gives the schema document, with its keys
in the order in which they are published.
-/

namespace Formulary

/-- The schema of one field. -/
structure PropertySchema where
  type : SchemaType
  title : Value
  description : Option Value
  options : Option (List Value)
  format : Option Format
  /-- At least one character is asked for. -/
  nonEmpty : Bool
  default? : Option Scalar
deriving DecidableEq

/-- The schema of one field group. -/
structure GroupSchema where
  title : Value
  properties : Entries PropertySchema
  required : List Text
deriving DecidableEq

/-- The schema of a template. -/
structure Schema where
  title : Value
  description : Option Value
  groups : Groups GroupSchema
deriving DecidableEq

/-- The dialect that a schema names. -/
def Schema.dialect : String := "http://json-schema.org/draft-07/schema#"

/-- A key that is written only with a value. -/
def optionalKey (name : Text) : Option Value → List (Text × Value)
  | some v => [(name, v)]
  | none => []

namespace PropertySchema

/-- The schema document of a field. -/
def toValue (p : PropertySchema) : Value := .object <|
  ([("type", .str p.type.token), ("title", p.title)] : Entries Value)
    ++ optionalKey "description" p.description
    ++ optionalKey "enum" (p.options.map .list)
    ++ optionalKey "format" (p.format.map fun f => .str f.token)
    ++ optionalKey "minLength" (if p.nonEmpty then some (.int 1) else none)
    ++ optionalKey "default" (p.default?.map Scalar.toValue)

end PropertySchema

namespace GroupSchema

/-- The schema document of a field group. -/
def toValue (g : GroupSchema) : Value := .object [
  ("type", .str "object"),
  ("title", g.title),
  ("properties", .object (g.properties.mapValues PropertySchema.toValue)),
  ("required", .list (g.required.map .str))]

end GroupSchema

namespace Schema

/-- The schema document of a template. -/
def toValue (s : Schema) : Value := .object <|
  ([("$schema", .str dialect), ("type", .str "object"), ("title", s.title)] : Entries Value)
    ++ optionalKey "description" s.description
    ++ ([("properties",
        .object (s.groups.toList.map fun (g, schema) => (g.fields.wire, schema.toValue))),
      ("required", .list (FieldGroup.all.map fun g => .str g.fields.wire))] : Entries Value)

end Schema

end Formulary
