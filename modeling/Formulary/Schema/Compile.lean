import Formulary.Fault
import Formulary.Field.Default
import Formulary.Outcome
import Formulary.Schema.Basic
import Formulary.Template.View
import Formulary.Text.Blank

/-!
# Compiling templates

From a template view to its schema.  Unknown tokens and unusable fields are put
up with: a field without a name is skipped, of two fields with one name the last
counts and stands where the first stood, and a default that does not fit is
dropped, each with a notice.

The only failures are a group, or the options of a select field, that count as
true and have no items to go over.
-/

namespace Formulary

/-- Whether required text fields ask for at least one character. -/
abbrev AskNonEmpty := Bool

namespace PropertySchema

/-- The options of a select field; other fields have none. -/
def compileOptions (field : Entries Value) : Except Fault (Option (List Value)) :=
  let options := Value.member field "options"
  if FieldType.ofValue? (Value.member field "type") = some .select && options.truthy then
    options.items.map some
  else .ok none

/-- The default of a field, with a notice when it does not fit. -/
def compileDefault (type : SchemaType) (field : Entries Value) : Outcome Fault (Option Scalar) :=
  let default := Value.member field "defaultValue"
  if default = .null || default = .str "" then .ok none
  else match type.fitValue? default with
    | some a => .ok (some a)
    | none => do
      .notify (.defaultDropped default (Value.member field "name") type)
      return none

/-- The schema of a field, given by its members. -/
def compile (askNonEmpty : AskNonEmpty) (field : Entries Value) :
    Outcome Fault PropertySchema := do
  let type := SchemaType.ofValue (Value.member field "type")
  let description := Value.member field "description"
  let options ← .ofExcept (compileOptions field)
  let default? ← compileDefault type field
  return {
    type := type
    title := Value.member field "name"
    description := if description.truthy then some description else none
    options := options
    format := Format.ofValue? (Value.member field "validation")
    nonEmpty := (Value.member field "required").truthy && type = .string && askNonEmpty
    default? := default? }

end PropertySchema

namespace GroupSchema

/-- The members of a field; what is no object has none. -/
def fieldMembers (field : Value) : Entries Value := field.members?.getD []

/-- The name of a field, if it has one with a solid character. -/
def usableName? (field : Value) : Option Text :=
  (Value.member (fieldMembers field) "name").text?.filter fun name => !Text.isBlankText name

/-- A field counts as required. -/
def isRequired (field : Value) : Bool := (Value.member (fieldMembers field) "required").truthy

/-- A name at the end of a list, unless it is there already. -/
def addName (names : List Text) (name : Text) : List Text :=
  if names.contains name then names else names ++ [name]

/-- A group's schema with one more field. -/
def addField (askNonEmpty : AskNonEmpty) (g : GroupSchema) (field : Value) :
    Outcome Fault GroupSchema :=
  match usableName? field with
  | none => do
    .notify (.fieldSkipped g.title)
    return g
  | some name => do
    .notifyAll (if g.properties.has name then [.fieldRepeated name g.title] else [])
    let property ← PropertySchema.compile askNonEmpty (fieldMembers field)
    return { g with
      properties := g.properties.put name property
      required := if isRequired field then addName g.required name else g.required }

/-- The schema of a group, from its fields in order. -/
def compile (askNonEmpty : AskNonEmpty) (title : Value) (fields : List Value) :
    Outcome Fault GroupSchema :=
  fields.foldlM (addField askNonEmpty) ⟨title, [], []⟩

end GroupSchema

namespace Schema

/-- The schema of one group of a template; a group that does not count as true is
empty. -/
def compileGroup (askNonEmpty : AskNonEmpty) (view : TemplateView) (g : FieldGroup) :
    Outcome Fault GroupSchema := do
  let fields ← .ofExcept ((view.groups.get g).orElse (.list [])).items
  GroupSchema.compile askNonEmpty (.str g.title) fields

/-- The schema of a template. -/
def compile (askNonEmpty : AskNonEmpty) (view : TemplateView) : Outcome Fault Schema := do
  let object ← compileGroup askNonEmpty view .object
  let contact ← compileGroup askNonEmpty view .contact
  let lineItem ← compileGroup askNonEmpty view .lineItem
  return {
    title := view.name.orElse (.str "")
    description := if view.description.truthy then some view.description else none
    groups := ⟨object, contact, lineItem⟩ }

end Schema

end Formulary
