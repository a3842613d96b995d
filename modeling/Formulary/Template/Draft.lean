import Formulary.Field.Basic
import Formulary.FieldGroup
import Formulary.Template.View

/-!
# Template drafts and revisions

The two payloads about templates: a draft, from which a template is created, and
a revision, which changes only what it supplies.  In both, the fields of a group
have different names.
-/

namespace Formulary

/-- The first name that a list holds a second time. -/
def firstRepeated? : (seen : List Text) → List Text → Option Text
  | _, [] => none
  | seen, name :: rest =>
    if seen.contains name then some name else firstRepeated? (name :: seen) rest

/-- The fields of a group, with different names. -/
def readFields : Reader (List Field) := fun v =>
  (Reader.list Field.ofValue v).andThen fun fields =>
    match firstRepeated? [] (fields.map Field.name) with
    | some name => .fail (.duplicateFieldName name) v
    | none => .ok fields

/-- The attribute of a template's outside connection. -/
def connectionAttribute : Attribute := ⟨"connectionId", "connection_id"⟩

/-! ## Drafts -/

/-- A template to be created. -/
structure TemplateDraft where
  name : Text
  description : Option Text
  connectionId : Option Text
  groups : Groups (List Field)
deriving DecidableEq, Inhabited

namespace TemplateDraft

/-- A group of a draft; null stands for no fields. -/
def readGroup (members : Entries Value) (g : FieldGroup) : Checked (List Field) :=
  g.fields.orDefault [] (fun v => if v = .null then .ok [] else readFields v) members

/-- A draft from a payload. -/
def ofValue : Reader TemplateDraft := Reader.record fun members =>
  mk <$> nameAttribute.required Reader.nonEmptyText members
    <*> descriptionAttribute.orDefault (some "") (Reader.nullable Reader.text) members
    <*> connectionAttribute.orDefault none (Reader.nullable Reader.text) members
    <*> (Groups.mk <$> readGroup members .object <*> readGroup members .contact
      <*> readGroup members .lineItem)

/-- The stored form of the groups. -/
def storedGroups (draft : TemplateDraft) : Groups Value :=
  draft.groups.map fun fields => .list (fields.map Field.toValue)

/-- A draft as the schema compiler sees it. -/
def view (draft : TemplateDraft) : TemplateView where
  name := .str draft.name
  description := .ofText? draft.description
  groups := draft.storedGroups

end TemplateDraft

/-! ## Revisions -/

/-- A change of a template. -/
structure TemplateRevision where
  name : Supplied Text
  description : Supplied Text
  connectionId : Supplied Text
  groups : Groups (Supplied (List Field))
deriving DecidableEq, Inhabited

namespace TemplateRevision

/-- A revision from a payload. -/
def ofValue : Reader TemplateRevision := Reader.record fun members =>
  mk <$> nameAttribute.supplied Reader.nonEmptyText members
    <*> descriptionAttribute.supplied Reader.text members
    <*> connectionAttribute.supplied Reader.text members
    <*> (Groups.mk <$> FieldGroup.object.fields.supplied readFields members
      <*> FieldGroup.contact.fields.supplied readFields members
      <*> FieldGroup.lineItem.fields.supplied readFields members)

/-- The new fields of a group, if the revision supplies them; null means none. -/
def newFields? (revision : TemplateRevision) (g : FieldGroup) : Option (List Field) :=
  (revision.groups.get g).change? []

/-- The changes of a revision under the names of the row's attributes.  A name
that is null is not a change. -/
def changes (revision : TemplateRevision) : Entries Value :=
  let text (a : Attribute) : Supplied Text → Entries Value
    | .absent => []
    | .null => [(a.row, .null)]
    | .value s => [(a.row, .str s)]
  let group (g : FieldGroup) : Entries Value :=
    match revision.newFields? g with
    | some fields => [(g.fields.row, .list (fields.map Field.toValue))]
    | none => []
  (match revision.name with
    | .value s => text nameAttribute (.value s)
    | _ => [])
    ++ text descriptionAttribute revision.description
    ++ text connectionAttribute revision.connectionId
    ++ FieldGroup.all.flatMap group

end TemplateRevision

end Formulary
