import Formulary.Calendar
import Formulary.Document.Preparation
import Formulary.Template.Draft

/-!
# Rows

What the store keeps about a template and about a document.  A row belongs to the
customer who created it.  The groups of a template are kept as plain values, so
that rows written by other hands can be told from well-formed ones; the
variables of a document always are scalars.  Both are kept as JSON texts, and all
else as text in UTF-8.

A row that is written over keeps what it holds wherever the new value is alike:
the store does not write a group of fields or variables again that differs only
in the kinds of its numbers or in the order of its members.
-/

namespace Formulary

/-- What a row holds after a new thing is written over an old one. -/
def writeOver {α : Type} (toValue : α → Value) (old new : α) : α :=
  if (toValue old).alike (toValue new) then old else new

/-! ## Attributes that rows of both kinds have -/

/-- The attribute of a row's id. -/
def idAttribute : Attribute := .ofName "id"

/-- The attribute of the customer that a row belongs to. -/
def customerAttribute : Attribute := ⟨"customerId", "customer_id"⟩

/-- The attribute of the time at which a row was made. -/
def createdAttribute : Attribute := ⟨"createdAt", "created_at"⟩

/-- The attribute of the time of a row's last change. -/
def updatedAttribute : Attribute := ⟨"updatedAt", "updated_at"⟩

/-- The values of attributes under the names of the row. -/
def rowMembers (attributes : List (Attribute × Value)) : Entries Value :=
  attributes.map fun (a, v) => (a.row, v)

/-- The values of attributes under the names of the wire, as an object. -/
def wireObject (attributes : List (Attribute × Value)) : Value :=
  .object (attributes.map fun (a, v) => (a.wire, v))

/-! ## Rows -/

/-- A stored template. -/
structure TemplateRow where
  id : Text
  name : Text
  description : Option Text
  connectionId : Option Text
  groups : Groups Value
  customer : Text
  createdAt : Instant
  updatedAt : Instant
deriving DecidableEq, Inhabited

/-- A stored document. -/
structure DocumentRow where
  id : Text
  content : Content
  customer : Text
  createdAt : Instant
  updatedAt : Instant
deriving DecidableEq, Inhabited

namespace TemplateRow

/-- A new row.  It starts with a description, empty where the draft has none; only a
revision can take the description away. -/
def create (draft : TemplateDraft) (id customer : Text) (now : Instant) : TemplateRow where
  id := id
  name := draft.name
  description := some (draft.description.getD "")
  connectionId := draft.connectionId
  groups := draft.storedGroups.map Value.settled
  customer := customer
  createdAt := now
  updatedAt := now

/-- A row after a revision. -/
def revise (row : TemplateRow) (revision : TemplateRevision) (now : Instant) : TemplateRow :=
  { row with
    name := revision.name.toOption.getD row.name
    description := revision.description.update row.description
    connectionId := revision.connectionId.update row.connectionId
    groups := .ofFun fun g =>
      let old := row.groups.get g
      match revision.newFields? g with
      | some fields => (writeOver (fun v => v) old (.list (fields.map Field.toValue))).settled
      | none => old
    updatedAt := now }

/-- A row as the schema compiler sees it. -/
def view (row : TemplateRow) : TemplateView where
  name := .str row.name
  description := .ofText? row.description
  groups := row.groups

/-- The texts that a row holds, in the order in which they are written. -/
def texts (row : TemplateRow) : List Text :=
  [row.id, row.name] ++ row.description.toList ++ row.connectionId.toList ++ [row.customer]

/-- The attributes of a row. -/
def attributes (row : TemplateRow) : List (Attribute × Value) :=
  [(idAttribute, .str row.id), (nameAttribute, .str row.name),
    (descriptionAttribute, .ofText? row.description),
    (connectionAttribute, .ofText? row.connectionId)]
  ++ row.groups.toList.map (fun (g, v) => (g.fields, v))
  ++ [(customerAttribute, .str row.customer), (createdAttribute, .str row.createdAt.text),
    (updatedAttribute, .str row.updatedAt.text)]

end TemplateRow

namespace DocumentRow

/-- A new row. -/
def create (content : Content) (id customer : Text) (now : Instant) : DocumentRow where
  id := id
  content := content.settled
  customer := customer
  createdAt := now
  updatedAt := now

/-- A content written over another. -/
def writeContent (old new : Content) : Content :=
  Content.settled {
    name := new.name
    templateId := new.templateId
    objectVariables := writeOver Variables.toValue old.objectVariables new.objectVariables
    contactVariables := writeOver Variables.toValue old.contactVariables new.contactVariables
    lineItemVariables := writeOver lineItemsValue old.lineItemVariables new.lineItemVariables }

/-- A row after an update. -/
def update (row : DocumentRow) (changes : ContentChanges) (now : Instant) : DocumentRow :=
  { row with content := writeContent row.content (changes.apply row.content), updatedAt := now }

/-- The texts that a row holds, in the order in which they are written. -/
def texts (row : DocumentRow) : List Text :=
  [row.id, row.content.name, row.content.templateId, row.customer]

/-- The attributes of a row. -/
def attributes (row : DocumentRow) : List (Attribute × Value) :=
  [(idAttribute, .str row.id), (nameAttribute, .str row.content.name),
    (Submission.templateAttribute, .str row.content.templateId)]
  ++ row.content.variableGroups.toList.map (fun (g, v) => (g.variableGroup, v))
  ++ [(customerAttribute, .str row.customer), (createdAttribute, .str row.createdAt.text),
    (updatedAttribute, .str row.updatedAt.text)]

end DocumentRow

end Formulary
