import Formulary.FieldGroup
import Formulary.Value.Shown

/-!
# Notices

What the library reports while it works, besides its answers: one constructor
for each kind of event, with the level and the wording of its log line.
-/

namespace Formulary

/-- The two kinds of stored things. -/
inductive Entity where
  | template
  | document
deriving DecidableEq, Inhabited, Repr

namespace Entity

/-- The noun for one of them. -/
def noun : Entity → String
  | .template => "template"
  | .document => "document"

/-- The noun at the start of a sentence. -/
def title : Entity → String
  | .template => "Template"
  | .document => "Document"

end Entity

/-- An event that is reported. -/
inductive Notice where
  /-- A field without a usable name was left out of a group's schema. -/
  | fieldSkipped (groupTitle : Value)
  /-- A field's name was in its group already. -/
  | fieldRepeated (name : Text) (groupTitle : Value)
  /-- A default does not fit the schema type of its field. -/
  | defaultDropped (default name : Value) (type : SchemaType)
  /-- A select field was stored without options. -/
  | optionsMissing (name : Text) (group : FieldGroup)
  /-- A document's variables do not match its template. -/
  | documentRejected (template : Value) (count : Nat)
  | created (entity : Entity) (id customer : Text)
  | deleted (entity : Entity) (id customer : Text)
  /-- A new document's template was not found. -/
  | templateUnknown (document template : Text)
  /-- A stored document's template was not found. -/
  | templateDangling (document template : Text)
  | listFailed (entity : Entity) (customer : Text)
  | lookupFailed (entity : Entity) (id : Option Text)
  | createFailed (entity : Entity)
  | updateFailed (entity : Entity) (id : Text)
  | deleteFailed (entity : Entity) (id : Text)
  /-- A request came without a customer identity. -/
  | unidentified (method path : String)
  /-- A save failed. -/
  | saveFailed (reason : Text)
deriving DecidableEq

/-- How serious a notice is. -/
inductive Severity where
  | info
  | warning
  | error
deriving DecidableEq, Inhabited, Repr

/-- The name of a severity. -/
def Severity.name : Severity → String
  | .info => "INFO"
  | .warning => "WARNING"
  | .error => "ERROR"

namespace Notice

/-- What a failing store says. -/
def storageFault : String := "storage fault"

/-- The severity of a notice. -/
def severity : Notice → Severity
  | .fieldSkipped _ | .fieldRepeated .. | .defaultDropped .. | .optionsMissing ..
  | .templateUnknown .. => .warning
  | .documentRejected .. | .created .. | .deleted .. | .templateDangling ..
  | .unidentified .. => .info
  | .listFailed .. | .lookupFailed .. | .createFailed _ | .updateFailed .. | .deleteFailed ..
  | .saveFailed _ => .error

/-- The wording of a notice. -/
def message : Notice → Text
  | .fieldSkipped title => "Skipping field without a name in group '" ++ title.plain ++ "'"
  | .fieldRepeated name title =>
    "Duplicate field '" ++ name ++ "' in group '" ++ title.plain ++ "', last definition wins"
  | .defaultDropped default name type =>
    "Dropping default " ++ default.shown ++ " for field '" ++ name.plain
      ++ "': not representable as " ++ type.token
  | .optionsMissing name group =>
    "Select field '" ++ name ++ "' in " ++ group.fields.row ++ " has no options"
  | .documentRejected template count =>
    "Document rejected by template " ++ template.plain ++ ": " ++ toString count ++ " error(s)"
  | .created entity id customer =>
    "Created " ++ entity.noun ++ " " ++ id ++ " for customer " ++ customer
  | .deleted entity id customer =>
    "Deleted " ++ entity.noun ++ " " ++ id ++ " for customer " ++ customer
  | .templateUnknown document template =>
    "Document " ++ document ++ " references unknown template " ++ template
  | .templateDangling document template =>
    "Document " ++ document ++ " has a dangling template reference " ++ template
  | .listFailed entity customer =>
    "Error retrieving " ++ entity.noun ++ "s for customer " ++ customer ++ ": " ++ storageFault
  | .lookupFailed entity id =>
    "Error retrieving " ++ entity.noun ++ " " ++ (Value.ofText? id).plain ++ ": " ++ storageFault
  | .createFailed entity => "Error creating " ++ entity.noun ++ ": " ++ storageFault
  | .updateFailed entity id =>
    "Error updating " ++ entity.noun ++ " " ++ id ++ ": " ++ storageFault
  | .deleteFailed entity id =>
    "Error deleting " ++ entity.noun ++ " " ++ id ++ ": " ++ storageFault
  | .unidentified method path => "Rejected " ++ method ++ " " ++ path ++ ": no customer ID"
  | .saveFailed reason => "Auto-save failed: " ++ reason

/-- The log line of a notice. -/
def line (notice : Notice) : Text := notice.severity.name ++ " " ++ notice.message

end Notice

end Formulary
