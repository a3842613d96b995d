import Formulary.FieldGroup

/-!
# Document submissions

The payload about a document, for a new one and for an update alike: every
attribute may be left out, and which of them has to be there is decided later.
A submission comes either as it was sent or already read.
-/

namespace Formulary

/-- What a payload says about a document. -/
structure Submission where
  name : Supplied Text
  templateId : Supplied Text
  objectVariables : Supplied Variables
  contactVariables : Supplied Variables
  lineItemVariables : Supplied (List Variables)
deriving DecidableEq, Inhabited

namespace Submission

/-- The attribute of a document's template. -/
def templateAttribute : Attribute := ⟨"templateId", "template_id"⟩

/-- A submission from a payload. -/
def ofValue : Reader Submission := Reader.record fun members =>
  mk <$> nameAttribute.supplied Reader.text members
    <*> templateAttribute.supplied Reader.text members
    <*> FieldGroup.object.variableGroup.supplied Reader.variableGroup members
    <*> FieldGroup.contact.variableGroup.supplied Reader.variableGroup members
    <*> FieldGroup.lineItem.variableGroup.supplied (Reader.list Reader.variableGroup) members

end Submission

/-- A submission as it is handed over. -/
inductive Payload where
  | raw (v : Value)
  | read (submission : Submission)
deriving DecidableEq

end Formulary
