import Formulary.Document.Submission
import Formulary.Failure
import Formulary.Schema.Compile

/-!
# Preparing documents

What a submission comes to before it is stored: the content of a new document,
or the changes of a stored one.  A new document needs a name and a template id
that are not blank; an update may leave them out but not blank them.  Variables
that are null or left out of a new document are empty.

A strict policy also asks that the template is there and that the variables, for
an update merged with the stored ones, match its schema.
-/

namespace Formulary

/-- How documents are checked. -/
structure Policy where
  strict : Bool
  askNonEmpty : AskNonEmpty
deriving DecidableEq, Inhabited

/-- The content of a document. -/
structure Content where
  name : Text
  templateId : Text
  objectVariables : Variables
  contactVariables : Variables
  lineItemVariables : List Variables
deriving DecidableEq, Inhabited

/-- A content as JSON texts keep it. -/
def Content.settled (c : Content) : Content :=
  { c with
    objectVariables := c.objectVariables.settled
    contactVariables := c.contactVariables.settled
    lineItemVariables := c.lineItemVariables.map Variables.settled }

/-- Groups of line items as a value. -/
def lineItemsValue (items : List Variables) : Value := .list (items.map Variables.toValue)

/-- The variables of a document, by group. -/
def Content.variableGroups (c : Content) : Groups Value :=
  ⟨c.objectVariables.toValue, c.contactVariables.toValue, lineItemsValue c.lineItemVariables⟩

/-- The changes of a stored document: what is left out stays. -/
structure ContentChanges where
  name : Option Text
  templateId : Option Text
  objectVariables : Option Variables
  contactVariables : Option Variables
  lineItemVariables : Option (List Variables)
deriving DecidableEq, Inhabited

namespace ContentChanges

/-- A content with changes made. -/
def apply (changes : ContentChanges) (c : Content) : Content where
  name := changes.name.getD c.name
  templateId := changes.templateId.getD c.templateId
  objectVariables := changes.objectVariables.getD c.objectVariables
  contactVariables := changes.contactVariables.getD c.contactVariables
  lineItemVariables := changes.lineItemVariables.getD c.lineItemVariables

/-- The changed variables of a group, if they are changed. -/
def variableGroup? (changes : ContentChanges) : FieldGroup → Option Value
  | .object => changes.objectVariables.map Variables.toValue
  | .contact => changes.contactVariables.map Variables.toValue
  | .lineItem => changes.lineItemVariables.map lineItemsValue

/-- The changes under the names of the row's attributes. -/
def toMembers (changes : ContentChanges) : Entries Value :=
  optionalKey nameAttribute.row (changes.name.map .str)
    ++ optionalKey Submission.templateAttribute.row (changes.templateId.map .str)
    ++ FieldGroup.all.flatMap fun g => optionalKey g.variableGroup.row (changes.variableGroup? g)

end ContentChanges

/-! ## Variables against a template -/

/-- The violations of a group of variables as complaints below a path. -/
def groupComplaints (path : Text) (schema : GroupSchema) (v : Value) : List Complaint :=
  (schema.violations v).map fun violation =>
    let field := match violation.property with
      | some name => path ++ "." ++ name
      | none => path
    ⟨field, .violated violation.cause⟩

/-- What the variables of a document violate of a schema.  Variables that do not
count as true are empty; line items are checked one by one. -/
def Schema.complaints (schema : Schema) (vars : Groups Value) :
    Except Fault (List Complaint) := do
  let ofGroup (g : FieldGroup) : List Complaint :=
    groupComplaints g.variableGroup.wire (schema.groups.get g)
      ((vars.get g).orElse (.object []))
  let items ← (vars.lineItem.orElse (.list [])).items
  let ofItems := items.mapIdx fun i item =>
    groupComplaints (FieldGroup.lineItem.variableGroup.wire ++ "." ++ toString i)
      schema.groups.lineItem item
  return ofGroup .object ++ ofGroup .contact ++ ofItems.flatten

/-- What the variables of a document violate of a template. -/
def templateComplaints (askNonEmpty : AskNonEmpty) (template : TemplateView)
    (vars : Groups Value) : Outcome Fault (List Complaint) := do
  let schema ← Schema.compile askNonEmpty template
  .ofExcept (schema.complaints vars)

/-- `templateComplaints` for variables in an unchecked object, under the names of
the row's attributes. -/
def objectComplaints (askNonEmpty : AskNonEmpty) (template : TemplateView) (vars : Value) :
    Outcome Fault (List Complaint) := do
  let schema ← Schema.compile askNonEmpty template
  match vars with
  | .object members =>
    .ofExcept (schema.complaints (.ofFun fun g => Value.member members g.variableGroup.row))
  | v => .fail (.noAttribute v "get")

/-- The check of a strict policy: the template is there and the variables match
it. -/
def requireMatch (askNonEmpty : AskNonEmpty) (template : Option TemplateView) (templateId : Value)
    (vars : Groups Value) : Outcome Failure Unit :=
  match template with
  | none =>
    .fail (.refused .templateUnresolved
      [⟨Submission.templateAttribute.wire, .templateNotFound templateId⟩])
  | some template => do
    let complaints ← (templateComplaints askNonEmpty template vars).mapError .fault
    if complaints.isEmpty then return
    else
      .notify (.documentRejected templateId complaints.length)
      .fail (.refused .mismatch complaints)

/-! ## Preparation -/

namespace Payload

/-- The submission that a payload holds; one that does not count as true is
empty. -/
def submission : Payload → Except Failure Submission
  | .read submission => .ok submission
  | .raw v =>
    match Submission.ofValue (v.orElse (.object [])) with
    | .ok submission => .ok submission
    | .error issues =>
      .error (.refused .malformed (issues.map fun issue => ⟨issue.path, .malformed issue.cause⟩))

end Payload

namespace Submission

/-- A text that is there and not blank. -/
def solid? (a : Supplied Text) : Option Text :=
  a.toOption.filter fun s => !Text.isBlankText s

/-- The names of the attributes that a new document needs and does not have. -/
def missing (s : Submission) : List String :=
  (if (solid? s.name).isNone then [nameAttribute.wire] else [])
    ++ (if (solid? s.templateId).isNone then [templateAttribute.wire] else [])

/-- The names of the attributes that an update would blank. -/
def emptied (s : Submission) : List String :=
  (if s.name.isSupplied && (solid? s.name).isNone then [nameAttribute.wire] else [])
    ++ (if s.templateId.isSupplied && (solid? s.templateId).isNone then [templateAttribute.wire]
      else [])

/-- The content of a new document. -/
def content (s : Submission) : Content where
  name := s.name.getD ""
  templateId := s.templateId.getD ""
  objectVariables := s.objectVariables.getD []
  contactVariables := s.contactVariables.getD []
  lineItemVariables := s.lineItemVariables.getD []

/-- The changes of an update. -/
def changes (s : Submission) : ContentChanges where
  name := s.name.toOption
  templateId := s.templateId.toOption
  objectVariables := s.objectVariables.change? []
  contactVariables := s.contactVariables.change? []
  lineItemVariables := s.lineItemVariables.change? []

end Submission

/-- The content of a new document, checked. -/
def prepare (policy : Policy) (template : Option TemplateView) (payload : Payload) :
    Outcome Failure Content := do
  let submission ← .ofExcept payload.submission
  let missing := submission.missing
  if missing.isEmpty then
    let content := submission.content
    if policy.strict then
      requireMatch policy.askNonEmpty template (.str content.templateId) content.variableGroups
    return content
  else .fail (.refused .incomplete (missing.map fun name : String => ⟨name, .required⟩))

/-- The changes of a stored document, checked; `existing` holds the stored
attributes under the names of the row. -/
def prepareUpdate (policy : Policy) (template : Option TemplateView) (payload : Payload)
    (existing : Entries Value) : Outcome Failure ContentChanges := do
  let submission ← .ofExcept payload.submission
  let emptied := submission.emptied
  if emptied.isEmpty then
    let changes := submission.changes
    if policy.strict then
      let templateId := (changes.templateId.map Value.str).getD
        (Value.member existing Submission.templateAttribute.row)
      let merged : Groups Value := .ofFun fun g =>
        (changes.variableGroup? g).getD (Value.member existing g.variableGroup.row)
      requireMatch policy.askNonEmpty template templateId merged
    return changes
  else .fail (.refused .invalidUpdate (emptied.map fun name : String => ⟨name, .emptied⟩))

end Formulary
