import Formulary.Service.Basic

/-!
# Operations on documents

Creating, reading, updating and deleting a customer's documents.  The template of
a document is looked up among the customer's own and may be missing; only a
strict policy minds.
-/

namespace Formulary

namespace Payload

/-- A payload as it was sent, or read before anything else. -/
def ofInput (readFirst : Bool) (v : Value) : Outcome Failure Payload :=
  if readFirst then read <$> (Submission.ofValue v).orFail else .ok (.raw v)

/-- The template id that a payload gives, empty when it gives none.  What is
neither null nor an object has no attributes to ask for. -/
def templateId : Payload → Except Fault Text
  | .read submission => .ok (submission.templateId.toOption.getD "")
  | .raw .null => .ok ""
  | .raw (.object members) => .ok ((Submission.templateAttribute.read members).text?.getD "")
  | .raw v => .error (.noAttribute v Submission.templateAttribute.row)

end Payload

namespace Store

/-- A new document. -/
def planCreateDocument (store : Store) (policy : Policy) (caller : Caller) (payload : Payload) :
    Outcome Failure Plan := do
  let templateId ← (Outcome.ofExcept payload.templateId).mapError .fault
  let template ← store.resolveTemplate templateId caller.customer
  let content ← prepare policy (template.map TemplateRow.view) payload
  let row := DocumentRow.create content caller.freshId caller.customer caller.now
  let unknown := if template.isNone then [.templateUnknown row.id content.templateId] else []
  return ⟨some (.insertDocument row), .document row,
    unknown ++ [.created .document row.id caller.customer]⟩

/-- A document after an update.  It is checked against the template that the
update names, or else against the one it has. -/
def planUpdateDocument (store : Store) (policy : Policy) (caller : Caller) (id : Option Text)
    (payload : Payload) : Outcome Failure Plan := do
  let row ← store.getDocument id caller.customer
  let given ← (Outcome.ofExcept payload.templateId).mapError .fault
  let templateId := if given = "" then row.content.templateId else given
  let template ← store.resolveTemplate templateId caller.customer
  let changes ←
    prepareUpdate policy (template.map TemplateRow.view) payload (rowMembers row.attributes)
  return .replacing .replaceDocument .document row (row.update changes caller.now)

/-- A document gone. -/
def planDeleteDocument (store : Store) (caller : Caller) (id : Option Text) :
    Outcome Failure Plan := do
  let row ← store.getDocument id caller.customer
  return ⟨some (.removeDocument row.id caller.customer), .done,
    [.deleted .document row.id caller.customer]⟩

/-- A customer's documents, newest first. -/
def listDocuments (store : Store) (customer : Text) : Outcome Failure (List DocumentRow) :=
  store.reading [customer] (.listFailed .document customer) (store.documentsOf customer)

/-- A document with the schema of its template. -/
def resolveDocument (store : Store) (askNonEmpty : AskNonEmpty) (id : Option Text)
    (customer : Text) : Outcome Failure ResolvedDocument := do
  let row ← store.getDocument id customer
  match ← store.resolveTemplate row.content.templateId customer with
  | none =>
    .notify (.templateDangling row.id row.content.templateId)
    return ⟨row, none⟩
  | some template =>
    let schema ← (Schema.compile askNonEmpty template.view).mapError .fault
    return ⟨row, some schema⟩

end Store

end Formulary
