import Formulary.Service.Basic

/-!
# Operations on templates

Creating, reading, revising and deleting a customer's templates, and their
schemas.
-/

namespace Formulary

/-- The notices about select fields of a group that have no options. -/
def optionNotices (g : FieldGroup) (fields : List Field) : List Notice :=
  (fields.filter fun f => f.type = .select && f.options.isEmpty).map fun f =>
    .optionsMissing f.name g

namespace Store

/-- A new template from a draft. -/
def planCreateTemplate (caller : Caller) (payload : Value) : Outcome Failure Plan := do
  let draft ← (TemplateDraft.ofValue payload).orFail
  .notifyAll (draft.groups.toList.flatMap fun (g, fields) => optionNotices g fields)
  let row := TemplateRow.create draft caller.freshId caller.customer caller.now
  return ⟨some (.insertTemplate row), .template row, [.created .template row.id caller.customer]⟩

/-- A template after a revision. -/
def planUpdateTemplate (store : Store) (caller : Caller) (id : Option Text) (payload : Value) :
    Outcome Failure Plan := do
  let revision ← (TemplateRevision.ofValue payload).orFail
  let row ← store.getTemplate id caller.customer
  .notifyAll (FieldGroup.all.flatMap fun g => optionNotices g ((revision.newFields? g).getD []))
  return .replacing .replaceTemplate .template row (row.revise revision caller.now)

/-- A template gone; the documents that refer to it stay. -/
def planDeleteTemplate (store : Store) (caller : Caller) (id : Option Text) :
    Outcome Failure Plan := do
  let row ← store.getTemplate id caller.customer
  return ⟨some (.removeTemplate row.id caller.customer), .done,
    [.deleted .template row.id caller.customer]⟩

/-- A customer's templates, newest first. -/
def listTemplates (store : Store) (customer : Text) : Outcome Failure (List TemplateRow) :=
  store.reading [customer] (.listFailed .template customer) (store.templatesOf customer)

/-- The schema of a customer's template. -/
def getSchema (store : Store) (askNonEmpty : AskNonEmpty) (id : Option Text)
    (customer : Text) : Outcome Failure Schema := do
  let row ← store.getTemplate id customer
  (Schema.compile askNonEmpty row.view).mapError .fault

end Store

end Formulary
