import Formulary.Store.Basic

/-!
# Operations on the store

An operation first finds out, by reading alone, what it comes to: a plan, with at
most one change, the answer, and the notices for when the change has been made.
The change is made in one place for all operations.  So an operation that fails
has changed nothing, whatever it failed of, and a storage that refuses writes
turns a change into an internal failure and into nothing else.

The storage takes texts in UTF-8.  One without a UTF-8 form is a fault, found
when it comes to the storage, so that a storage that lets nothing pass fails
first.

Main statements: `perform_error` and `perform_store`, which say what is left of
the store after an operation.
-/

namespace Formulary

/-- Who calls and when. -/
structure Caller where
  customer : Text
  now : Instant
  /-- An id that no row has yet. -/
  freshId : Text
deriving DecidableEq, Inhabited

/-- A document with the schema of its template, if the template is there. -/
structure ResolvedDocument where
  document : DocumentRow
  schema : Option Schema
deriving DecidableEq

/-- A resolved document under the names of the wire. -/
def ResolvedDocument.toWire (r : ResolvedDocument) : Value := .object [
  ("document", wireObject r.document.attributes),
  ("templateFound", .bool r.schema.isSome),
  ("templateSchema", (r.schema.map Schema.toValue).getD .null)]

/-- What an operation answers. -/
inductive Answer where
  | template (row : TemplateRow)
  | foundTemplate (row : Option TemplateRow)
  | templates (rows : List TemplateRow)
  | schema (schema : Schema)
  | document (row : DocumentRow)
  | documents (rows : List DocumentRow)
  | resolved (resolved : ResolvedDocument)
  | done
deriving DecidableEq

/-- What an operation comes to. -/
structure Plan where
  change : Option Change
  answer : Answer
  /-- The notices for when the change has been made. -/
  notices : List Notice

/-- A plan that only answers. -/
def Plan.answering (answer : Answer) : Plan := ⟨none, answer, []⟩

/-- A plan to put a row in the place of another; a row that stays the same is not
written. -/
def Plan.replacing {Row : Type} [DecidableEq Row] (change : Row → Change) (answer : Row → Answer)
    (old new : Row) : Plan :=
  ⟨if new = old then none else some (change new), answer new, []⟩

/-- What comes back from an operation, and the store after it. -/
structure Reply where
  outcome : Outcome Failure Answer
  store : Store
  /-- The fresh id was given to a row, stored or not. -/
  tookId : Bool

/-- The fault of handing texts to the storage, if one of them has no UTF-8
form. -/
def textFault? (texts : List Text) : Option Fault :=
  (texts.find? fun t => !t.isEncodable).map .unencodable

/-- Carries out a plan. -/
def Store.perform (store : Store) (plan : Outcome Failure Plan) : Reply :=
  match plan with
  | ⟨notices, .error failure⟩ => ⟨⟨notices, .error failure⟩, store, false⟩
  | ⟨notices, .ok plan⟩ =>
    match plan.change with
    | none => ⟨⟨notices ++ plan.notices, .ok plan.answer⟩, store, false⟩
    | some change =>
      if store.mode = .normal then
        match textFault? change.texts with
        | some fault => ⟨⟨notices, .error (.fault fault)⟩, store, change.inserts⟩
        | none => ⟨⟨notices ++ plan.notices, .ok plan.answer⟩, store.apply change, change.inserts⟩
      else
        ⟨⟨notices ++ [change.failureNotice], .error .internal⟩, store, change.inserts⟩

/-- A failed operation leaves the store as it was. -/
theorem Store.perform_error {store : Store} {plan : Outcome Failure Plan} {failure : Failure}
    (h : (store.perform plan).outcome.result = .error failure) :
    (store.perform plan).store = store := by
  unfold Store.perform at h ⊢
  split
  · rfl
  · dsimp only at h ⊢
    split
    · rfl
    · rename_i change hchange
      rw [hchange] at h
      split
      · rename_i hmode
        split
        · rfl
        · rename_i htexts
          simp [hmode, htexts] at h
      · rfl

/-- After an operation the store is as it was, or one change further. -/
theorem Store.perform_store (store : Store) (plan : Outcome Failure Plan) :
    (store.perform plan).store = store ∨
      ∃ change, store.mode = .normal ∧ (store.perform plan).store = store.apply change := by
  unfold Store.perform
  split
  · exact .inl rfl
  · split
    · exact .inl rfl
    · rename_i change _
      split
      · split
        · exact .inl rfl
        · exact .inr ⟨change, ‹_›, rfl⟩
      · exact .inl rfl

/-! ## Reading -/

namespace Store

/-- A look-up by texts, which fails with a notice when the storage is down. -/
def reading {α : Type} (store : Store) (texts : List Text) (failure : Notice) (a : α) :
    Outcome Failure α :=
  if store.mode = .down then ⟨[failure], .error .internal⟩
  else match textFault? texts with
    | some fault => .fail (.fault fault)
    | none => .ok a

/-- A customer's template, if it is there; no id finds none. -/
def findTemplate (store : Store) (id : Option Text) (customer : Text) :
    Outcome Failure (Option TemplateRow) :=
  store.reading (id.toList ++ [customer]) (.lookupFailed .template id)
    (id.bind fun id => store.template? id customer)

/-- A customer's template, which has to be there. -/
def getTemplate (store : Store) (id : Option Text) (customer : Text) :
    Outcome Failure TemplateRow := do
  match ← store.findTemplate id customer with
  | some row => return row
  | none => .fail (.notFound .template id)

/-- A customer's document, which has to be there; no id finds none. -/
def getDocument (store : Store) (id : Option Text) (customer : Text) :
    Outcome Failure DocumentRow := do
  match ← store.reading (id.toList ++ [customer]) (.lookupFailed .document id)
    (id.bind fun id => store.document? id customer) with
  | some row => return row
  | none => .fail (.notFound .document id)

/-- The template that a document refers to, if it is there; an empty id refers to
none and is not looked up. -/
def resolveTemplate (store : Store) (id customer : Text) : Outcome Failure (Option TemplateRow) :=
  if id = "" then .ok none else store.findTemplate (some id) customer

end Store

/-- Something read from a payload, or the failure that it could not be. -/
def Checked.orFail {α : Type} : Checked α → Outcome Failure α
  | .ok a => .ok a
  | .error issues => .fail (.unreadable issues)

end Formulary
