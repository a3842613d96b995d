import Formulary.Proofs.Service.Effect
import Formulary.Proofs.Store.Table

/-!
# Sessions

A session is what many customers do to one store, one operation after the other,
while the storage changes its mode.  Every call comes with the clock reading and
the fresh id that it is given, so that a session can be taken apart: the calls
of one customer alone are a session again, with the same readings and ids.

* `move`, `after` and `answers` run a session.
* `templates_run` and `documents_run` say what one operation does to the tables:
  nothing, or one write to the rows of the caller.
* `Fresh` says that what a call is given is new, and `FreshFor` that this is so at
  every call of a customer in a session.
-/

namespace Formulary

/-- One step of a session. -/
inductive Move where
  /-- A customer asks for something. -/
  | call (caller : Caller) (operation : Operation)
  /-- The storage changes its mode. -/
  | storage (mode : StorageMode)
deriving DecidableEq

/-- An operation makes a row of a kind. -/
def Operation.creates : Operation → Entity → Bool
  | .createTemplate _, .template | .createDocument .., .document => true
  | _, _ => false

namespace Move

/-- The step concerns a customer: it is a call of the customer, or no call. -/
def concerns (customer : Text) : Move → Bool
  | call caller _ => caller.customer = customer
  | storage _ => true

end Move

namespace Store

/-- A store after one step. -/
def move (policy : Policy) (store : Store) : Move → Store
  | .call caller operation => (store.run policy caller operation).store
  | .storage mode => { store with mode := mode }

/-- A store after a session. -/
def after (policy : Policy) (store : Store) (moves : List Move) : Store :=
  moves.foldl (move policy) store

/-- What the calls of a session are answered, each with the customer who called. -/
def answers (policy : Policy) (store : Store) :
    List Move → List (Text × Outcome Failure Answer)
  | [] => []
  | .call caller operation :: moves =>
    (caller.customer, (store.run policy caller operation).outcome)
      :: answers policy (store.move policy (.call caller operation)) moves
  | .storage mode :: moves => answers policy (store.move policy (.storage mode)) moves

/-! ## What one operation writes -/

variable {store : Store} {policy : Policy} {caller : Caller} {operation : Operation}
  {change : Change}

/-- The write of a change to the table of templates is the caller's. -/
theorem Effect.templateWrite (h : store.Effect policy caller operation change)
    {w : Table.Write TemplateRow} (hw : change.templateWrite? = some w) :
    w.MadeBy (operation.creates .template) caller.customer caller.freshId caller.now
      store.templates := by
  cases h with
  | createTemplate _ =>
    cases hw
    exact ⟨rfl, rfl, rfl, rfl⟩
  | updateTemplate _ hrow =>
    cases hw
    obtain ⟨hmem, hid, hcustomer⟩ := template?_eq_some hrow
    exact ⟨hcustomer, _, hmem, Table.isAt_iff.2 ⟨rfl, hcustomer⟩, rfl⟩
  | deleteTemplate _ =>
    cases hw
    rfl
  | createDocument | updateDocument | deleteDocument => cases hw

/-- The write of a change to the table of documents is the caller's. -/
theorem Effect.documentWrite (h : store.Effect policy caller operation change)
    {w : Table.Write DocumentRow} (hw : change.documentWrite? = some w) :
    w.MadeBy (operation.creates .document) caller.customer caller.freshId caller.now
      store.documents := by
  cases h with
  | createDocument _ _ _ _ =>
    cases hw
    exact ⟨rfl, rfl, rfl, rfl⟩
  | updateDocument _ hrow _ _ _ =>
    cases hw
    obtain ⟨hmem, hid, hcustomer⟩ := document?_eq_some hrow
    exact ⟨hcustomer, _, hmem, Table.isAt_iff.2 ⟨rfl, hcustomer⟩, rfl⟩
  | deleteDocument _ =>
    cases hw
    rfl
  | createTemplate | updateTemplate | deleteTemplate => cases hw

/-- What an operation does to the table of templates. -/
theorem templates_run (store : Store) (policy : Policy) (caller : Caller)
    (operation : Operation) :
    Table.Step (operation.creates .template) caller.customer caller.freshId caller.now
      store.templates (store.run policy caller operation).store.templates := by
  rcases run_store store policy caller operation with hsame | ⟨change, heffect, hrun⟩
  · rw [hsame]
    exact .same
  · rw [hrun, templates_apply]
    cases hw : change.templateWrite? with
    | none => exact .same
    | some w => exact .write w (heffect.templateWrite hw)

/-- What an operation does to the table of documents. -/
theorem documents_run (store : Store) (policy : Policy) (caller : Caller)
    (operation : Operation) :
    Table.Step (operation.creates .document) caller.customer caller.freshId caller.now
      store.documents (store.run policy caller operation).store.documents := by
  rcases run_store store policy caller operation with hsame | ⟨change, heffect, hrun⟩
  · rw [hsame]
    exact .same
  · rw [hrun, documents_apply]
    cases hw : change.documentWrite? with
    | none => exact .same
    | some w => exact .write w (heffect.documentWrite hw)

/-- No operation changes the mode of the storage. -/
theorem mode_run (store : Store) (policy : Policy) (caller : Caller) (operation : Operation) :
    (store.run policy caller operation).store.mode = store.mode := by
  rcases run_store store policy caller operation with hsame | ⟨change, -, hrun⟩
  · rw [hsame]
  · rw [hrun, mode_apply]

/-! ## New ids and clock readings -/

/-- No row has an id. -/
def IdUnused (store : Store) (id : Text) : Prop :=
  Table.IdUnused store.templates id ∧ Table.IdUnused store.documents id

/-- What a call is given is new: its id to the store and, where the call makes a row,
its clock reading to the rows of that kind that the caller has. -/
structure Fresh (store : Store) (caller : Caller) (operation : Operation) : Prop where
  id : store.IdUnused caller.freshId
  templateTime : operation.creates .template →
    Table.TimeUnused (Table.own caller.customer store.templates) caller.now
  documentTime : operation.creates .document →
    Table.TimeUnused (Table.own caller.customer store.documents) caller.now

instance (store : Store) (id : Text) : Decidable (store.IdUnused id) :=
  inferInstanceAs (Decidable (_ ∧ _))

instance (store : Store) (caller : Caller) (operation : Operation) :
    Decidable (store.Fresh caller operation) :=
  decidable_of_iff
    (store.IdUnused caller.freshId
      ∧ (operation.creates .template →
        Table.TimeUnused (Table.own caller.customer store.templates) caller.now)
      ∧ (operation.creates .document →
        Table.TimeUnused (Table.own caller.customer store.documents) caller.now))
    ⟨fun h => ⟨h.1, h.2.1, h.2.2⟩, fun h => ⟨h.id, h.templateTime, h.documentTime⟩⟩

/-- At every call of a customer in a session, what the call is given is new. -/
def FreshFor (policy : Policy) (customer : Text) : Store → List Move → Prop
  | _, [] => True
  | store, .call caller operation :: moves =>
    (caller.customer = customer → store.Fresh caller operation)
      ∧ FreshFor policy customer (store.move policy (.call caller operation)) moves
  | store, .storage mode :: moves =>
    FreshFor policy customer (store.move policy (.storage mode)) moves

instance decidableFreshFor (policy : Policy) (customer : Text) :
    (store : Store) → (moves : List Move) → Decidable (store.FreshFor policy customer moves)
  | _, [] => .isTrue trivial
  | store, .call caller operation :: moves =>
    have := decidableFreshFor policy customer (store.move policy (.call caller operation)) moves
    inferInstanceAs (Decidable (_ ∧ _))
  | store, .storage mode :: moves =>
    decidableFreshFor policy customer (store.move policy (.storage mode)) moves

end Store

end Formulary
