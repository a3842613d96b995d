import Formulary.Store.Row

/-!
# The store

Two tables of rows and the mode that the storage is in.  Every look-up and every
change names the customer it is made for, and sees and touches only rows of that
customer.  A change is a value, so that what an operation is about to write can
be told before it is written.

Main statements: `template?_eq_some` and `document?_eq_some`, by which a
look-up answers only with rows of its customer.
-/

namespace Formulary

/-- What the storage lets pass. -/
inductive StorageMode where
  /-- Everything. -/
  | normal
  /-- Reads only: every write fails. -/
  | readOnly
  /-- Nothing. -/
  | down
deriving DecidableEq, Inhabited, Repr

/-- The tables and the mode of the storage. -/
structure Store where
  templates : List TemplateRow
  documents : List DocumentRow
  mode : StorageMode
deriving DecidableEq, Inhabited

/-- A store without rows. -/
def Store.empty : Store := ⟨[], [], .normal⟩

namespace TemplateRow

/-- The row is the one with an id, and belongs to a customer. -/
def isAt (row : TemplateRow) (id customer : Text) : Bool :=
  row.id = id && row.customer = customer

end TemplateRow

namespace DocumentRow

/-- The row is the one with an id, and belongs to a customer. -/
def isAt (row : DocumentRow) (id customer : Text) : Bool :=
  row.id = id && row.customer = customer

end DocumentRow

/-- One write to the store. -/
inductive Change where
  | insertTemplate (row : TemplateRow)
  | replaceTemplate (row : TemplateRow)
  | removeTemplate (id customer : Text)
  | insertDocument (row : DocumentRow)
  | replaceDocument (row : DocumentRow)
  | removeDocument (id customer : Text)
deriving DecidableEq

namespace Change

/-- The change makes a new row. -/
def inserts : Change → Bool
  | .insertTemplate _ | .insertDocument _ => true
  | _ => false

/-- The texts that the change writes or asks for. -/
def texts : Change → List Text
  | .insertTemplate row | .replaceTemplate row => row.texts
  | .insertDocument row | .replaceDocument row => row.texts
  | .removeTemplate id customer | .removeDocument id customer => [id, customer]

/-- The notice for when the change fails. -/
def failureNotice : Change → Notice
  | .insertTemplate _ => .createFailed .template
  | .replaceTemplate row => .updateFailed .template row.id
  | .removeTemplate id _ => .deleteFailed .template id
  | .insertDocument _ => .createFailed .document
  | .replaceDocument row => .updateFailed .document row.id
  | .removeDocument id _ => .deleteFailed .document id

end Change

namespace Store

/-- The store after a change. -/
def apply (store : Store) : Change → Store
  | .insertTemplate row => { store with templates := store.templates ++ [row] }
  | .replaceTemplate row =>
    { store with
      templates := store.templates.map fun r => if r.isAt row.id row.customer then row else r }
  | .removeTemplate id customer =>
    { store with templates := store.templates.filter fun r => !r.isAt id customer }
  | .insertDocument row => { store with documents := store.documents ++ [row] }
  | .replaceDocument row =>
    { store with
      documents := store.documents.map fun r => if r.isAt row.id row.customer then row else r }
  | .removeDocument id customer =>
    { store with documents := store.documents.filter fun r => !r.isAt id customer }

/-- A customer's template with an id. -/
def template? (store : Store) (id customer : Text) : Option TemplateRow :=
  store.templates.find? (·.isAt id customer)

/-- A customer's document with an id. -/
def document? (store : Store) (id customer : Text) : Option DocumentRow :=
  store.documents.find? (·.isAt id customer)

/-- A customer's templates, newest first. -/
def templatesOf (store : Store) (customer : Text) : List TemplateRow :=
  (store.templates.filter fun r => r.customer = customer).mergeSort
    fun a b => b.createdAt ≤ a.createdAt

/-- A customer's documents, newest first. -/
def documentsOf (store : Store) (customer : Text) : List DocumentRow :=
  (store.documents.filter fun r => r.customer = customer).mergeSort
    fun a b => b.createdAt ≤ a.createdAt

theorem template?_eq_some {store : Store} {id customer : Text} {row : TemplateRow}
    (h : store.template? id customer = some row) :
    row ∈ store.templates ∧ row.id = id ∧ row.customer = customer := by
  have hat := List.find?_some h
  simp only [TemplateRow.isAt, Bool.and_eq_true, decide_eq_true_eq] at hat
  exact ⟨List.mem_of_find?_eq_some h, hat⟩

theorem document?_eq_some {store : Store} {id customer : Text} {row : DocumentRow}
    (h : store.document? id customer = some row) :
    row ∈ store.documents ∧ row.id = id ∧ row.customer = customer := by
  have hat := List.find?_some h
  simp only [DocumentRow.isAt, Bool.and_eq_true, decide_eq_true_eq] at hat
  exact ⟨List.mem_of_find?_eq_some h, hat⟩

@[simp] theorem mode_apply (store : Store) (change : Change) :
    (store.apply change).mode = store.mode := by
  cases change <;> rfl

end Store

end Formulary
