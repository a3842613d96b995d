import Formulary.Checked.Basic
import Formulary.Fault
import Formulary.Notice
import Formulary.Schema.Check

/-!
# Failures

Why an operation has no answer: one constructor for each cause, with the status
it has for a client and the wording of what the client is told.
-/

namespace Formulary

/-- What is wrong with one field of a document. -/
inductive Problem where
  /-- A field that a document needs is missing or blank. -/
  | required
  /-- A field that a document needs would become blank. -/
  | emptied
  /-- There is no template under the id that the document names. -/
  | templateNotFound (id : Value)
  /-- The payload is not of the right shape. -/
  | malformed (cause : IssueCause)
  /-- The variables do not match the template. -/
  | violated (cause : ViolationCause)
deriving DecidableEq

/-- A field of a document and what is wrong with it. -/
structure Complaint where
  field : Text
  problem : Problem
deriving DecidableEq

/-- The sentence that reports an entity as absent. -/
def notFoundMessage (entity : Text) : Option Text → Text
  | some id => entity ++ " with ID " ++ id ++ " not found"
  | none => entity ++ " not found"

/-- The wording of a complaint. -/
def Complaint.message (c : Complaint) : Text :=
  match c.problem with
  | .required => c.field ++ " is required"
  | .emptied => c.field ++ " must not be empty"
  | .templateNotFound id => notFoundMessage Entity.template.title (some id.plain)
  | .malformed cause => cause.message
  | .violated cause => cause.message

/-- A complaint as it is reported. -/
def Complaint.toValue (c : Complaint) : Value :=
  .object [("field", .str c.field), ("message", .str c.message)]

/-- Why a document is refused. -/
inductive RefusalReason where
  | malformed
  | incomplete
  | invalidUpdate
  | templateUnresolved
  | mismatch
deriving DecidableEq, Inhabited, Repr

/-- The wording of a reason. -/
def RefusalReason.message : RefusalReason → String
  | .malformed => "Validation failed"
  | .incomplete => "Missing required document fields"
  | .invalidUpdate => "Invalid document update"
  | .templateUnresolved => "Document template could not be resolved"
  | .mismatch => "Document variables do not match template"

/-- Why an operation has no answer. -/
inductive Failure where
  /-- There is no such thing, or it belongs to another customer. -/
  | notFound (entity : Entity) (id : Option Text)
  /-- A document is refused. -/
  | refused (reason : RefusalReason) (complaints : List Complaint)
  /-- The store has failed. -/
  | internal
  /-- A payload could not be read. -/
  | unreadable (issues : List Issue)
  /-- Data of an unforeseen shape. -/
  | fault (fault : Fault)
deriving DecidableEq

namespace Failure

/-- What a client is told about a refusal. -/
def refusalDetail (message : Text) (complaints : Value) : Value :=
  .object [("message", .str message), ("errors", complaints)]

/-- The fields that complaints are about, in order, if each of them is an
object. -/
def complaintFields (complaints : Value) : Except Fault (Option (List Value)) := do
  return (← complaints.items).mapM fun complaint =>
    complaint.members?.map fun members => Value.member members "field"

/-- The words for a failure that is nobody's business. -/
def internalDetail : String := "Internal Server Error"

end Failure

end Formulary
