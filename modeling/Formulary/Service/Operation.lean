import Formulary.Service.Documents
import Formulary.Service.Templates

/-!
# The service

Everything that a customer can ask for, as one type of operations, and the one
step that answers an operation.
-/

namespace Formulary

/-- What a customer asks for, with its payload as it was sent. -/
inductive Operation where
  | createTemplate (payload : Value)
  | updateTemplate (id : Option Text) (payload : Value)
  | getTemplate (id : Option Text)
  | findTemplate (id : Option Text)
  | listTemplates
  | deleteTemplate (id : Option Text)
  | getSchema (id : Option Text)
  | createDocument (readFirst : Bool) (payload : Value)
  | updateDocument (readFirst : Bool) (id : Option Text) (payload : Value)
  | getDocument (id : Option Text)
  | listDocuments
  | deleteDocument (id : Option Text)
  | resolveDocument (id : Option Text)
deriving DecidableEq

namespace Store

/-- What an operation comes to, found out by reading alone. -/
def plan (store : Store) (policy : Policy) (caller : Caller) : Operation → Outcome Failure Plan
  | .createTemplate payload => planCreateTemplate caller payload
  | .updateTemplate id payload => store.planUpdateTemplate caller id payload
  | .getTemplate id => do
    let row ← store.getTemplate id caller.customer
    return .answering (.template row)
  | .findTemplate id => do
    let row ← store.findTemplate id caller.customer
    return .answering (.foundTemplate row)
  | .listTemplates => do
    let rows ← store.listTemplates caller.customer
    return .answering (.templates rows)
  | .deleteTemplate id => store.planDeleteTemplate caller id
  | .getSchema id => do
    let schema ← store.getSchema policy.askNonEmpty id caller.customer
    return .answering (.schema schema)
  | .createDocument readFirst payload => do
    let payload ← Payload.ofInput readFirst payload
    store.planCreateDocument policy caller payload
  | .updateDocument readFirst id payload => do
    let payload ← Payload.ofInput readFirst payload
    store.planUpdateDocument policy caller id payload
  | .getDocument id => do
    let row ← store.getDocument id caller.customer
    return .answering (.document row)
  | .listDocuments => do
    let rows ← store.listDocuments caller.customer
    return .answering (.documents rows)
  | .deleteDocument id => store.planDeleteDocument caller id
  | .resolveDocument id => do
    let resolved ← store.resolveDocument policy.askNonEmpty id caller.customer
    return .answering (.resolved resolved)

/-- Answers an operation. -/
def run (store : Store) (policy : Policy) (caller : Caller) (operation : Operation) : Reply :=
  store.perform (store.plan policy caller operation)

/-- An operation that fails leaves the store as it was. -/
theorem run_error {store : Store} {policy : Policy} {caller : Caller} {operation : Operation}
    {failure : Failure} (h : (store.run policy caller operation).outcome.result = .error failure) :
    (store.run policy caller operation).store = store :=
  perform_error h

end Store

end Formulary
