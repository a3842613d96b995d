import Formulary.Http.Message
import Formulary.Http.Route

/-!
# Handling requests

From a request to its response.  The checks come in a fixed order: that the body
can be sent, the path, the method, the syntax of the body, the identity, and only
then the payload and the operation.

Main statement: `handle_unidentified`, by which a request without an identity
leaves the store as it is.
-/

namespace Formulary

/-- A row as it is published: its fields read anew, whoever wrote them. -/
def TemplateRow.published (row : TemplateRow) : Checked TemplateRow :=
  (fun name groups =>
      { row with
        name := name
        groups := groups.map fun fields => .list (fields.map Field.toValue) })
    <$> Reader.nonEmptyText (.str row.name)
    <*> (Groups.mk
      <$> Reader.list Field.ofValue row.groups.object
      <*> Reader.list Field.ofValue row.groups.contact
      <*> Reader.list Field.ofValue row.groups.lineItem)

namespace Http

namespace Response

/-- A successful response; no response is made when a text in it cannot be sent. -/
def okay (v : Value) : Response :=
  match v.answered? with
  | some v => .json 200 v
  | none => .crash .unserializable

/-- Templates as they are published, if all of them can be. -/
def ofTemplates (rows : List TemplateRow) (view : List Value → Value) : Response :=
  match Checked.all (rows.map TemplateRow.published) with
  | .ok rows => .okay (view (rows.map fun row => wireObject row.attributes))
  | .error _ => .crash .unpublishable

/-- The answer of an operation. -/
def ofAnswer : Answer → Response
  | .template row => .ofTemplates [row] fun vs => vs.head?.getD .null
  | .foundTemplate row => .ofTemplates row.toList fun vs => vs.head?.getD .null
  | .templates rows => .ofTemplates rows .list
  | .schema schema => .okay schema.toValue
  | .document row => .okay (wireObject row.attributes)
  | .documents rows => .okay (.list (rows.map fun row => wireObject row.attributes))
  | .resolved resolved => .okay resolved.toWire
  | .done => .empty 204

/-- What became of an operation. -/
def ofResult : Except Failure Answer → Response
  | .ok answer => .ofAnswer answer
  | .error failure => .ofFailure failure

end Response

/-- An identity under the names of the wire. -/
def identityValue (identity : Identity) : Value := .object [
  ("customerId", .str identity.customerId),
  ("customerName", .ofText? (identity.customerName.map Text.ofString))]

/-- A request dealt with: what was noticed, the response, and the store after
it. -/
structure Exchange where
  notices : List Notice
  response : Response
  store : Store
  /-- The fresh id was given to a row, stored or not. -/
  tookId : Bool

/-- An exchange that leaves the store as it is. -/
def Exchange.quiet (store : Store) (response : Response) : Exchange := ⟨[], response, store, false⟩

/-- A character of a path as notices show it: those that would end the path are
escaped, and those that break a line are left out. -/
def shownPathChar (c : Char) : List Char :=
  if c = '?' then ['%', '3', 'F']
  else if c = '#' then ['%', '2', '3']
  else if c = '\\' then ['%', '5', 'C']
  else if c = '\t' || c = '\n' || c = '\r' then []
  else [c]

/-- The path as notices show it. -/
def shownPath (path : String) : String := String.ofList (path.toList.flatMap shownPathChar)

section

variable (policy : Policy) (now : Instant) (freshId : Text) (store : Store) (request : Request)

/-- A request of a customer; one without an identity is rejected. -/
def authorized (next : (customer : Text) → Exchange) : Exchange :=
  let identity := Identity.ofHeaders request.headers
  if identity.isKnown then next identity.customerId
  else
    ⟨[.unidentified request.method (shownPath (decodedPath request.path))],
      .unauthorized, store, false⟩

/-- A customer's operation, carried out. -/
def operate (operation : Operation) (customer : Text) : Exchange :=
  let reply := store.run policy ⟨customer, now, freshId⟩ operation
  ⟨reply.outcome.notices, .ofResult reply.outcome.result, reply.store, reply.tookId⟩

/-- An operation on the payload in a body.  A body that is not JSON is a text, and
an empty one is missing. -/
def operateOn (operation : Value → Operation) (body : Body) (customer : Text) : Exchange :=
  match body with
  | .empty => .quiet store (.ofIssues [⟨[], .missing, .null⟩])
  | .text s => operate policy now freshId store (operation (.str s)) customer
  | .json v => operate policy now freshId store (operation v) customer

/-- Deals with what a request with a body asks for at an endpoint. -/
def handleAt (body : String) : Endpoint → Exchange
  | .identity => .quiet store (.okay (identityValue (.ofHeaders request.headers)))
  | .plain operation =>
    authorized store request (operate policy now freshId store operation)
  | .withPayload operation =>
    match Body.read request.headers body with
    | .error e => .quiet store (.ofBodyError e)
    | .ok body => authorized store request (operateOn policy now freshId store operation body)

/-- Deals with a request that comes with a body. -/
def handleSent (body : String) : Exchange :=
  let path := decodedPath request.path
  match Route.ofPath? path with
  | none => .quiet store (if Route.isRedirected path then .redirect else .notFound)
  | some route =>
    match route.endpoint? request.method with
    | none => .quiet store .methodNotAllowed
    | some endpoint => handleAt policy now freshId store request body endpoint

/-- Deals with a request; one whose body cannot be sent does not arrive. -/
def handle : Exchange :=
  match request.body.string? with
  | none => .quiet store (.crash .unencodable)
  | some body => handleSent policy now freshId store request body

end

/-- A request without an identity leaves the store as it is. -/
theorem handle_unidentified {policy : Policy} {now : Instant} {freshId : Text} {store : Store}
    {request : Request} (h : (Identity.ofHeaders request.headers).isKnown = false) :
    (handle policy now freshId store request).store = store := by
  have hauth (next) : (authorized store request next).store = store := by
    simp [authorized, h]
  simp only [handle, handleSent]
  split
  · rfl
  · split
    · rfl
    · split
      · rfl
      · rename_i endpoint _
        cases endpoint with
        | identity => rfl
        | plain operation => exact hauth _
        | withPayload operation =>
          simp only [handleAt]
          split
          · rfl
          · exact hauth _

end Http

end Formulary
