import Formulary.Proofs.Http.Publishable
import Formulary.Proofs.Service.LiveRows
import Formulary.Proofs.Value.Names

/-!
# Requests one after the other

What a request asks for, and the stores that requests lead to from the empty one.

* What is asked for.  `handle_of_operation` says that a customer's request for an operation
  is answered as the operation is, and `store_handle_of_none` and
  `store_handle_of_unknown` that every other request leaves the store as it is.
* Runs.  `storeAfter` is the store after requests, and keeps what operations keep by
  `storeAfter_induction`.  `ids_storeAfter` and `sendableFor_storeAfter` go through the
  requests: the rows have no ids but those that were given, and can be sent for every
  customer who only wrote what can be sent.
-/

namespace Formulary.Http

/-! ## What is asked for -/

/-- The customer that headers name, if they do. -/
def customerOf? (headers : Headers) : Option String :=
  let identity := Identity.ofHeaders headers
  if identity.isKnown then some identity.customerId else none

/-- The payload that a body is. -/
def Body.payload? : Body → Option Value
  | .empty => none
  | .text s => some (.str s)
  | .json v => some v

/-- The operation that is asked for at an endpoint, on the payload in the body. -/
def Endpoint.operation? (headers : Headers) (body : String) : Endpoint → Option Operation
  | .identity => none
  | .plain operation => some operation
  | .withPayload operation =>
    ((Body.read headers body).toOption.bind Body.payload?).map operation

namespace Request

/-- The endpoint that a request comes to, with its body. -/
def endpoint? (request : Request) : Option (String × Endpoint) := do
  let body ← request.body.string?
  let route ← Route.ofPath? (decodedPath request.path)
  let endpoint ← route.endpoint? request.method
  return (body, endpoint)

/-- The operation that a request asks for. -/
def operation? (request : Request) : Option Operation :=
  request.endpoint?.bind fun (body, endpoint) => endpoint.operation? request.headers body

/-- The payload of the operation that a request asks for. -/
def payload? (request : Request) : Option Value := request.operation?.bind Operation.payload?

end Request

variable {policy : Policy} {now : Instant} {freshId : Text} {store : Store} {request : Request}
  {body : String} {endpoint : Endpoint} {operation : Operation} {customer : String}

theorem authorized_of_customer (h : customerOf? request.headers = some customer)
    (next : (customer : Text) → Exchange) : authorized store request next = next customer := by
  unfold customerOf? at h
  dsimp only at h
  split at h
  · rename_i hknown
    cases h
    exact if_pos hknown
  · cases h

theorem store_authorized {next : (customer : Text) → Exchange}
    (h : ∀ customer, (next customer).store = store) :
    (authorized store request next).store = store := by
  unfold authorized
  dsimp only
  split
  · exact h _
  · rfl

theorem handleAt_of_operation
    (hoperation : endpoint.operation? request.headers body = some operation)
    (hcustomer : customerOf? request.headers = some customer) :
    handleAt policy now freshId store request body endpoint
      = operate policy now freshId store operation customer := by
  cases endpoint with
  | identity => cases hoperation
  | plain _ =>
    cases hoperation
    exact authorized_of_customer hcustomer _
  | withPayload _ =>
    unfold handleAt
    unfold Endpoint.operation? at hoperation
    dsimp only at hoperation ⊢
    cases hread : Body.read request.headers body with
    | error e =>
      rw [hread] at hoperation
      cases hoperation
    | ok read =>
      rw [hread] at hoperation
      dsimp only
      rw [authorized_of_customer hcustomer]
      cases read with
      | empty => cases hoperation
      | text s | json v =>
        cases hoperation
        rfl

theorem store_handleAt_of_none (h : endpoint.operation? request.headers body = none) :
    (handleAt policy now freshId store request body endpoint).store = store := by
  cases endpoint with
  | identity => rfl
  | plain operation => cases h
  | withPayload operation =>
    unfold handleAt
    unfold Endpoint.operation? at h
    dsimp only at h ⊢
    cases hread : Body.read request.headers body with
    | error e => rfl
    | ok read =>
      rw [hread] at h
      refine store_authorized fun _ => ?_
      cases read with
      | empty => rfl
      | text s | json v => cases h

theorem handle_of_endpoint (h : request.endpoint? = some (body, endpoint)) :
    handle policy now freshId store request
      = handleAt policy now freshId store request body endpoint := by
  obtain ⟨_, hbody, h⟩ := Option.bind_eq_some_iff.1 h
  obtain ⟨route, hroute, h⟩ := Option.bind_eq_some_iff.1 h
  obtain ⟨_, hendpoint, h⟩ := Option.bind_eq_some_iff.1 h
  cases h
  simp only [handle, handleSent, hbody, hroute, hendpoint]

theorem store_handle_of_no_endpoint (h : request.endpoint? = none) :
    (handle policy now freshId store request).store = store := by
  unfold Request.endpoint? at h
  unfold handle
  cases hbody : request.body.string? with
  | none => rfl
  | some body =>
    unfold handleSent
    dsimp only
    cases hroute : Route.ofPath? (decodedPath request.path) with
    | none => rfl
    | some route =>
      dsimp only
      cases hendpoint : route.endpoint? request.method with
      | none => rfl
      | some endpoint => simp [hbody, hroute, hendpoint] at h

/-- A customer's request for an operation is answered as the operation is. -/
theorem handle_of_operation (hoperation : request.operation? = some operation)
    (hcustomer : customerOf? request.headers = some customer) :
    handle policy now freshId store request
      = operate policy now freshId store operation customer := by
  obtain ⟨⟨body, endpoint⟩, hendpoint, hoperation⟩ := Option.bind_eq_some_iff.1 hoperation
  rw [handle_of_endpoint hendpoint]
  exact handleAt_of_operation hoperation hcustomer

/-- A request that asks for no operation leaves the store as it is. -/
theorem store_handle_of_none (h : request.operation? = none) :
    (handle policy now freshId store request).store = store := by
  cases hendpoint : request.endpoint? with
  | none => exact store_handle_of_no_endpoint hendpoint
  | some reached =>
    unfold Request.operation? at h
    rw [hendpoint] at h
    rw [handle_of_endpoint hendpoint]
    exact store_handleAt_of_none h

/-- A request of nobody leaves the store as it is. -/
theorem store_handle_of_unknown (h : customerOf? request.headers = none) :
    (handle policy now freshId store request).store = store := by
  refine handle_unidentified (Bool.eq_false_iff.2 fun hknown => ?_)
  unfold customerOf? at h
  simp [hknown] at h

/-! ## Payloads -/

/-- An endpoint either takes no payload or takes the one in the body. -/
theorem payload?_of_endpoint {route : Route} {method : String}
    (h : route.endpoint? method = some endpoint)
    (hoperation : endpoint.operation? request.headers body = some operation) :
    operation.payload? = none
      ∨ operation.payload? = (Body.read request.headers body).toOption.bind Body.payload? := by
  unfold Route.endpoint? at h
  split at h <;> cases h
  all_goals first
    | cases hoperation
      exact .inl rfl
    | obtain ⟨v, hv, rfl⟩ := Option.map_eq_some_iff.1 hoperation
      exact .inr hv.symm
    | cases hoperation

/-- A payload has different names in every object. -/
theorem Body.wellNamed_payload {headers : Headers} {read : Body}
    (h : Body.read headers body = .ok read) {v : Value} (hv : read.payload? = some v) :
    v.WellNamed := by
  unfold Body.read at h
  split at h
  · cases h
    cases hv
  · split at h
    · split at h
      · rename_i json hjson
        cases h
        cases hv
        obtain ⟨text, -, hread⟩ := Option.map_eq_some_iff.1 hjson
        exact Json.wellNamed_of_read hread
      · cases h
      · cases h
      · cases h
    · cases h
      cases hv
      trivial

/-- A request has different names in every object of its payload. -/
theorem Request.wellNamed_payload {v : Value} (h : request.payload? = some v) : v.WellNamed := by
  obtain ⟨operation, hoperation, hpayload⟩ := Option.bind_eq_some_iff.1 h
  obtain ⟨⟨body, endpoint⟩, hendpoint, hoperation⟩ := Option.bind_eq_some_iff.1 hoperation
  obtain ⟨_, -, hendpoint⟩ := Option.bind_eq_some_iff.1 hendpoint
  obtain ⟨route, -, hendpoint⟩ := Option.bind_eq_some_iff.1 hendpoint
  obtain ⟨_, hendpoint, heq⟩ := Option.bind_eq_some_iff.1 hendpoint
  cases heq
  rcases payload?_of_endpoint hendpoint hoperation with hnone | hbody
  · rw [hnone] at hpayload
    cases hpayload
  · obtain ⟨read, hread, hv⟩ := Option.bind_eq_some_iff.1 (hbody.symm.trans hpayload)
    cases hresult : Body.read request.headers body with
    | error e =>
      rw [hresult] at hread
      cases hread
    | ok _ =>
      rw [hresult] at hread
      cases hread
      exact Body.wellNamed_payload hresult hv

/-- A method by which rows are made and changed. -/
def IsWriting (method : String) : Prop := method = "POST" ∨ method = "PUT"

/-- What is asked for by a writing method has a payload. -/
theorem payload?_of_writing (hmethod : IsWriting request.method)
    (h : request.operation? = some operation) : operation.payload?.isSome := by
  obtain ⟨⟨body, endpoint⟩, hendpoint, hoperation⟩ := Option.bind_eq_some_iff.1 h
  obtain ⟨_, -, hendpoint⟩ := Option.bind_eq_some_iff.1 hendpoint
  obtain ⟨route, -, hendpoint⟩ := Option.bind_eq_some_iff.1 hendpoint
  obtain ⟨_, hendpoint, heq⟩ := Option.bind_eq_some_iff.1 hendpoint
  cases heq
  rcases hmethod with hmethod | hmethod <;> rw [hmethod] at hendpoint <;> cases route <;>
    cases hendpoint <;> obtain ⟨v, -, rfl⟩ := Option.map_eq_some_iff.1 hoperation <;> rfl

/-! ## Runs -/

/-- A request that comes at a time, with an id for the row that it may make. -/
structure Arrival where
  request : Request
  now : Instant
  freshId : String
deriving DecidableEq

/-- How a request is dealt with. -/
def Arrival.exchange (policy : Policy) (store : Store) (a : Arrival) : Exchange :=
  handle policy a.now a.freshId store a.request

/-- The store after requests, from the empty one on. -/
def storeAfter (policy : Policy) (arrivals : List Arrival) : Store :=
  arrivals.foldl (fun store a => (a.exchange policy store).store) .empty

/-- What a customer has changed the store by are payloads with a property. -/
def WroteOnly (policy : Policy) (customer : String) (p : Value → Prop)
    (arrivals : List Arrival) : Prop :=
  ∀ before a later, arrivals = before ++ a :: later →
    customerOf? a.request.headers = some customer →
    (a.exchange policy (storeAfter policy before)).store ≠ storeAfter policy before →
    ∀ v ∈ a.request.payload?, p v

variable {arrivals : List Arrival} {a : Arrival}

theorem storeAfter_append_singleton (policy : Policy) (arrivals : List Arrival) (a : Arrival) :
    storeAfter policy (arrivals ++ [a])
      = (a.exchange policy (storeAfter policy arrivals)).store := by
  unfold storeAfter
  rw [List.foldl_append, List.foldl_cons, List.foldl_nil]

/-- A request leaves the store as it is, or as an operation of its customer does. -/
theorem Arrival.store_exchange (policy : Policy) (store : Store) (a : Arrival) :
    (a.exchange policy store).store = store
      ∨ ∃ operation customer, a.request.operation? = some operation
        ∧ customerOf? a.request.headers = some customer
        ∧ (a.exchange policy store).store
          = (store.run policy ⟨customer, a.now, a.freshId⟩ operation).store := by
  unfold exchange
  cases hoperation : a.request.operation? with
  | none => exact .inl (store_handle_of_none hoperation)
  | some operation =>
    cases hcustomer : customerOf? a.request.headers with
    | none => exact .inl (store_handle_of_unknown hcustomer)
    | some customer =>
      rw [handle_of_operation hoperation hcustomer]
      exact .inr ⟨operation, customer, rfl, rfl, rfl⟩

/-- What operations keep is kept by requests. -/
theorem storeAfter_induction {p : Store → Prop} (hempty : p .empty)
    (hrun : ∀ store caller operation, p store → p (store.run policy caller operation).store)
    (arrivals : List Arrival) : p (storeAfter policy arrivals) := by
  induction arrivals using List.reverseRecOn with
  | nil => exact hempty
  | append_singleton arrivals a ih =>
    rw [storeAfter_append_singleton]
    rcases a.store_exchange policy (storeAfter policy arrivals) with
      hsame | ⟨operation, customer, -, -, hstep⟩
    · rw [hsame]
      exact ih
    · rw [hstep]
      exact hrun _ _ operation ih

theorem mode_storeAfter (policy : Policy) (arrivals : List Arrival) :
    (storeAfter policy arrivals).mode = .normal :=
  storeAfter_induction (p := fun store => store.mode = .normal) rfl
    (fun store caller operation h => (store.mode_run policy caller operation).trans h) arrivals

theorem wellFormed_storeAfter (policy : Policy) (arrivals : List Arrival) :
    (storeAfter policy arrivals).WellFormed :=
  storeAfter_induction Store.wellFormed_empty
    (fun _ caller operation h => h.run policy caller operation) arrivals

theorem legible_storeAfter (policy : Policy) (arrivals : List Arrival) :
    (storeAfter policy arrivals).Legible :=
  storeAfter_induction Store.legible_empty
    (fun _ caller operation h => h.run policy caller operation) arrivals

/-- The rows of a kind have ids that requests came with, each at most as often. -/
theorem ids_storeAfter (policy : Policy) (arrivals : List Arrival) (kind : Entity) :
    ((storeAfter policy arrivals).ids kind).Sublist
      (arrivals.map fun a => Text.ofString a.freshId) := by
  induction arrivals using List.reverseRecOn with
  | nil => cases kind <;> exact .refl _
  | append_singleton arrivals a ih =>
    rw [storeAfter_append_singleton, List.map_append, List.map_singleton]
    rcases a.store_exchange policy (storeAfter policy arrivals) with
      hsame | ⟨operation, customer, -, -, hrun⟩
    · rw [hsame]
      exact ih.trans (List.sublist_append_left _ _)
    · rw [hrun]
      cases kind with
      | template =>
        exact (Store.templates_run _ policy _ operation).ids_sublist.trans (ih.append (.refl _))
      | document =>
        exact (Store.documents_run _ policy _ operation).ids_sublist.trans (ih.append (.refl _))

theorem WroteOnly.of_append {p : Value → Prop} {more : List Arrival}
    (h : WroteOnly policy customer p (arrivals ++ more)) :
    WroteOnly policy customer p arrivals := by
  intro before a later harrivals
  refine h before a (later ++ more) ?_
  rw [harrivals, List.append_assoc, List.cons_append]

/-- Whoever only sent payloads with a property has only written such. -/
theorem wroteOnly_of_sent {p : Value → Prop}
    (h : ∀ a ∈ arrivals, customerOf? a.request.headers = some customer →
      ∀ v ∈ a.request.payload?, p v) : WroteOnly policy customer p arrivals :=
  fun _ a _ harrivals hcustomer _ => h a (harrivals ▸ by simp) hcustomer

/-- The rows of a customer who only wrote what can be sent can be sent. -/
theorem sendableFor_storeAfter {special : Bool}
    (h : WroteOnly policy customer (Value.Sendable special) arrivals) :
    (storeAfter policy arrivals).SendableFor special customer := by
  induction arrivals using List.reverseRecOn with
  | nil => exact Store.sendableFor_empty
  | append_singleton arrivals a ih =>
    rw [storeAfter_append_singleton]
    by_cases hsame : (a.exchange policy (storeAfter policy arrivals)).store
        = storeAfter policy arrivals
    · rw [hsame]
      exact ih h.of_append
    · rcases a.store_exchange policy (storeAfter policy arrivals) with
        hsame' | ⟨operation, caller, hoperation, hcaller, hrun⟩
      · exact absurd hsame' hsame
      · rw [hrun]
        refine (ih h.of_append).run policy fun hcustomer v hv => ?_
        obtain rfl : caller = customer := Text.ofString_inj.1 hcustomer
        refine h arrivals a [] rfl hcaller hsame v ?_
        exact Option.bind_eq_some_iff.2 ⟨operation, hoperation, hv⟩

end Formulary.Http
