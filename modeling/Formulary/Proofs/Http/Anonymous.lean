import Formulary.Proofs.Http.Requests

/-!
# Requests of nobody

A client who does not say who it is learns nothing about what is stored and changes nothing
of it: what it is answered depends on its request alone.

* `customerOf?_eq_none_iff` says which headers name nobody.
* `Oblivious` says that an exchange looks at nothing but the request.  `oblivious_handle` says
  so of every request of nobody.
* `readable_iff` says which bodies can be read, and `response_of_nobody` that an endpoint with
  an operation turns nobody away exactly when the body is acceptable there; a body that cannot
  be read is refused before anybody is asked for.
* `nobody_sees_or_changes` is the result.
-/

namespace Formulary.Http

variable {policy : Policy} {now : Instant} {freshId : Text} {store : Store} {request : Request}

/-- Headers name nobody exactly when the first that could name a customer is missing or
blank. -/
theorem customerOf?_eq_none_iff {headers : Headers} :
    customerOf? headers = none
      ↔ ∀ value, headers.value? "x-auth-id" = some value → Text.isBlankText value := by
  have hknown := Identity.isKnown_ofHeaders headers
  unfold customerOf?
  dsimp only
  split
  · rename_i h
    obtain ⟨value, hvalue, hsolid⟩ := hknown.1 h
    simp only [reduceCtorEq, false_iff, not_forall]
    exact ⟨value, hvalue, by simp [hsolid]⟩
  · rename_i h
    simp only [true_iff]
    intro value hvalue
    by_contra hsolid
    exact h (hknown.2 ⟨value, hvalue, Bool.eq_false_iff.2 hsolid⟩)

/-! ## Answers that do not depend on the store -/

/-- An exchange that comes out the same over every store, under every policy and at any time,
and leaves the store as it is. -/
def Oblivious (exchange : Policy → Instant → Text → Store → Exchange) : Prop :=
  ∃ notices response, ∀ policy now freshId store,
    exchange policy now freshId store = ⟨notices, response, store, false⟩

theorem oblivious_quiet (response : Response) :
    Oblivious fun _ _ _ store => .quiet store response :=
  ⟨[], response, fun _ _ _ _ => rfl⟩

/-- Nobody is turned away, whatever would be done for a customer. -/
theorem authorized_of_nobody (h : customerOf? request.headers = none)
    (next : (customer : Text) → Exchange) :
    authorized store request next
      = ⟨[.unidentified request.method (shownPath (decodedPath request.path))],
        .unauthorized, store, false⟩ := by
  unfold customerOf? at h
  dsimp only at h
  split at h
  · cases h
  · rename_i hunknown
    exact if_neg hunknown

theorem oblivious_handleAt (h : customerOf? request.headers = none) (body : String)
    (endpoint : Endpoint) :
    Oblivious fun policy now freshId store =>
      handleAt policy now freshId store request body endpoint := by
  cases endpoint with
  | identity => exact oblivious_quiet _
  | plain operation => exact ⟨_, _, fun _ _ _ _ => authorized_of_nobody h _⟩
  | withPayload operation =>
    unfold handleAt
    dsimp only
    cases Body.read request.headers body with
    | error e => exact oblivious_quiet _
    | ok read => exact ⟨_, _, fun _ _ _ _ => authorized_of_nobody h _⟩

/-- A request of nobody is answered without a look at the store. -/
theorem oblivious_handle (h : customerOf? request.headers = none) :
    Oblivious fun policy now freshId store => handle policy now freshId store request := by
  unfold handle
  cases request.body.string? with
  | none => exact oblivious_quiet _
  | some body =>
    unfold handleSent
    dsimp only
    cases Route.ofPath? (decodedPath request.path) with
    | none => exact oblivious_quiet _
    | some route =>
      dsimp only
      cases route.endpoint? request.method with
      | none => exact oblivious_quiet _
      | some endpoint => exact oblivious_handleAt h body endpoint

/-! ## Who is turned away -/

/-- A body can be read: there is none, or it is not declared as JSON, or it is JSON. -/
def Readable (headers : Headers) (body : String) : Prop :=
  body = "" ∨ (headers.value? "content-type").any isJsonType = false
    ∨ ∃ text v, jsonText? body = some text ∧ Json.read text = .ok v

theorem readable_iff {headers : Headers} {body : String} :
    Readable headers body ↔ ∃ read, Body.read headers body = .ok read := by
  unfold Readable Body.read
  by_cases hempty : body = ""
  · simp [hempty]
  by_cases hjson : (headers.value? "content-type").any isJsonType = true
  · rw [if_neg hempty, if_pos hjson]
    simp only [hempty, hjson, Bool.true_eq_false, false_or]
    cases jsonText? body with
    | none => simp
    | some text =>
      simp only [Option.some.injEq, exists_and_left, exists_eq_left', Option.map_some]
      cases Json.read text with
      | ok v => simp
      | error e => cases e <;> simp
  · rw [if_neg hempty, if_neg hjson]
    simp [Bool.eq_false_iff.2 hjson]

/-- The body of a request is acceptable at an endpoint: it can be sent, and it can be read
where the endpoint takes a payload. -/
def Request.Acceptable (request : Request) (endpoint : Endpoint) : Prop :=
  ∃ body, request.body.string? = some body ∧
    match endpoint with
    | .identity | .plain _ => True
    | .withPayload _ => Readable request.headers body

theorem ofBodyError_ne_unauthorized (e : BodyError) :
    Response.ofBodyError e ≠ .unauthorized := by
  cases e with
  | unreadable => decide
  | syntaxError offset =>
    unfold Response.ofBodyError Response.unauthorized Response.detail
    dsimp only
    split <;> simp [Value.isEncodable]

/-- An endpoint of a collection asks for an operation. -/
theorem endpoint?_ne_identity {route : Route} {method : String} (h : route ≠ .self) :
    route.endpoint? method ≠ some .identity := by
  unfold Route.endpoint?
  split <;> simp_all

/-- An endpoint with an operation turns nobody away exactly when the body is acceptable. -/
theorem response_of_nobody (h : customerOf? request.headers = none) {route : Route}
    {endpoint : Endpoint} (hroute : Route.ofPath? (decodedPath request.path) = some route)
    (hself : route ≠ .self) (hendpoint : route.endpoint? request.method = some endpoint) :
    (handle policy now freshId store request).response = .unauthorized
      ↔ request.Acceptable endpoint := by
  have hidentity : endpoint ≠ .identity := fun heq =>
    endpoint?_ne_identity hself (heq ▸ hendpoint)
  unfold Request.Acceptable handle
  cases request.body.string? with
  | none => simp [Exchange.quiet, Response.unauthorized, Response.detail, Value.isEncodable]
  | some body =>
    unfold handleSent
    simp only [hroute, hendpoint, Option.some.injEq, exists_eq_left']
    unfold handleAt
    cases endpoint with
    | identity => exact absurd rfl hidentity
    | plain operation => simp [authorized_of_nobody h]
    | withPayload operation =>
      dsimp only
      rw [readable_iff]
      cases hread : Body.read request.headers body with
      | error e => simpa [Exchange.quiet] using ofBodyError_ne_unauthorized e
      | ok read => simp [authorized_of_nobody h]

/-- A request whose first `x-auth-id` header is missing or blank is answered alike over any two
stores, and leaves both as they are.  Where it asks for an operation on templates or documents
the answer is 401, unless its body is not acceptable there. -/
theorem nobody_sees_or_changes (request : Request)
    (hnobody : ∀ value, request.headers.value? "x-auth-id" = some value →
      Text.isBlankText value) :
    (∀ (policy policy' : Policy) (now now' : Instant) (freshId freshId' : Text)
        (store store' : Store),
      let exchange := handle policy now freshId store request
      let exchange' := handle policy' now' freshId' store' request
      exchange.response = exchange'.response ∧ exchange.notices = exchange'.notices
        ∧ exchange.store = store ∧ exchange'.store = store')
    ∧ ∀ route endpoint, Route.ofPath? (decodedPath request.path) = some route → route ≠ .self →
        route.endpoint? request.method = some endpoint →
        ∀ (policy : Policy) (now : Instant) (freshId : Text) (store : Store),
          (handle policy now freshId store request).response
              = .json 401 (.object [("detail", .str "Unauthorized")])
            ↔ request.Acceptable endpoint := by
  have hcustomer : customerOf? request.headers = none := customerOf?_eq_none_iff.2 hnobody
  constructor
  · intro policy policy' now now' freshId freshId' store store' exchange exchange'
    obtain ⟨notices, response, hsame⟩ := oblivious_handle hcustomer
    have hexchange : exchange = ⟨notices, response, store, false⟩ := hsame ..
    have hexchange' : exchange' = ⟨notices, response, store', false⟩ := hsame ..
    rw [hexchange, hexchange']
    exact ⟨rfl, rfl, rfl, rfl⟩
  · intro route endpoint hroute hself hendpoint policy now freshId store
    exact response_of_nobody hcustomer hroute hself hendpoint

/-- A write with a blank first header and a second that names a customer, over a store that is
down and over one in which that customer has a document. -/
theorem nobody_sees_or_changes_behind_blank :
    let request : Request := ⟨"PUT", "/api/documents/1",
      [("X-Auth-Id", " \t"), ("x-auth-id", "a"), ("Content-Type", "application/json")],
      "\x7b\"name\":null\x7d"⟩
    let down : Store := ⟨[], [], .down⟩
    let store : Store := ⟨[], [⟨"1", ⟨"d", "t", [("x", .int 1)], [], []⟩, "a", 1, 1⟩], .normal⟩
    let exchange (store : Store) : Exchange := handle ⟨true, true⟩ 2 "2" store request
    (∀ value, request.headers.value? "x-auth-id" = some value → Text.isBlankText value)
      ∧ (exchange store).response = (exchange down).response
      ∧ (exchange store).response = .json 401 (.object [("detail", .str "Unauthorized")])
      ∧ (exchange store).store = store ∧ (exchange down).store = down := by
  intro request down store exchange
  have hvalue : request.headers.value? "x-auth-id" = some " \t" := by decide +kernel
  have hblank : ∀ value, request.headers.value? "x-auth-id" = some value →
      Text.isBlankText value := by
    rw [hvalue]
    rintro _ ⟨⟩
    decide +kernel
  obtain ⟨hsame, hturned⟩ := nobody_sees_or_changes request hblank
  obtain ⟨hresponse, -, hstore, hdown⟩ :=
    hsame ⟨true, true⟩ ⟨true, true⟩ 2 2 "2" "2" store down
  have hread : request.Acceptable (.withPayload (.updateDocument true (some "1"))) :=
    ⟨_, rfl, readable_iff.2 ⟨.json (.object [("name", .null)]), by decide +kernel⟩⟩
  have hunauthorized := (hturned (.document "1") _ (by decide +kernel) (by decide) rfl
    ⟨true, true⟩ 2 "2" store).2 hread
  exact ⟨hblank, hresponse, hunauthorized, hstore, hdown⟩

end Formulary.Http
