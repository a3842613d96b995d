import Formulary.Proofs.Http.Paths
import Formulary.Proofs.Http.Requests
import Formulary.Proofs.Service.Resolved

/-!
# What is accepted is served

A customer who has only written what can be sent is served all of it, and a writing request
of that customer that is not answered with success has left no trace.

* Looking up.  `resolveDocument_of_mem` says that what is listed is resolved.
* Serving.  `Serves` says what is sent for the lists, for each row in them and for the
  resolved documents, and `serves_of_publishableFor` that this is so for rows that can be
  published.
* `accepted_is_served` puts this together with the writing requests, and
  `accepted_not_served` says what becomes of the values that cannot be sent.
-/

namespace Formulary

variable {special : Bool} {policy : Policy} {store : Store}

namespace Store

/-- A document with the schema of the template that the store has for it. -/
def resolved (store : Store) (policy : Policy) (row : DocumentRow) : ResolvedDocument where
  document := row
  schema := (store.template? row.content.templateId row.customer).bind fun template =>
    (Schema.compile policy.askNonEmpty template.view).result.toOption

/-! ## Looking up -/

/-- A document is resolved with the schema of its template, which can be sent. -/
theorem resolveDocument_of_mem (hup : store.mode ≠ .down) (hids : (store.ids .document).Nodup)
    {row : DocumentRow} (hrow : row ∈ store.documents)
    (h : store.PublishableFor special row.customer) (policy : Policy) :
    (store.resolveDocument policy.askNonEmpty (some row.id) row.customer).result
        = .ok (store.resolved policy row)
      ∧ ∀ schema ∈ (store.resolved policy row).schema, schema.toValue.Sendable special := by
  have hpublishable := h.documents row hrow rfl
  have hget := getDocument_of_mem hup hids hrow hpublishable.texts
  have htemplate :=
    resolveTemplate_of_row hup hpublishable.wellFormed hpublishable.texts
  unfold resolveDocument resolved
  rw [Outcome.result_bind_of_ok hget, Outcome.result_bind_of_ok htemplate]
  cases hfound : store.template? row.content.templateId row.customer with
  | none => exact ⟨rfl, by simp⟩
  | some template =>
    obtain ⟨hmem, -, howner⟩ := template?_eq_some hfound
    have htemplate := h.templates template hmem howner
    obtain ⟨schema, hschema, hsendable⟩ := TemplateRow.exists_schema htemplate.wellFormed
      htemplate.sendable htemplate.texts policy.askNonEmpty
    have hcompile : ((Schema.compile policy.askNonEmpty template.view).mapError
        Failure.fault).result = .ok schema :=
      Outcome.result_mapError_eq_ok_iff.2 hschema
    dsimp only
    rw [Outcome.result_bind_of_ok hcompile, Option.bind_some, hschema]
    exact ⟨rfl, by simpa [Except.toOption] using hsendable⟩

end Store

namespace Http

/-! ## Serving -/

/-- A request for what stands at a route. -/
def Request.get (headers : Headers) (route : Route) : Request := ⟨"GET", route.path, headers, ""⟩

/-- A value is sent for what stands at a route. -/
def Sends (policy : Policy) (store : Store) (headers : Headers) (route : Route) (v : Value) :
    Prop :=
  ∀ now freshId, (handle policy now freshId store (.get headers route)).response = .json 200 v

/-- A customer is served with all rows that the store has, in the lists and one by one, and
with the resolved documents.  Their values are sent as something. -/
structure Serves (policy : Policy) (store : Store) (headers : Headers) (customer : String)
    (send : Value → Value) : Prop where
  templates : Sends policy store headers .templates
    (send (.list ((store.templatesOf customer).map fun row => wireObject row.attributes)))
  template : ∀ row ∈ store.templatesOf customer, ∃ id : String, row.id = id
    ∧ Sends policy store headers (.template id) (send (wireObject row.attributes))
  documents : Sends policy store headers .documents
    (send (.list ((store.documentsOf customer).map fun row => wireObject row.attributes)))
  document : ∀ row ∈ store.documentsOf customer, ∃ id : String, row.id = id
    ∧ Sends policy store headers (.document id) (send (wireObject row.attributes))
    ∧ Sends policy store headers (.resolvedDocument id) (send (store.resolved policy row).toWire)

variable {headers : Headers} {customer : String} {route : Route} {operation : Operation}

/-- A request for what stands at a route with a plain id comes to its operation. -/
theorem Request.operation?_get (hid : ∀ id ∈ route.id?, IsPlainId id)
    (h : route.endpoint? "GET" = some (.plain operation)) :
    (Request.get headers route).operation? = some operation := by
  have hendpoint : (Request.get headers route).endpoint? = some ("", .plain operation) := by
    unfold Request.endpoint? get
    dsimp only
    rw [Route.ofPath?_path hid]
    simp [h]
  unfold operation?
  rw [hendpoint]
  rfl

/-- What an operation answers is sent where the operation stands. -/
theorem sends_of_run (hcustomer : customerOf? headers = some customer)
    (hid : ∀ id ∈ route.id?, IsPlainId id)
    (hendpoint : route.endpoint? "GET" = some (.plain operation))
    {answer : Answer} {v : Value}
    (hrun : ∀ now freshId, (store.run policy ⟨customer, now, freshId⟩ operation).outcome.result
      = .ok answer)
    (hanswer : Response.ofAnswer answer = .json 200 v) : Sends policy store headers route v := by
  intro now freshId
  rw [handle_of_operation (Request.operation?_get hid hendpoint) hcustomer]
  show Response.ofResult _ = _
  rw [hrun now freshId]
  exact hanswer

section

variable {send : Value → Value} (hsend : Value.SentAs special send) (hup : store.mode ≠ .down)
  (hcustomer : customerOf? headers = some customer)
  (h : store.PublishableFor special customer)

include hsend hup hcustomer h

theorem sends_templates : Sends policy store headers .templates
    (send (.list ((store.templatesOf customer).map fun row => wireObject row.attributes))) := by
  have hrun (now freshId) :
      (store.run policy ⟨customer, now, freshId⟩ .listTemplates).outcome.result
        = .ok (.templates (store.templatesOf customer)) := Store.run_listTemplates hup rfl
  refine sends_of_run hcustomer (by simp [Route.id?]) rfl hrun ?_
  refine Response.ofAnswer_templates hsend fun row hrow => ?_
  obtain ⟨hmem, howner⟩ := Ledger.mem_listed.1 hrow
  exact h.templates row hmem howner

theorem sends_documents : Sends policy store headers .documents
    (send (.list ((store.documentsOf customer).map fun row => wireObject row.attributes))) := by
  have hrun (now freshId) :
      (store.run policy ⟨customer, now, freshId⟩ .listDocuments).outcome.result
        = .ok (.documents (store.documentsOf customer)) := Store.run_listDocuments hup rfl
  refine sends_of_run hcustomer (by simp [Route.id?]) rfl hrun ?_
  refine Response.ofAnswer_documents hsend fun row hrow => ?_
  obtain ⟨hmem, howner⟩ := Ledger.mem_listed.1 hrow
  exact h.documents row hmem howner

variable {id : String} (hid : IsPlainId id)

include hid

theorem sends_template (hids : (store.ids .template).Nodup) {row : TemplateRow}
    (hrow : row ∈ store.templatesOf customer) (hrowId : row.id = id) :
    Sends policy store headers (.template id) (send (wireObject row.attributes)) := by
  obtain ⟨hmem, howner⟩ := Ledger.mem_listed.1 hrow
  have hpublishable := h.templates row hmem howner
  have hget := Store.getTemplate_of_mem hup hids hmem hpublishable.texts
  rw [hrowId] at hget
  have hrun (now freshId) :
      (store.run policy ⟨customer, now, freshId⟩ (.getTemplate (some id))).outcome.result
        = .ok (.template row) := Store.run_answering.2 ⟨row, howner ▸ hget, rfl⟩
  exact sends_of_run hcustomer (by simpa [Route.id?] using hid) rfl hrun
    (Response.ofAnswer_template hsend hpublishable)

theorem sends_document (hids : (store.ids .document).Nodup) {row : DocumentRow}
    (hrow : row ∈ store.documentsOf customer) (hrowId : row.id = id) :
    Sends policy store headers (.document id) (send (wireObject row.attributes)) := by
  obtain ⟨hmem, howner⟩ := Ledger.mem_listed.1 hrow
  have hpublishable := h.documents row hmem howner
  have hget := Store.getDocument_of_mem hup hids hmem hpublishable.texts
  rw [hrowId] at hget
  have hrun (now freshId) :
      (store.run policy ⟨customer, now, freshId⟩ (.getDocument (some id))).outcome.result
        = .ok (.document row) := Store.run_answering.2 ⟨row, howner ▸ hget, rfl⟩
  exact sends_of_run hcustomer (by simpa [Route.id?] using hid) rfl hrun
    (Response.ofAnswer_document hsend hpublishable)

theorem sends_resolved (hids : (store.ids .document).Nodup) {row : DocumentRow}
    (hrow : row ∈ store.documentsOf customer) (hrowId : row.id = id) :
    Sends policy store headers (.resolvedDocument id)
      (send (store.resolved policy row).toWire) := by
  obtain ⟨hmem, howner⟩ := Ledger.mem_listed.1 hrow
  have hpublishable := h.documents row hmem howner
  rw [← howner] at h
  obtain ⟨hresolve, hschema⟩ := Store.resolveDocument_of_mem hup hids hmem h policy
  rw [hrowId] at hresolve
  have hrun (now freshId) :
      (store.run policy ⟨customer, now, freshId⟩ (.resolveDocument (some id))).outcome.result
        = .ok (.resolved (store.resolved policy row)) :=
    Store.run_answering.2 ⟨_, howner ▸ hresolve, rfl⟩
  exact sends_of_run hcustomer (by simpa [Route.id?] using hid) rfl hrun
    (Response.ofAnswer_resolved hsend hpublishable hschema)

end

/-- A customer whose rows can be published is served. -/
theorem serves_of_publishableFor {send : Value → Value} (hsend : Value.SentAs special send)
    (hup : store.mode ≠ .down) (hids : ∀ kind, (store.ids kind).Nodup)
    (hplain : ∀ kind, ∀ id ∈ store.ids kind, ∃ s : String, id = s ∧ IsPlainId s)
    (h : store.PublishableFor special customer) (hcustomer : customerOf? headers = some customer)
    (policy : Policy) : Serves policy store headers customer send where
  templates := sends_templates hsend hup hcustomer h
  template row hrow := by
    obtain ⟨id, hid, hplain⟩ := hplain .template row.id
      (List.mem_map_of_mem (Ledger.mem_listed.1 hrow).1)
    exact ⟨id, hid, sends_template hsend hup hcustomer h hplain (hids .template) hrow hid⟩
  documents := sends_documents hsend hup hcustomer h
  document row hrow := by
    obtain ⟨id, hid, hplain⟩ := hplain .document row.id
      (List.mem_map_of_mem (Ledger.mem_listed.1 hrow).1)
    exact ⟨id, hid, sends_document hsend hup hcustomer h hplain (hids .document) hrow hid,
      sends_resolved hsend hup hcustomer h hplain (hids .document) hrow hid⟩

/-- Who is served gets a listed document by its id. -/
theorem Serves.sends_document {send : Value → Value}
    (h : Serves policy store headers customer send) {row : DocumentRow}
    (hrow : row ∈ store.documents) (hcustomer : row.customer = customer) {id : String}
    (hid : row.id = id) :
    Sends policy store headers (.document id) (send (wireObject row.attributes)) := by
  obtain ⟨id', hid', hsends, -⟩ := h.document row (Ledger.mem_listed.2 ⟨hrow, hcustomer⟩)
  obtain rfl : id' = id := Text.ofString_inj.1 (hid'.symm.trans hid)
  exact hsends

/-! ## Writing -/

/-- The status of a response, if one is made. -/
def Response.status? : Response → Option Nat
  | json status _ | empty status => some status
  | crash _ => none

/-- A writing request leaves the store as it is, or is answered as a write is. -/
theorem Arrival.exchange_of_writing {a : Arrival} (hmethod : IsWriting a.request.method)
    (policy : Policy) (store : Store) :
    let exchange := a.exchange policy store
    exchange.store = store
      ∨ ∃ operation caller answer, a.request.operation? = some operation
        ∧ customerOf? a.request.headers = some caller
        ∧ operation.payload?.isSome
        ∧ store.Answered policy ⟨caller, a.now, a.freshId⟩ operation answer
          (store.run policy ⟨caller, a.now, a.freshId⟩ operation).store
        ∧ exchange.response = .ofAnswer answer := by
  intro exchange
  cases hoperation : a.request.operation? with
  | none => exact .inl (store_handle_of_none hoperation)
  | some operation =>
    cases hcaller : customerOf? a.request.headers with
    | none => exact .inl (store_handle_of_unknown hcaller)
    | some caller =>
      have hexchange : exchange = operate policy a.now a.freshId store operation caller :=
        handle_of_operation hoperation hcaller
      rw [hexchange]
      unfold operate
      dsimp only
      cases hresult : (store.run policy ⟨caller, a.now, a.freshId⟩ operation).outcome.result with
      | error failure => exact .inl (Store.run_error hresult)
      | ok answer =>
        exact .inr ⟨operation, caller, answer, rfl, rfl, payload?_of_writing hmethod hoperation,
          Store.answered_of_ok hresult, rfl⟩

/-- A writing request leaves no trace unless it is answered with success or breaks off since
its answer cannot be sent. -/
theorem Arrival.store_exchange_of_response {a : Arrival} (hmethod : IsWriting a.request.method)
    (hwell : store.WellFormed) (hlegible : store.Legible)
    (hstatus : (a.exchange policy store).response.status? ≠ some 200)
    (hsent : (a.exchange policy store).response ≠ .crash .unserializable) :
    (a.exchange policy store).store = store := by
  rcases Arrival.exchange_of_writing hmethod policy store with
    hsame | ⟨operation, caller, answer, -, -, hpayload, hanswered, hresponse⟩
  · exact hsame
  · rw [hresponse] at hstatus hsent
    rcases Store.ofAnswer_cases hanswered hpayload (hwell.run ..) (hlegible.run ..) with
      ⟨v, hv⟩ | hcrash
    · rw [hv] at hstatus
      exact absurd rfl hstatus
    · exact absurd hcrash hsent

/-- A writing request leaves no trace unless it is answered with success, if its payload and
what the customer has can be sent. -/
theorem Arrival.store_exchange_of_status {a : Arrival} (hmethod : IsWriting a.request.method)
    (hwell : store.WellFormed) (hlegible : store.Legible)
    (hstore : ∀ c ∈ customerOf? a.request.headers, store.SendableFor special c)
    (hpayload : ∀ v ∈ a.request.payload?, v.Sendable special)
    (hstatus : (a.exchange policy store).response.status? ≠ some 200) :
    (a.exchange policy store).store = store := by
  rcases Arrival.exchange_of_writing hmethod policy store with
    hsame | ⟨operation, caller, answer, hoperation, hcaller, hwrites, hanswered, hresponse⟩
  · exact hsame
  · have hafter : (store.run policy ⟨caller, a.now, a.freshId⟩
        operation).store.SendableFor special caller :=
      (hstore caller hcaller).run policy fun _ v hv =>
        hpayload v (Option.bind_eq_some_iff.2 ⟨operation, hoperation, hv⟩)
    obtain ⟨v, hv⟩ := Store.ofAnswer_of_payload hanswered hwrites
      (hafter.publishable (hwell.run ..) (hlegible.run ..))
    rw [hresponse, hv] at hstatus
    exact absurd rfl hstatus

/-! ## Runs -/

/-- The ids that requests come with can stand in a path, and none comes twice. -/
structure GivenOnce (arrivals : List Arrival) : Prop where
  plain : ∀ a ∈ arrivals, IsPlainId a.freshId
  nodup : (arrivals.map Arrival.freshId).Nodup

variable {arrivals : List Arrival}

theorem GivenOnce.nodup_ids (h : GivenOnce arrivals) (policy : Policy) (kind : Entity) :
    ((storeAfter policy arrivals).ids kind).Nodup := by
  have hgiven : ((arrivals.map Arrival.freshId).map Text.ofString).Nodup :=
    h.nodup.map fun _ _ => Text.ofString_inj.1
  rw [List.map_map] at hgiven
  exact hgiven.sublist (ids_storeAfter policy arrivals kind)

theorem GivenOnce.isPlainId (h : GivenOnce arrivals) (policy : Policy) (kind : Entity) :
    ∀ id ∈ (storeAfter policy arrivals).ids kind, ∃ s : String, id = s ∧ IsPlainId s := by
  intro id hid
  obtain ⟨a, ha, rfl⟩ := List.mem_map.1 ((ids_storeAfter policy arrivals kind).subset hid)
  exact ⟨a.freshId, rfl, h.plain a ha⟩

/-- Payloads that are encodable, and finite where that is asked for, can be sent. -/
theorem WroteOnly.sendable (h : WroteOnly policy customer (fun v => v.isEncodable) arrivals)
    (hfinite : special = false → WroteOnly policy customer (fun v => v.isFinite) arrivals) :
    WroteOnly policy customer (Value.Sendable special) arrivals :=
  fun before a later harrivals hcustomer hchange v hv =>
    ⟨h before a later harrivals hcustomer hchange v hv,
      fun hspecial => hfinite hspecial before a later harrivals hcustomer hchange v hv,
      a.request.wellNamed_payload hv⟩

/-- What is accepted is served.  A writing request leaves no trace unless it is answered with
success or breaks off since its answer cannot be sent.  Of a customer who has changed the
store by encodable payloads only, a writing request with such a payload leaves no trace unless
it is answered with success; and the lists, every row in them and every resolved document are
sent, with null in the place of the numbers that are not finite.  If the customer has written
no such numbers, the values are sent as they are stored. -/
theorem accepted_is_served (policy : Policy) (arrivals : List Arrival) (hids : GivenOnce arrivals)
    (customer : String) (hwrote : WroteOnly policy customer (fun v => v.isEncodable) arrivals) :
    let store := storeAfter policy arrivals
    (∀ a : Arrival, IsWriting a.request.method →
      let exchange := a.exchange policy store
      exchange.response.status? ≠ some 200 →
      (exchange.response ≠ .crash .unserializable → exchange.store = store)
      ∧ ((∀ c ∈ customerOf? a.request.headers, c = customer) →
        (∀ v ∈ a.request.payload?, v.isEncodable) → exchange.store = store))
    ∧ ∀ headers, customerOf? headers = some customer →
      Serves policy store headers customer Value.nulled
      ∧ (WroteOnly policy customer (fun v => v.isFinite) arrivals →
        Serves policy store headers customer id) := by
  intro store
  have hup : store.mode ≠ .down := by
    rw [mode_storeAfter policy arrivals]
    decide
  have hwell : store.WellFormed := wellFormed_storeAfter policy arrivals
  have hlegible : store.Legible := legible_storeAfter policy arrivals
  have hserves {special : Bool} {send : Value → Value} (hsend : Value.SentAs special send)
      (hwrote : WroteOnly policy customer (Value.Sendable special) arrivals) (headers : Headers)
      (hcustomer : customerOf? headers = some customer) :
      Serves policy store headers customer send :=
    serves_of_publishableFor hsend hup (hids.nodup_ids policy) (hids.isPlainId policy)
      ((sendableFor_storeAfter hwrote).publishable hwell hlegible) hcustomer policy
  have hspecial : WroteOnly policy customer (Value.Sendable true) arrivals :=
    hwrote.sendable (by simp)
  constructor
  · intro a hmethod exchange hstatus
    refine ⟨fun hsent => ?_, fun hcaller hpayload => ?_⟩
    · exact Arrival.store_exchange_of_response hmethod hwell hlegible hstatus hsent
    · have hstore : ∀ c ∈ customerOf? a.request.headers, store.SendableFor true c := by
        intro c hc
        rw [hcaller c hc]
        exact sendableFor_storeAfter hspecial
      have hsendable : ∀ v ∈ a.request.payload?, v.Sendable true := fun v hv =>
        ⟨hpayload v hv, by simp, a.request.wellNamed_payload hv⟩
      exact Arrival.store_exchange_of_status hmethod hwell hlegible hstore hsendable hstatus
  · intro headers hcustomer
    refine ⟨hserves Value.sentAs_nulled hspecial headers hcustomer, fun hfinite => ?_⟩
    exact hserves Value.sentAs_id (hwrote.sendable fun _ => hfinite) headers hcustomer

/-- A customer who has only written finite numbers and encodable texts, beside another whose
text has a lone half in it.  The last request is refused, since its name is empty. -/
theorem accepted_is_served_beside_unencodable :
    let policy : Policy := ⟨false, true⟩
    let headers (customer : String) : Headers :=
      [("X-Auth-Id", customer), ("Content-Type", "application/json")]
    let post (customer : String) (n : Nat) (path : String) (body : Text) : Arrival :=
      ⟨⟨"POST", path, headers customer, body⟩, n, idOf n⟩
    let arrivals : List Arrival := [
      post "a" 1 "/api/document-templates" ("\x7b\"name\":\"T\",\"objectFields\":["
        ++ "\x7b\"name\":\"x\",\"type\":\"number\"\x7d]\x7d"),
      post "a" 2 "/api/documents" ("\x7b\"name\":\"d\",\"templateId\":"
        ++ "\"00000000000000000000000000000001\",\"objectVariables\":\x7b\"x\":1\x7d\x7d"),
      post "b" 3 "/api/documents" ("\x7b\"name\":\"d\",\"templateId\":\"t\","
        ++ "\"objectVariables\":\x7b\"x\":\"\\ud800\"\x7d\x7d")]
    let field : Value := .object [("name", .str "x"), ("type", .str "number"),
      ("required", .bool false), ("options", .list []), ("defaultValue", .null),
      ("validation", .str "none"), ("placeholder", .null), ("description", .null)]
    let broken : Text := ⟨"", [(⟨0xD800, by decide⟩, "")]⟩
    let store : Store := {
      templates := [⟨idOf 1, "T", some "", none, ⟨.list [field], .list [], .list []⟩, "a", 1, 1⟩]
      documents := [⟨idOf 2, ⟨"d", idOf 1, [("x", .int 1)], [], []⟩, "a", 2, 2⟩,
        ⟨idOf 3, ⟨"d", "t", [("x", .str broken)], [], []⟩, "b", 3, 3⟩]
      mode := .normal }
    let refused := post "a" 4 "/api/documents" "\x7b\"name\":\"\",\"templateId\":\"t\"\x7d"
    GivenOnce arrivals
      ∧ WroteOnly policy "a" (fun v => v.isEncodable) arrivals
      ∧ WroteOnly policy "a" (fun v => v.isFinite) arrivals
      ∧ storeAfter policy arrivals = store
      ∧ Serves policy store (headers "a") "a" id
      ∧ (refused.exchange policy store).response.status? = some 422
      ∧ (refused.exchange policy store).store = store := by
  intro policy headers post arrivals field broken store refused
  have hids : GivenOnce arrivals :=
    ⟨by simp [arrivals, post, isPlainId_idOf], by decide +kernel⟩
  have hsent : ∀ a ∈ arrivals, customerOf? a.request.headers = some "a" →
      ∀ v ∈ a.request.payload?, v.isEncodable ∧ v.isFinite := by
    decide +kernel
  have hwrote : WroteOnly policy "a" (fun v => v.isEncodable) arrivals :=
    wroteOnly_of_sent fun a ha hcustomer v hv => (hsent a ha hcustomer v hv).1
  have hfinite : WroteOnly policy "a" (fun v => v.isFinite) arrivals :=
    wroteOnly_of_sent fun a ha hcustomer v hv => (hsent a ha hcustomer v hv).2
  have hstore : storeAfter policy arrivals = store := by decide +kernel
  obtain ⟨hwriting, hserves⟩ := accepted_is_served policy arrivals hids "a" hwrote
  rw [hstore] at hwriting hserves
  have hserved := (hserves (headers "a") (by decide +kernel)).2 hfinite
  have hstatus : (refused.exchange policy store).response.status? = some 422 := by decide +kernel
  have hunchanged := (hwriting refused (.inl rfl) (by rw [hstatus]; decide)).2
    (by decide +kernel) (by decide +kernel)
  exact ⟨hids, hwrote, hfinite, hstore, hserved, hstatus, hunchanged⟩

/-- A number that is not finite is accepted and stored, and null is sent in its place.  A
text with a lone half in it is stored too, by a request that breaks off, and so does every
request for it from then on. -/
theorem accepted_not_served :
    let policy : Policy := ⟨false, true⟩
    let headers : Headers := [("X-Auth-Id", "a"), ("Content-Type", "application/json")]
    let post (v : Text) : Arrival := ⟨⟨"POST", "/api/documents", headers,
      "\x7b\"name\":\"d\",\"templateId\":\"t\",\"objectVariables\":\x7b\"x\":" ++ v ++ "\x7d\x7d"⟩,
      1, idOf 1⟩
    let row (v : Scalar) : DocumentRow := ⟨idOf 1, ⟨"d", "t", [("x", v)], [], []⟩, "a", 1, 1⟩
    let response (store : Store) : Response :=
      (handle policy 2 "" store (.get headers (.document (idOf 1)))).response
    let infinite := post "1e999"
    let broken := post "\"\\ud800\""
    ((infinite.exchange policy .empty).response.status? = some 200
      ∧ (storeAfter policy [infinite]).documents = [row (.float (.infinite false))]
      ∧ response (storeAfter policy [infinite])
        = .json 200 (wireObject (row (.float (.infinite false))).attributes).nulled
      ∧ ¬ Serves policy (storeAfter policy [infinite]) headers "a" id)
    ∧ (broken.exchange policy .empty).response = .crash .unserializable
      ∧ (storeAfter policy [broken]).documents = [row (.str ⟨"", [(⟨0xD800, by decide⟩, "")]⟩)]
      ∧ response (storeAfter policy [broken]) = .crash .unserializable
      ∧ ¬ Serves policy (storeAfter policy [broken]) headers "a" Value.nulled := by
  intro policy headers post row response infinite broken
  have hinfinite : storeAfter policy [infinite]
      = ⟨[], [row (.float (.infinite false))], .normal⟩ := by
    decide +kernel
  have hbroken : storeAfter policy [broken]
      = ⟨[], [row (.str ⟨"", [(⟨0xD800, by decide⟩, "")]⟩)], .normal⟩ := by
    decide +kernel
  rw [hinfinite, hbroken]
  have hnulled : response ⟨[], [row (.float (.infinite false))], .normal⟩
      = .json 200 (wireObject (row (.float (.infinite false))).attributes).nulled := by
    decide +kernel
  have hcrash : response ⟨[], [row (.str ⟨"", [(⟨0xD800, by decide⟩, "")]⟩)], .normal⟩
      = .crash .unserializable := by
    decide +kernel
  refine ⟨⟨by decide +kernel, rfl, hnulled, fun h => ?_⟩, by decide +kernel, rfl, hcrash,
    fun h => ?_⟩
  · have hsent := h.sends_document (List.mem_singleton_self _) rfl rfl 2 ""
    have hsame := hnulled.symm.trans hsent
    revert hsame
    decide +kernel
  · have hsent := h.sends_document (List.mem_singleton_self _) rfl rfl 2 ""
    cases hcrash.symm.trans hsent

end Http

end Formulary
