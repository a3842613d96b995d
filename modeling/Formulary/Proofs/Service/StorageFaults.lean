import Formulary.Http.Message
import Formulary.Proofs.Service.Reachable
import Formulary.Proofs.Service.StrictWrites

/-!
# When the storage fails

What an operation is answered while the storage refuses writes or lets nothing pass,
compared with the answer of a storage that works.

* Refusals.  `Operation.RefusedUnread` lists the operations that are refused for their
  payload before anything is read, and `plan_of_refusedUnread` says that no store is
  asked about them.
* A storage that is down.  `result_run_of_down` says that every other operation fails
  of it: no look-up answers that a row is not there.
* Writes.  `exists_change_of_writes` says that an operation that is to write and has
  been planned comes to a change, and `planned?_of_reads` that no other does.
* Three modes.  `outcome_readOnly_of_unplanned` and `result_of_planned` compare a
  storage that refuses writes with one that works, and `storage_faults` is the result.
-/

namespace Formulary

/-! ## Refusals -/

namespace Operation

/-- The operation is to create, update or delete something. -/
def writes : Operation → Bool
  | .createTemplate _ | .updateTemplate .. | .deleteTemplate _ | .createDocument ..
  | .updateDocument .. | .deleteDocument _ => true
  | .getTemplate _ | .findTemplate _ | .listTemplates | .getSchema _ | .getDocument _
  | .listDocuments | .resolveDocument _ => false

/-- The operations that are refused for their payload before anything is read. -/
inductive RefusedUnread : Operation → Prop
  | draft {payload issues} (h : TemplateDraft.ofValue payload = .error issues) :
      RefusedUnread (.createTemplate payload)
  | revision {id payload issues} (h : TemplateRevision.ofValue payload = .error issues) :
      RefusedUnread (.updateTemplate id payload)
  | submission {v issues} (h : Submission.ofValue v = .error issues) :
      RefusedUnread (.createDocument true v)
  | update {id v issues} (h : Submission.ofValue v = .error issues) :
      RefusedUnread (.updateDocument true id v)
  | noTemplate {readFirst v payload} (hpayload : Payload.ofInput readFirst v = .ok payload)
      (hid : payload.templateId = .ok "") : RefusedUnread (.createDocument readFirst v)
  | noAttributes {v} (hnull : v ≠ .null) (hobject : v.members? = none) :
      RefusedUnread (.createDocument false v)

end Operation

namespace Payload

theorem ofInput_of_error {v : Value} {issues : List Issue}
    (h : Submission.ofValue v = .error issues) : ofInput true v = .fail (.unreadable issues) := by
  simp only [ofInput, if_true, h, Checked.orFail]
  rfl

/-- What is neither null nor an object has no template id. -/
theorem templateId_of_noAttributes {v : Value} (hnull : v ≠ .null) (hobject : v.members? = none) :
    templateId (.raw v) = .error (.noAttribute v Submission.templateAttribute.row) := by
  cases v with
  | null => exact absurd rfl hnull
  | object members => cases hobject
  | bool _ | int _ | float _ | str _ | list _ => rfl

/-- A payload is refused only when it is read first. -/
theorem ofInput_cases (readFirst : Bool) (v : Value) :
    (readFirst = true ∧ ∃ issues, Submission.ofValue v = .error issues)
      ∨ ∃ payload, ofInput readFirst v = .ok payload := by
  unfold ofInput
  cases readFirst with
  | false => exact .inr ⟨_, rfl⟩
  | true =>
    cases hread : Submission.ofValue v with
    | error issues => exact .inl ⟨rfl, issues, rfl⟩
    | ok s => exact .inr ⟨.read s, rfl⟩

/-- Only what is handed over as it was sent can be something that has no attributes. -/
theorem noAttributes_of_ofInput {readFirst : Bool} {v : Value} {payload : Payload} {fault : Fault}
    (hpayload : ofInput readFirst v = .ok payload) (hid : payload.templateId = .error fault) :
    readFirst = false ∧ v ≠ .null ∧ v.members? = none := by
  cases payload with
  | read s => cases hid
  | raw w =>
    cases readFirst with
    | false =>
      cases hpayload
      refine ⟨rfl, ?_, ?_⟩
      · rintro rfl
        cases hid
      · cases v with
        | object members => cases hid
        | null | bool _ | int _ | float _ | str _ | list _ => rfl
    | true =>
      unfold ofInput at hpayload
      cases hread : Submission.ofValue v with
      | error issues =>
        rw [hread] at hpayload
        cases hpayload
      | ok s =>
        rw [hread] at hpayload
        cases hpayload

end Payload

/-- A payload that cannot be read is refused. -/
theorem Payload.refused_of_submission {payload : Payload} {failure : Failure}
    (h : payload.submission = .error failure) :
    ∃ complaints, failure = .refused .malformed complaints := by
  unfold submission at h
  split at h
  · cases h
  · split at h
    · cases h
    · exact ⟨_, (Except.error.inj h).symm⟩

/-- A new document without a template id is refused. -/
theorem prepare_of_no_template {payload : Payload} (h : payload.templateId = .ok "")
    (policy : Policy) (template : Option TemplateView) :
    ∃ reason complaints, prepare policy template payload = .fail (.refused reason complaints) := by
  cases hs : payload.submission with
  | error failure =>
    obtain ⟨complaints, rfl⟩ := Payload.refused_of_submission hs
    exact ⟨.malformed, complaints, prepare_of_submission_error hs policy template⟩
  | ok s =>
    have hmissing : s.missing ≠ [] := by
      intro hnil
      have hsolid := (Submission.solid_of_missing_eq_nil hnil).2
      have hempty : s.content.templateId = "" := (Payload.templateId_eq h hs).symm
      rw [hempty] at hsolid
      exact absurd hsolid (by decide)
    rw [prepare_of_submission hs, if_neg hmissing]
    exact ⟨_, _, rfl⟩

namespace Store

variable {store : Store} {policy : Policy} {caller : Caller} {operation : Operation}

/-- An operation that is refused unread is planned without any store, and fails of
something else than a row that is not there. -/
theorem plan_of_refusedUnread (h : operation.RefusedUnread) (policy : Policy) (caller : Caller) :
    ∃ failure, (∀ entity id, failure ≠ .notFound entity id)
      ∧ ∀ s : Store, s.plan policy caller operation = .fail failure := by
  cases h with
  | @draft payload issues hread =>
    refine ⟨.unreadable issues, by simp, fun s => ?_⟩
    simp only [plan, planCreateTemplate, hread, Checked.orFail, Outcome.fail_bind]
  | @revision id payload issues hread =>
    refine ⟨.unreadable issues, by simp, fun s => ?_⟩
    simp only [plan, planUpdateTemplate, hread, Checked.orFail, Outcome.fail_bind]
  | @submission v issues hread =>
    refine ⟨.unreadable issues, by simp, fun s => ?_⟩
    simp only [plan, Payload.ofInput_of_error hread, Outcome.fail_bind]
  | @update id v issues hread =>
    refine ⟨.unreadable issues, by simp, fun s => ?_⟩
    simp only [plan, Payload.ofInput_of_error hread, Outcome.fail_bind]
  | @noTemplate readFirst v payload hpayload hid =>
    obtain ⟨reason, complaints, hprepare⟩ := prepare_of_no_template hid policy none
    refine ⟨.refused reason complaints, by simp, fun s => ?_⟩
    have hresolve : s.resolveTemplate "" caller.customer = .ok none := if_pos rfl
    simp only [plan, planCreateDocument, hpayload, hid, Outcome.ofExcept_ok, Outcome.ok_bind,
      Outcome.mapError_ok, hresolve, Option.map_none, hprepare, Outcome.fail_bind]
  | @noAttributes v hnull hobject =>
    refine ⟨.fault (.noAttribute v Submission.templateAttribute.row), by simp, fun s => ?_⟩
    simp only [plan, planCreateDocument, Payload.ofInput, Bool.false_eq_true, if_false,
      Outcome.ok_bind, Payload.templateId_of_noAttributes hnull hobject]
    rfl

theorem outcome_of_refusedUnread (h : operation.RefusedUnread) (policy : Policy) (caller : Caller) :
    ∃ failure, (∀ entity id, failure ≠ .notFound entity id)
      ∧ ∀ s : Store, (s.run policy caller operation).outcome = .fail failure := by
  obtain ⟨failure, hfound, hplan⟩ := plan_of_refusedUnread h policy caller
  refine ⟨failure, hfound, fun s => ?_⟩
  unfold run
  rw [hplan]
  rfl

/-! ## A storage that is down -/

section Down

variable (hdown : store.mode = .down)

include hdown

theorem result_reading_of_down {α : Type} (texts : List Text) (notice : Notice) (a : α) :
    (store.reading texts notice a).result = .error .internal := by
  unfold reading
  rw [if_pos hdown]

theorem result_findTemplate_of_down (id : Option Text) (customer : Text) :
    (store.findTemplate id customer).result = .error .internal :=
  result_reading_of_down hdown ..

theorem result_getTemplate_of_down (id : Option Text) (customer : Text) :
    (store.getTemplate id customer).result = .error .internal :=
  Outcome.result_bind_of_error (result_findTemplate_of_down hdown id customer)

theorem result_getDocument_of_down (id : Option Text) (customer : Text) :
    (store.getDocument id customer).result = .error .internal :=
  Outcome.result_bind_of_error (result_reading_of_down hdown ..)

theorem result_resolveTemplate_of_down {id : Text} (hid : id ≠ "") (customer : Text) :
    (store.resolveTemplate id customer).result = .error .internal := by
  unfold resolveTemplate
  rw [if_neg hid]
  exact result_findTemplate_of_down hdown (some id) customer

/-- A new document whose template id is not empty fails of the look-up of its template,
and one that has none is refused unread. -/
theorem result_planCreateDocument_of_down {readFirst : Bool} {v : Value} {payload : Payload}
    (hpayload : Payload.ofInput readFirst v = .ok payload)
    (hop : ¬ (Operation.createDocument readFirst v).RefusedUnread) :
    (store.planCreateDocument policy caller payload).result = .error .internal := by
  cases hid : payload.templateId with
  | error fault =>
    obtain ⟨rfl, hnull, hobject⟩ := Payload.noAttributes_of_ofInput hpayload hid
    exact absurd (.noAttributes hnull hobject) hop
  | ok id =>
    have hne : id ≠ "" := by
      rintro rfl
      exact hop (.noTemplate hpayload hid)
    simp only [planCreateDocument, hid, Outcome.ofExcept_ok, Outcome.mapError_ok, Outcome.ok_bind]
    exact Outcome.result_bind_of_error (result_resolveTemplate_of_down hdown hne _)

/-- An operation that is not refused unread fails of a storage that is down. -/
theorem result_run_of_down (hop : ¬ operation.RefusedUnread) :
    (store.run policy caller operation).outcome.result = .error .internal := by
  cases operation with
  | createTemplate payload =>
    cases hread : TemplateDraft.ofValue payload with
    | error issues => exact absurd (.draft hread) hop
    | ok draft =>
      refine result_perform_of_change (planCreateTemplate_of_draft hread) rfl ?_
      rw [hdown]
      exact StorageMode.noConfusion
  | updateTemplate id payload =>
    cases hread : TemplateRevision.ofValue payload with
    | error issues => exact absurd (.revision hread) hop
    | ok revision =>
      refine result_perform_of_error ?_
      simp only [plan, planUpdateTemplate, hread, Checked.orFail, Outcome.ok_bind]
      exact Outcome.result_bind_of_error (result_getTemplate_of_down hdown id _)
  | createDocument readFirst v =>
    rcases Payload.ofInput_cases readFirst v with ⟨rfl, issues, hread⟩ | ⟨payload, hpayload⟩
    · exact absurd (.submission hread) hop
    · refine result_perform_of_error ?_
      simp only [plan, hpayload, Outcome.ok_bind]
      exact result_planCreateDocument_of_down hdown hpayload hop
  | updateDocument readFirst id v =>
    rcases Payload.ofInput_cases readFirst v with ⟨rfl, issues, hread⟩ | ⟨payload, hpayload⟩
    · exact absurd (.update hread) hop
    · refine result_perform_of_error ?_
      simp only [plan, hpayload, Outcome.ok_bind]
      exact Outcome.result_bind_of_error (result_getDocument_of_down hdown id _)
  | deleteTemplate id | getTemplate id =>
    exact result_perform_of_error
      (Outcome.result_bind_of_error (result_getTemplate_of_down hdown id _))
  | findTemplate id =>
    exact result_perform_of_error
      (Outcome.result_bind_of_error (result_findTemplate_of_down hdown id _))
  | listTemplates | listDocuments =>
    exact result_perform_of_error (Outcome.result_bind_of_error (result_reading_of_down hdown ..))
  | getSchema id =>
    refine result_perform_of_error (Outcome.result_bind_of_error ?_)
    exact Outcome.result_bind_of_error (result_getTemplate_of_down hdown id _)
  | deleteDocument id | getDocument id =>
    exact result_perform_of_error
      (Outcome.result_bind_of_error (result_getDocument_of_down hdown id _))
  | resolveDocument id =>
    refine result_perform_of_error (Outcome.result_bind_of_error ?_)
    exact Outcome.result_bind_of_error (result_getDocument_of_down hdown id _)

end Down

/-! ## Writes -/

/-- All rows had their last change before a time. -/
structure ChangedBefore (store : Store) (time : Instant) : Prop where
  templates : ∀ row ∈ store.templates, row.updatedAt < time
  documents : ∀ row ∈ store.documents, row.updatedAt < time

theorem change_replacing_of_ne {R : Type} [DecidableEq R] {change : R → Change}
    {answer : R → Answer} {old new : R} (h : new ≠ old) :
    (Plan.replacing change answer old new).change = some (change new) :=
  if_neg h

/-- An operation that is to write and has been planned comes to a change: the time of
an update is later than that of the row. -/
theorem exists_change_of_writes (hchanged : store.ChangedBefore caller.now)
    (hwrites : operation.writes = true) {p : Plan}
    (hplan : (store.plan policy caller operation).result = .ok p) :
    ∃ change, p.change = some change := by
  cases operation with
  | createTemplate payload =>
    obtain ⟨draft, hdraft, -⟩ := Outcome.result_bind_eq_ok_iff.1 hplan
    have hcreate : (store.plan policy caller (.createTemplate payload)).result = _ :=
      planCreateTemplate_of_draft (result_orFail_eq_ok_iff.1 hdraft)
    cases hplan.symm.trans hcreate
    exact ⟨_, rfl⟩
  | updateTemplate id payload =>
    obtain ⟨i, row, revision, rfl, hrow, -, rfl⟩ := planUpdateTemplate_eq_ok hplan
    refine ⟨_, change_replacing_of_ne fun hsame => ?_⟩
    have htime : caller.now = row.updatedAt := congrArg TemplateRow.updatedAt hsame
    exact Nat.lt_irrefl _ (htime ▸ hchanged.templates row (template?_eq_some hrow).1)
  | deleteTemplate id =>
    obtain ⟨row, -, hp⟩ := Outcome.result_bind_eq_ok_iff.1 hplan
    cases hp
    exact ⟨_, rfl⟩
  | createDocument readFirst v =>
    obtain ⟨payload, -, hp⟩ := Outcome.result_bind_eq_ok_iff.1 hplan
    obtain ⟨_, _, _, -, -, -, hchange, -⟩ := planCreateDocument_eq_ok hp
    exact ⟨_, hchange⟩
  | updateDocument readFirst id v =>
    obtain ⟨payload, -, hp⟩ := Outcome.result_bind_eq_ok_iff.1 hplan
    obtain ⟨i, row, _, _, changes, rfl, hrow, -, -, -, rfl⟩ := planUpdateDocument_eq_ok hp
    refine ⟨_, change_replacing_of_ne fun hsame => ?_⟩
    have htime : caller.now = row.updatedAt := congrArg DocumentRow.updatedAt hsame
    exact Nat.lt_irrefl _ (htime ▸ hchanged.documents row (document?_eq_some hrow).1)
  | deleteDocument id =>
    obtain ⟨row, -, hp⟩ := Outcome.result_bind_eq_ok_iff.1 hplan
    cases hp
    exact ⟨_, rfl⟩
  | getTemplate | findTemplate | listTemplates | getSchema | getDocument | listDocuments
  | resolveDocument => cases hwrites

/-- Only operations that are to write come to a change. -/
theorem Effect.writes {change : Change} (h : store.Effect policy caller operation change) :
    operation.writes = true := by
  cases h <;> rfl

/-- The change that an operation comes to, if it can be planned and is one. -/
def planned? (store : Store) (policy : Policy) (caller : Caller) (operation : Operation) :
    Option Change :=
  (store.plan policy caller operation).result.toOption.bind Plan.change

theorem planned?_eq_some_iff {change : Change} :
    store.planned? policy caller operation = some change
      ↔ ∃ p, (store.plan policy caller operation).result = .ok p ∧ p.change = some change := by
  unfold planned?
  cases (store.plan policy caller operation).result <;> simp [Except.toOption]

theorem planned?_of_reads (h : operation.writes = false) :
    store.planned? policy caller operation = none := by
  rw [Option.eq_none_iff_forall_ne_some]
  intro change hplanned
  obtain ⟨p, hplan, hchange⟩ := planned?_eq_some_iff.1 hplanned
  rw [(effect_of_plan hplan hchange).writes] at h
  cases h

/-- A storage that does not take writes stays as it is. -/
theorem store_run_of_refused (hmode : store.mode ≠ .normal) :
    (store.run policy caller operation).store = store := by
  rcases perform_store store (store.plan policy caller operation) with
    hsame | ⟨_, hnormal, -⟩
  · exact hsame
  · exact absurd hnormal hmode

/-- The fault of a change that is written with a text that has no UTF-8 form. -/
def writeFault? (store : Store) (policy : Policy) (caller : Caller) (operation : Operation) :
    Option Fault :=
  (store.planned? policy caller operation).bind fun change => textFault? change.texts

/-! ## Three modes -/

/-- A store with its storage in a mode. -/
def inMode (store : Store) (mode : StorageMode) : Store := { store with mode := mode }

/-- Where nothing is to be written, a storage that refuses writes is as good as
another. -/
theorem plan_readOnly (store : Store) (policy : Policy) (caller : Caller) (operation : Operation) :
    (store.inMode .readOnly).plan policy caller operation
      = (store.inMode .normal).plan policy caller operation := by
  have hseen : SeenAlike caller.customer (store.inMode .readOnly) (store.inMode .normal) := {
    down := iff_of_false StorageMode.noConfusion StorageMode.noConfusion
    template? := fun _ => rfl
    document? := fun _ => rfl
    templatesOf := rfl
    documentsOf := rfl }
  exact hseen.plan_eq policy operation

/-- An operation that comes to no change is answered alike by a storage that refuses
writes. -/
theorem outcome_readOnly_of_unplanned
    (h : (store.inMode .normal).planned? policy caller operation = none) :
    ((store.inMode .readOnly).run policy caller operation).outcome
      = ((store.inMode .normal).run policy caller operation).outcome := by
  unfold run
  rw [plan_readOnly]
  refine perform_of_unchanged _ _ fun p hplan => ?_
  rw [Option.eq_none_iff_forall_ne_some]
  intro change hchange
  rw [planned?_eq_some_iff.2 ⟨p, hplan, hchange⟩] at h
  cases h

/-- An operation that comes to a change fails of a storage that refuses writes.  On one
that works it fails of the texts of the change, or not at all. -/
theorem result_of_planned {change : Change}
    (h : (store.inMode .normal).planned? policy caller operation = some change) :
    ((store.inMode .readOnly).run policy caller operation).outcome.result = .error .internal
      ∧ (∀ fault, textFault? change.texts = some fault →
        ((store.inMode .normal).run policy caller operation).outcome.result
          = .error (.fault fault))
      ∧ (textFault? change.texts = none → ∃ answer,
        ((store.inMode .normal).run policy caller operation).outcome.result = .ok answer) := by
  obtain ⟨p, hplan, hchange⟩ := planned?_eq_some_iff.1 h
  refine ⟨?_, fun fault hfault => ?_, fun htexts => ?_⟩
  · unfold run
    rw [plan_readOnly]
    exact result_perform_of_change hplan hchange StorageMode.noConfusion
  · exact result_perform_of_textFault hplan hchange rfl hfault
  · refine ⟨p.answer, perform_eq_ok_iff.2 ⟨p, hplan, rfl, fun change' hchange' => ?_⟩⟩
    cases hchange.symm.trans hchange'
    exact obstacle?_eq_none_iff.2 ⟨rfl, htexts⟩

/-- What an operation is answered in the three modes, at a time later than that of all
changes before.

A storage that refuses writes answers a read as one that works, and also what fails
before it comes to a change.  All else fails of it: a write that would succeed, and one
that would fail of a text without a UTF-8 form.

A storage that is down answers what is refused unread, as any store does, and all else
fails of it.  So it is never answered that a row is not there.

No table is changed, and the failure tells a client nothing. -/
theorem storage_faults (hchanged : store.ChangedBefore caller.now) (policy : Policy)
    (operation : Operation) :
    let reply (mode : StorageMode) := (store.inMode mode).run policy caller operation
    let writeFault? := (store.inMode .normal).writeFault? policy caller operation
    ((operation.writes = false → (reply .readOnly).outcome = (reply .normal).outcome)
        ∧ (∀ failure, (reply .normal).outcome.result = .error failure → writeFault? = none →
          (reply .readOnly).outcome = (reply .normal).outcome)
        ∧ (∀ fault, writeFault? = some fault →
          (reply .normal).outcome.result = .error (.fault fault)
            ∧ (reply .readOnly).outcome.result = .error .internal)
        ∧ (∀ answer, operation.writes = true → (reply .normal).outcome.result = .ok answer →
          (reply .readOnly).outcome.result = .error .internal))
      ∧ ((operation.RefusedUnread → ∃ failure, (∀ entity id, failure ≠ .notFound entity id)
          ∧ (reply .normal).outcome.result = .error failure
          ∧ ∀ s : Store, (s.run policy caller operation).outcome = (reply .normal).outcome)
        ∧ (¬ operation.RefusedUnread → (reply .down).outcome.result = .error .internal))
      ∧ (∀ mode ≠ .normal, (reply mode).store.templates = store.templates
        ∧ (reply mode).store.documents = store.documents)
      ∧ Http.Response.ofFailure .internal
        = .json 500 (.object [("detail", .str "Internal Server Error")]) := by
  intro reply writeFault?
  refine ⟨⟨fun hreads => ?_, fun failure hfailure hfault => ?_, fun fault hfault => ?_,
    fun answer hwrites hanswer => ?_⟩, ⟨fun hrefused => ?_, fun hread => ?_⟩, fun mode hmode => ?_,
    rfl⟩
  · exact outcome_readOnly_of_unplanned (planned?_of_reads hreads)
  · cases hplanned : (store.inMode .normal).planned? policy caller operation with
    | none => exact outcome_readOnly_of_unplanned hplanned
    | some change =>
      have htexts : textFault? change.texts = none :=
        Option.bind_eq_none_iff.1 hfault change hplanned
      obtain ⟨answer, hanswer⟩ := (result_of_planned hplanned).2.2 htexts
      cases hfailure.symm.trans hanswer
  · obtain ⟨change, hplanned, htexts⟩ := Option.bind_eq_some_iff.1 hfault
    obtain ⟨hrefused, hnormal, -⟩ := result_of_planned hplanned
    exact ⟨hnormal fault htexts, hrefused⟩
  · obtain ⟨p, hplan, -⟩ := perform_eq_ok_iff.1 hanswer
    have hchanged' : (store.inMode .normal).ChangedBefore caller.now :=
      ⟨hchanged.templates, hchanged.documents⟩
    obtain ⟨change, hchange⟩ := exists_change_of_writes hchanged' hwrites hplan
    exact (result_of_planned (planned?_eq_some_iff.2 ⟨p, hplan, hchange⟩)).1
  · obtain ⟨failure, hfound, houtcome⟩ := outcome_of_refusedUnread hrefused policy caller
    exact ⟨failure, hfound, congrArg Outcome.result (houtcome _),
      fun s => (houtcome s).trans (houtcome _).symm⟩
  · exact result_run_of_down rfl hread
  · have hstore : (reply mode).store = store.inMode mode := store_run_of_refused hmode
    rw [hstore]
    exact ⟨rfl, rfl⟩

/-- A revision at a later time, the deletion of a document that is not there, and a
document without a template id. -/
theorem storage_faults_each :
    let row : TemplateRow :=
      ⟨"1", "Offer", some "", none, ⟨.list [], .list [], .list []⟩, "a", 1, 1⟩
    let store : Store := ⟨[row], [], .normal⟩
    let revise : Operation := .updateTemplate (some "1") (.object [("name", .str "Bid")])
    let delete : Operation := .deleteDocument (some "9")
    let create : Operation := .createDocument false .null
    let outcome (mode : StorageMode) (operation : Operation) :=
      ((store.inMode mode).run ⟨false, true⟩ ⟨"a", 2, "2"⟩ operation).outcome
    store.ChangedBefore 2
      ∧ (outcome .normal revise).result
        = .ok (.template { row with name := "Bid", updatedAt := 2 })
      ∧ (outcome .readOnly revise).result = .error .internal
      ∧ (outcome .down revise).result = .error .internal
      ∧ (outcome .normal delete).result = .error (.notFound .document (some "9"))
      ∧ outcome .readOnly delete = outcome .normal delete
      ∧ (outcome .down delete).result = .error .internal
      ∧ (∃ complaints, (outcome .normal create).result = .error (.refused .incomplete complaints))
      ∧ outcome .down create = outcome .normal create := by
  intro row store revise delete create outcome
  have hchanged : store.ChangedBefore (⟨"a", 2, "2"⟩ : Caller).now := ⟨by decide, by decide⟩
  obtain ⟨⟨-, -, -, hwrite⟩, ⟨-, hrevise⟩, -⟩ := storage_faults hchanged ⟨false, true⟩ revise
  obtain ⟨⟨-, hfailed, -⟩, ⟨-, hdelete⟩, -⟩ := storage_faults hchanged ⟨false, true⟩ delete
  obtain ⟨-, ⟨hcreate, -⟩, -⟩ := storage_faults hchanged ⟨false, true⟩ create
  have hnormal : (outcome .normal revise).result
      = .ok (.template { row with name := "Bid", updatedAt := 2 }) := by
    rfl
  have hmissing : (outcome .normal delete).result = .error (.notFound .document (some "9")) := by
    rfl
  have hread : ¬ Operation.RefusedUnread
      (.updateTemplate (some "1") (.object [("name", .str "Bid")])) := by
    intro h
    cases h with
    | revision hrevision => cases hrevision
  have hread' : ¬ Operation.RefusedUnread (.deleteDocument (some "9")) := by
    intro h
    cases h
  obtain ⟨_, -, -, hall⟩ := hcreate (.noTemplate rfl rfl)
  exact ⟨hchanged, hnormal, hwrite _ rfl hnormal, hrevise hread, hmissing,
    hfailed _ hmissing rfl, hdelete hread', ⟨_, rfl⟩, hall _⟩

/-- A text with a lone half fails of its encoding where the storage works, and of the
storage where that refuses writes: not every failure is answered alike by both. -/
theorem storage_faults_unencodable :
    let broken : Text := ⟨"", [(⟨0xD800, by decide⟩, "")]⟩
    let create : Operation :=
      .createTemplate (.object [("name", .str "Offer"), ("description", .str broken)])
    let outcome (mode : StorageMode) :=
      ((Store.empty.inMode mode).run ⟨false, true⟩ ⟨"a", 1, "1"⟩ create).outcome
    Reachable .empty ∧ Store.empty.ChangedBefore 1
      ∧ (outcome .normal).result = .error (.fault (.unencodable broken))
      ∧ (outcome .readOnly).result = .error .internal
      ∧ outcome .readOnly ≠ outcome .normal := by
  intro broken create outcome
  have hnormal : (outcome .normal).result = .error (.fault (.unencodable broken)) := by rfl
  have hreadOnly : (outcome .readOnly).result = .error .internal := by rfl
  refine ⟨.empty, ⟨by decide, by decide⟩, hnormal, hreadOnly, fun hsame => ?_⟩
  rw [hsame, hnormal] at hreadOnly
  cases hreadOnly

end Store

end Formulary
