import Formulary.Proofs.Document.Submission
import Formulary.Proofs.Http.Publishable
import Formulary.Proofs.Service.LiveRows

/-!
# Payloads as they were sent and read before

A document operation takes a payload as it was sent, or reads it before anything else.  For a
payload that can be read this is the same.

* `Payload.raw_agrees_read` says that both name the same template and hold the same
  submission, and `planCreateDocument_congr` and `planUpdateDocument_congr` that nothing else
  of a payload counts.
* A payload that was sent and cannot be read is refused after the template that it names has
  been looked up.  `templateTexts` are the texts of that look-up, and `Refuses` says what
  comes of them.
* `payloads_agree` is the result.
-/

namespace Formulary

/-- The id of the template that members name, empty when they name none. -/
def namedTemplate (members : Entries Value) : Text :=
  (Submission.templateAttribute.read members).text?.getD ""

/-- The texts that a template is looked up by for a customer; an empty id is not looked
up. -/
def templateTexts (id customer : Text) : List Text :=
  if id = "" then [] else [id, customer]

namespace Payload

variable {members : Entries Value} {s : Submission}

/-- A payload that can be read names the same template and holds the same submission before
and after. -/
theorem raw_agrees_read (h : Submission.ofValue (.object members) = .ok s) :
    (raw (.object members)).templateId = (read s).templateId
      ∧ (raw (.object members)).submission = (read s).submission := by
  constructor
  · unfold templateId
    dsimp only
    rw [Submission.templateId_of_ofValue h]
  · exact submission_of_ok ((Value.orElse_object members).symm ▸ h)

end Payload

/-! ## What counts of a payload -/

variable {payload other : Payload}

theorem prepare_congr (h : payload.submission = other.submission) (policy : Policy)
    (template : Option TemplateView) :
    prepare policy template payload = prepare policy template other := by
  unfold prepare
  rw [h]

theorem prepareUpdate_congr (h : payload.submission = other.submission) (policy : Policy)
    (template : Option TemplateView) (existing : Entries Value) :
    prepareUpdate policy template payload existing
      = prepareUpdate policy template other existing := by
  unfold prepareUpdate
  rw [h]

namespace Store

variable {store : Store} {policy : Policy} {caller : Caller} {members : Entries Value}
  {issues : List Issue}

theorem planCreateDocument_congr (hid : payload.templateId = other.templateId)
    (h : payload.submission = other.submission) :
    store.planCreateDocument policy caller payload
      = store.planCreateDocument policy caller other := by
  unfold planCreateDocument
  simp only [hid, prepare_congr h]

theorem planUpdateDocument_congr (hid : payload.templateId = other.templateId)
    (h : payload.submission = other.submission) (id : Option Text) :
    store.planUpdateDocument policy caller id payload
      = store.planUpdateDocument policy caller id other := by
  unfold planUpdateDocument
  simp only [hid, prepareUpdate_congr h]

/-! ## Payloads that cannot be read -/

/-- An operation changes nothing, and fails as a payload that cannot be read.  What is looked
up before comes first: a text that the storage does not take. -/
def Refuses (store : Store) (policy : Policy) (caller : Caller) (operation : Operation)
    (texts : List Text) (issues : List Issue) : Prop :=
  let reply := store.run policy caller operation
  reply.store = store
    ∧ ((∀ t ∈ texts, t.isEncodable) → reply.outcome.result = .error (.malformed issues))
    ∧ ((∃ t ∈ texts, t.isEncodable = false) →
      ∃ t ∈ texts, t.isEncodable = false
        ∧ reply.outcome.result = .error (.fault (.unencodable t)))

/-- The failure of a payload that cannot be read, after texts have been looked up. -/
def refusal (texts : List Text) (issues : List Issue) : Failure :=
  match textFault? texts with
  | some fault => .fault fault
  | none => .malformed issues

theorem refuses_of_plan {operation : Operation} {texts : List Text}
    (h : (store.plan policy caller operation).result = .error (refusal texts issues)) :
    store.Refuses policy caller operation texts issues := by
  have hresult : (store.run policy caller operation).outcome.result
      = .error (refusal texts issues) := result_perform_of_error h
  unfold Refuses
  dsimp only
  rw [run_error hresult, hresult]
  unfold refusal
  cases hfault : textFault? texts with
  | none =>
    refine ⟨rfl, fun _ => rfl, ?_⟩
    rintro ⟨t, ht, hbroken⟩
    simp [textFault?_eq_none_iff.1 hfault t ht] at hbroken
  | some fault =>
    refine ⟨rfl, fun henc => ?_, fun _ => ?_⟩
    · rw [textFault?_eq_none_iff.2 henc] at hfault
      cases hfault
    · obtain ⟨t, hfound, rfl⟩ := Option.map_eq_some_iff.1 hfault
      exact ⟨t, List.mem_of_find?_eq_some hfound, by simpa using List.find?_some hfound, rfl⟩

/-- A look-up of a template and a failure after it. -/
theorem resolveTemplate_fails (hup : store.mode ≠ .down) (id customer : Text) {α : Type}
    {next : Option TemplateRow → Outcome Failure α}
    (hnext : ∀ template, next template = .fail (.malformed issues)) :
    (store.resolveTemplate id customer >>= next).result
      = .error (refusal (templateTexts id customer) issues) := by
  unfold resolveTemplate templateTexts refusal
  by_cases hid : id = ""
  · rw [if_pos hid, if_pos hid, Outcome.ok_bind, hnext]
    rfl
  · rw [if_neg hid, if_neg hid]
    unfold findTemplate reading
    rw [if_neg hup]
    show Outcome.result (Outcome.bind (match textFault? [id, customer] with
      | some fault => .fail (.fault fault)
      | none => .ok _) next) = _
    cases textFault? [id, customer] with
    | some fault => rfl
    | none => exact congrArg Outcome.result (hnext _)

section Malformed

variable (hup : store.mode ≠ .down)
  (hmalformed : Submission.ofValue (.object members) = .error issues)

include hup hmalformed

/-- A new document is not made of a payload that cannot be read. -/
theorem createDocument_refuses (policy : Policy) (caller : Caller) :
    store.Refuses policy caller (.createDocument false (.object members))
      (templateTexts (namedTemplate members) caller.customer) issues := by
  have hsubmission := Payload.submission_object_of_error hmalformed
  refine refuses_of_plan ?_
  refine resolveTemplate_fails hup _ _ fun template => ?_
  rw [prepare_of_submission_error hsubmission, Outcome.fail_bind]

/-- A document is not changed by a payload that cannot be read.  The template that it has
already can be looked up. -/
theorem updateDocument_refuses (hlegible : store.Legible) (policy : Policy) (caller : Caller)
    {id : Text} {row : DocumentRow} (hrow : store.document? id caller.customer = some row) :
    store.Refuses policy caller (.updateDocument false (some id) (.object members))
      (templateTexts (namedTemplate members) caller.customer) issues := by
  have hsubmission := Payload.submission_object_of_error hmalformed
  obtain ⟨hmem, -, howner⟩ := document?_eq_some hrow
  have htexts := hlegible.documents row hmem
  have hget : (store.getDocument (some id) caller.customer).result = .ok row :=
    getDocument_of_found hup hrow htexts
  have hstored : textFault? (templateTexts row.content.templateId caller.customer) = none := by
    unfold templateTexts
    split
    · rfl
    · exact howner ▸ textFault?_template htexts
  refine refuses_of_plan ?_
  calc (store.plan policy caller (.updateDocument false (some id) (.object members))).result
    _ = .error (refusal (templateTexts
        (if namedTemplate members = "" then row.content.templateId else namedTemplate members)
        caller.customer) issues) := by
      refine (Outcome.result_bind_of_ok hget _).trans ?_
      refine resolveTemplate_fails hup _ _ fun template => ?_
      rw [prepareUpdate_of_submission_error hsubmission, Outcome.fail_bind]
    _ = .error (refusal (templateTexts (namedTemplate members) caller.customer) issues) := by
      split
      · rename_i hnone
        unfold refusal
        rw [hstored, hnone]
        rfl
      · rfl

end Malformed

/-- A document operation answers and does the same for a payload that can be read, whether it
is handed over as it was sent or read before.  One that cannot be read is refused as it was
sent, with a complaint for each issue, and changes nothing; before it is refused the template
that it names is looked up. -/
theorem payloads_agree (hstore : store.Reachable) (policy : Policy) (caller : Caller)
    (members : Entries Value) :
    (∀ s, Submission.ofValue (.object members) = .ok s →
      store.run policy caller (.createDocument false (.object members))
          = store.run policy caller (.createDocument true (.object members))
        ∧ ∀ id, store.run policy caller (.updateDocument false id (.object members))
          = store.run policy caller (.updateDocument true id (.object members)))
    ∧ ∀ issues, Submission.ofValue (.object members) = .error issues → store.mode = .normal →
      let texts := templateTexts (namedTemplate members) caller.customer
      store.Refuses policy caller (.createDocument false (.object members)) texts issues
        ∧ ∀ id row, store.document? id caller.customer = some row →
          store.Refuses policy caller (.updateDocument false (some id) (.object members)) texts
            issues := by
  refine ⟨fun s hs => ?_, fun issues hissues hnormal => ?_⟩
  · obtain ⟨hid, hsubmission⟩ := Payload.raw_agrees_read hs
    have hsent : Payload.ofInput false (.object members) = .ok (.raw (.object members)) := rfl
    have hread : Payload.ofInput true (.object members) = .ok (.read s) := by
      unfold Payload.ofInput
      rw [hs]
      rfl
    simp only [run, plan, hsent, hread, Outcome.ok_bind]
    exact ⟨congrArg store.perform (planCreateDocument_congr hid hsubmission),
      fun id => congrArg store.perform (planUpdateDocument_congr hid hsubmission id)⟩
  · have hup : store.mode ≠ .down := by
      rw [hnormal]
      exact StorageMode.noConfusion
    exact ⟨createDocument_refuses hup hissues policy caller, fun id row hrow =>
      updateDocument_refuses hup hissues hstore.legible policy caller hrow⟩

/-- A lone half of a surrogate pair in the template id is met by the look-up before the name
that is no text. -/
theorem payload_fault_of_unencodable :
    let broken : Text := ⟨"", [(⟨0xD800, by decide⟩, "")]⟩
    let members : Entries Value := [("name", .int 5), ("templateId", .str broken)]
    let reply :=
      Store.empty.run ⟨false, true⟩ ⟨"a", 1, "1"⟩ (.createDocument false (.object members))
    Store.empty.Reachable ∧ Store.empty.mode = .normal
      ∧ (∀ s, Submission.ofValue (.object members) ≠ .ok s)
      ∧ reply.outcome.result = .error (.fault (.unencodable broken))
      ∧ ∀ reason complaints, reply.outcome.result ≠ .error (.refused reason complaints) := by
  intro broken members reply
  have hresult : reply.outcome.result = .error (.fault (.unencodable broken)) := by
    decide +kernel
  refine ⟨.empty, rfl, fun s hs => ?_, hresult, fun reason complaints h => ?_⟩
  · cases hs
  · rw [hresult] at h
    cases h

/-- An update with keys of both spellings, some of them null, and one whose name is no
text. -/
theorem payloads_agree_of_update :
    let store := Store.empty.after ⟨false, true⟩ [
      .call ⟨"a", 1, "1"⟩ (.createDocument false (.object [("name", .str "Bill"),
        ("template_id", .str "t"), ("objectVariables", .object [("n", .int 1)])]))]
    let members : Entries Value := [("template_id", .str "u"), ("templateId", .str "t"),
      ("object_variables", .null), ("due", .null), ("name", .str "Offer")]
    let update (readFirst : Bool) (members : Entries Value) :=
      store.run ⟨false, true⟩ ⟨"a", 2, "2"⟩
        (.updateDocument readFirst (some "1") (.object members))
    store.Reachable
      ∧ (update false members).outcome.result
        = .ok (.document ⟨"1", ⟨"Offer", "t", [], [], []⟩, "a", 1, 2⟩)
      ∧ update false members = update true members
      ∧ (update false (("name", .int 5) :: members)).outcome.result
        = .error (.refused .malformed [⟨"name", .malformed .notText⟩]) := by
  intro store members update
  have hstore : store.Reachable := Reachable.empty.after _ _
  have hread : Submission.ofValue (.object members)
      = .ok ⟨.value "Offer", .value "t", .null, .absent, .absent⟩ := by rfl
  have hmalformed : Submission.ofValue (.object (("name", .int 5) :: members))
      = .error [⟨[.key "name"], .notText, .int 5⟩] := by rfl
  obtain ⟨hagree, -⟩ := payloads_agree hstore ⟨false, true⟩ ⟨"a", 2, "2"⟩ members
  obtain ⟨-, hrefused⟩ :=
    payloads_agree hstore ⟨false, true⟩ ⟨"a", 2, "2"⟩ (("name", .int 5) :: members)
  obtain ⟨-, hupdate⟩ := hrefused _ hmalformed (by rfl)
  obtain ⟨-, hresult, -⟩ := hupdate "1" ⟨"1", ⟨"Bill", "t", [("n", .int 1)], [], []⟩, "a", 1, 1⟩
    (by decide +kernel)
  exact ⟨hstore, by decide +kernel, (hagree _ hread).2 (some "1"), hresult (by decide +kernel)⟩

end Store

end Formulary
