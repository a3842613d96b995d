import Formulary.Service.Operation

/-!
# What operations do

An operation is planned by reading and then carried out.  This module says once
what a plan can come to, so that nothing proved about operations has to open them
again.

There are four groups.

* Look-ups.  The lemmas that end in `_eq_ok_iff` say exactly when a look-up
  answers, and what.
* Changes.  `Effect` lists the changes that an operation can plan, each with what
  has to be read for it, and `effect_of_plan` says that there are no others.
* What a customer sees.  `SeenAlike.plan_eq` says that a plan is made of the
  customer's look-ups and lists alone.
* Carrying out.  `perform_ok` has the cases of carrying out a plan, and the lemmas
  after it compare two stores in one mode, two plans with one result, and an
  answer with the plan that it comes from.
-/

namespace Formulary.Store

variable {store : Store} {policy : Policy} {caller : Caller}

/-! ## Look-ups -/

theorem reading_eq_ok_iff {α : Type} {texts : List Text} {notice : Notice} {a b : α} :
    (store.reading texts notice a).result = .ok b
      ↔ store.mode ≠ .down ∧ textFault? texts = none ∧ a = b := by
  unfold reading
  split
  · rename_i hdown
    simp [hdown]
  · rename_i hup
    split
    · rename_i fault hfault
      simp [hfault]
    · rename_i hfault
      simp [hup, hfault]

/-- A look-up answers unless the storage is down or is asked for a text that it
cannot take. -/
theorem findTemplate_eq_ok_iff {id : Option Text} {customer : Text} {found : Option TemplateRow} :
    (store.findTemplate id customer).result = .ok found
      ↔ store.mode ≠ .down ∧ textFault? (id.toList ++ [customer]) = none
        ∧ (id.bind fun id => store.template? id customer) = found :=
  reading_eq_ok_iff

/-- What has to be there is answered exactly when it is found. -/
theorem found_eq_ok_iff {α : Type} {read : Outcome Failure (Option α)}
    {next : Option α → Outcome Failure α} (hsome : ∀ a, next (some a) = .ok a)
    (hnone : ∃ failure, next none = .fail failure) {a : α} :
    (read >>= next).result = .ok a ↔ read.result = .ok (some a) := by
  rw [Outcome.result_bind_eq_ok_iff]
  constructor
  · rintro ⟨found, hfound, ha⟩
    cases found with
    | none =>
      obtain ⟨failure, hfailure⟩ := hnone
      simp [hfailure] at ha
    | some b =>
      rw [hsome] at ha
      cases ha
      exact hfound
  · intro hfound
    refine ⟨some a, hfound, ?_⟩
    rw [hsome]
    rfl

theorem getTemplate_eq_ok_iff {id : Option Text} {customer : Text} {row : TemplateRow} :
    (store.getTemplate id customer).result = .ok row
      ↔ store.mode ≠ .down ∧ textFault? (id.toList ++ [customer]) = none
        ∧ (id.bind fun id => store.template? id customer) = some row := by
  unfold getTemplate
  rw [found_eq_ok_iff (fun _ => rfl) ⟨_, rfl⟩]
  exact findTemplate_eq_ok_iff

theorem getDocument_eq_ok_iff {id : Option Text} {customer : Text} {row : DocumentRow} :
    (store.getDocument id customer).result = .ok row
      ↔ store.mode ≠ .down ∧ textFault? (id.toList ++ [customer]) = none
        ∧ (id.bind fun id => store.document? id customer) = some row := by
  unfold getDocument
  rw [found_eq_ok_iff (fun _ => rfl) ⟨_, rfl⟩]
  exact reading_eq_ok_iff

/-- A template that a document refers to is found under the id that it names. -/
theorem template?_of_resolveTemplate {id customer : Text} {row : TemplateRow}
    (h : (store.resolveTemplate id customer).result = .ok (some row)) :
    store.template? id customer = some row := by
  unfold resolveTemplate at h
  split at h
  · simp at h
  · exact (findTemplate_eq_ok_iff.1 h).2.2

/-! ## Changes -/

/-- The changes that an operation can plan, with what is read for them. -/
inductive Effect (store : Store) (policy : Policy) (caller : Caller) : Operation → Change → Prop
  | createTemplate {payload draft} (hdraft : TemplateDraft.ofValue payload = .ok draft) :
      Effect store policy caller (.createTemplate payload)
        (.insertTemplate (.create draft caller.freshId caller.customer caller.now))
  | updateTemplate {payload id row revision}
      (hrevision : TemplateRevision.ofValue payload = .ok revision)
      (hrow : store.template? id caller.customer = some row) :
      Effect store policy caller (.updateTemplate (some id) payload)
        (.replaceTemplate (row.revise revision caller.now))
  | deleteTemplate {id row} (hrow : store.template? id caller.customer = some row) :
      Effect store policy caller (.deleteTemplate (some id))
        (.removeTemplate row.id caller.customer)
  | createDocument {readFirst v payload templateId template content}
      (hpayload : (Payload.ofInput readFirst v).result = .ok payload)
      (hid : payload.templateId = .ok templateId)
      (htemplate : (store.resolveTemplate templateId caller.customer).result = .ok template)
      (hcontent : (prepare policy (template.map TemplateRow.view) payload).result = .ok content) :
      Effect store policy caller (.createDocument readFirst v)
        (.insertDocument (.create content caller.freshId caller.customer caller.now))
  | updateDocument {readFirst v payload id row templateId template changes}
      (hpayload : (Payload.ofInput readFirst v).result = .ok payload)
      (hrow : store.document? id caller.customer = some row)
      (hid : payload.templateId = .ok templateId)
      (htemplate : (store.resolveTemplate
        (if templateId = "" then row.content.templateId else templateId) caller.customer).result
          = .ok template)
      (hchanges : (prepareUpdate policy (template.map TemplateRow.view) payload
        (rowMembers row.attributes)).result = .ok changes) :
      Effect store policy caller (.updateDocument readFirst (some id) v)
        (.replaceDocument (row.update changes caller.now))
  | deleteDocument {id row} (hrow : store.document? id caller.customer = some row) :
      Effect store policy caller (.deleteDocument (some id))
        (.removeDocument row.id caller.customer)

theorem change_replacing {R : Type} [DecidableEq R] {change : R → Change} {answer : R → Answer}
    {old new : R} {made : Change} (h : (Plan.replacing change answer old new).change = some made) :
    made = change new := by
  unfold Plan.replacing at h
  dsimp only at h
  split at h
  · simp at h
  · simpa using h.symm

theorem result_orFail_eq_ok_iff {α : Type} {read : Checked α} {a : α} :
    read.orFail.result = .ok a ↔ read = .ok a := by
  cases read <;> simp [Checked.orFail]

/-- What has to be read and checked for a new document, and the row that it comes
to. -/
theorem planCreateDocument_eq_ok {payload : Payload} {plan : Plan}
    (h : (store.planCreateDocument policy caller payload).result = .ok plan) :
    ∃ templateId template content, payload.templateId = .ok templateId
      ∧ (store.resolveTemplate templateId caller.customer).result = .ok template
      ∧ (prepare policy (template.map TemplateRow.view) payload).result = .ok content
      ∧ plan.change = some
        (.insertDocument (.create content caller.freshId caller.customer caller.now))
      ∧ plan.answer
        = .document (.create content caller.freshId caller.customer caller.now) := by
  unfold planCreateDocument at h
  obtain ⟨templateId, hid, h⟩ := Outcome.result_bind_eq_ok_iff.1 h
  obtain ⟨template, htemplate, h⟩ := Outcome.result_bind_eq_ok_iff.1 h
  obtain ⟨content, hcontent, h⟩ := Outcome.result_bind_eq_ok_iff.1 h
  cases h
  rw [Outcome.result_mapError_eq_ok_iff, Outcome.result_ofExcept] at hid
  exact ⟨templateId, template, content, hid, htemplate, hcontent, rfl, rfl⟩

/-- What has to be read and checked for an update of a document, and the row that it
comes to. -/
theorem planUpdateDocument_eq_ok {payload : Payload} {id : Option Text} {plan : Plan}
    (h : (store.planUpdateDocument policy caller id payload).result = .ok plan) :
    ∃ i row templateId template changes, id = some i
      ∧ store.document? i caller.customer = some row ∧ payload.templateId = .ok templateId
      ∧ (store.resolveTemplate (if templateId = "" then row.content.templateId else templateId)
        caller.customer).result = .ok template
      ∧ (prepareUpdate policy (template.map TemplateRow.view) payload
        (rowMembers row.attributes)).result = .ok changes
      ∧ plan = .replacing .replaceDocument .document row (row.update changes caller.now) := by
  unfold planUpdateDocument at h
  obtain ⟨row, hrow, h⟩ := Outcome.result_bind_eq_ok_iff.1 h
  obtain ⟨templateId, hid, h⟩ := Outcome.result_bind_eq_ok_iff.1 h
  obtain ⟨template, htemplate, h⟩ := Outcome.result_bind_eq_ok_iff.1 h
  obtain ⟨changes, hchanges, h⟩ := Outcome.result_bind_eq_ok_iff.1 h
  cases h
  rw [Outcome.result_mapError_eq_ok_iff, Outcome.result_ofExcept] at hid
  obtain ⟨i, rfl, hfind⟩ := Option.bind_eq_some_iff.1 (getDocument_eq_ok_iff.1 hrow).2.2
  exact ⟨i, row, templateId, template, changes, rfl, hfind, hid, htemplate, hchanges, rfl⟩

/-- A new template is planned as soon as its draft has been read. -/
theorem planCreateTemplate_of_draft {payload : Value} {draft : TemplateDraft}
    (h : TemplateDraft.ofValue payload = .ok draft) :
    (planCreateTemplate caller payload).result
      = .ok ⟨some (.insertTemplate (.create draft caller.freshId caller.customer caller.now)),
        .template (.create draft caller.freshId caller.customer caller.now),
        [.created .template caller.freshId caller.customer]⟩ := by
  unfold planCreateTemplate
  rw [Outcome.result_bind_eq_ok_iff]
  refine ⟨draft, result_orFail_eq_ok_iff.2 h, ?_⟩
  rw [Outcome.result_bind_eq_ok_iff]
  exact ⟨(), rfl, rfl⟩

/-- What has to be read for a revision of a template, and the row that it comes to. -/
theorem planUpdateTemplate_eq_ok {id : Option Text} {payload : Value} {plan : Plan}
    (h : (store.planUpdateTemplate caller id payload).result = .ok plan) :
    ∃ i row revision, id = some i ∧ store.template? i caller.customer = some row
      ∧ TemplateRevision.ofValue payload = .ok revision
      ∧ plan = .replacing .replaceTemplate .template row (row.revise revision caller.now) := by
  unfold planUpdateTemplate at h
  obtain ⟨revision, hrevision, h⟩ := Outcome.result_bind_eq_ok_iff.1 h
  obtain ⟨row, hrow, h⟩ := Outcome.result_bind_eq_ok_iff.1 h
  obtain ⟨_, -, h⟩ := Outcome.result_bind_eq_ok_iff.1 h
  cases h
  obtain ⟨i, rfl, hfind⟩ := Option.bind_eq_some_iff.1 (getTemplate_eq_ok_iff.1 hrow).2.2
  exact ⟨i, row, revision, rfl, hfind, result_orFail_eq_ok_iff.1 hrevision, rfl⟩

theorem effect_of_planUpdateTemplate {id : Option Text} {payload : Value} {plan : Plan}
    {change : Change} (h : (store.planUpdateTemplate caller id payload).result = .ok plan)
    (hchange : plan.change = some change) :
    store.Effect policy caller (.updateTemplate id payload) change := by
  obtain ⟨i, row, revision, rfl, hrow, hrevision, rfl⟩ := planUpdateTemplate_eq_ok h
  rw [change_replacing hchange]
  exact .updateTemplate hrevision hrow

theorem effect_of_planDeleteTemplate {id : Option Text} {plan : Plan} {change : Change}
    (h : (store.planDeleteTemplate caller id).result = .ok plan)
    (hchange : plan.change = some change) :
    store.Effect policy caller (.deleteTemplate id) change := by
  unfold planDeleteTemplate at h
  obtain ⟨row, hrow, h⟩ := Outcome.result_bind_eq_ok_iff.1 h
  cases h
  cases hchange
  obtain ⟨i, rfl, hfind⟩ := Option.bind_eq_some_iff.1 (getTemplate_eq_ok_iff.1 hrow).2.2
  exact .deleteTemplate hfind

theorem effect_of_planCreateDocument {readFirst : Bool} {v : Value} {payload : Payload}
    {plan : Plan} {change : Change} (hpayload : (Payload.ofInput readFirst v).result = .ok payload)
    (h : (store.planCreateDocument policy caller payload).result = .ok plan)
    (hchange : plan.change = some change) :
    store.Effect policy caller (.createDocument readFirst v) change := by
  obtain ⟨templateId, template, content, hid, htemplate, hcontent, hplan, -⟩ :=
    planCreateDocument_eq_ok h
  cases hchange.symm.trans hplan
  exact .createDocument hpayload hid htemplate hcontent

theorem effect_of_planUpdateDocument {readFirst : Bool} {v : Value} {payload : Payload}
    {id : Option Text} {plan : Plan} {change : Change}
    (hpayload : (Payload.ofInput readFirst v).result = .ok payload)
    (h : (store.planUpdateDocument policy caller id payload).result = .ok plan)
    (hchange : plan.change = some change) :
    store.Effect policy caller (.updateDocument readFirst id v) change := by
  obtain ⟨i, row, templateId, template, changes, rfl, hrow, hid, htemplate, hchanges, rfl⟩ :=
    planUpdateDocument_eq_ok h
  rw [change_replacing hchange]
  exact .updateDocument hpayload hrow hid htemplate hchanges

theorem effect_of_planDeleteDocument {id : Option Text} {plan : Plan} {change : Change}
    (h : (store.planDeleteDocument caller id).result = .ok plan)
    (hchange : plan.change = some change) :
    store.Effect policy caller (.deleteDocument id) change := by
  unfold planDeleteDocument at h
  obtain ⟨row, hrow, h⟩ := Outcome.result_bind_eq_ok_iff.1 h
  cases h
  cases hchange
  obtain ⟨i, rfl, hfind⟩ := Option.bind_eq_some_iff.1 (getDocument_eq_ok_iff.1 hrow).2.2
  exact .deleteDocument hfind

/-- A plan that reads and answers has no change. -/
theorem change_answering {α : Type} {read : Outcome Failure α} {answer : α → Answer} {plan : Plan}
    (h : (do return .answering (answer (← read)) : Outcome Failure Plan).result = .ok plan) :
    plan.change = none := by
  obtain ⟨a, -, h⟩ := Outcome.result_bind_eq_ok_iff.1 h
  cases h
  rfl

/-- An operation plans no other changes. -/
theorem effect_of_plan {operation : Operation} {plan : Plan} {change : Change}
    (h : (store.plan policy caller operation).result = .ok plan)
    (hchange : plan.change = some change) : store.Effect policy caller operation change := by
  cases operation with
  | createTemplate payload =>
    obtain ⟨draft, hdraft, h⟩ := Outcome.result_bind_eq_ok_iff.1 h
    obtain ⟨_, -, h⟩ := Outcome.result_bind_eq_ok_iff.1 h
    cases h
    cases hchange
    exact .createTemplate (result_orFail_eq_ok_iff.1 hdraft)
  | updateTemplate id payload => exact effect_of_planUpdateTemplate h hchange
  | deleteTemplate id => exact effect_of_planDeleteTemplate h hchange
  | createDocument readFirst v =>
    obtain ⟨payload, hpayload, h⟩ := Outcome.result_bind_eq_ok_iff.1 h
    exact effect_of_planCreateDocument hpayload h hchange
  | updateDocument readFirst id v =>
    obtain ⟨payload, hpayload, h⟩ := Outcome.result_bind_eq_ok_iff.1 h
    exact effect_of_planUpdateDocument hpayload h hchange
  | deleteDocument id => exact effect_of_planDeleteDocument h hchange
  | getTemplate | findTemplate | listTemplates | getSchema | getDocument | listDocuments
  | resolveDocument => simp [change_answering h] at hchange

/-! ## What a customer sees -/

/-- Two stores in which each look-up and list of a customer is the same, and of which
both can be read or neither. -/
structure SeenAlike (customer : Text) (s t : Store) : Prop where
  down : s.mode = .down ↔ t.mode = .down
  template? : ∀ id, s.template? id customer = t.template? id customer
  document? : ∀ id, s.document? id customer = t.document? id customer
  templatesOf : s.templatesOf customer = t.templatesOf customer
  documentsOf : s.documentsOf customer = t.documentsOf customer

namespace SeenAlike

variable {customer : Text} {s t : Store}

theorem reading_eq {α : Type} (h : SeenAlike customer s t) (texts : List Text)
    (notice : Notice) (a : α) : s.reading texts notice a = t.reading texts notice a := by
  unfold reading
  simp only [h.down]

theorem findTemplate_eq (h : SeenAlike customer s t) (id : Option Text) :
    s.findTemplate id customer = t.findTemplate id customer := by
  unfold findTemplate
  rw [h.reading_eq, funext h.template?]

theorem getTemplate_eq (h : SeenAlike customer s t) (id : Option Text) :
    s.getTemplate id customer = t.getTemplate id customer := by
  unfold getTemplate
  rw [h.findTemplate_eq]

theorem getDocument_eq (h : SeenAlike customer s t) (id : Option Text) :
    s.getDocument id customer = t.getDocument id customer := by
  unfold getDocument
  rw [h.reading_eq, funext h.document?]

theorem resolveTemplate_eq (h : SeenAlike customer s t) (id : Text) :
    s.resolveTemplate id customer = t.resolveTemplate id customer := by
  unfold resolveTemplate
  rw [h.findTemplate_eq]

/-- An operation is planned from what the customer sees. -/
theorem plan_eq {caller : Caller} (h : SeenAlike caller.customer s t) (policy : Policy)
    (operation : Operation) : s.plan policy caller operation = t.plan policy caller operation := by
  cases operation with
  | createTemplate payload => rfl
  | updateTemplate id payload =>
    simp only [plan, planUpdateTemplate, h.getTemplate_eq]
  | getTemplate id => simp only [plan, h.getTemplate_eq]
  | findTemplate id => simp only [plan, h.findTemplate_eq]
  | listTemplates => simp only [plan, listTemplates, h.reading_eq, h.templatesOf]
  | deleteTemplate id => simp only [plan, planDeleteTemplate, h.getTemplate_eq]
  | getSchema id => simp only [plan, getSchema, h.getTemplate_eq]
  | createDocument readFirst v => simp only [plan, planCreateDocument, h.resolveTemplate_eq]
  | updateDocument readFirst id v =>
    simp only [plan, planUpdateDocument, h.getDocument_eq, h.resolveTemplate_eq]
  | getDocument id => simp only [plan, h.getDocument_eq]
  | listDocuments => simp only [plan, listDocuments, h.reading_eq, h.documentsOf]
  | deleteDocument id => simp only [plan, planDeleteDocument, h.getDocument_eq]
  | resolveDocument id => simp only [plan, resolveDocument, h.getDocument_eq, h.resolveTemplate_eq]

end SeenAlike

/-! ## Carrying out -/

/-- What stands in the way of a change, with the notices of it. -/
def obstacle? (mode : StorageMode) (change : Change) : Option (List Notice × Failure) :=
  if mode = .normal then (textFault? change.texts).map fun fault => ([], .fault fault)
  else some ([change.failureNotice], .internal)

/-- A plan is carried out unless something stands in the way of its change. -/
theorem perform_ok (store : Store) (notices : List Notice) (p : Plan) :
    store.perform ⟨notices, .ok p⟩ =
      match p.change with
      | none => ⟨⟨notices ++ p.notices, .ok p.answer⟩, store, false⟩
      | some change =>
        match obstacle? store.mode change with
        | some (more, failure) => ⟨⟨notices ++ more, .error failure⟩, store, change.inserts⟩
        | none => ⟨⟨notices ++ p.notices, .ok p.answer⟩, store.apply change, change.inserts⟩ := by
  unfold perform obstacle?
  dsimp only
  cases p.change with
  | none => rfl
  | some change =>
    dsimp only
    by_cases hnormal : store.mode = .normal
    · rw [if_pos hnormal, if_pos hnormal]
      cases textFault? change.texts with
      | none => rfl
      | some fault => simp
    · rw [if_neg hnormal, if_neg hnormal]

theorem textFault?_eq_none_iff {texts : List Text} :
    textFault? texts = none ↔ ∀ t ∈ texts, t.isEncodable := by
  simp [textFault?]

theorem obstacle?_eq_none_iff {mode : StorageMode} {change : Change} :
    obstacle? mode change = none ↔ mode = .normal ∧ textFault? change.texts = none := by
  unfold obstacle?
  split
  · rename_i hnormal
    simp [hnormal]
  · rename_i hrefused
    simp [hrefused]

/-- An operation is answered as planned exactly when nothing stands in the way of its
change. -/
theorem perform_eq_ok_iff {plan : Outcome Failure Plan} {answer : Answer} :
    (store.perform plan).outcome.result = .ok answer
      ↔ ∃ p, plan.result = .ok p ∧ p.answer = answer
        ∧ ∀ change ∈ p.change, obstacle? store.mode change = none := by
  rcases plan with ⟨notices, failure | p⟩
  · simp [perform]
  · rw [perform_ok]
    cases hchange : p.change with
    | none => simp [hchange]
    | some change => cases hobstacle : obstacle? store.mode change <;> simp [hchange, hobstacle]

/-- A plan without a change is carried out alike on all stores. -/
theorem perform_of_unchanged (s t : Store) {plan : Outcome Failure Plan}
    (h : ∀ p, plan.result = .ok p → p.change = none) :
    (s.perform plan).outcome = (t.perform plan).outcome := by
  rcases plan with ⟨notices, failure | p⟩
  · rfl
  · rw [perform_ok, perform_ok, h p rfl]

/-- What stands in the way of a change is what the operation fails of. -/
theorem result_perform_of_obstacle {plan : Outcome Failure Plan} {p : Plan} {change : Change}
    (hplan : plan.result = .ok p) (hchange : p.change = some change) {notices : List Notice}
    {failure : Failure} (hobstacle : obstacle? store.mode change = some (notices, failure)) :
    (store.perform plan).outcome.result = .error failure := by
  rcases plan with ⟨_, _⟩
  cases hplan
  rw [perform_ok, hchange]
  dsimp only
  rw [hobstacle]

/-- A storage that works fails of the texts that it cannot take. -/
theorem result_perform_of_textFault {plan : Outcome Failure Plan} {p : Plan} {change : Change}
    (hplan : plan.result = .ok p) (hchange : p.change = some change) (hmode : store.mode = .normal)
    {fault : Fault} (hfault : textFault? change.texts = some fault) :
    (store.perform plan).outcome.result = .error (.fault fault) := by
  have hobstacle : obstacle? store.mode change = some ([], .fault fault) := by
    unfold obstacle?
    rw [if_pos hmode, hfault]
    rfl
  exact result_perform_of_obstacle hplan hchange hobstacle

/-- A storage that does not take writes fails, whatever the change. -/
theorem result_perform_of_change {plan : Outcome Failure Plan} {p : Plan} {change : Change}
    (hplan : plan.result = .ok p) (hchange : p.change = some change)
    (hmode : store.mode ≠ .normal) :
    (store.perform plan).outcome.result = .error .internal :=
  result_perform_of_obstacle hplan hchange (if_neg hmode)

/-- What cannot be planned is not carried out. -/
theorem result_perform_of_error {plan : Outcome Failure Plan} {failure : Failure}
    (h : plan.result = .error failure) :
    (store.perform plan).outcome.result = .error failure := by
  rcases plan with ⟨_, _⟩
  cases h
  rfl

/-- A plan is carried out alike on all stores in one mode: they answer alike, and
the same change is made to all of them or to none. -/
theorem perform_congr {s t : Store} (hmode : s.mode = t.mode) (plan : Outcome Failure Plan) :
    (s.perform plan).outcome = (t.perform plan).outcome
      ∧ ((s.perform plan).store = s ∧ (t.perform plan).store = t
        ∨ ∃ p change, plan.result = .ok p ∧ p.change = some change
          ∧ (s.perform plan).store = s.apply change
          ∧ (t.perform plan).store = t.apply change) := by
  rcases plan with ⟨notices, failure | p⟩
  · exact ⟨rfl, .inl ⟨rfl, rfl⟩⟩
  · rw [perform_ok, perform_ok, hmode]
    cases hchange : p.change with
    | none => exact ⟨rfl, .inl ⟨rfl, rfl⟩⟩
    | some change =>
      dsimp only
      cases obstacle? t.mode change with
      | some obstacle => exact ⟨rfl, .inl ⟨rfl, rfl⟩⟩
      | none => exact ⟨rfl, .inr ⟨p, change, rfl, hchange, rfl, rfl⟩⟩

/-- Plans that differ in their notices alone are carried out alike. -/
theorem perform_result_congr (store : Store) {plan plan' : Outcome Failure Plan}
    (h : plan.result = plan'.result) :
    (store.perform plan).outcome.result = (store.perform plan').outcome.result
      ∧ (store.perform plan).store = (store.perform plan').store := by
  rcases plan with ⟨notices, failure | p⟩
  · rcases plan' with ⟨notices', _⟩
    cases h
    exact ⟨rfl, rfl⟩
  · rcases plan' with ⟨notices', _⟩
    cases h
    rw [perform_ok, perform_ok]
    cases p.change with
    | none => exact ⟨rfl, rfl⟩
    | some change =>
      dsimp only
      cases obstacle? store.mode change with
      | some obstacle => exact ⟨rfl, rfl⟩
      | none => exact ⟨rfl, rfl⟩

/-- What is answered has been planned, and the change that was planned with it is
made. -/
theorem perform_of_ok {plan : Outcome Failure Plan} {answer : Answer}
    (h : (store.perform plan).outcome.result = .ok answer) :
    ∃ p, plan.result = .ok p ∧ p.answer = answer
      ∧ (store.perform plan).store = (p.change.map store.apply).getD store := by
  rcases plan with ⟨notices, failure | p⟩
  · cases h
  · refine ⟨p, rfl, ?_⟩
    rw [perform_ok] at h ⊢
    cases hchange : p.change with
    | none =>
      rw [hchange] at h
      exact ⟨Except.ok.inj h, rfl⟩
    | some change =>
      rw [hchange] at h
      dsimp only at h ⊢
      cases hobstacle : obstacle? store.mode change with
      | some obstacle =>
        rw [hobstacle] at h
        cases h
      | none =>
        rw [hobstacle] at h
        exact ⟨Except.ok.inj h, rfl⟩

/-- A change that an operation makes has texts that the storage takes. -/
theorem run_store_texts (store : Store) (policy : Policy) (caller : Caller)
    (operation : Operation) :
    (store.run policy caller operation).store = store
      ∨ ∃ change, store.Effect policy caller operation change
        ∧ (∀ t ∈ change.texts, t.isEncodable)
        ∧ (store.run policy caller operation).store = store.apply change := by
  cases hresult : (store.run policy caller operation).outcome.result with
  | error failure => exact .inl (run_error hresult)
  | ok answer =>
    obtain ⟨p, hplan, -, hafter⟩ := perform_of_ok hresult
    obtain ⟨_, hp, -, hobstacle⟩ := perform_eq_ok_iff.1 hresult
    cases hplan.symm.trans hp
    cases hchange : p.change with
    | none =>
      rw [hchange] at hafter
      exact .inl hafter
    | some change =>
      rw [hchange] at hafter
      have htexts := (obstacle?_eq_none_iff.1 (hobstacle change hchange)).2
      exact .inr ⟨change, effect_of_plan hplan hchange, textFault?_eq_none_iff.1 htexts, hafter⟩

/-- After an operation a store is as it was, or one change of the operation
further. -/
theorem run_store (store : Store) (policy : Policy) (caller : Caller) (operation : Operation) :
    (store.run policy caller operation).store = store
      ∨ ∃ change, store.Effect policy caller operation change
        ∧ (store.run policy caller operation).store = store.apply change :=
  (run_store_texts store policy caller operation).imp_right fun ⟨change, heffect, _, hrun⟩ =>
    ⟨change, heffect, hrun⟩

end Formulary.Store
