import Formulary.Proofs.Document.Conformance
import Formulary.Proofs.Document.Submission
import Formulary.Proofs.Service.Session

/-!
# Strict writes

What a strict policy has made sure of when a document has been written: the
template that the document refers to is there, and the content that was asked
for conforms to it.  Beyond that the write is the one of a lenient policy.

The content that was asked for is not always the one that is stored.  A group of
variables that is alike to the stored one is not written again, and alike does
not mean the same: a truth value is alike to a number.  So a new document always
conforms, and an updated one exactly when the groups that were not written again
do.

* `Payload.templateId_eq` says that the template which is looked up is the one
  that the content names, although it is read from the payload apart.
* `run_lenient` compares strict and lenient operations.
-/

namespace Formulary

/-! ## The template that is looked up -/

/-- The template id that a payload gives is the one of the submission in it. -/
theorem Payload.templateId_eq {payload : Payload} {id : Text} {s : Submission}
    (hid : payload.templateId = .ok id) (hs : payload.submission = .ok s) :
    id = s.templateId.getD "" := by
  have hread {v : Value} {s : Submission} (h : Payload.submission (.raw v) = .ok s) :
      Submission.ofValue (v.orElse (.object [])) = .ok s := by
    unfold submission at h
    dsimp only at h
    split at h
    · rename_i s' hs'
      rw [hs', Except.ok.inj h]
    · cases h
  cases payload with
  | read submission =>
    cases hs
    exact (Except.ok.inj hid).symm
  | raw v =>
    have hs := hread hs
    cases v with
    | null =>
      rw [Supplied.getD, Submission.templateId_of_ofValue hs]
      exact (Except.ok.inj hid).symm
    | object members =>
      rw [Value.orElse_object] at hs
      rw [Supplied.getD, Submission.templateId_of_ofValue hs]
      exact (Except.ok.inj hid).symm
    | bool _ | int _ | float _ | str _ | list _ => cases hid

/-! ## Strict and lenient -/

/-- A policy that does not look at templates. -/
def Policy.lenient (policy : Policy) : Policy := { policy with strict := false }

theorem Policy.check_lenient (policy : Policy) (template : Option TemplateView)
    (content : Content) : (policy.lenient.check template content).result = .ok () :=
  Policy.check_eq_ok_iff.2 fun h => absurd h Bool.false_ne_true

theorem prepare_lenient {policy : Policy} {template : Option TemplateView} {payload : Payload}
    {content : Content} (h : (prepare policy template payload).result = .ok content) :
    (prepare policy.lenient template payload).result = .ok content := by
  obtain ⟨s, hs, hmissing, hcontent, -⟩ := prepare_eq_ok_iff.1 h
  exact prepare_eq_ok_iff.2 ⟨s, hs, hmissing, hcontent, policy.check_lenient template content⟩

theorem prepareUpdate_lenient {policy : Policy} {template : Option TemplateView}
    {payload : Payload} {row : DocumentRow} {changes : ContentChanges}
    (h : (prepareUpdate policy template payload (rowMembers row.attributes)).result
      = .ok changes) :
    (prepareUpdate policy.lenient template payload (rowMembers row.attributes)).result
      = .ok changes := by
  obtain ⟨u, hu, hemptied, hchanges, -⟩ := prepareUpdate_eq_ok_iff.1 h
  exact prepareUpdate_eq_ok_iff.2 ⟨u, hu, hemptied, hchanges, policy.check_lenient template _⟩

namespace Store

variable {store : Store} {policy : Policy} {caller : Caller}

/-- What is planned under a policy is planned under the lenient one. -/
theorem plan_lenient {operation : Operation} {p : Plan}
    (h : (store.plan policy caller operation).result = .ok p) :
    (store.plan policy.lenient caller operation).result = .ok p := by
  cases operation with
  | createDocument readFirst v =>
    simp only [plan, planCreateDocument, Outcome.result_bind_eq_ok_iff] at h ⊢
    obtain ⟨payload, hpayload, templateId, hid, template, htemplate, content, hcontent, h⟩ := h
    exact ⟨payload, hpayload, templateId, hid, template, htemplate, content,
      prepare_lenient hcontent, h⟩
  | updateDocument readFirst id v =>
    simp only [plan, planUpdateDocument, Outcome.result_bind_eq_ok_iff] at h ⊢
    obtain ⟨payload, hpayload, row, hrow, templateId, hid, template, htemplate, changes,
      hchanges, h⟩ := h
    exact ⟨payload, hpayload, row, hrow, templateId, hid, template, htemplate, changes,
      prepareUpdate_lenient hchanges, h⟩
  | createTemplate | updateTemplate | getTemplate | findTemplate | listTemplates
  | deleteTemplate | getSchema | getDocument | listDocuments | deleteDocument
  | resolveDocument => exact h

/-- What is answered under a policy is answered under the lenient one, with the same
store after it. -/
theorem run_lenient {operation : Operation} {answer : Answer}
    (h : (store.run policy caller operation).outcome.result = .ok answer) :
    (store.run policy.lenient caller operation).outcome.result = .ok answer
      ∧ (store.run policy.lenient caller operation).store
        = (store.run policy caller operation).store := by
  obtain ⟨p, hplan, -⟩ := perform_of_ok h
  obtain ⟨houtcome, hstore⟩ := perform_result_congr store
    ((plan_lenient hplan).trans hplan.symm)
  exact ⟨houtcome.trans h, hstore⟩

/-! ## What a strict write stores -/

/-- A content that passes a strict check conforms to the template that was looked
up, which is there and belongs to the customer. -/
theorem conforms_of_check {id customer : Text} {template : Option TemplateRow}
    {content : Content} (hstrict : policy.strict = true)
    (htemplate : (store.resolveTemplate id customer).result = .ok template)
    (hcheck : (policy.check (template.map TemplateRow.view) content).result = .ok ()) :
    ∃ found ∈ store.templates, found.id = id ∧ found.customer = customer
      ∧ content.Conforms policy.askNonEmpty found.view := by
  obtain ⟨view, hview, hconforms⟩ := Policy.check_eq_ok_iff.1 hcheck hstrict
  obtain ⟨found, rfl, rfl⟩ := Option.map_eq_some_iff.1 hview
  obtain ⟨hmem, hid, hcustomer⟩ := template?_eq_some (template?_of_resolveTemplate htemplate)
  exact ⟨found, hmem, hid, hcustomer, hconforms⟩

/-- A document that is created conforms to the template that it refers to. -/
theorem created_conforms {readFirst : Bool} {v : Value} {row : DocumentRow}
    (hstrict : policy.strict = true)
    (h : (store.run policy caller (.createDocument readFirst v)).outcome.result
      = .ok (.document row)) :
    let after := (store.run policy caller (.createDocument readFirst v)).store
    row ∈ after.documents ∧ ∃ template ∈ after.templates,
      template.id = row.content.templateId ∧ template.customer = caller.customer
        ∧ row.content.Conforms policy.askNonEmpty template.view := by
  intro after
  obtain ⟨p, hplan, hanswer, hafter⟩ := perform_of_ok h
  obtain ⟨payload, -, hplan⟩ := Outcome.result_bind_eq_ok_iff.1 hplan
  obtain ⟨templateId, template, content, hid, htemplate, hcontent, hchange, hrow⟩ :=
    planCreateDocument_eq_ok hplan
  obtain ⟨s, hs, -, rfl, hcheck⟩ := prepare_eq_ok_iff.1 hcontent
  obtain ⟨found, hmem, hfound, hcustomer, hconforms⟩ :=
    conforms_of_check hstrict htemplate hcheck
  have hnew : DocumentRow.create s.content caller.freshId caller.customer caller.now = row :=
    Answer.document.inj (hrow.symm.trans hanswer)
  have hinsert : after = store.apply (.insertDocument row) := by
    rw [hchange, hnew] at hafter
    exact hafter
  rw [hinsert, ← hnew]
  refine ⟨List.mem_append_right _ (List.mem_singleton_self _), found, hmem, ?_, hcustomer,
    hconforms.settled⟩
  rw [hfound]
  exact Payload.templateId_eq hid hs

/-- A row is in the table after it has been put in the place of the one with its
id. -/
theorem mem_replaceDocument {old new : DocumentRow} (hold : old ∈ store.documents)
    (hid : new.id = old.id) (hcustomer : new.customer = old.customer) :
    new ∈ (store.apply (.replaceDocument new)).documents := by
  refine List.mem_map.2 ⟨old, hold, if_pos ?_⟩
  rw [hid, hcustomer]
  simp [DocumentRow.isAt]

/-- After an update the template that the document refers to is there, and the
merged content conforms to it; the document does exactly when the groups that
were not written again do. -/
theorem updated_conforms_iff {readFirst : Bool} {id : Option Text} {v : Value}
    {row : DocumentRow} (hstrict : policy.strict = true)
    (h : (store.run policy caller (.updateDocument readFirst id v)).outcome.result
      = .ok (.document row)) :
    let after := (store.run policy caller (.updateDocument readFirst id v)).store
    row ∈ after.documents ∧ ∃ template ∈ after.templates,
      template.id = row.content.templateId ∧ template.customer = caller.customer
        ∧ ∃ payload u old, (Payload.ofInput readFirst v).result = .ok payload
          ∧ payload.submission = .ok u ∧ store.document? row.id caller.customer = some old
          ∧ (u.onto old.content).content.Conforms policy.askNonEmpty template.view
          ∧ (row.content.Conforms policy.askNonEmpty template.view
            ↔ ∀ g, (old.content.variableGroups.get g).alike
                ((u.onto old.content).content.variableGroups.get g) →
              template.view.Admits policy.askNonEmpty g
                (old.content.settled.variableGroups.get g)) := by
  intro after
  obtain ⟨p, hplan, hanswer, hafter⟩ := perform_of_ok h
  obtain ⟨payload, hpayload, hplan⟩ := Outcome.result_bind_eq_ok_iff.1 hplan
  obtain ⟨i, old, templateId, template, changes, rfl, hold, hid, htemplate, hchanges, rfl⟩ :=
    planUpdateDocument_eq_ok hplan
  obtain ⟨u, hu, hemptied, rfl, hcheck⟩ := prepareUpdate_eq_ok_iff.1 hchanges
  rw [Submission.apply_changes hemptied] at hcheck
  obtain ⟨found, hmem, hfound, hcustomer, hconforms⟩ :=
    conforms_of_check hstrict htemplate hcheck
  have hnew : old.update u.changes caller.now = row := Answer.document.inj hanswer
  obtain ⟨holdMem, rfl, -⟩ := document?_eq_some hold
  have hstore : after.templates = store.templates ∧ row ∈ after.documents := by
    change after = _ at hafter
    rw [hafter, hnew]
    unfold Plan.replacing
    by_cases hsame : row = old
    · rw [if_pos hsame]
      exact ⟨rfl, hsame ▸ holdMem⟩
    · rw [if_neg hsame]
      refine ⟨rfl, mem_replaceDocument holdMem ?_ ?_⟩
      · rw [← hnew]
        rfl
      · rw [← hnew]
        rfl
  refine ⟨hstore.2, found, hstore.1 ▸ hmem, ?_, hcustomer, payload, u, old, hpayload, hu, ?_,
    hconforms, ?_⟩
  · rw [hfound, Payload.templateId_eq hid hu, ← hnew]
    exact (Submission.templateId_apply_changes hemptied old.content).symm
  · rw [← hnew]
    exact hold
  · rw [← hnew, ← Submission.apply_changes hemptied]
    rw [← Submission.apply_changes hemptied] at hconforms
    exact hconforms.writeContent_iff old.content

/-- A strict write leaves a document in the store that refers to a template of its
customer.  The content that was asked for conforms to this template, and so does
the document if it is new; if it is not, it does exactly when the groups that
were not written again do.  The lenient policy would have written the same. -/
theorem strict_write_conforms (store : Store) (policy : Policy) (caller : Caller)
    (row : DocumentRow) (hstrict : policy.strict = true) :
    (∀ readFirst v,
      (store.run policy caller (.createDocument readFirst v)).outcome.result
        = .ok (.document row) →
      let after := (store.run policy caller (.createDocument readFirst v)).store
      row ∈ after.documents ∧ ∃ template ∈ after.templates,
        template.id = row.content.templateId ∧ template.customer = caller.customer
          ∧ row.content.Conforms policy.askNonEmpty template.view)
    ∧ (∀ readFirst id v,
      (store.run policy caller (.updateDocument readFirst id v)).outcome.result
        = .ok (.document row) →
      let after := (store.run policy caller (.updateDocument readFirst id v)).store
      row ∈ after.documents ∧ ∃ template ∈ after.templates,
        template.id = row.content.templateId ∧ template.customer = caller.customer
          ∧ ∃ payload u old, (Payload.ofInput readFirst v).result = .ok payload
            ∧ payload.submission = .ok u ∧ store.document? row.id caller.customer = some old
            ∧ (u.onto old.content).content.Conforms policy.askNonEmpty template.view
            ∧ (row.content.Conforms policy.askNonEmpty template.view
              ↔ ∀ g, (old.content.variableGroups.get g).alike
                  ((u.onto old.content).content.variableGroups.get g) →
                template.view.Admits policy.askNonEmpty g
                  (old.content.settled.variableGroups.get g)))
    ∧ ∀ operation, (store.run policy caller operation).outcome.result = .ok (.document row) →
      (store.run policy.lenient caller operation).outcome.result = .ok (.document row)
        ∧ (store.run policy.lenient caller operation).store
          = (store.run policy caller operation).store :=
  ⟨fun _ _ h => created_conforms hstrict h, fun _ _ _ h => updated_conforms_iff hstrict h,
    fun _ h => run_lenient h⟩

/-- A strict update from one to true, of a field that is no longer a number but a
truth value, is checked as true and leaves the number. -/
theorem strict_update_keeps_alike_number :
    let policy : Policy := ⟨true, true⟩
    let fields (type : String) : Value :=
      .list [.object [("name", .str "n"), ("type", .str type)]]
    let vars (v : Value) : Value := .object [("n", v)]
    let store := Store.empty.after policy [
      .call ⟨"a", 1, "1"⟩ (.createTemplate (.object [("name", .str "T"),
        ("objectFields", fields "number")])),
      .call ⟨"a", 2, "2"⟩ (.createDocument false (.object [("name", .str "d"),
        ("templateId", .str "1"), ("objectVariables", vars (.int 1))])),
      .call ⟨"a", 3, "3"⟩ (.updateTemplate (some "1") (.object [
        ("objectFields", fields "checkbox")]))]
    let reply := store.run policy ⟨"a", 4, "3"⟩ (.updateDocument false (some "2")
      (.object [("objectVariables", vars (.bool true))]))
    ∃ row, reply.outcome.result = .ok (.document row)
      ∧ row.content.objectVariables = [(("n" : Text), Scalar.int 1)]
      ∧ ∀ template ∈ reply.store.templates, template.id = row.content.templateId →
        ¬ row.content.Conforms policy.askNonEmpty template.view := by
  intro policy fields vars store reply
  refine ⟨⟨"2", ⟨"d", "1", [("n", .int 1)], [], []⟩, "a", 2, 4⟩, ?_, rfl, ?_⟩
  · decide +kernel
  · have h : ∀ template ∈ reply.store.templates, ¬ Content.Conforms true template.view
        ⟨"d", "1", [("n", .int 1)], [], []⟩ := by
      unfold Content.Conforms
      decide +kernel
    exact fun template hmem _ => h template hmem

/-- A strict update of a number to another is written again, and conforms. -/
theorem strict_write_conforms_of_change :
    let policy : Policy := ⟨true, true⟩
    let field : Value := .object [("name", .str "n"), ("type", .str "number")]
    let vars (n : Int) : Value := .object [("n", .int n)]
    let store := Store.empty.after policy [
      .call ⟨"a", 1, "1"⟩ (.createTemplate (.object [("name", .str "T"),
        ("objectFields", .list [field])])),
      .call ⟨"a", 2, "2"⟩ (.createDocument false (.object [("name", .str "d"),
        ("templateId", .str "1"), ("objectVariables", vars 1)]))]
    let row : DocumentRow := ⟨"2", ⟨"d", "1", [("n", .int 2)], [], []⟩, "a", 2, 4⟩
    let caller : Caller := ⟨"a", 4, "3"⟩
    let payload : Value := .object [("objectVariables", vars 2)]
    policy.strict = true
      ∧ (store.run policy caller (.updateDocument false (some "2") payload)).outcome.result
        = .ok (.document row)
      ∧ ∃ template ∈
          (store.run policy caller (.updateDocument false (some "2") payload)).store.templates,
        template.id = row.content.templateId
          ∧ row.content.Conforms policy.askNonEmpty template.view := by
  intro policy field vars store row caller payload
  have h : (store.run policy caller (.updateDocument false (some "2") payload)).outcome.result
      = .ok (.document row) := by decide +kernel
  obtain ⟨-, updated, -⟩ := strict_write_conforms store policy caller row rfl
  obtain ⟨-, template, hmem, hid, -, read, u, old, hread, hu, hold, hconforms, hiff⟩ :=
    updated false (some "2") payload h
  refine ⟨rfl, h, template, hmem, hid, hiff.2 fun g halike => ?_⟩
  cases hread
  cases hu
  cases hold
  cases g with
  | object => exact absurd halike (by decide +kernel)
  | contact => exact Content.conforms_iff.1 hconforms .contact
  | lineItem => exact Content.conforms_iff.1 hconforms .lineItem

end Store

end Formulary
