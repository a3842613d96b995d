import Formulary.Proofs.Http.Published
import Formulary.Proofs.Service.Ledger
import Formulary.Proofs.Service.Reachable

/-!
# Rows that stay publishable

A customer whose payloads can be sent has only rows that can be published.

* `Legible` and `SendableFor` are the invariants, and `Legible.run` and `SendableFor.run` the
  steps: the storage has taken the texts that are written, and what is written for a customer
  comes from the payload and from rows that the customer had.
* `Answered.written` says that the row that is answered to a write is in the store after it,
  so that it is published as well.
-/

namespace Formulary

variable {special : Bool} {customer : Text}

/-- The payload of an operation, if it takes one. -/
def Operation.payload? : Operation → Option Value
  | createTemplate payload | updateTemplate _ payload | createDocument _ payload
  | updateDocument _ _ payload => some payload
  | _ => none

theorem Operation.payload?_of_reads {operation : Operation} (h : operation.reads) :
    operation.payload? = none := by
  cases operation <;> first | rfl | cases h

/-- The variables that a payload changes can be sent if what was handed over can. -/
theorem Payload.sendable_variables {readFirst : Bool} {v : Value} {payload : Payload}
    (hv : v.Sendable special) (h : (ofInput readFirst v).result = .ok payload) {s : Submission}
    (hs : payload.submission = .ok s) (g : FieldGroup) :
    ∀ w ∈ s.changes.variableGroup? g, w.Sendable special := by
  cases readFirst with
  | true =>
    obtain ⟨read, hread, h⟩ := Outcome.result_bind_eq_ok_iff.1 h
    cases h
    cases hs
    exact Submission.sendable_variables hv (Store.result_orFail_eq_ok_iff.1 hread) g
  | false =>
    cases h
    unfold submission at hs
    dsimp only at hs
    split at hs
    · rename_i read hread
      cases hs
      refine Submission.sendable_variables ?_ hread g
      unfold Value.orElse
      split
      · exact hv
      · exact Value.sendable_object_nil
    · cases hs

namespace Store

variable {store after : Store} {policy : Policy} {caller : Caller} {operation : Operation}
  {change : Change} {answer : Answer}

/-! ## Texts -/

/-- The storage takes all texts in the rows. -/
structure Legible (store : Store) : Prop where
  templates : ∀ row ∈ store.templates, ∀ t ∈ row.texts, t.isEncodable
  documents : ∀ row ∈ store.documents, ∀ t ∈ row.texts, t.isEncodable

theorem legible_empty : Store.empty.Legible := ⟨by simp [empty], by simp [empty]⟩

/-- Every operation leaves rows whose texts the storage takes: it has taken those that were
written. -/
theorem Legible.run (h : store.Legible) (policy : Policy) (caller : Caller)
    (operation : Operation) : (store.run policy caller operation).store.Legible := by
  rcases run_store_texts store policy caller operation with hsame | ⟨change, -, htexts, hrun⟩
  · rw [hsame]
    exact h
  · rw [hrun]
    constructor
    · rw [templates_apply]
      refine Table.forall_mem_apply h.templates fun w row hw hrow => ?_
      cases change <;> cases hw <;> cases hrow <;> exact htexts
    · rw [documents_apply]
      refine Table.forall_mem_apply h.documents fun w row hw hrow => ?_
      cases change <;> cases hw <;> cases hrow <;> exact htexts

theorem Legible.move (h : store.Legible) (policy : Policy) (m : Move) :
    (store.move policy m).Legible := by
  cases m with
  | call caller operation => exact h.run policy caller operation
  | storage mode => exact ⟨h.templates, h.documents⟩

theorem Reachable.legible (h : Reachable store) : store.Legible := by
  induction h with
  | empty => exact legible_empty
  | move _ policy m ih => exact ih.move policy m

/-! ## Groups -/

/-- What the rows of a customer hold in JSON texts can be sent. -/
structure SendableFor (special : Bool) (customer : Text) (store : Store) : Prop where
  templates : ∀ row ∈ store.templates, row.customer = customer → row.Sendable special
  documents : ∀ row ∈ store.documents, row.customer = customer → row.Sendable special

theorem sendableFor_empty : Store.empty.SendableFor special customer :=
  ⟨by simp [empty], by simp [empty]⟩

/-- A template that is written for a customer can be sent. -/
theorem Effect.template_sendable (h : store.Effect policy caller operation change)
    (hstore : store.SendableFor special customer)
    (hpayload : caller.customer = customer → ∀ v ∈ operation.payload?, v.Sendable special)
    {w : Table.Write TemplateRow} (hw : change.templateWrite? = some w) {row : TemplateRow}
    (hrow : w.written? = some row) (hcustomer : row.customer = customer) :
    row.Sendable special := by
  cases h with
  | createTemplate hdraft =>
    cases hw
    cases hrow
    exact TemplateRow.sendable_create (hpayload hcustomer _ rfl) hdraft _ _ _
  | updateTemplate hrevision hold =>
    cases hw
    cases hrow
    obtain ⟨hmem, -, howner⟩ := template?_eq_some hold
    exact (hstore.templates _ hmem hcustomer).revise
      (hpayload (howner.symm.trans hcustomer) _ rfl) hrevision _
  | deleteTemplate _ =>
    cases hw
    cases hrow
  | createDocument | updateDocument | deleteDocument => cases hw

/-- A document that is written for a customer can be sent. -/
theorem Effect.document_sendable (h : store.Effect policy caller operation change)
    (hstore : store.SendableFor special customer)
    (hpayload : caller.customer = customer → ∀ v ∈ operation.payload?, v.Sendable special)
    {w : Table.Write DocumentRow} (hw : change.documentWrite? = some w) {row : DocumentRow}
    (hrow : w.written? = some row) (hcustomer : row.customer = customer) :
    row.Sendable special := by
  cases h with
  | createDocument hread _ _ hcontent =>
    cases hw
    cases hrow
    refine DocumentRow.sendable_create (fun s hs => ?_) hcontent _ _ _
    exact Payload.sendable_variables (hpayload hcustomer _ rfl) hread hs
  | updateDocument hread hold _ _ hchanges =>
    cases hw
    cases hrow
    obtain ⟨hmem, -, howner⟩ := document?_eq_some hold
    refine (hstore.documents _ hmem hcustomer).update (fun s hs => ?_) hchanges _
    exact Payload.sendable_variables (hpayload (howner.symm.trans hcustomer) _ rfl) hread hs
  | deleteDocument _ =>
    cases hw
    cases hrow
  | createTemplate | updateTemplate | deleteTemplate => cases hw

/-- Every operation leaves a customer rows that can be sent, as long as the payloads of the
customer can be sent. -/
theorem SendableFor.run (h : store.SendableFor special customer) (policy : Policy)
    (hpayload : caller.customer = customer → ∀ v ∈ operation.payload?, v.Sendable special) :
    (store.run policy caller operation).store.SendableFor special customer := by
  rcases run_store store policy caller operation with hsame | ⟨change, heffect, hrun⟩
  · rw [hsame]
    exact h
  · rw [hrun]
    constructor
    · rw [templates_apply]
      exact Table.forall_mem_apply h.templates fun w row hw hrow =>
        heffect.template_sendable h hpayload hw hrow
    · rw [documents_apply]
      exact Table.forall_mem_apply h.documents fun w row hw hrow =>
        heffect.document_sendable h hpayload hw hrow

/-- The rows of a customer can be published. -/
structure PublishableFor (special : Bool) (customer : Text) (store : Store) : Prop where
  templates : ∀ row ∈ store.templates, row.customer = customer → row.Publishable special
  documents : ∀ row ∈ store.documents, row.customer = customer → row.Publishable special

/-- Well-formed rows whose texts the storage takes can be published if the rest of them can
be sent. -/
theorem SendableFor.publishable (h : store.SendableFor special customer)
    (hwell : store.WellFormed) (hlegible : store.Legible) :
    store.PublishableFor special customer where
  templates row hrow hcustomer :=
    ⟨hwell.templates row hrow, hlegible.templates row hrow, h.templates row hrow hcustomer⟩
  documents row hrow hcustomer :=
    ⟨hwell.documents row hrow, hlegible.documents row hrow, h.documents row hrow hcustomer⟩

/-! ## What is answered to a write -/

/-- A row that is put in the place of another is in its table after that. -/
theorem mem_replacing {R : Type} [Row R] [DecidableEq R] {table : Store → List R}
    {change : R → Change}
    (hwrite : ∀ new,
      table (store.apply (change new)) = Table.Write.apply (table store) (.replace new))
    {old new : R} (hold : old ∈ table store) (hid : Row.id new = Row.id old)
    (hcustomer : Row.customer new = Row.customer old) :
    new ∈ table (store.replacing change old new) := by
  unfold replacing
  split
  · rename_i hsame
    exact hsame ▸ hold
  · rw [hwrite]
    exact List.mem_map.2 ⟨old, hold, if_pos (Table.isAt_iff.2 ⟨hid.symm, hcustomer.symm⟩)⟩

/-- The row that is answered to a payload is one of the caller's in the store after it. -/
theorem Answered.written (h : store.Answered policy caller operation answer after)
    (hpayload : operation.payload?.isSome) :
    (∃ row ∈ after.templates, row.customer = caller.customer ∧ answer = .template row)
      ∨ ∃ row ∈ after.documents, row.customer = caller.customer ∧ answer = .document row := by
  cases h with
  | createTemplate _ hrow _ =>
    exact .inl ⟨_, List.mem_append_right _ (List.mem_singleton_self _), by rw [hrow]; rfl, rfl⟩
  | updateTemplate hold _ =>
    obtain ⟨hmem, -, howner⟩ := template?_eq_some hold
    exact .inl ⟨_, mem_replacing (fun _ => rfl) hmem rfl rfl, howner, rfl⟩
  | createDocument hrow _ =>
    exact .inr ⟨_, List.mem_append_right _ (List.mem_singleton_self _), by rw [hrow]; rfl, rfl⟩
  | updateDocument hold _ =>
    obtain ⟨hmem, -, howner⟩ := document?_eq_some hold
    exact .inr ⟨_, mem_replacing (fun _ => rfl) hmem rfl rfl, howner, rfl⟩
  | deleteTemplate | deleteDocument => cases hpayload
  | read hreads =>
    rw [Operation.payload?_of_reads hreads] at hpayload
    cases hpayload

/-- What is answered to a payload is published, unless it cannot be sent. -/
theorem ofAnswer_cases (h : store.Answered policy caller operation answer after)
    (hpayload : operation.payload?.isSome) (hwell : after.WellFormed)
    (hlegible : after.Legible) :
    (∃ v, Http.Response.ofAnswer answer = .json 200 v)
      ∨ Http.Response.ofAnswer answer = .crash .unserializable := by
  rcases h.written hpayload with ⟨row, hrow, -, rfl⟩ | ⟨row, -, -, rfl⟩
  · have hpublished : row.published = .ok row :=
      TemplateRow.published_eq (hwell.templates row hrow) (hlegible.templates row hrow)
    show (∃ v, Http.Response.ofTemplates [row] (fun vs => vs.head?.getD .null) = .json 200 v)
      ∨ Http.Response.ofTemplates [row] (fun vs => vs.head?.getD .null) = .crash .unserializable
    rw [Http.Response.ofTemplates_of_published (List.forall_mem_singleton.2 hpublished)]
    exact Http.Response.okay_cases _
  · exact Http.Response.okay_cases _

/-- What is answered to a payload is published if the caller's rows can be. -/
theorem ofAnswer_of_payload (h : store.Answered policy caller operation answer after)
    (hpayload : operation.payload?.isSome)
    (hafter : after.PublishableFor special caller.customer) :
    ∃ v, Http.Response.ofAnswer answer = .json 200 v := by
  rcases h.written hpayload with ⟨row, hrow, howner, rfl⟩ | ⟨row, hrow, howner, rfl⟩
  · exact ⟨_, Http.Response.ofAnswer_template Value.sentAs_nulled
      (hafter.templates row hrow howner)⟩
  · exact ⟨_, Http.Response.ofAnswer_document Value.sentAs_nulled
      (hafter.documents row hrow howner)⟩

end Store

end Formulary
