import Formulary.Proofs.Service.Session
import Formulary.Proofs.Store.WellFormed

/-!
# Stores that operations lead to

A store is reachable when it comes from the empty one by operations, whether they
succeed or fail, each under a policy of its own, and by changes of the storage's
mode.  No row is written by other hands.

* `Effect.template_wellFormed` and `Effect.document_wellFormed` go through the
  changes that an operation can plan: each writes a well-formed row, given that
  the row in its place was.
* `WellFormed.run` is the step and `Reachable.wellFormed` the induction over all
  steps.  `Reachable.forall_templates` is the same induction for what else is true of
  templates.
-/

namespace Formulary.Store

/-- A store that operations lead to from the empty one. -/
inductive Reachable : Store → Prop
  | empty : Reachable .empty
  | move {store : Store} (h : Reachable store) (policy : Policy) (m : Move) :
      Reachable (store.move policy m)

/-- A session leads from a reachable store to reachable ones. -/
theorem Reachable.after {store : Store} (h : Reachable store) (policy : Policy)
    (moves : List Move) : Reachable (store.after policy moves) := by
  induction moves generalizing store with
  | nil => exact h
  | cons m moves ih => exact ih (h.move policy m)

variable {store : Store} {policy : Policy} {caller : Caller} {operation : Operation}
  {change : Change}

/-- A template row that an operation writes is well-formed. -/
theorem Effect.template_wellFormed (h : store.Effect policy caller operation change)
    (hstore : store.WellFormed) {w : Table.Write TemplateRow}
    (hw : change.templateWrite? = some w) {row : TemplateRow} (hrow : w.written? = some row) :
    row.WellFormed := by
  cases h with
  | createTemplate hdraft =>
    cases hw
    cases hrow
    exact TemplateRow.wellFormed_create hdraft ..
  | updateTemplate hrevision hold =>
    cases hw
    cases hrow
    exact (hstore.templates _ (template?_eq_some hold).1).revise hrevision _
  | deleteTemplate _ =>
    cases hw
    cases hrow
  | createDocument | updateDocument | deleteDocument => cases hw

/-- A document row that an operation writes is well-formed. -/
theorem Effect.document_wellFormed (h : store.Effect policy caller operation change)
    (hstore : store.WellFormed) {w : Table.Write DocumentRow}
    (hw : change.documentWrite? = some w) {row : DocumentRow} (hrow : w.written? = some row) :
    row.WellFormed := by
  cases h with
  | createDocument _ _ _ hcontent =>
    cases hw
    cases hrow
    exact DocumentRow.wellFormed_create hcontent ..
  | updateDocument _ hold _ _ hchanges =>
    cases hw
    cases hrow
    exact (hstore.documents _ (document?_eq_some hold).1).update hchanges _
  | deleteDocument _ =>
    cases hw
    cases hrow
  | createTemplate | updateTemplate | deleteTemplate => cases hw

/-- Every operation leaves well-formed rows, whatever it is answered. -/
theorem WellFormed.run (h : store.WellFormed) (policy : Policy) (caller : Caller)
    (operation : Operation) : (store.run policy caller operation).store.WellFormed := by
  rcases run_store store policy caller operation with hsame | ⟨change, heffect, hrun⟩
  · rw [hsame]
    exact h
  · rw [hrun]
    constructor
    · rw [templates_apply]
      exact Table.forall_mem_apply h.templates fun w row hw hrow =>
        heffect.template_wellFormed h hw hrow
    · rw [documents_apply]
      exact Table.forall_mem_apply h.documents fun w row hw hrow =>
        heffect.document_wellFormed h hw hrow

theorem WellFormed.move (h : store.WellFormed) (policy : Policy) (m : Move) :
    (store.move policy m).WellFormed := by
  cases m with
  | call caller operation => exact h.run policy caller operation
  | storage mode => exact ⟨h.templates, h.documents⟩

theorem Reachable.wellFormed (h : Reachable store) : store.WellFormed := by
  induction h with
  | empty => exact wellFormed_empty
  | move _ policy m ih => exact ih.move policy m

/-- What is true of every template that is created, and stays true when it is revised, is true
of the templates of reachable stores. -/
theorem Reachable.forall_templates {p : TemplateRow → Prop}
    (hcreate : ∀ {payload draft}, TemplateDraft.ofValue payload = .ok draft →
      ∀ id customer now, p (.create draft id customer now))
    (hrevise : ∀ {payload revision row}, TemplateRevision.ofValue payload = .ok revision →
      p row → ∀ now, p (row.revise revision now))
    (h : Reachable store) : ∀ row ∈ store.templates, p row := by
  induction h with
  | empty => simp [Store.empty]
  | @move store _ policy m ih =>
    cases m with
    | storage mode => exact ih
    | call caller operation =>
      show ∀ row ∈ (store.run policy caller operation).store.templates, p row
      rcases run_store store policy caller operation with hsame | ⟨change, heffect, hrun⟩
      · rw [hsame]
        exact ih
      · rw [hrun, templates_apply]
        refine Table.forall_mem_apply ih fun w row hw hrow => ?_
        cases heffect with
        | createTemplate hdraft =>
          cases hw
          cases hrow
          exact hcreate hdraft ..
        | updateTemplate hrevision hold =>
          cases hw
          cases hrow
          exact hrevise hrevision (ih _ (template?_eq_some hold).1) _
        | deleteTemplate _ =>
          cases hw
          cases hrow
        | createDocument | updateDocument | deleteDocument => cases hw

/-- What a reachable store holds.  A template has a name, and each of its groups is
a list of stored fields with different names.  A document has a name and a template
id that are not blank, and its variables are objects of scalars. -/
theorem rows_of_reachable (h : Reachable store) :
    (∀ row ∈ store.templates, row.name ≠ ""
      ∧ ∀ g, ∃ fields : List (Entries Value), row.groups.get g = .list (fields.map .object)
        ∧ (∀ members ∈ fields, ∃ type, StoredField type members)
        ∧ (fields.map fun members => Value.member members "name").Nodup)
    ∧ ∀ row ∈ store.documents, Text.isBlankText row.content.name = false
      ∧ Text.isBlankText row.content.templateId = false
      ∧ ScalarObject (row.content.variableGroups.get .object)
      ∧ ScalarObject (row.content.variableGroups.get .contact)
      ∧ ∃ items, row.content.variableGroups.get .lineItem = .list items
        ∧ ∀ item ∈ items, ScalarObject item := by
  obtain ⟨htemplates, hdocuments⟩ := h.wellFormed
  refine ⟨fun row hrow => ?_, fun row hrow => ?_⟩
  · have hwell := htemplates row hrow
    exact ⟨hwell.name_ne_empty, hwell.groups⟩
  · have hwell := hdocuments row hrow
    exact ⟨hwell.name_solid, hwell.templateId_solid, hwell.object, hwell.contact, hwell.lineItem⟩

/-- A store with a template and a document, after updates under another policy of which
one fails.  The default has become a number, the options are gone, and a group that
is null is empty. -/
theorem rows_of_reachable_after_updates :
    let payload : Value := .object [("name", .str "Offer"),
      ("objectFields", .list [.object [("name", .str "sum"), ("type", .str "number"),
        ("defaultValue", .str " 5 "), ("options", .list [.str "a"])]])]
    let store := (Store.empty.after ⟨false, true⟩ [
        .call ⟨"a", 1, "1"⟩ (.createTemplate payload),
        .call ⟨"a", 2, "2"⟩ (.createDocument false (.object [("name", .str "Bill"),
          ("templateId", .str "1"), ("objectVariables", .null)]))]).after ⟨true, true⟩ [
        .call ⟨"a", 3, "3"⟩ (.updateTemplate (some "1") (.object [("name", .null),
          ("contactFields", .null)])),
        .storage .readOnly,
        .call ⟨"a", 4, "3"⟩ (.deleteDocument (some "2")),
        .storage .normal,
        .call ⟨"a", 5, "3"⟩ (.updateDocument false (some "2")
          (.object [("lineItemVariables", .list [.object [("price", .int 1)]])]))]
    Reachable store
      ∧ (∃ row ∈ store.templates, row.groups.get .contact = .list []
        ∧ row.groups.get .object = .list [.object [("name", .str "sum"), ("type", .str "number"),
          ("required", .bool false), ("options", .list []), ("defaultValue", .int 5),
          ("validation", .str "none"), ("placeholder", .null), ("description", .null)]])
      ∧ (∀ row ∈ store.templates, row.name ≠ "" ∧ ∀ g, StoredGroup (row.groups.get g))
      ∧ ∃ row ∈ store.documents, Text.isBlankText row.content.name = false
        ∧ ScalarObject (row.content.variableGroups.get .object) := by
  intro payload store
  have h : Reachable store := (Reachable.empty.after _ _).after _ _
  obtain ⟨htemplates, hdocuments⟩ := rows_of_reachable h
  refine ⟨h, by decide +kernel, htemplates, ?_⟩
  have hrow : ∃ row, row ∈ store.documents :=
    ⟨⟨"2", ⟨"Bill", "1", [], [], [[("price", .int 1)]]⟩, "a", 2, 5⟩, by decide +kernel⟩
  obtain ⟨row, hrow⟩ := hrow
  obtain ⟨hname, -, hobject, -⟩ := hdocuments row hrow
  exact ⟨row, hrow, hname, hobject⟩

end Formulary.Store
