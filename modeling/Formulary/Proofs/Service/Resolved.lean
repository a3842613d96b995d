import Formulary.Proofs.Document.Submission
import Formulary.Proofs.Http.Publishable
import Formulary.Proofs.Service.LiveRows
import Formulary.Proofs.Service.Schemas

/-!
# Documents with the schema of their template

A document is answered with the schema that its customer is answered for its template, and
without one where its customer has no such template.

* Looking up.  `template?_eq_none_iff` says when a customer has no template with an id, and
  `resolveTemplate_of_row` that the template of a stored document is looked up under the id in
  the row: the id is never empty, and the storage takes it.
* Reading anew.  `DocumentRow.exists_ofValue_wire` reads the content of a row back from its
  attributes.
* `resolved_agrees` is the result.
-/

namespace Formulary

/-! ## Reading anew -/

namespace DocumentRow

/-- What is answered about a document is read as its content. -/
theorem exists_ofValue_wire (row : DocumentRow) :
    ∃ s, Submission.ofValue (wireObject row.attributes) = .ok s ∧ s.content = row.content := by
  have hsupplied {α : Type} {a : Attribute} {reader : Reader α} {v : Value} {x : α}
      (hfind : a.find? (row.attributes.map fun entry => (entry.1.wire, entry.2)) = some (a.wire, v))
      (hv : v ≠ .null) (hread : reader v = .ok x) :
      a.supplied reader (row.attributes.map fun entry => (entry.1.wire, entry.2))
        = .ok (.value x) :=
    Attribute.supplied_eq_value_iff.2 ⟨_, v, hfind, hv, hread⟩
  refine ⟨⟨.value row.content.name, .value row.content.templateId,
    .value row.content.objectVariables, .value row.content.contactVariables,
    .value row.content.lineItemVariables⟩, Submission.ofValue_eq_ok_iff.2 ⟨_, rfl, ?_⟩, rfl⟩
  exact ⟨hsupplied rfl Value.noConfusion rfl, hsupplied rfl Value.noConfusion rfl,
    hsupplied rfl (Variables.toValue_ne_null _) (Reader.variableGroup_eq_ok_iff.2 rfl),
    hsupplied rfl (Variables.toValue_ne_null _) (Reader.variableGroup_eq_ok_iff.2 rfl),
    hsupplied rfl (lineItemsValue_ne_null _) (Reader.lineItems_eq_ok_iff.2 rfl)⟩

end DocumentRow

namespace Store

variable {store : Store} {policy : Policy} {caller : Caller}

/-! ## Looking up -/

theorem template?_eq_none_iff {id customer : Text} :
    store.template? id customer = none
      ↔ ¬∃ row ∈ store.templates, row.id = id ∧ row.customer = customer := by
  simp [template?, TemplateRow.isAt]

/-- The template that a document refers to is looked up as it is. -/
theorem resolveTemplate_of_row (hup : store.mode ≠ .down) {row : DocumentRow}
    (hwell : row.WellFormed) (htexts : ∀ t ∈ row.texts, t.isEncodable) :
    (store.resolveTemplate row.content.templateId row.customer).result
      = .ok (store.template? row.content.templateId row.customer) := by
  have hne : row.content.templateId ≠ "" := by
    intro hempty
    have hsolid := hwell.templateId_solid
    rw [hempty] at hsolid
    cases hsolid
  unfold resolveTemplate
  rw [if_neg hne]
  exact findTemplate_eq_ok_iff.2 ⟨hup, textFault?_template htexts, rfl⟩

/-! ## Resolving -/

/-- Whatever came before, a document that is found is resolved.  It is answered as it is
found, with the schema that is answered for its template if its customer has that, and
without one otherwise; then there is no such template to ask for. -/
theorem resolved_agrees (hstore : store.Reachable) (policy : Policy) (caller : Caller)
    {id : Option Text} {row : DocumentRow}
    (hrow : (store.run policy caller (.getDocument id)).outcome.result = .ok (.document row)) :
    let owned := ∃ template ∈ store.templates,
      template.id = row.content.templateId ∧ template.customer = caller.customer
    let resolved := (store.run policy caller (.resolveDocument id)).outcome.result
    let templateId := some row.content.templateId
    let schema := (store.run policy caller (.getSchema templateId)).outcome.result
    (∃ s, Submission.ofValue (wireObject row.attributes) = .ok s ∧ s.content = row.content)
      ∧ (owned → ∃ found, resolved = .ok (.resolved ⟨row, some found⟩)
        ∧ schema = .ok (.schema found))
      ∧ (¬owned → resolved = .ok (.resolved ⟨row, none⟩)
        ∧ schema = .error (.notFound .template templateId)) := by
  intro owned resolved templateId schema
  obtain ⟨found, hget, hfound⟩ := run_answering.1 hrow
  cases hfound
  obtain ⟨hup, hkey, hdocument⟩ := getDocument_eq_ok_iff.1 hget
  obtain ⟨i, rfl, hdocument⟩ := Option.bind_eq_some_iff.1 hdocument
  obtain ⟨hmem, -, howner⟩ := document?_eq_some hdocument
  have htexts := hstore.legible.documents row hmem
  have htemplate := resolveTemplate_of_row hup (hstore.wellFormed.documents row hmem) htexts
  rw [howner] at htemplate
  have hresolve : (store.resolveDocument policy.askNonEmpty (some i) caller.customer).result = _ :=
    (Outcome.result_bind_of_ok hget _).trans (Outcome.result_bind_of_ok htemplate _)
  have hlookUp : textFault? [row.content.templateId, caller.customer] = none :=
    howner ▸ textFault?_template htexts
  refine ⟨row.exists_ofValue_wire, fun howned => ?_, fun hforeign => ?_⟩
  · obtain ⟨template, hsome⟩ : ∃ template,
        store.template? row.content.templateId caller.customer = some template :=
      Option.ne_none_iff_exists'.1 fun hnone => template?_eq_none_iff.1 hnone howned
    obtain ⟨fields, hfields⟩ :=
      (hstore.wellFormed.templates template (template?_eq_some hsome).1).exists_fields
    have hcompile := TemplateRow.compile_view hfields policy.askNonEmpty
    rw [hsome] at hresolve
    refine ⟨_, run_answering.2 ⟨_, hresolve.trans ?_, rfl⟩,
      getSchema_eq_ok_iff.2 ⟨template, getTemplate_eq_ok_iff.2 ⟨hup, hlookUp, hsome⟩, hcompile⟩⟩
    exact Outcome.result_bind_of_ok (Outcome.result_mapError_eq_ok_iff.2 hcompile) _
  · have hnone := template?_eq_none_iff.2 hforeign
    rw [hnone] at hresolve
    refine ⟨run_answering.2 ⟨_, hresolve, rfl⟩, result_perform_of_error ?_⟩
    exact Outcome.result_bind_of_error
      (Outcome.result_bind_of_error (getTemplate_of_none hup hlookUp hnone))

/-- A customer's template that has been revised, seen from a document of the customer, from one
of another customer, and from one whose template has been deleted. -/
theorem resolved_agrees_of_references :
    let policy : Policy := ⟨false, true⟩
    let template : Value := .object [("name", .str "Offer")]
    let document (id : String) : Value := .object [("name", .str "Bill"), ("templateId", .str id)]
    let store := Store.empty.after policy [
      .call ⟨"a", 1, "1"⟩ (.createTemplate template),
      .call ⟨"a", 2, "2"⟩ (.createTemplate template),
      .call ⟨"a", 3, "3"⟩ (.createDocument false (document "1")),
      .call ⟨"b", 4, "4"⟩ (.createDocument false (document "1")),
      .call ⟨"a", 5, "5"⟩ (.createDocument false (document "2")),
      .call ⟨"a", 6, "6"⟩ (.updateTemplate (some "1") (.object [("objectFields",
        .list [.object [("name", .str "sum"), ("type", .str "number"), ("required", .int 1)]])])),
      .call ⟨"a", 7, "6"⟩ (.deleteTemplate (some "2"))]
    let owned : DocumentRow := ⟨"3", ⟨"Bill", "1", [], [], []⟩, "a", 3, 3⟩
    let foreign : DocumentRow := ⟨"4", ⟨"Bill", "1", [], [], []⟩, "b", 4, 4⟩
    let deleted : DocumentRow := ⟨"5", ⟨"Bill", "2", [], [], []⟩, "a", 5, 5⟩
    let a : Caller := ⟨"a", 8, "6"⟩
    let b : Caller := ⟨"b", 8, "6"⟩
    (∃ found,
        (store.run policy a (.resolveDocument (some "3"))).outcome.result
          = .ok (.resolved ⟨owned, some found⟩)
        ∧ (store.run policy a (.getSchema (some owned.content.templateId))).outcome.result
          = .ok (.schema found))
      ∧ ((store.run policy b (.resolveDocument (some "4"))).outcome.result
          = .ok (.resolved ⟨foreign, none⟩)
        ∧ (store.run policy b (.getSchema (some foreign.content.templateId))).outcome.result
          = .error (.notFound .template (some foreign.content.templateId)))
      ∧ (store.run policy a (.resolveDocument (some "5"))).outcome.result
          = .ok (.resolved ⟨deleted, none⟩)
        ∧ (store.run policy a (.getSchema (some deleted.content.templateId))).outcome.result
          = .error (.notFound .template (some deleted.content.templateId)) := by
  intro policy template document store owned foreign deleted a b
  have hstore : store.Reachable := Reachable.empty.after _ _
  have hget : (store.run policy a (.getDocument (some "3"))).outcome.result
      = .ok (.document owned) := by decide +kernel
  obtain ⟨-, howned, -⟩ := resolved_agrees hstore policy a hget
  have hget : (store.run policy b (.getDocument (some "4"))).outcome.result
      = .ok (.document foreign) := by decide +kernel
  obtain ⟨-, -, hforeign⟩ := resolved_agrees hstore policy b hget
  have hget : (store.run policy a (.getDocument (some "5"))).outcome.result
      = .ok (.document deleted) := by decide +kernel
  obtain ⟨-, -, hdeleted⟩ := resolved_agrees hstore policy a hget
  exact ⟨howned (by decide +kernel), hforeign (by decide +kernel), hdeleted (by decide +kernel)⟩

end Store

end Formulary
