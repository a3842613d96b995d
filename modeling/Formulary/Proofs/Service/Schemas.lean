import Formulary.Proofs.Schema.Payload
import Formulary.Proofs.Service.Effect
import Formulary.Proofs.Template.Stored

/-!
# Schemas of created templates

A template is compiled in three places: as it was sent, as the draft that is read from
it, and as the row that is stored and read back.  The three schemas are one, and this
is the schema that the service answers for the new row.

* `Field.property_settled` says that a JSON text changes nothing that the schema of a
  field shows, and `Schema.compile_create` that a new row has the schema of its draft.
* `createTemplate_eq_ok_iff` says when a template is created, and `template?_created`
  that it is found afterwards.
* `schemas_agree` is the result.
-/

namespace Formulary

/-! ## New rows -/

/-- A JSON text changes nothing of a field that its schema shows. -/
theorem Field.property_settled {f : Field} (h : f.Normal) (askNonEmpty : AskNonEmpty) :
    f.settled.property askNonEmpty = f.property askNonEmpty := by
  have hdefault : (f.default?.map Scalar.settled).bind f.type.schemaType.fit?
      = f.default?.bind f.type.schemaType.fit? := by
    cases hsome : f.default? with
    | none => rfl
    | some a => exact (h.isKeptDefault a hsome).fit?_settled
  unfold property settled
  dsimp only
  rw [hdefault]

theorem GroupSchema.ofFields_settled {fields : List Field} (h : WellFormedFields fields)
    (askNonEmpty : AskNonEmpty) (title : Value) :
    ofFields askNonEmpty title (fields.map Field.settled) = ofFields askNonEmpty title fields := by
  have hproperties : (fields.map Field.settled).map (fun f => (f.name, f.property askNonEmpty))
      = fields.map fun f => (f.name, f.property askNonEmpty) := by
    rw [List.map_map]
    refine List.map_congr_left fun f hf => ?_
    exact congrArg (f.name, ·) (Field.property_settled (h.normal f hf) askNonEmpty)
  have hrequired : ((fields.map Field.settled).filter Field.required).map Field.name
      = (fields.filter Field.required).map Field.name := by
    rw [List.filter_map, List.map_map]
    rfl
  unfold ofFields
  rw [hproperties, hrequired]

theorem TemplateRow.get_groups_create (draft : TemplateDraft) (id customer : Text) (now : Instant)
    (g : FieldGroup) : (create draft id customer now).groups.get g
      = fieldsValue ((draft.groups.get g).map Field.settled) := by
  rw [fieldsValue_settled, create, TemplateDraft.storedGroups, Groups.get_map, Groups.get_map]
  rfl

/-- A new row compiles to the schema of the draft that it is made from. -/
theorem Schema.compile_create {payload : Value} {draft : TemplateDraft}
    (h : TemplateDraft.ofValue payload = .ok draft) (id customer : Text) (now : Instant)
    (askNonEmpty : AskNonEmpty) :
    (compile askNonEmpty (TemplateRow.create draft id customer now).view).result
      = .ok (draft.schema askNonEmpty) := by
  refine compile_eq_schema rfl ?_ fun g => ?_
  · -- No description is stored as an empty one.
    refine (truthy_ofText? (some (draft.description.getD ""))).trans ?_
    cases draft.description with
    | none => rfl
    | some s => rfl
  · have hwell := TemplateDraft.wellFormed_of_ofValue h g
    rw [← GroupSchema.ofFields_settled hwell]
    exact compileGroup_fields (TemplateRow.get_groups_create draft id customer now g)
      hwell.settled askNonEmpty

namespace Store

variable {store : Store} {policy : Policy} {caller : Caller} {payload : Value}
  {draft : TemplateDraft}

/-! ## Creating and finding -/

/-- A draft that has been read is stored unless the storage refuses writes or cannot
encode it. -/
theorem createTemplate_eq_ok_iff (h : TemplateDraft.ofValue payload = .ok draft) :
    (store.run policy caller (.createTemplate payload)).outcome.result
        = .ok (.template (.create draft caller.freshId caller.customer caller.now))
      ↔ store.mode = .normal ∧ textFault?
        (TemplateRow.create draft caller.freshId caller.customer caller.now).texts = none := by
  unfold run plan
  rw [perform_eq_ok_iff, planCreateTemplate_of_draft h]
  simp [obstacle?_eq_none_iff, Change.texts]

/-- The store after a template has been created. -/
theorem store_createTemplate (h : TemplateDraft.ofValue payload = .ok draft) {answer : Answer}
    (hanswer : (store.run policy caller (.createTemplate payload)).outcome.result = .ok answer) :
    (store.run policy caller (.createTemplate payload)).store
      = store.apply
        (.insertTemplate (.create draft caller.freshId caller.customer caller.now)) := by
  obtain ⟨p, hplan, -, hstore⟩ := perform_of_ok hanswer
  unfold plan at hplan
  rw [planCreateTemplate_of_draft h] at hplan
  cases hplan
  exact hstore

/-- A new row is found under its id if no other row of its customer has that. -/
theorem template?_insert {row : TemplateRow} (h : store.template? row.id row.customer = none) :
    (store.apply (.insertTemplate row)).template? row.id row.customer = some row := by
  unfold template? apply at *
  dsimp only
  rw [List.find?_append, h]
  simp [TemplateRow.isAt]

/-- A row that has been stored can be asked for. -/
theorem textFault?_found {row : TemplateRow} (h : textFault? row.texts = none) :
    textFault? [row.id, row.customer] = none := by
  rw [textFault?_eq_none_iff] at h ⊢
  intro t ht
  refine h t ?_
  rcases List.mem_pair.1 ht with rfl | rfl <;> simp [TemplateRow.texts]

/-- The schema that a customer is answered is that of the row that is found. -/
theorem getSchema_eq_ok_iff {id : Option Text} {schema : Schema} :
    (store.run policy caller (.getSchema id)).outcome.result = .ok (.schema schema)
      ↔ ∃ row, (store.getTemplate id caller.customer).result = .ok row
        ∧ (Schema.compile policy.askNonEmpty row.view).result = .ok schema := by
  unfold run plan
  rw [perform_eq_ok_iff]
  simp only [Outcome.result_bind_eq_ok_iff, getSchema, Outcome.result_mapError_eq_ok_iff]
  constructor
  · rintro ⟨p, ⟨schema', ⟨row, hrow, hschema⟩, hp⟩, hanswer, -⟩
    cases hp
    cases hanswer
    exact ⟨row, hrow, hschema⟩
  · rintro ⟨row, hrow, hschema⟩
    refine ⟨_, ⟨schema, ⟨row, hrow, hschema⟩, rfl⟩, rfl, ?_⟩
    simp [Plan.answering]

/-- A template whose field objects are plain has one schema: as it is sent, as it is
read, and as it is stored.  It is created unless the storage refuses writes or cannot
encode it, and then the schema is what its customer is answered, if the id is new. -/
theorem schemas_agree (hdraft : TemplateDraft.ofValue payload = .ok draft)
    (hplain : PlainTemplate payload) :
    (∀ askNonEmpty,
      (Schema.compile askNonEmpty (TemplateView.ofValue payload)).result
          = .ok (draft.schema askNonEmpty)
        ∧ (Schema.compile askNonEmpty draft.view).result = .ok (draft.schema askNonEmpty)
        ∧ ∀ id customer now,
          (Schema.compile askNonEmpty (TemplateRow.create draft id customer now).view).result
            = .ok (draft.schema askNonEmpty))
      ∧ ∀ (store : Store) (policy : Policy) (caller : Caller),
        let row := TemplateRow.create draft caller.freshId caller.customer caller.now
        let reply := store.run policy caller (.createTemplate payload)
        (reply.outcome.result = .ok (.template row)
            ↔ store.mode = .normal ∧ textFault? row.texts = none)
          ∧ (reply.outcome.result = .ok (.template row) →
            store.template? row.id row.customer = none →
            ∀ (policy : Policy) (reader : Caller), reader.customer = row.customer →
              (reply.store.run policy reader (.getSchema (some row.id))).outcome.result
                = .ok (.schema (draft.schema policy.askNonEmpty))) := by
  refine ⟨fun askNonEmpty => ⟨Schema.compile_payload hplain hdraft askNonEmpty,
    Schema.compile_view hdraft askNonEmpty,
    fun id customer now => Schema.compile_create hdraft id customer now askNonEmpty⟩, ?_⟩
  intro store policy caller row reply
  refine ⟨createTemplate_eq_ok_iff hdraft, ?_⟩
  intro hcreated hnew policy reader hreader
  obtain ⟨hmode, htexts⟩ := (createTemplate_eq_ok_iff hdraft).1 hcreated
  have hstore : reply.store = store.apply (.insertTemplate row) :=
    store_createTemplate hdraft hcreated
  rw [getSchema_eq_ok_iff, hstore, hreader]
  refine ⟨row, getTemplate_eq_ok_iff.2 ⟨?_, ?_, template?_insert hnew⟩,
    Schema.compile_create hdraft _ _ _ policy.askNonEmpty⟩
  · rw [mode_apply, hmode]
    exact StorageMode.noConfusion
  · exact textFault?_found htexts

/-- Groups under either spelling, one of them null, with nulls, a number in a text,
options of a field that is no select, and a default that does not fit. -/
theorem schemas_agree_spellings :
    let payload : Value := .object [("name", .str "Offer"), ("description", .null),
      ("object_fields", .list [.object [("name", .str "passed over")]]),
      ("objectFields", .list [
        .object [("name", .str "sum"), ("type", .str "number"), ("required", .bool true),
          ("defaultValue", .str " 5 "), ("options", .list [.str "a"])],
        .object [("defaultValue", .str ""), ("type", .null), ("required", .null),
          ("name", .str "note")]]),
      ("contactFields", .null),
      ("line_item_fields", .list [.object [("name", .str "paid"), ("type", .str "checkbox"),
        ("defaultValue", .str "maybe")]])]
    let draft : TemplateDraft := ⟨"Offer", none, none, {
      object := [⟨"sum", .number, true, [], some (.int 5), .none, none, none⟩,
        ⟨"note", .text, false, [], none, .none, none, none⟩]
      contact := []
      lineItem := [⟨"paid", .checkbox, false, [], some (.str "maybe"), .none, none, none⟩] }⟩
    let reply := Store.empty.run ⟨false, true⟩ ⟨"a", 1, "1"⟩ (.createTemplate payload)
    TemplateDraft.ofValue payload = .ok draft ∧ PlainTemplate payload
      ∧ (Schema.compile false (TemplateView.ofValue payload)).result = .ok (draft.schema false)
      ∧ (reply.store.run ⟨true, true⟩ ⟨"a", 2, "2"⟩ (.getSchema (some "1"))).outcome.result
        = .ok (.schema (draft.schema true))
      ∧ (draft.schema true).groups.object.properties.keys = ["sum", "note"] := by
  intro payload draft reply
  have hdraft : TemplateDraft.ofValue payload = .ok draft := by rfl
  have hplain : PlainTemplate payload := by
    intro g
    cases g <;> decide +kernel
  obtain ⟨hcompiled, hservice⟩ := schemas_agree hdraft hplain
  obtain ⟨hcreated, hschema⟩ := hservice .empty ⟨false, true⟩ ⟨"a", 1, "1"⟩
  have hrow := hcreated.2 ⟨rfl, by decide +kernel⟩
  exact ⟨hdraft, hplain, (hcompiled false).1, hschema hrow rfl ⟨true, true⟩ ⟨"a", 2, "2"⟩ rfl,
    by decide +kernel⟩

end Store

end Formulary
