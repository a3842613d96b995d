import Formulary.Http.Handler
import Formulary.Proofs.Store.Sendable
import Formulary.Proofs.Store.WellFormed

/-!
# What is published

The responses that rows and schemas are published in.  A row that can be sent is
published as it is stored, with null in the place of the numbers that are not finite.

* Schemas.  `TemplateRow.exists_schema` says that a well-formed row that can be sent has a
  schema, which can be sent as well.
* Templates are read anew before they are published.  `TemplateRow.published_eq` says that
  this changes nothing of a well-formed row.
* Responses.  The lemmas on `Response.ofAnswer` say what is sent for each kind of answer.
-/

namespace Formulary

open Value (Sendable)

variable {special : Bool}

/-! ## Schemas -/

theorem sendable_optionalKey {name : String} {v? : Option Value}
    (h : ∀ v ∈ v?, v.Sendable special) :
    ∀ m ∈ optionalKey name v?, m.1.isEncodable ∧ m.2.Sendable special := by
  cases v? with
  | none => simp [optionalKey]
  | some v => simpa [optionalKey] using h v rfl

theorem keys_optionalKey_sublist (name : Text) (v? : Option Value) :
    (Entries.keys (optionalKey name v?)).Sublist [name] := by
  cases v? with
  | none => exact List.nil_sublist _
  | some v => exact List.Sublist.refl _

theorem Field.sendable_property {f : Field} (h : f.Sendable special) (askNonEmpty : AskNonEmpty) :
    (f.property askNonEmpty).toValue.Sendable special := by
  have hdescription : ∀ v ∈ (f.property askNonEmpty).description, v.Sendable special := by
    intro v hv
    obtain ⟨t, ht, rfl⟩ := Option.map_eq_some_iff.1 hv
    exact Value.sendable_str.2 (h.description t (Option.filter_eq_some_iff.1 ht).1)
  have hoptions : ∀ v ∈ (f.property askNonEmpty).options.map Value.list, v.Sendable special := by
    intro v hv
    obtain ⟨vs, hvs, rfl⟩ := Option.map_eq_some_iff.1 hv
    unfold property at hvs
    dsimp only at hvs
    split at hvs
    · cases hvs
    · cases hvs
      exact Value.sendable_texts.2 h.options
  have hformat : ∀ v ∈ (f.property askNonEmpty).format.map fun format =>
      Value.str format.token, v.Sendable special := by
    intro v hv
    obtain ⟨format, -, rfl⟩ := Option.map_eq_some_iff.1 hv
    exact Value.sendable_str.2 rfl
  have hlength : ∀ v ∈ (if (f.property askNonEmpty).nonEmpty then some (Value.int 1) else none),
      v.Sendable special := by
    intro v hv
    split at hv
    · cases hv
      exact Value.sendable_int 1
    · cases hv
  have hdefault : ∀ v ∈ (f.property askNonEmpty).default?.map Scalar.toValue,
      v.Sendable special := by
    intro v hv
    obtain ⟨a, ha, rfl⟩ := Option.map_eq_some_iff.1 hv
    obtain ⟨b, hb, hfit⟩ := Option.bind_eq_some_iff.1 ha
    exact SchemaType.sendable_of_fit? (h.default b hb) hfit
  refine Value.sendable_object.2 ⟨?_, ?_⟩
  · have hall : (["type", "title", "description", "enum", "format", "minLength", "default"]
        : List Text).Nodup := by decide
    refine hall.sublist ?_
    simp only [Entries.keys, List.map_append]
    exact ((((((List.Sublist.refl _).append (keys_optionalKey_sublist _ _)).append
      (keys_optionalKey_sublist _ _)).append (keys_optionalKey_sublist _ _)).append
      (keys_optionalKey_sublist _ _)).append (keys_optionalKey_sublist _ _))
  · simp only [List.forall_mem_append]
    refine ⟨⟨⟨⟨⟨?_, sendable_optionalKey hdescription⟩, sendable_optionalKey hoptions⟩,
      sendable_optionalKey hformat⟩, sendable_optionalKey hlength⟩, sendable_optionalKey hdefault⟩
    simpa [property] using h.name

theorem GroupSchema.sendable_ofFields {fields : List Field}
    (h : ∀ f ∈ fields, f.Sendable special) (hnames : (fields.map Field.name).Nodup)
    (askNonEmpty : AskNonEmpty) (title : String) :
    (ofFields askNonEmpty (.str title) fields).toValue.Sendable special := by
  have hproperties : (Value.object ((fields.map fun f => (f.name, f.property askNonEmpty)).map
      fun entry => (entry.1, entry.2.toValue))).Sendable special := by
    refine Value.sendable_object.2 ⟨?_, ?_⟩
    · unfold Entries.keys
      rw [List.map_map, List.map_map]
      exact hnames
    · simp only [List.forall_mem_map]
      exact fun f hf => ⟨(h f hf).name, Field.sendable_property (h f hf) askNonEmpty⟩
  have hrequired : (Value.list (((fields.filter Field.required).map Field.name).map .str)).Sendable
      special := by
    refine Value.sendable_texts.2 (List.forall_mem_map.2 fun f hf => ?_)
    exact (h f (List.mem_filter.1 hf).1).name
  refine Value.sendable_object.2 ⟨by simp [Entries.keys], ?_⟩
  simp only [List.forall_mem_cons]
  exact ⟨⟨rfl, Value.sendable_str.2 rfl⟩, ⟨rfl, Value.sendable_str.2 rfl⟩, ⟨rfl, hproperties⟩,
    ⟨rfl, hrequired⟩, by simp⟩

/-- A schema can be sent if its parts can. -/
theorem Schema.sendable_toValue {schema : Schema} (htitle : schema.title.Sendable special)
    (hdescription : ∀ v ∈ schema.description, v.Sendable special)
    (hgroups : ∀ g, (schema.groups.get g).toValue.Sendable special) :
    schema.toValue.Sendable special := by
  have hgroups : (Value.object (schema.groups.toList.map fun entry =>
      (Text.ofString entry.1.fields.wire, entry.2.toValue))).Sendable special := by
    refine Value.sendable_object.2 ⟨by simp [Entries.keys, Groups.toList, FieldGroup.all,
      FieldGroup.fields], ?_⟩
    simp only [Groups.toList, List.forall_mem_map]
    exact fun g _ => ⟨rfl, hgroups g⟩
  have hrequired : (Value.list (FieldGroup.all.map fun g => .str g.fields.wire)).Sendable
      special := by
    refine Value.sendable_list.2 (List.forall_mem_map.2 fun g _ => Value.sendable_str.2 rfl)
  refine Value.sendable_object.2 ⟨?_, ?_⟩
  · have hall : (["$schema", "type", "title", "description", "properties", "required"]
        : List Text).Nodup := by decide
    refine hall.sublist ?_
    simp only [Entries.keys, List.map_append]
    exact ((List.Sublist.refl _).append (keys_optionalKey_sublist _ _)).append (List.Sublist.refl _)
  · simp only [List.forall_mem_append, List.forall_mem_cons]
    refine ⟨⟨⟨⟨rfl, Value.sendable_str.2 rfl⟩, ⟨rfl, Value.sendable_str.2 rfl⟩, ⟨rfl, htitle⟩, ?_⟩,
      sendable_optionalKey hdescription⟩, ⟨rfl, hgroups⟩, ⟨rfl, hrequired⟩, ?_⟩ <;> simp

namespace TemplateRow

/-- The groups of a well-formed row are what fields are stored as. -/
theorem WellFormed.exists_fields {row : TemplateRow} (h : row.WellFormed) :
    ∃ fields : FieldGroup → List Field, ∀ g, WellFormedFields (fields g)
      ∧ row.groups.get g = fieldsValue (fields g) := by
  choose fields hfields using fun g => storedGroup_iff.1 (h.groups g)
  exact ⟨fields, hfields⟩

/-- The schema of a row whose groups are stored fields. -/
def schemaOf (row : TemplateRow) (askNonEmpty : AskNonEmpty) (fields : FieldGroup → List Field) :
    Schema where
  title := .str row.name
  description := (row.description.filter fun s : Text => s ≠ "").map .str
  groups := .ofFun fun g => .ofFields askNonEmpty (.str g.title) (fields g)

theorem compile_view {row : TemplateRow} {fields : FieldGroup → List Field}
    (hfields : ∀ g, WellFormedFields (fields g) ∧ row.groups.get g = fieldsValue (fields g))
    (askNonEmpty : AskNonEmpty) :
    (Schema.compile askNonEmpty row.view).result = .ok (row.schemaOf askNonEmpty fields) := by
  refine Schema.compile_eq_ok_iff.2 ⟨fun g => ?_, (Value.orElse_str row.name).symm,
    (truthy_ofText? row.description).symm⟩
  rw [schemaOf, Groups.get_ofFun]
  exact Schema.compileGroup_fields (hfields g).2 (hfields g).1 askNonEmpty

/-- A well-formed row that can be sent has a schema that can be sent. -/
theorem exists_schema {row : TemplateRow} (hwell : row.WellFormed) (h : row.Sendable special)
    (htexts : ∀ t ∈ row.texts, t.isEncodable) (askNonEmpty : AskNonEmpty) :
    ∃ schema, (Schema.compile askNonEmpty row.view).result = .ok schema
      ∧ schema.toValue.Sendable special := by
  obtain ⟨fields, hfields⟩ := hwell.exists_fields
  simp only [texts, List.forall_mem_append, List.forall_mem_cons, Option.mem_toList] at htexts
  obtain ⟨⟨⟨⟨-, hname, -⟩, hdescription⟩, -⟩, -⟩ := htexts
  refine ⟨_, compile_view hfields askNonEmpty,
    Schema.sendable_toValue (Value.sendable_str.2 hname) ?_ fun g => ?_⟩
  · intro v hv
    obtain ⟨t, ht, rfl⟩ := Option.map_eq_some_iff.1 hv
    exact Value.sendable_str.2 (hdescription t (Option.filter_eq_some_iff.1 ht).1)
  · have hgroup := h g
    rw [(hfields g).2] at hgroup
    rw [schemaOf, Groups.get_ofFun]
    exact GroupSchema.sendable_ofFields (sendable_fieldsValue.1 hgroup) (hfields g).1.names_nodup
      askNonEmpty g.title

/-! ## Templates -/

/-- Reading the fields of a well-formed row anew gives the same row. -/
theorem published_eq {row : TemplateRow} (h : row.WellFormed)
    (htexts : ∀ t ∈ row.texts, t.isEncodable) : row.published = .ok row := by
  obtain ⟨fields, hfields⟩ := h.exists_fields
  have hread (g : FieldGroup) : Reader.list Field.ofValue (row.groups.get g) = .ok (fields g) := by
    rw [(hfields g).2]
    exact (readFields_eq_ok_iff.1 (hfields g).1.readFields_fieldsValue).1
  have htext : Reader.nonEmptyText (.str row.name) = .ok row.name :=
    Reader.nonEmptyText_eq_ok_iff.2 ⟨rfl, h.name_ne_empty, htexts row.name (by simp [texts])⟩
  have hgroups : (Groups.mk (fields .object) (fields .contact) (fields .lineItem)).map
      (fun fields => Value.list (fields.map Field.toValue)) = row.groups :=
    Groups.ext_get fun g => by
      rw [Groups.get_map]
      cases g with
      | object => exact (hfields .object).2.symm
      | contact => exact (hfields .contact).2.symm
      | lineItem => exact (hfields .lineItem).2.symm
  have hobject : Reader.list Field.ofValue row.groups.object = .ok (fields .object) :=
    hread .object
  have hcontact : Reader.list Field.ofValue row.groups.contact = .ok (fields .contact) :=
    hread .contact
  have hlineItem : Reader.list Field.ofValue row.groups.lineItem = .ok (fields .lineItem) :=
    hread .lineItem
  unfold published
  rw [htext, hobject, hcontact, hlineItem]
  simp only [Checked.map_ok, Checked.seq_ok_ok, hgroups]

end TemplateRow

/-- A template that can be published. -/
structure TemplateRow.Publishable (special : Bool) (row : TemplateRow) : Prop where
  wellFormed : row.WellFormed
  texts : ∀ t ∈ row.texts, t.isEncodable
  sendable : row.Sendable special

/-- A document that can be published. -/
structure DocumentRow.Publishable (special : Bool) (row : DocumentRow) : Prop where
  wellFormed : row.WellFormed
  texts : ∀ t ∈ row.texts, t.isEncodable
  sendable : row.Sendable special

theorem TemplateRow.Publishable.published_eq {row : TemplateRow} (h : row.Publishable special) :
    row.published = .ok row :=
  TemplateRow.published_eq h.wellFormed h.texts

theorem TemplateRow.Publishable.wire {row : TemplateRow} (h : row.Publishable special) :
    (wireObject row.attributes).Sendable special :=
  sendable_attributes h.sendable h.texts

theorem DocumentRow.Publishable.wire {row : DocumentRow} (h : row.Publishable special) :
    (wireObject row.attributes).Sendable special :=
  sendable_attributes h.sendable h.texts

/-! ## Responses -/

/-- What becomes of values that can be sent. -/
def Value.SentAs (special : Bool) (send : Value → Value) : Prop :=
  ∀ v : Value, v.Sendable special → v.nulled = send v

theorem Value.sentAs_nulled : SentAs special Value.nulled := fun _ _ => rfl

/-- Values without special numbers are sent as they are. -/
theorem Value.sentAs_id : SentAs false id := fun _ h => nulled_of_isFinite (h.finite rfl)

namespace Http.Response

variable {send : Value → Value} (hsend : Value.SentAs special send)

include hsend

omit hsend in
/-- A successful response is made unless what it would hold cannot be sent. -/
theorem okay_cases (v : Value) : (∃ w, okay v = .json 200 w) ∨ okay v = .crash .unserializable := by
  unfold okay
  split
  · exact .inl ⟨_, rfl⟩
  · exact .inr rfl

theorem okay_of_sendable {v : Value} (h : v.Sendable special) : okay v = .json 200 (send v) := by
  unfold okay
  rw [Value.answered?_of_sendable h, ← hsend v h]

omit hsend in
theorem ofTemplates_of_published {rows : List TemplateRow}
    (h : ∀ row ∈ rows, row.published = .ok row) (view : List Value → Value) :
    ofTemplates rows view = okay (view (rows.map fun row => wireObject row.attributes)) := by
  have hall : Checked.all (rows.map TemplateRow.published) = .ok rows :=
    (Checked.all_eq_ok_iff _ _).2 (List.map_congr_left h)
  unfold ofTemplates
  rw [hall]

theorem ofAnswer_template {row : TemplateRow} (h : row.Publishable special) :
    ofAnswer (.template row) = .json 200 (send (wireObject row.attributes)) := by
  show ofTemplates [row] (fun vs => vs.head?.getD .null) = _
  rw [ofTemplates_of_published (List.forall_mem_singleton.2 h.published_eq)]
  exact okay_of_sendable hsend h.wire

theorem ofAnswer_templates {rows : List TemplateRow} (h : ∀ row ∈ rows, row.Publishable special) :
    ofAnswer (.templates rows)
      = .json 200 (send (.list (rows.map fun row => wireObject row.attributes))) := by
  show ofTemplates rows .list = _
  rw [ofTemplates_of_published fun row hrow => (h row hrow).published_eq]
  exact okay_of_sendable hsend
    (Value.sendable_list.2 (List.forall_mem_map.2 fun row hrow => (h row hrow).wire))

theorem ofAnswer_document {row : DocumentRow} (h : row.Publishable special) :
    ofAnswer (.document row) = .json 200 (send (wireObject row.attributes)) :=
  okay_of_sendable hsend h.wire

theorem ofAnswer_documents {rows : List DocumentRow} (h : ∀ row ∈ rows, row.Publishable special) :
    ofAnswer (.documents rows)
      = .json 200 (send (.list (rows.map fun row => wireObject row.attributes))) :=
  okay_of_sendable hsend
    (Value.sendable_list.2 (List.forall_mem_map.2 fun row hrow => (h row hrow).wire))

theorem ofAnswer_resolved {resolved : ResolvedDocument}
    (h : resolved.document.Publishable special)
    (hschema : ∀ schema ∈ resolved.schema, schema.toValue.Sendable special) :
    ofAnswer (.resolved resolved) = .json 200 (send resolved.toWire) := by
  have hschema : ((resolved.schema.map Schema.toValue).getD .null).Sendable special := by
    cases hsome : resolved.schema with
    | none => exact Value.sendable_null
    | some schema => exact hschema schema hsome
  have hwire : resolved.toWire.Sendable special := by
    refine Value.sendable_object.2 ⟨by simp [Entries.keys], ?_⟩
    simp only [List.forall_mem_cons]
    exact ⟨⟨rfl, h.wire⟩, ⟨rfl, Value.sendable_bool _⟩, ⟨rfl, hschema⟩, by simp⟩
  exact okay_of_sendable hsend hwire

end Http.Response

end Formulary
