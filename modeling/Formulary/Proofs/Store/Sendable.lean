import Formulary.Proofs.Document.Submission
import Formulary.Proofs.Store.Revision
import Formulary.Proofs.Value.Sendable

/-!
# Rows that can be sent

Rows take all that they hold from the payloads that wrote them, and from the clock, the
identity and the id of a call.  So rows that were written by payloads that can be sent
can be sent themselves.

* Attributes.  `Attribute.sendable_of_orDefault` and `Attribute.sendable_of_supplied` carry
  the property from a payload to what is read from it.
* Fields.  `Field.sendable_of_ofValue` says so of a field, whose default may have been
  fitted, and `sendable_fieldsValue` of a group of fields.
* Contents.  `Submission.sendable_variables` says so of what a submission changes.
* Rows.  There is one lemma for each way of writing a row, as for well-formed rows, and
  `sendable_attributes` says that a row can be sent as it is published.
-/

namespace Formulary

open Value (Sendable)

variable {special : Bool}

/-! ## Attributes -/

theorem Entries.mem_of_get? {α : Type} {entries : Entries α} {name : Text} {a : α}
    (h : entries.get? name = some a) : (name, a) ∈ entries := by
  induction entries with
  | nil => cases h
  | cons entry rest ih =>
    obtain ⟨k, b⟩ := entry
    rw [get?_cons] at h
    split at h
    · rename_i hk
      cases h
      exact hk ▸ List.mem_cons_self
    · exact List.mem_cons_of_mem _ (ih h)

namespace Attribute

variable {α : Type} {a : Attribute} {members : Entries Value} {reader : Reader α}
  {toValue : α → Value}

theorem sendable_read (h : (Value.object members).Sendable special) (a : Attribute) :
    (a.read members).Sendable special := by
  have hmember {name : Text} {v : Value} (hv : members.get? name = some v) :
      v.Sendable special :=
    ((Value.sendable_object.1 h).2 _ (Entries.mem_of_get? hv)).2
  unfold read find?
  split
  · rename_i hwire
    exact hmember hwire
  · cases hrow : members.get? a.row with
    | none => exact Value.sendable_null
    | some v => exact hmember hrow

/-- An attribute that may be left out can be sent if its default can. -/
theorem sendable_of_orDefault (toValue : α → Value)
    (hreader : ∀ {v x}, reader v = .ok x → v = toValue x) {default x : α}
    (hdefault : (toValue default).Sendable special)
    (hmembers : (Value.object members).Sendable special)
    (h : a.orDefault default reader members = .ok x) : (toValue x).Sendable special := by
  rcases read_of_orDefault h with ⟨-, rfl⟩ | hread
  · exact hdefault
  · exact hreader hread ▸ sendable_read hmembers a

theorem sendable_of_supplied (hreader : ∀ {v x}, reader v = .ok x → v = toValue x)
    (hmembers : (Value.object members).Sendable special) {x : α}
    (h : a.supplied reader members = .ok (.value x)) : (toValue x).Sendable special :=
  hreader (read_of_supplied h) ▸ sendable_read hmembers a

end Attribute

/-! ## Fields -/

/-- A field all of whose texts have a UTF-8 form, and whose default can be sent. -/
structure Field.Sendable (special : Bool) (f : Field) : Prop where
  name : f.name.isEncodable
  options : ∀ o ∈ f.options, o.isEncodable
  default : ∀ a ∈ f.default?, a.toValue.Sendable special
  placeholder : ∀ t ∈ f.placeholder, t.isEncodable
  description : ∀ t ∈ f.description, t.isEncodable

/-- A default that is fitted to a type can be sent if it could be before. -/
theorem SchemaType.sendable_of_fit? {type : SchemaType} {a b : Scalar}
    (ha : a.toValue.Sendable special) (h : type.fit? a = some b) :
    b.toValue.Sendable special := by
  have htype := hasType_of_fit? h
  cases b with
  | bool _ => exact Value.sendable_bool _
  | int _ => exact Value.sendable_int _
  | float x =>
    -- Only a number is of this kind and has a type, and then it is finite.
    cases type with
    | number => exact Value.sendable_float.2 fun _ => htype
    | string | boolean => cases htype
  | str s =>
    cases type with
    | number | boolean => cases htype
    | string =>
      cases a with
      | str t =>
        cases h
        exact ha
      | bool t =>
        cases h
        cases t <;> exact Value.sendable_str.2 rfl
      | int _ | float _ =>
        cases h
        exact Value.sendable_str.2 rfl

namespace Field

theorem sendable_toValue {f : Field} (h : f.Sendable special) : f.toValue.Sendable special := by
  have hdefault : ((f.default?.map Scalar.toValue).getD .null).Sendable special := by
    cases hsome : f.default? with
    | none => exact Value.sendable_null
    | some a => exact h.default a hsome
  have hnames : f.toMembers.keys = memberNames := rfl
  refine Value.sendable_object.2 ⟨hnames ▸ by decide, ?_⟩
  simp only [toMembers, List.forall_mem_cons, Value.sendable_str, Value.sendable_bool,
    Value.sendable_ofText?, Value.sendable_texts, Text.isEncodable_ofString, List.not_mem_nil,
    true_and, and_true, false_imp_iff, implies_true]
  exact ⟨h.name, h.options, hdefault, h.placeholder, h.description⟩

theorem sendable_of_toValue {f : Field} (h : f.toValue.Sendable special) : f.Sendable special := by
  have hmembers := (Value.sendable_object.1 h).2
  simp only [toMembers, List.forall_mem_cons, Value.sendable_str, Value.sendable_ofText?,
    Value.sendable_texts] at hmembers
  obtain ⟨⟨-, hname⟩, -, -, ⟨-, hoptions⟩, ⟨-, hdefault⟩, -, ⟨-, hplaceholder⟩,
    ⟨-, hdescription⟩, -⟩ := hmembers
  refine ⟨hname, hoptions, fun a ha => ?_, hplaceholder, hdescription⟩
  rw [ha] at hdefault
  exact hdefault

theorem sendable_dropNulls {members : Entries Value}
    (h : (Value.object members).Sendable special) :
    (Value.object (dropNulls members)).Sendable special := by
  obtain ⟨hnames, hmembers⟩ := Value.sendable_object.1 h
  have hsub : (dropNulls members).Sublist members := List.filter_sublist
  exact Value.sendable_object.2 ⟨hnames.sublist (hsub.map _),
    fun m hm => hmembers m (hsub.subset hm)⟩

theorem sendable_of_ofMembers {members : Entries Value} {f : Field}
    (hmembers : (Value.object members).Sendable special) (h : ofMembers members = .ok f) :
    f.Sendable special := by
  obtain ⟨-, -, -, hoptions, hdefault, -, hplaceholder, hdescription⟩ :=
    attributes_of_ofMembers h
  have hmembers := sendable_dropNulls hmembers
  have hoptions : (Value.list (f.options.map .str)).Sendable special :=
    Attribute.sendable_of_orDefault _ Reader.texts_eq_ok_iff.1 (Value.sendable_texts.2 (by simp))
      hmembers hoptions
  have hdefault : ((f.default?.map Scalar.toValue).getD .null).Sendable special :=
    Attribute.sendable_of_orDefault (fun a? => (a?.map Scalar.toValue).getD .null)
      Reader.nullable_scalar_eq_ok_iff.1 Value.sendable_null hmembers hdefault
  have hplaceholder : (Value.ofText? f.placeholder).Sendable special :=
    Attribute.sendable_of_orDefault _ Reader.nullable_text_eq_ok_iff.1 Value.sendable_null hmembers
      hplaceholder
  have hdescription : (Value.ofText? f.description).Sendable special :=
    Attribute.sendable_of_orDefault _ Reader.nullable_text_eq_ok_iff.1 Value.sendable_null hmembers
      hdescription
  refine ⟨isEncodable_name_of_ofMembers h, Value.sendable_texts.1 hoptions, fun a ha => ?_,
    Value.sendable_ofText?.1 hplaceholder, Value.sendable_ofText?.1 hdescription⟩
  rw [ha] at hdefault
  exact hdefault

/-- Bringing a field into normal form adds nothing that could not be sent. -/
theorem Sendable.normalized {f : Field} (h : f.Sendable special) :
    f.normalized.Sendable special where
  name := h.name
  options := by
    unfold Field.normalized
    dsimp only
    split
    · exact h.options
    · simp
  default := by
    intro a ha
    change keptDefault f.type f.default? = some a at ha
    cases hdefault : f.default? with
    | none =>
      rw [hdefault] at ha
      cases ha
    | some b =>
      have hb := h.default b hdefault
      rw [hdefault, keptDefault] at ha
      split at ha
      · cases ha
      · cases hfit : f.type.schemaType.fit? b with
        | none =>
          rw [hfit] at ha
          cases ha
          exact hb
        | some c =>
          rw [hfit] at ha
          cases ha
          exact SchemaType.sendable_of_fit? hb hfit
  placeholder := h.placeholder
  description := h.description

theorem sendable_of_ofValue {v : Value} {f : Field} (hv : v.Sendable special)
    (h : ofValue v = .ok f) : f.Sendable special := by
  unfold ofValue at h
  cases hread : Reader.record ofMembers v with
  | error issues =>
    rw [hread] at h
    cases h
  | ok g =>
    rw [hread, Checked.andThen_ok] at h
    split at h
    · cases h
    · cases h
      cases v with
      | object members => exact (sendable_of_ofMembers hv hread).normalized
      | null | bool _ | int _ | float _ | str _ | list _ => cases hread

end Field

theorem sendable_fieldsValue {fields : List Field} :
    (fieldsValue fields).Sendable special ↔ ∀ f ∈ fields, f.Sendable special := by
  rw [fieldsValue, Value.sendable_list, List.forall_mem_map]
  exact ⟨fun h f hf => Field.sendable_of_toValue (h f hf),
    fun h f hf => Field.sendable_toValue (h f hf)⟩

theorem sendable_of_readFields {v : Value} {fields : List Field} (hv : v.Sendable special)
    (h : readFields v = .ok fields) : (fieldsValue fields).Sendable special := by
  obtain ⟨items, rfl, hitems⟩ := Reader.list_eq_ok_iff.1 (readFields_eq_ok_iff.1 h).1
  refine sendable_fieldsValue.2 fun f hf => ?_
  have hmem : Checked.ok f ∈ items.map Field.ofValue := hitems ▸ List.mem_map_of_mem hf
  obtain ⟨item, hitem, hread⟩ := List.mem_map.1 hmem
  exact Field.sendable_of_ofValue (Value.sendable_list.1 hv item hitem) hread

theorem TemplateDraft.sendable_fields {payload : Value} {draft : TemplateDraft}
    (hpayload : payload.Sendable special) (h : ofValue payload = .ok draft) (g : FieldGroup) :
    (fieldsValue (draft.groups.get g)).Sendable special := by
  obtain ⟨members, rfl, -, -, -, hgroups⟩ := ofValue_eq_ok_iff.1 h
  have hread := hgroups g
  unfold readGroup at hread
  rcases Attribute.read_of_orDefault hread with ⟨-, hempty⟩ | hread
  · rw [hempty]
    exact Value.sendable_list_nil
  · split at hread
    · rw [← Checked.ok.inj hread]
      exact Value.sendable_list_nil
    · exact sendable_of_readFields (Attribute.sendable_read hpayload g.fields) hread

theorem TemplateRevision.sendable_fields {payload : Value} {revision : TemplateRevision}
    (hpayload : payload.Sendable special) (h : ofValue payload = .ok revision) {g : FieldGroup}
    {fields : List Field} (hfields : revision.newFields? g = some fields) :
    (fieldsValue fields).Sendable special := by
  obtain ⟨members, rfl, -, -, -, hgroups⟩ := ofValue_eq_ok_iff.1 h
  have hread := hgroups g
  unfold newFields? at hfields
  cases hsupplied : revision.groups.get g with
  | absent =>
    rw [hsupplied] at hfields
    cases hfields
  | null =>
    rw [hsupplied] at hfields
    cases hfields
    exact Value.sendable_list_nil
  | value new =>
    rw [hsupplied] at hfields hread
    cases hfields
    exact sendable_of_readFields (Attribute.sendable_read hpayload g.fields)
      (Attribute.read_of_supplied hread)

/-! ## Contents -/

/-- The variables of a content can be sent. -/
def Content.Sendable (special : Bool) (content : Content) : Prop :=
  ∀ g, (content.variableGroups.get g).Sendable special

namespace Submission

theorem sendable_change? {α : Type} {a : Supplied α} {empty : α} {toValue : α → Value}
    (hempty : (toValue empty).Sendable special)
    (hvalue : ∀ x, a = .value x → (toValue x).Sendable special) :
    ∀ v ∈ (a.change? empty).map toValue, v.Sendable special := by
  cases a with
  | absent => simp [Supplied.change?]
  | null => simpa [Supplied.change?] using hempty
  | value x => simpa [Supplied.change?] using hvalue x rfl

/-- The variables that a submission changes can be sent if the payload can. -/
theorem sendable_variables {payload : Value} {s : Submission}
    (hpayload : payload.Sendable special) (h : ofValue payload = .ok s) (g : FieldGroup) :
    ∀ v ∈ s.changes.variableGroup? g, v.Sendable special := by
  obtain ⟨members, rfl, -, -, hobject, hcontact, hlineItem⟩ := ofValue_eq_ok_iff.1 h
  have hempty : (Variables.toValue []).Sendable special := Value.sendable_object_nil
  cases g with
  | object =>
    refine sendable_change? hempty fun vars hvars => ?_
    exact Attribute.sendable_of_supplied Reader.variableGroup_eq_ok_iff.1 hpayload (hvars ▸ hobject)
  | contact =>
    refine sendable_change? hempty fun vars hvars => ?_
    exact Attribute.sendable_of_supplied Reader.variableGroup_eq_ok_iff.1 hpayload
      (hvars ▸ hcontact)
  | lineItem =>
    refine sendable_change? Value.sendable_list_nil fun items hitems => ?_
    exact Attribute.sendable_of_supplied Reader.lineItems_eq_ok_iff.1 hpayload
      (hitems ▸ hlineItem)

/-- The content of a new document is what the changes come to where there is nothing. -/
theorem content_eq_apply (s : Submission) : s.content = s.changes.apply ⟨"", "", [], [], []⟩ := by
  have hgetD {α : Type} (a : Supplied α) (empty : α) :
      a.getD empty = (a.change? empty).getD empty := by
    cases a <;> rfl
  unfold content changes ContentChanges.apply
  rw [hgetD s.objectVariables, hgetD s.contactVariables, hgetD s.lineItemVariables]
  rfl

end Submission

namespace Content.Sendable

theorem apply {content : Content} {changes : ContentChanges} (h : content.Sendable special)
    (hchanges : ∀ g, ∀ v ∈ changes.variableGroup? g, v.Sendable special) :
    (changes.apply content).Sendable special := by
  intro g
  rw [changes.variableGroups_apply]
  cases hnew : changes.variableGroup? g with
  | none => exact h g
  | some v => exact hchanges g v hnew

theorem settled {content : Content} (h : content.Sendable special) :
    content.settled.Sendable special := by
  intro g
  rw [content.variableGroups_settled]
  exact (h g).settled

theorem writeContent {old new : Content} (hold : old.Sendable special)
    (hnew : new.Sendable special) : (DocumentRow.writeContent old new).Sendable special := by
  intro g
  rw [variableGroups_writeContent]
  split
  · exact hold.settled g
  · exact hnew.settled g

theorem empty : Content.Sendable special ⟨"", "", [], [], []⟩ := by
  intro g
  cases g with
  | object | contact => exact Value.sendable_object_nil
  | lineItem => exact Value.sendable_list_nil

end Content.Sendable

/-! ## Rows -/

/-- What a template holds in JSON texts can be sent. -/
def TemplateRow.Sendable (special : Bool) (row : TemplateRow) : Prop :=
  ∀ g, (row.groups.get g).Sendable special

/-- What a document holds in JSON texts can be sent. -/
def DocumentRow.Sendable (special : Bool) (row : DocumentRow) : Prop :=
  row.content.Sendable special

namespace TemplateRow

theorem sendable_create {payload : Value} {draft : TemplateDraft}
    (hpayload : payload.Sendable special) (h : TemplateDraft.ofValue payload = .ok draft)
    (id customer : Text) (now : Instant) : (create draft id customer now).Sendable special := by
  intro g
  have hgroup : (create draft id customer now).groups.get g
      = (fieldsValue (draft.groups.get g)).settled := by
    rw [create, TemplateDraft.storedGroups, Groups.get_map, Groups.get_map]
    rfl
  rw [hgroup]
  exact (TemplateDraft.sendable_fields hpayload h g).settled

theorem Sendable.revise {row : TemplateRow} (h : row.Sendable special) {payload : Value}
    {revision : TemplateRevision} (hpayload : payload.Sendable special)
    (hread : TemplateRevision.ofValue payload = .ok revision) (now : Instant) :
    (row.revise revision now).Sendable special := by
  intro g
  unfold TemplateRow.revise
  dsimp only
  rw [Groups.get_ofFun]
  split
  · rename_i fields hfields
    have hnew : (fieldsValue fields).Sendable special :=
      TemplateRevision.sendable_fields hpayload hread hfields
    unfold writeOver
    split
    · exact (h g).settled
    · exact hnew.settled
  · exact h g

end TemplateRow

namespace DocumentRow

variable {policy : Policy} {template : Option TemplateView} {payload : Payload}

theorem sendable_create {content : Content}
    (hpayload : ∀ s, payload.submission = .ok s →
      ∀ g, ∀ v ∈ s.changes.variableGroup? g, v.Sendable special)
    (h : (prepare policy template payload).result = .ok content) (id customer : Text)
    (now : Instant) : (create content id customer now).Sendable special := by
  obtain ⟨s, hs, -, rfl, -⟩ := prepare_eq_ok_iff.1 h
  rw [s.content_eq_apply]
  exact (Content.Sendable.empty.apply (hpayload s hs)).settled

theorem Sendable.update {row : DocumentRow} (h : row.Sendable special) {changes : ContentChanges}
    (hpayload : ∀ s, payload.submission = .ok s →
      ∀ g, ∀ v ∈ s.changes.variableGroup? g, v.Sendable special)
    (hchanges : (prepareUpdate policy template payload (rowMembers row.attributes)).result
      = .ok changes) (now : Instant) : (row.update changes now).Sendable special := by
  obtain ⟨s, hs, -, rfl, -⟩ := prepareUpdate_eq_ok_iff.1 hchanges
  exact Content.Sendable.writeContent h (Content.Sendable.apply h (hpayload s hs))

end DocumentRow

/-! ## Rows on the wire -/

/-- Attributes can be sent under different names if their values can. -/
theorem sendable_wireObject {attributes : List (Attribute × Value)}
    (hnames : (attributes.map fun entry => Text.ofString entry.1.wire).Nodup)
    (h : ∀ entry ∈ attributes, entry.2.Sendable special) :
    (wireObject attributes).Sendable special := by
  refine Value.sendable_object.2
    ⟨?_, List.forall_mem_map.2 fun entry hentry => ⟨rfl, h entry hentry⟩⟩
  unfold Entries.keys
  rw [List.map_map]
  exact hnames

theorem TemplateRow.sendable_attributes {row : TemplateRow} (h : row.Sendable special)
    (htexts : ∀ t ∈ row.texts, t.isEncodable) : (wireObject row.attributes).Sendable special := by
  have hnames : row.attributes.map (fun entry => Text.ofString entry.1.wire)
      = ["id", "name", "description", "connectionId", "objectFields", "contactFields",
        "lineItemFields", "customerId", "createdAt", "updatedAt"] := rfl
  refine sendable_wireObject (hnames ▸ by decide) ?_
  simp only [texts, List.forall_mem_append, List.forall_mem_cons, Option.mem_toList] at htexts
  obtain ⟨⟨⟨⟨hid, hname, -⟩, hdescription⟩, hconnection⟩, hcustomer, -⟩ := htexts
  simp only [attributes, Groups.toList, FieldGroup.all, List.map_cons, List.map_nil,
    List.forall_mem_append, List.forall_mem_cons, Value.sendable_str, Value.sendable_ofText?]
  refine ⟨⟨⟨hid, hname, hdescription, hconnection, ?_⟩, h .object, h .contact, h .lineItem, ?_⟩,
    hcustomer, rfl, rfl, ?_⟩ <;> simp

theorem DocumentRow.sendable_attributes {row : DocumentRow} (h : row.Sendable special)
    (htexts : ∀ t ∈ row.texts, t.isEncodable) : (wireObject row.attributes).Sendable special := by
  have hnames : row.attributes.map (fun entry => Text.ofString entry.1.wire)
      = ["id", "name", "templateId", "objectVariables", "contactVariables", "lineItemVariables",
        "customerId", "createdAt", "updatedAt"] := rfl
  refine sendable_wireObject (hnames ▸ by decide) ?_
  simp only [texts, List.forall_mem_cons] at htexts
  obtain ⟨hid, hname, htemplate, hcustomer, -⟩ := htexts
  simp only [attributes, Groups.toList, FieldGroup.all, List.map_cons, List.map_nil,
    List.forall_mem_append, List.forall_mem_cons, Value.sendable_str]
  refine ⟨⟨⟨hid, hname, htemplate, ?_⟩, h .object, h .contact, h .lineItem, ?_⟩,
    hcustomer, rfl, rfl, ?_⟩ <;> simp

end Formulary
