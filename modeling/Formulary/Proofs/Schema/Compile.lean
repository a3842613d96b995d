import Formulary.Proofs.Template.Draft
import Formulary.Schema.Compile
import Mathlib.Data.List.Forall2

/-!
# What templates compile to

When a template has a schema, and which.

* `compile_eq_ok_iff` takes the schema of a template apart into the schemas of its
  groups.
* `Field.property` is the schema of a field, read off its definition.  Members of an
  object that say of a field what its schema needs (`Field.Declared`) compile to the
  schema of the field in normal form: `compile_of_declared`.  The stored object of a
  field is one such object, and an object that a form sends may be another.
* `GroupSchema.ofFields` holds one property for each field, in the order of the
  fields, and asks for the required ones in the same order; `compile_of_definedBy`
  says that it is what values that define the fields compile to, and
  `compile_fields` says so of the stored objects.
* `compile_view` is the result for a template that has been read.
-/

namespace Formulary

/-! ## Fields -/

/-- The schema of a field. -/
def Field.property (askNonEmpty : AskNonEmpty) (f : Field) : PropertySchema where
  type := f.type.schemaType
  title := .str f.name
  description := (f.description.filter fun s : Text => s ≠ "").map .str
  options := if f.options = [] then none else some (f.options.map .str)
  format := f.validation.format?
  nonEmpty := f.required && f.type.schemaType = .string && askNonEmpty
  default? := f.default?.bind f.type.schemaType.fit?

/-- An optional text counts as true when it is there and not empty. -/
theorem truthy_ofText? (t : Option Text) :
    (if (Value.ofText? t).truthy then some (Value.ofText? t) else none)
      = (t.filter fun s : Text => s ≠ "").map .str := by
  cases t with
  | none => rfl
  | some s => by_cases hs : s = "" <;> simp [Value.ofText?, Value.truthy, Option.filter_some, hs]

theorem Value.orElse_str (s : Text) : (str s).orElse (.str "") = .str s := by
  by_cases hs : s = "" <;> simp [orElse, truthy, hs]

/-- What the members of an object say of a field, as far as its schema goes.  Null is
the same as left out, an unknown type is a text, and the default is as it was given. -/
structure Field.Declared (f : Field) (members : Entries Value) : Prop where
  name : Value.member members "name" = .str f.name
  type : (FieldType.ofValue? (Value.member members "type")).getD .text = f.type
  required : (Value.member members "required").truthy = f.required
  options : (Value.member members "options").orElse (.list []) = .list (f.options.map .str)
  default : Value.member members "defaultValue" = (f.default?.map Scalar.toValue).getD .null
  validation : (ValidationKind.ofValue? (Value.member members "validation")).getD .none
    = f.validation
  description : Value.member members "description" = .ofText? f.description

theorem Field.declared_toMembers (f : Field) : f.Declared f.toMembers where
  name := rfl
  type := by
    show (FieldType.ofValue? (.str f.type.token)).getD .text = f.type
    rw [FieldType.ofValue?_token]
    rfl
  required := rfl
  options := Value.orElse_list _
  default := rfl
  validation := by
    show (ValidationKind.ofValue? (.str f.validation.token)).getD .none = f.validation
    rw [ValidationKind.ofValue?_token]
    rfl
  description := rfl

theorem SchemaType.ofValue_eq (v : Value) :
    SchemaType.ofValue v = ((FieldType.ofValue? v).getD .text).schemaType := by
  unfold SchemaType.ofValue
  cases FieldType.ofValue? v <;> rfl

theorem Format.ofValue?_eq (v : Value) :
    Format.ofValue? v = ((ValidationKind.ofValue? v).getD .none).format? := by
  unfold Format.ofValue?
  cases ValidationKind.ofValue? v <;> rfl

namespace PropertySchema

variable {f : Field} {members : Entries Value}

/-- Options stand in a schema where they stand at the field in normal form. -/
theorem compileOptions_of_declared (h : f.Declared members) :
    compileOptions members
      = .ok (if f.normalized.options = [] then none
        else some (f.normalized.options.map .str)) := by
  have hselect : FieldType.ofValue? (Value.member members "type") = some .select
      ↔ f.type = .select := by
    rw [← h.type]
    cases FieldType.ofValue? (Value.member members "type") with
    | none => simp
    | some type => simp
  have hoptions := h.options
  unfold compileOptions Field.normalized
  unfold Value.orElse at hoptions
  dsimp only
  by_cases htype : f.type = .select
  · rw [if_pos htype, hselect.2 htype]
    split at hoptions
    · rename_i htruthy
      rw [hoptions] at htruthy ⊢
      have hne : f.options ≠ [] := by
        intro hnil
        simp [hnil, Value.truthy] at htruthy
      simp [htruthy, hne, Value.items, Value.items?, Except.map]
    · rename_i htruthy
      have hnil : f.options = [] := List.map_eq_nil_iff.1 (Value.list.inj hoptions).symm
      simp [htruthy, hnil]
  · rw [if_neg htype]
    have hne : FieldType.ofValue? (Value.member members "type") ≠ some .select :=
      fun heq => htype (hselect.1 heq)
    simp [hne]

/-- A default that is fitted when the schema is made, and one that has been fitted
before and is fitted again, come to the same. -/
theorem compileDefault_of_declared (h : f.Declared members) :
    (compileDefault f.type.schemaType members).result
      = .ok (f.normalized.default?.bind f.type.schemaType.fit?) := by
  unfold compileDefault Field.normalized Field.keptDefault
  rw [h.default]
  cases f.default? with
  | none => rfl
  | some a =>
    simp only [Option.map_some, Option.getD_some]
    by_cases hempty : a = .str ""
    · subst hempty
      rfl
    · have hvalue : ¬ (a.toValue = .null || a.toValue = .str "") = true := by
        cases a <;> simp_all [Scalar.toValue]
      rw [if_neg hvalue, if_neg hempty, SchemaType.fitValue?, Value.scalar?_toValue,
        Option.bind_some, Option.bind_some]
      cases hfit : f.type.schemaType.fit? a with
      | none =>
        rw [Option.getD_none, hfit]
        rfl
      | some b =>
        rw [Option.getD_some, SchemaType.fit?_fit? hfit]
        rfl

/-- Members that declare a field compile to the schema of its normal form. -/
theorem compile_of_declared (h : f.Declared members) (askNonEmpty : AskNonEmpty) :
    (compile askNonEmpty members).result = .ok (f.normalized.property askNonEmpty) := by
  have htype : SchemaType.ofValue (Value.member members "type") = f.type.schemaType := by
    rw [SchemaType.ofValue_eq, h.type]
  have hformat : Format.ofValue? (Value.member members "validation") = f.validation.format? := by
    rw [Format.ofValue?_eq, h.validation]
  unfold compile
  simp only [Outcome.result_bind_eq_ok_iff, Outcome.result_ofExcept]
  rw [htype]
  refine ⟨_, compileOptions_of_declared h, _, compileDefault_of_declared h, ?_⟩
  rw [h.name, h.description, hformat, h.required, truthy_ofText?]
  rfl

end PropertySchema

/-! ## Groups -/

/-- A value that the compiler takes for the definition of a field. -/
structure Field.DefinedBy (f : Field) (v : Value) : Prop where
  name : GroupSchema.usableName? v = some f.name
  required : GroupSchema.isRequired v = f.required
  property : ∀ askNonEmpty, (PropertySchema.compile askNonEmpty
    (GroupSchema.fieldMembers v)).result = .ok (f.property askNonEmpty)

/-- An object that declares a field with a solid name defines its normal form. -/
theorem Field.Declared.definedBy {f : Field} {members : Entries Value} (h : f.Declared members)
    (hname : Text.isBlankText f.name = false) : f.normalized.DefinedBy (.object members) where
  name := by
    show (Value.member members "name").text?.filter (fun name => !Text.isBlankText name)
      = some f.name
    rw [h.name]
    show (some f.name).filter (fun name => !Text.isBlankText name) = some f.name
    rw [Option.filter_some, hname]
    rfl
  required := h.required
  property := PropertySchema.compile_of_declared h

theorem Field.Normal.definedBy_toValue {f : Field} (h : f.Normal) : f.DefinedBy f.toValue := by
  have hdefined := f.declared_toMembers.definedBy h.name_solid
  rwa [h.normalized_eq] at hdefined

namespace GroupSchema

/-- One more field with a name of its own goes to the end. -/
theorem addField_of_definedBy {askNonEmpty : AskNonEmpty} {g : GroupSchema} {f : Field} {v : Value}
    (h : f.DefinedBy v) (hproperties : f.name ∉ g.properties.keys)
    (hrequired : f.name ∉ g.required) :
    (addField askNonEmpty g v).result
      = .ok { g with
        properties := g.properties ++ [(f.name, f.property askNonEmpty)]
        required := g.required ++ if f.required then [f.name] else [] } := by
  unfold addField
  rw [h.name]
  simp only [Outcome.result_bind_eq_ok_iff, h.required]
  refine ⟨(), rfl, _, h.property askNonEmpty, ?_⟩
  rw [Entries.put_of_not_mem hproperties]
  cases f.required with
  | false => simp
  | true => simp [addName, hrequired]

/-- The schema of a group of fields: one property for each field, and the names of
the required ones. -/
def ofFields (askNonEmpty : AskNonEmpty) (title : Value) (fields : List Field) : GroupSchema where
  title := title
  properties := fields.map fun f => (f.name, f.property askNonEmpty)
  required := (fields.filter Field.required).map Field.name

/-- Values that define fields with different names compile to the schema of the
fields. -/
theorem compile_of_definedBy {vs : List Value} {fields : List Field}
    (h : List.Forall₂ (fun v f => f.DefinedBy v) vs fields)
    (hnames : (fields.map Field.name).Nodup) (askNonEmpty : AskNonEmpty) (title : Value) :
    (compile askNonEmpty title vs).result = .ok (ofFields askNonEmpty title fields) := by
  -- The fields that come after are added to any schema that does not know their names.
  suffices hadd : ∀ g : GroupSchema, (∀ f ∈ fields, f.name ∉ g.properties.keys) →
      (∀ f ∈ fields, f.name ∉ g.required) →
      (vs.foldlM (addField askNonEmpty) g).result = .ok { g with
        properties := g.properties ++ fields.map fun f => (f.name, f.property askNonEmpty)
        required := g.required ++ (fields.filter Field.required).map Field.name } from
    hadd ⟨title, [], []⟩ (by simp [Entries.keys]) (by simp)
  induction h with
  | nil => simp
  | @cons v f vs fields hv _ ih =>
    intro g hproperties hrequired
    obtain ⟨hname, hrest⟩ := List.nodup_cons.1 hnames
    have hnew : ∀ f' ∈ fields, f'.name ≠ f.name := by
      intro f' hf' heq
      exact hname (heq ▸ List.mem_map_of_mem hf')
    rw [List.foldlM_cons, Outcome.result_bind_eq_ok_iff]
    refine ⟨_, addField_of_definedBy hv (hproperties f List.mem_cons_self)
      (hrequired f List.mem_cons_self), ?_⟩
    rw [ih hrest]
    · cases hf : f.required <;> simp [hf]
    · intro f' hf'
      simp only [Entries.keys, List.map_append, List.map_singleton, List.mem_append,
        List.mem_singleton, not_or]
      exact ⟨hproperties f' (List.mem_cons_of_mem _ hf'), hnew f' hf'⟩
    · intro f' hf'
      rw [List.mem_append, not_or]
      refine ⟨hrequired f' (List.mem_cons_of_mem _ hf'), ?_⟩
      split
      · rw [List.mem_singleton]
        exact hnew f' hf'
      · simp

/-- The stored objects of fields compile to the schema of the fields. -/
theorem compile_fields {fields : List Field} (h : WellFormedFields fields)
    (askNonEmpty : AskNonEmpty) (title : Value) :
    (compile askNonEmpty title (fields.map Field.toValue)).result
      = .ok (ofFields askNonEmpty title fields) := by
  refine compile_of_definedBy ?_ h.names_nodup askNonEmpty title
  rw [List.forall₂_map_left_iff, List.forall₂_same]
  exact fun f hf => (h.normal f hf).definedBy_toValue

end GroupSchema

namespace Schema

/-- A template has a schema exactly when each of its groups has one. -/
theorem compile_eq_ok_iff {askNonEmpty : AskNonEmpty} {view : TemplateView} {schema : Schema} :
    (compile askNonEmpty view).result = .ok schema
      ↔ (∀ g, (compileGroup askNonEmpty view g).result = .ok (schema.groups.get g))
        ∧ schema.title = view.name.orElse (.str "")
        ∧ schema.description = if view.description.truthy then some view.description else none := by
  unfold compile
  simp only [Outcome.result_bind_eq_ok_iff]
  constructor
  · rintro ⟨object, hobject, contact, hcontact, lineItem, hlineItem, hschema⟩
    cases hschema
    refine ⟨fun g => ?_, rfl, rfl⟩
    cases g with
    | object => exact hobject
    | contact => exact hcontact
    | lineItem => exact hlineItem
  · obtain ⟨title, description, groups⟩ := schema
    rintro ⟨hgroups, rfl, rfl⟩
    exact ⟨groups.object, hgroups .object, groups.contact, hgroups .contact, groups.lineItem,
      hgroups .lineItem, rfl⟩

end Schema

/-- The schema of a draft. -/
def TemplateDraft.schema (askNonEmpty : AskNonEmpty) (draft : TemplateDraft) : Schema where
  title := .str draft.name
  description := (draft.description.filter fun s : Text => s ≠ "").map .str
  groups := .ofFun fun g => .ofFields askNonEmpty (.str g.title) (draft.groups.get g)

namespace Schema

/-- A view has the schema of a draft when it has its name, shows its description and
its groups compile to the schemas of the draft's fields. -/
theorem compile_eq_schema {draft : TemplateDraft} {view : TemplateView} {askNonEmpty : AskNonEmpty}
    (hname : view.name = .str draft.name)
    (hdescription : (if view.description.truthy then some view.description else none)
      = (draft.description.filter fun s : Text => s ≠ "").map .str)
    (hgroups : ∀ g, (compileGroup askNonEmpty view g).result
      = .ok (.ofFields askNonEmpty (.str g.title) (draft.groups.get g))) :
    (compile askNonEmpty view).result = .ok (draft.schema askNonEmpty) := by
  refine compile_eq_ok_iff.2 ⟨fun g => ?_, ?_, hdescription.symm⟩
  · rw [TemplateDraft.schema, Groups.get_ofFun]
    exact hgroups g
  · rw [hname, Value.orElse_str]
    rfl

/-- A group of stored fields compiles to the schema of the fields. -/
theorem compileGroup_fields {view : TemplateView} {g : FieldGroup} {fields : List Field}
    (hview : view.groups.get g = .list (fields.map Field.toValue)) (h : WellFormedFields fields)
    (askNonEmpty : AskNonEmpty) :
    (compileGroup askNonEmpty view g).result
      = .ok (.ofFields askNonEmpty (.str g.title) fields) := by
  unfold compileGroup
  rw [hview, Value.orElse_list, Outcome.result_bind_eq_ok_iff]
  exact ⟨_, rfl, GroupSchema.compile_fields h askNonEmpty _⟩

/-- A draft that has been read compiles to its schema. -/
theorem compile_view {payload : Value} {draft : TemplateDraft}
    (h : TemplateDraft.ofValue payload = .ok draft) (askNonEmpty : AskNonEmpty) :
    (compile askNonEmpty draft.view).result = .ok (draft.schema askNonEmpty) :=
  compile_eq_schema rfl (truthy_ofText? _) fun g =>
    compileGroup_fields (Groups.get_map ..) (TemplateDraft.wellFormed_of_ofValue h g) askNonEmpty

end Schema

end Formulary
