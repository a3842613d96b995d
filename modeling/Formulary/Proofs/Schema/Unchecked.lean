import Formulary.Proofs.Schema.Payload

/-!
# Templates that nobody has checked

What the compiler makes of a template in which anything may stand anywhere.

* `Value.Iterable` says of a value that it can be gone over where the compiler goes over it:
  it has items, or counts as false and is taken for nothing.
* `PropertySchema.mended` puts the members of a field in order: every token is a known one,
  every list a list and every truth value a truth value.  `compile_mended` says that this does
  not change the schema of the field, and `exists_compile` that the field has one.
* `TemplateView.mended` does so for a template, and leaves out the fields without a usable
  name; `tidy_mended` says that nothing malformed remains.
* `TemplateView.goneOver` lists what the compiler goes over.  `compile_unchecked` says that the
  first value there that cannot be gone over makes it fail, and that without one the schema
  is that of the mended template.
-/

namespace Formulary

/-! ## Going over a value -/

namespace Value

/-- A value can be gone over, or it counts as false and nothing has to be gone over. -/
def Iterable (v : Value) : Prop := v.truthy = true → v.items?.isSome = true

instance (v : Value) : Decidable v.Iterable :=
  inferInstanceAs (Decidable (v.truthy = true → v.items?.isSome = true))

theorem iterable_null : Iterable .null := by
  intro h
  cases h

theorem iterable_list (vs : List Value) : (list vs).Iterable := fun _ => rfl

/-- What one passes through when going over a value, and nothing where that cannot be done. -/
def passed (v : Value) : List Value := v.items?.getD []

theorem passed_eq_nil_of_falsy {v : Value} (h : v.truthy = false) : v.passed = [] := by
  cases v with
  | null | bool b | int n | float x => rfl
  | str s =>
    obtain rfl : s = "" := by simpa [truthy] using h
    rfl
  | list vs =>
    obtain rfl : vs = [] := by simpa [truthy] using h
    rfl
  | object members =>
    obtain rfl : members = [] := by simpa [truthy] using h
    rfl

theorem passed_ne_nil {v : Value} (h : v.Iterable) (htruthy : v.truthy = true) :
    v.passed ≠ [] := by
  have hitems := h htruthy
  cases v with
  | null | bool b | int n | float x => cases hitems
  | str s =>
    intro hnil
    have hpoints : s.points = Text.points "" := List.map_eq_nil_iff.1 hnil
    simp [truthy, Text.points_inj.1 hpoints] at htruthy
  | list vs =>
    rintro rfl
    cases htruthy
  | object members =>
    intro hnil
    obtain rfl : members = [] := List.map_eq_nil_iff.1 hnil
    cases htruthy

theorem items_of_iterable {v : Value} (h : v.Iterable) (htruthy : v.truthy = true) :
    v.items = .ok v.passed := by
  obtain ⟨vs, hitems⟩ := Option.isSome_iff_exists.1 (h htruthy)
  simp [items, passed, hitems]

theorem items_of_not_iterable {v : Value} (h : ¬ v.Iterable) :
    v.truthy = true ∧ v.items = .error (.notIterable v) := by
  obtain ⟨htruthy, hitems⟩ := Classical.not_imp.1 h
  rw [Option.not_isSome_iff_eq_none] at hitems
  exact ⟨htruthy, by simp [items, hitems]⟩

/-- What counts as false is gone over as an empty list. -/
theorem items_orElse (v : Value) :
    (v.orElse (.list [])).items = if v.Iterable then .ok v.passed else .error (.notIterable v) := by
  unfold orElse
  by_cases htruthy : v.truthy = true
  · rw [if_pos htruthy]
    by_cases h : v.Iterable
    · rw [if_pos h, items_of_iterable h htruthy]
    · rw [if_neg h, (items_of_not_iterable h).2]
  · have hiterable : v.Iterable := fun h => absurd h htruthy
    rw [if_neg htruthy, if_pos hiterable, passed_eq_nil_of_falsy (Bool.not_eq_true _ ▸ htruthy)]
    rfl

/-- Null stands for every value that counts as false where only the others are shown. -/
theorem ite_truthy_orElse_null (v : Value) :
    (if (v.orElse .null).truthy then some (v.orElse .null) else none)
      = if v.truthy then some v else none := by
  unfold orElse
  by_cases h : v.truthy = true
  · rw [if_pos h]
  · rw [if_neg h, if_neg h]
    rfl

end Value

/-! ## Fields -/

namespace PropertySchema

/-- The default that a schema shows: the one that is defined, fitted to the schema type. -/
def shownDefault? (type : SchemaType) (default : Value) : Option Scalar :=
  if default = .null || default = .str "" then none else type.fitValue? default

theorem result_compileDefault (type : SchemaType) (members : Entries Value) :
    (compileDefault type members).result
      = .ok (shownDefault? type (Value.member members "defaultValue")) := by
  unfold compileDefault shownDefault?
  dsimp only
  split
  · rfl
  · cases type.fitValue? (Value.member members "defaultValue") <;> rfl

theorem hasType_of_shownDefault? {type : SchemaType} {default : Value} {a : Scalar}
    (h : shownDefault? type default = some a) : a.hasType type ∧ a ≠ .str "" := by
  unfold shownDefault? SchemaType.fitValue? at h
  split at h
  · cases h
  · rename_i hdefault
    obtain ⟨b, hscalar, hfit⟩ := Option.bind_eq_some_iff.1 h
    obtain rfl := Value.scalar?_eq_some_iff.1 hscalar
    refine ⟨SchemaType.hasType_of_fit? hfit, ?_⟩
    -- Only the empty text is fitted to the empty text, and that one is not shown.
    rintro rfl
    rw [SchemaType.eq_empty_of_fit? hfit] at hdefault
    exact hdefault rfl

/-- A default that is shown is shown as it is. -/
theorem shownDefault?_shown (type : SchemaType) (default : Value) :
    shownDefault? type (((shownDefault? type default).map Scalar.toValue).getD .null)
      = shownDefault? type default := by
  cases hshown : shownDefault? type default with
  | none => rfl
  | some a =>
    obtain ⟨htype, hne⟩ := hasType_of_shownDefault? hshown
    have hempty : a.toValue ≠ .str "" := fun heq => hne (Scalar.toValue_inj.1 heq)
    unfold shownDefault? SchemaType.fitValue?
    simp [a.toValue_ne_null, hempty, SchemaType.fit?_of_hasType htype]

/-- The schema of a field whose options have been gone over. -/
def withOptions (askNonEmpty : AskNonEmpty) (members : Entries Value)
    (options : Option (List Value)) : PropertySchema :=
  let type := SchemaType.ofValue (Value.member members "type")
  let description := Value.member members "description"
  { type := type
    title := Value.member members "name"
    description := if description.truthy then some description else none
    options := options
    format := Format.ofValue? (Value.member members "validation")
    nonEmpty := (Value.member members "required").truthy && type = .string && askNonEmpty
    default? := shownDefault? type (Value.member members "defaultValue") }

/-- Nothing about a field but its options can make the compiler fail. -/
theorem result_compile (askNonEmpty : AskNonEmpty) (members : Entries Value) :
    (compile askNonEmpty members).result
      = (compileOptions members).map (withOptions askNonEmpty members) := by
  unfold compile
  simp only [Outcome.result_bind, Outcome.result_ofExcept, result_compileDefault]
  cases compileOptions members <;> rfl

/-- The type of a field is that of a select. -/
def IsSelect (members : Entries Value) : Prop :=
  FieldType.ofValue? (Value.member members "type") = some .select

instance (members : Entries Value) : Decidable (IsSelect members) :=
  inferInstanceAs (Decidable (_ = _))

theorem compileOptions_of_iterable {members : Entries Value}
    (h : IsSelect members → (Value.member members "options").Iterable) :
    compileOptions members
      = .ok (if IsSelect members ∧ (Value.member members "options").passed ≠ [] then
          some (Value.member members "options").passed
        else none) := by
  unfold compileOptions
  dsimp only
  by_cases hselect : IsSelect members
  · have hiterable := h hselect
    unfold IsSelect at hselect
    by_cases htruthy : (Value.member members "options").truthy = true
    · have hpassed := Value.passed_ne_nil hiterable htruthy
      rw [if_pos (by simp [hselect, htruthy]), if_pos ⟨hselect, hpassed⟩,
        Value.items_of_iterable hiterable htruthy]
      rfl
    · have hpassed := Value.passed_eq_nil_of_falsy (Bool.not_eq_true _ ▸ htruthy)
      rw [if_neg (by simp [htruthy]), if_neg (by simp [hpassed])]
  · have htype : FieldType.ofValue? (Value.member members "type") ≠ some .select := hselect
    rw [if_neg (by simp [htype]), if_neg fun hboth => hselect hboth.1]

theorem compileOptions_of_not_iterable {members : Entries Value} (hselect : IsSelect members)
    (h : ¬ (Value.member members "options").Iterable) :
    compileOptions members = .error (.notIterable (Value.member members "options")) := by
  obtain ⟨htruthy, hitems⟩ := Value.items_of_not_iterable h
  unfold IsSelect at hselect
  unfold compileOptions
  simp [hselect, htruthy, hitems, Except.map]

/-! ### In order -/

/-- The members of a field as the compiler takes them: an unknown type is a text, an unknown
validation kind is none, and a default that is not shown is left out. -/
def mended (members : Entries Value) : Entries Value :=
  let type := (FieldType.ofValue? (Value.member members "type")).getD .text
  let validation := (ValidationKind.ofValue? (Value.member members "validation")).getD .none
  let default? := shownDefault? type.schemaType (Value.member members "defaultValue")
  [("name", Value.member members "name"),
    ("type", .str type.token),
    ("required", .bool (Value.member members "required").truthy),
    ("options", .list (Value.member members "options").passed),
    ("defaultValue", (default?.map Scalar.toValue).getD .null),
    ("validation", .str validation.token),
    ("description", (Value.member members "description").orElse .null)]

variable {members : Entries Value}

theorem isSelect_mended : IsSelect (mended members) ↔ IsSelect members := by
  show FieldType.ofValue? (.str
    ((FieldType.ofValue? (Value.member members "type")).getD .text).token) = some .select ↔ _
  rw [FieldType.ofValue?_token]
  unfold IsSelect
  cases FieldType.ofValue? (Value.member members "type") <;> simp

theorem withOptions_mended (askNonEmpty : AskNonEmpty) (options : Option (List Value)) :
    withOptions askNonEmpty (mended members) options
      = withOptions askNonEmpty members options := by
  have htype : SchemaType.ofValue (Value.member (mended members) "type")
      = SchemaType.ofValue (Value.member members "type") := by
    rw [SchemaType.ofValue_eq (Value.member members "type")]
    exact SchemaType.ofValue_token _
  have hformat : Format.ofValue? (Value.member (mended members) "validation")
      = Format.ofValue? (Value.member members "validation") := by
    rw [Format.ofValue?_eq (Value.member members "validation")]
    exact Format.ofValue?_token _
  have hdefault : shownDefault? (SchemaType.ofValue (Value.member members "type"))
        (Value.member (mended members) "defaultValue")
      = shownDefault? (SchemaType.ofValue (Value.member members "type"))
        (Value.member members "defaultValue") := by
    rw [SchemaType.ofValue_eq]
    exact shownDefault?_shown _ _
  have hdescription : (if (Value.member (mended members) "description").truthy then
        some (Value.member (mended members) "description") else none)
      = if (Value.member members "description").truthy then
        some (Value.member members "description") else none :=
    Value.ite_truthy_orElse_null _
  unfold withOptions
  dsimp only
  rw [htype, hformat, hdefault, hdescription]
  rfl

theorem compileOptions_mended
    (h : IsSelect members → (Value.member members "options").Iterable) :
    compileOptions (mended members) = compileOptions members := by
  have hoptions : Value.member (mended members) "options"
      = .list (Value.member members "options").passed := rfl
  rw [compileOptions_of_iterable h, compileOptions_of_iterable fun _ => by
    rw [hoptions]
    exact Value.iterable_list _]
  simp only [isSelect_mended]
  rfl

/-- A field whose options can be gone over has the schema of the field in order. -/
theorem compile_mended (askNonEmpty : AskNonEmpty)
    (h : IsSelect members → (Value.member members "options").Iterable) :
    (compile askNonEmpty (mended members)).result = (compile askNonEmpty members).result := by
  rw [result_compile, result_compile, compileOptions_mended h]
  cases compileOptions members with
  | error fault => rfl
  | ok options => exact congrArg Except.ok (withOptions_mended askNonEmpty options)

/-- A field whose options can be gone over has a schema. -/
theorem exists_compile (askNonEmpty : AskNonEmpty)
    (h : IsSelect members → (Value.member members "options").Iterable) :
    ∃ property, (compile askNonEmpty members).result = .ok property := by
  rw [result_compile, compileOptions_of_iterable h]
  exact ⟨_, rfl⟩

end PropertySchema

/-! ## Groups -/

namespace GroupSchema

variable {askNonEmpty : AskNonEmpty} {g : GroupSchema} {field : Value} {name : Text}

/-- The options that the compiler goes over: those of a select with a usable name. -/
def selectOptions? (field : Value) : Option Value :=
  if (usableName? field).isSome ∧ PropertySchema.IsSelect (fieldMembers field) then
    some (Value.member (fieldMembers field) "options")
  else none

theorem of_selectOptions?_eq_some {v : Value} (h : selectOptions? field = some v) :
    (∃ name, usableName? field = some name) ∧ PropertySchema.IsSelect (fieldMembers field)
      ∧ v = Value.member (fieldMembers field) "options" := by
  unfold selectOptions? at h
  split at h
  · rename_i hfield
    cases h
    exact ⟨Option.isSome_iff_exists.1 hfield.1, hfield.2, rfl⟩
  · cases h

/-- Options that are left out, null or a list can be gone over. -/
theorem iterable_options (h : Value.member (fieldMembers field) "options" = .null
      ∨ ∃ vs, Value.member (fieldMembers field) "options" = .list vs) :
    ∀ v ∈ selectOptions? field, v.Iterable := by
  intro v hv
  obtain ⟨-, -, rfl⟩ := of_selectOptions?_eq_some hv
  rcases h with hnull | ⟨vs, hlist⟩
  · exact hnull ▸ Value.iterable_null
  · exact hlist ▸ Value.iterable_list vs

/-- A field in order, if it has a usable name. -/
def mendedField? (field : Value) : Option Value :=
  (usableName? field).map fun _ => .object (PropertySchema.mended (fieldMembers field))

theorem usableName?_eq_some_iff :
    usableName? field = some name
      ↔ Value.member (fieldMembers field) "name" = .str name ∧ Text.isBlankText name = false := by
  unfold usableName?
  rw [Option.filter_eq_some_iff]
  cases Value.member (fieldMembers field) "name" <;> simp [Value.text?]

theorem iterable_of_selectOptions? (hname : usableName? field = some name)
    (h : ∀ v ∈ selectOptions? field, v.Iterable) :
    PropertySchema.IsSelect (fieldMembers field) →
      (Value.member (fieldMembers field) "options").Iterable := by
  intro hselect
  refine h _ ?_
  unfold selectOptions?
  rw [if_pos ⟨by rw [hname]; rfl, hselect⟩]
  rfl

/-- One more field changes the group if it has a usable name, and then fails only as its own
schema does. -/
theorem result_addField (askNonEmpty : AskNonEmpty) (g : GroupSchema) (field : Value) :
    (addField askNonEmpty g field).result
      = match usableName? field with
        | none => .ok g
        | some name => (PropertySchema.compile askNonEmpty (fieldMembers field)).result.map
          fun property => { g with
            properties := g.properties.put name property
            required := if isRequired field then addName g.required name else g.required } := by
  unfold addField
  cases usableName? field with
  | none => rfl
  | some name =>
    simp only [Outcome.result_bind, Outcome.result_notifyAll]
    show (PropertySchema.compile askNonEmpty (fieldMembers field)).result >>= _ = _
    cases (PropertySchema.compile askNonEmpty (fieldMembers field)).result <;> rfl

/-- A field whose options can be gone over does not make the compiler fail. -/
theorem exists_addField (askNonEmpty : AskNonEmpty) (g : GroupSchema)
    (h : ∀ v ∈ selectOptions? field, v.Iterable) :
    ∃ g', (addField askNonEmpty g field).result = .ok g' := by
  rw [result_addField]
  cases hname : usableName? field with
  | none => exact ⟨g, rfl⟩
  | some name =>
    obtain ⟨property, hproperty⟩ :=
      PropertySchema.exists_compile askNonEmpty (iterable_of_selectOptions? hname h)
    exact ⟨_, by rw [hproperty]; rfl⟩

theorem addField_of_not_iterable {v : Value} (hv : selectOptions? field = some v)
    (h : ¬ v.Iterable) : (addField askNonEmpty g field).result = .error (.notIterable v) := by
  obtain ⟨⟨name, hname⟩, hselect, rfl⟩ := of_selectOptions?_eq_some hv
  rw [result_addField, hname, PropertySchema.result_compile,
    PropertySchema.compileOptions_of_not_iterable hselect h]
  rfl

theorem addField_mended {mended : Value} (hmended : mendedField? field = some mended)
    (h : ∀ v ∈ selectOptions? field, v.Iterable) :
    (addField askNonEmpty g mended).result = (addField askNonEmpty g field).result := by
  obtain ⟨name, hname, rfl⟩ := Option.map_eq_some_iff.1 hmended
  have hsame : usableName? (.object (PropertySchema.mended (fieldMembers field)))
      = some name := by
    rw [usableName?_eq_some_iff] at hname ⊢
    exact hname
  rw [result_addField, result_addField, hsame, hname]
  show (PropertySchema.compile askNonEmpty
    (PropertySchema.mended (fieldMembers field))).result.map _ = _
  rw [PropertySchema.compile_mended askNonEmpty (iterable_of_selectOptions? hname h)]
  rfl

/-- What is in order can be gone over. -/
theorem iterable_of_mendedField {mended : Value} (hmended : mendedField? field = some mended) :
    ∀ v ∈ selectOptions? mended, v.Iterable := by
  obtain ⟨-, -, rfl⟩ := Option.map_eq_some_iff.1 hmended
  exact iterable_options (.inr ⟨_, rfl⟩)

/-- Fields whose options can be gone over do not make the compiler fail. -/
theorem exists_foldlM_addField (askNonEmpty : AskNonEmpty) {fields : List Value}
    (h : ∀ field ∈ fields, ∀ v ∈ selectOptions? field, v.Iterable) (g : GroupSchema) :
    ∃ g', (fields.foldlM (addField askNonEmpty) g).result = .ok g' := by
  induction fields generalizing g with
  | nil => exact ⟨g, rfl⟩
  | cons field fields ih =>
    obtain ⟨hfield, hfields⟩ := List.forall_mem_cons.1 h
    obtain ⟨g', hg'⟩ := exists_addField askNonEmpty g hfield
    rw [List.foldlM_cons, Outcome.result_bind, hg']
    exact ih hfields g'

/-- A field whose options can be gone over, and the fields in order after it. -/
theorem foldlM_mended_cons (h : ∀ v ∈ selectOptions? field, v.Iterable) (fields : List Value) :
    (((field :: fields).filterMap mendedField?).foldlM (addField askNonEmpty) g).result
      = (addField askNonEmpty g field).result >>= fun g =>
        ((fields.filterMap mendedField?).foldlM (addField askNonEmpty) g).result := by
  cases hmended : mendedField? field with
  | none =>
    have hname : usableName? field = none := Option.map_eq_none_iff.1 hmended
    rw [List.filterMap_cons_none hmended, result_addField, hname]
    rfl
  | some mended =>
    rw [List.filterMap_cons_some hmended, List.foldlM_cons, Outcome.result_bind,
      addField_mended hmended h]

/-- The first options that cannot be gone over make the compiler fail, and without such the
fields come to the schema of the fields in order. -/
theorem foldlM_addField (fields : List Value) (g : GroupSchema) :
    (fields.foldlM (addField askNonEmpty) g).result
      = match (fields.filterMap selectOptions?).find? fun v => ¬ v.Iterable with
        | some v => .error (.notIterable v)
        | none => ((fields.filterMap mendedField?).foldlM (addField askNonEmpty) g).result := by
  induction fields generalizing g with
  | nil => rfl
  | cons field fields ih =>
    rw [List.foldlM_cons, Outcome.result_bind]
    by_cases h : ∀ v ∈ selectOptions? field, v.Iterable
    · have hfirst : ((field :: fields).filterMap selectOptions?).find? (fun v => ¬ v.Iterable)
          = (fields.filterMap selectOptions?).find? fun v => ¬ v.Iterable := by
        cases hoptions : selectOptions? field with
        | none => rw [List.filterMap_cons_none hoptions]
        | some v =>
          rw [List.filterMap_cons_some hoptions, List.find?_cons_of_neg]
          simpa using h v hoptions
      rw [hfirst, foldlM_mended_cons h]
      obtain ⟨g', hg'⟩ := exists_addField askNonEmpty g h
      rw [hg']
      exact ih g'
    · obtain ⟨v, hv⟩ := not_forall.1 h
      obtain ⟨hoptions, hv⟩ := Classical.not_imp.1 hv
      rw [addField_of_not_iterable hoptions hv, List.filterMap_cons_some hoptions,
        List.find?_cons_of_pos (by simpa using hv)]
      rfl

end GroupSchema

/-! ## Templates -/

namespace TemplateView

/-- What the compiler goes over, in order: each group, and the options of its selects. -/
def goneOver (view : TemplateView) : List Value :=
  FieldGroup.all.flatMap fun g =>
    view.groups.get g :: (view.groups.get g).passed.filterMap GroupSchema.selectOptions?

/-- A template in order. -/
def mended (view : TemplateView) : TemplateView where
  name := view.name.orElse (.str "")
  description := view.description.orElse .null
  groups := view.groups.map fun v => .list (v.passed.filterMap GroupSchema.mendedField?)

end TemplateView

/-- The members of a field in order: a solid name, known tokens, a truth value, a list of
options, and a default of the schema type if there is one. -/
structure TidyField (members : Entries Value) : Prop where
  name : ∃ name, Value.member members "name" = .str name ∧ Text.isBlankText name = false
  type : ∃ type : FieldType, Value.member members "type" = .str type.token
  required : ∃ b, Value.member members "required" = .bool b
  options : ∃ vs, Value.member members "options" = .list vs
  default : Value.member members "defaultValue" = .null
    ∨ ∃ a : Scalar, Value.member members "defaultValue" = a.toValue
      ∧ a.hasType (SchemaType.ofValue (Value.member members "type"))
  validation : ∃ kind : ValidationKind, Value.member members "validation" = .str kind.token

/-- Every group of a template is a list of fields in order. -/
def TemplateView.Tidy (view : TemplateView) : Prop :=
  ∀ g, ∃ fields : List (Entries Value), view.groups.get g = .list (fields.map .object)
    ∧ ∀ members ∈ fields, TidyField members

theorem tidyField_mended {members : Entries Value} {name : Text}
    (hname : Value.member members "name" = .str name) (hsolid : Text.isBlankText name = false) :
    TidyField (PropertySchema.mended members) where
  name := ⟨name, hname, hsolid⟩
  type := ⟨_, rfl⟩
  required := ⟨_, rfl⟩
  options := ⟨_, rfl⟩
  default := by
    let type := (FieldType.ofValue? (Value.member members "type")).getD .text
    let default := Value.member members "defaultValue"
    show ((PropertySchema.shownDefault? type.schemaType default).map Scalar.toValue).getD .null
        = .null
      ∨ ∃ a : Scalar, ((PropertySchema.shownDefault? type.schemaType default).map
        Scalar.toValue).getD .null = a.toValue ∧ a.hasType (SchemaType.ofValue (.str type.token))
    rw [SchemaType.ofValue_token]
    cases hshown : PropertySchema.shownDefault? type.schemaType default with
    | none => exact .inl rfl
    | some a => exact .inr ⟨a, rfl, (PropertySchema.hasType_of_shownDefault? hshown).1⟩
  validation := ⟨_, rfl⟩

/-- Nothing malformed remains. -/
theorem TemplateView.tidy_mended (view : TemplateView) : view.mended.Tidy := by
  intro g
  let named := (view.groups.get g).passed.filter fun field =>
    (GroupSchema.usableName? field).isSome
  refine ⟨named.map fun field => PropertySchema.mended (GroupSchema.fieldMembers field), ?_, ?_⟩
  · unfold mended
    rw [Groups.get_map, List.map_map, ← List.filterMap_eq_map, List.filterMap_filter]
    refine congrArg Value.list (List.filterMap_congr fun field _ => ?_)
    unfold GroupSchema.mendedField?
    cases GroupSchema.usableName? field <;> rfl
  · intro members hmembers
    obtain ⟨field, hfield, rfl⟩ := List.mem_map.1 hmembers
    obtain ⟨name, hname⟩ := Option.isSome_iff_exists.1 (List.mem_filter.1 hfield).2
    obtain ⟨hvalue, hsolid⟩ := GroupSchema.usableName?_eq_some_iff.1 hname
    exact tidyField_mended hvalue hsolid

namespace Schema

variable {askNonEmpty : AskNonEmpty} {view : TemplateView} {g : FieldGroup}

theorem compileGroup_mended :
    (compileGroup askNonEmpty view.mended g).result
      = (GroupSchema.compile askNonEmpty (.str g.title)
        ((view.groups.get g).passed.filterMap GroupSchema.mendedField?)).result := by
  unfold compileGroup TemplateView.mended
  rw [Groups.get_map, Value.orElse_list]
  rfl

theorem exists_compileGroup_mended (askNonEmpty : AskNonEmpty) (view : TemplateView)
    (g : FieldGroup) :
    ∃ schema, (compileGroup askNonEmpty view.mended g).result = .ok schema := by
  rw [compileGroup_mended]
  refine GroupSchema.exists_foldlM_addField askNonEmpty ?_ _
  intro mended hmended
  obtain ⟨field, -, hfield⟩ := List.mem_filterMap.1 hmended
  exact GroupSchema.iterable_of_mendedField hfield

/-- The first value of a group that cannot be gone over makes the compiler fail. -/
theorem result_compileGroup (askNonEmpty : AskNonEmpty) (view : TemplateView) (g : FieldGroup) :
    (compileGroup askNonEmpty view g).result
      = match (view.groups.get g :: (view.groups.get g).passed.filterMap
          GroupSchema.selectOptions?).find? fun v => ¬ v.Iterable with
        | some v => .error (.notIterable v)
        | none => (compileGroup askNonEmpty view.mended g).result := by
  rw [compileGroup_mended]
  unfold compileGroup
  rw [Outcome.result_bind, Outcome.result_ofExcept, Value.items_orElse]
  by_cases h : (view.groups.get g).Iterable
  · rw [if_pos h, List.find?_cons_of_neg (by simpa using h)]
    exact GroupSchema.foldlM_addField ..
  · rw [if_neg h, List.find?_cons_of_pos (by simpa using h)]
    rfl

/-- The schema of a template whose groups have been compiled. -/
def ofGroups (view : TemplateView) (groups : Groups GroupSchema) : Schema where
  title := view.name.orElse (.str "")
  description := if view.description.truthy then some view.description else none
  groups := groups

theorem ofGroups_mended (groups : Groups GroupSchema) :
    ofGroups view.mended groups = ofGroups view groups := by
  have htitle : (view.name.orElse (.str "")).orElse (.str "") = view.name.orElse (.str "") := by
    unfold Value.orElse
    by_cases h : view.name.truthy = true
    · rw [if_pos h, if_pos h]
    · rw [if_neg h]
      rfl
  unfold ofGroups TemplateView.mended
  dsimp only
  rw [htitle, Value.ite_truthy_orElse_null]

theorem result_compile (askNonEmpty : AskNonEmpty) (view : TemplateView) :
    (compile askNonEmpty view).result
      = (compileGroup askNonEmpty view .object).result >>= fun object =>
        (compileGroup askNonEmpty view .contact).result >>= fun contact =>
        (compileGroup askNonEmpty view .lineItem).result >>= fun lineItem =>
        .ok (ofGroups view ⟨object, contact, lineItem⟩) := by
  unfold compile
  simp only [Outcome.result_bind]
  rfl

/-- Whatever a template holds, there is one in order that has a schema.  The first value that
is gone over and cannot be makes the compiler fail, and it is the only thing that does: without
one, the schema is that of the template in order. -/
theorem compile_unchecked (askNonEmpty : AskNonEmpty) (view : TemplateView) :
    view.mended.Tidy
      ∧ (∃ schema, (compile askNonEmpty view.mended).result = .ok schema)
      ∧ (compile askNonEmpty view).result
        = match view.goneOver.find? fun v => ¬ v.Iterable with
          | some v => .error (.notIterable v)
          | none => (compile askNonEmpty view.mended).result := by
  obtain ⟨object, hobject⟩ := exists_compileGroup_mended askNonEmpty view .object
  obtain ⟨contact, hcontact⟩ := exists_compileGroup_mended askNonEmpty view .contact
  obtain ⟨lineItem, hlineItem⟩ := exists_compileGroup_mended askNonEmpty view .lineItem
  have hmended : (compile askNonEmpty view.mended).result
      = .ok (ofGroups view ⟨object, contact, lineItem⟩) := by
    rw [result_compile, hobject, hcontact, hlineItem]
    exact congrArg Except.ok (ofGroups_mended _)
  refine ⟨view.tidy_mended, ⟨_, hmended⟩, ?_⟩
  -- The groups are gone over one after the other, and the first failure is the last step.
  unfold TemplateView.goneOver FieldGroup.all
  rw [hmended, result_compile, result_compileGroup askNonEmpty view .object,
    result_compileGroup askNonEmpty view .contact, result_compileGroup askNonEmpty view .lineItem,
    hobject, hcontact, hlineItem, List.flatMap_cons, List.flatMap_cons, List.flatMap_cons,
    List.flatMap_nil, List.append_nil, List.find?_append, List.find?_append]
  cases List.find? _ _ with
  | some v => rfl
  | none =>
    cases List.find? _ _ with
    | some v => rfl
    | none => cases List.find? _ _ <;> rfl

/-- A group, and options of a select, that count as true and have no items.  Their templates
have no schema, but those in order do. -/
theorem numbers_have_no_items :
    let group : TemplateView := .ofValue (.object [("name", .str "T"), ("objectFields", .int 5)])
    let select : TemplateView := .ofValue (.object [("name", .str "T"), ("objectFields", .list [
      .object [("name", .str "s"), ("type", .str "select"), ("options", .bool true)]])])
    (compile true group).result = .error (.notIterable (.int 5))
      ∧ (compile true select).result = .error (.notIterable (.bool true))
      ∧ ¬ ∀ askNonEmpty view, ∃ schema, (compile askNonEmpty view).result = .ok schema := by
  intro group select
  have hgroup : (compile true group).result = .error (.notIterable (.int 5)) := by rfl
  refine ⟨hgroup, by rfl, fun hall => ?_⟩
  obtain ⟨schema, hschema⟩ := hall true group
  cases hgroup.symm.trans hschema

end Schema

end Formulary
