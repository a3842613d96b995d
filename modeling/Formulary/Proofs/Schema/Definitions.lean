import Formulary.Proofs.Schema.Unchecked
import Mathlib.Data.List.Induction
import Mathlib.Data.List.Nodup

/-!
# Several definitions of one field

What becomes of a group in which a field may be defined more than once, or not at all.

* `GroupSchema.Describes` says of a schema, field by field, what the compiler has read: the
  properties follow the last definition of each name, what is required follows any.
  `Describes.addField` is the step of one more field, `describes_of_compile` the run over a
  group.
* `countP_notices_compile` counts the fields that have no property of their own.
* `compile_lists` is the schema of a group from the list of its fields, and of a group of a
  template that has been read.
-/

namespace Formulary

/-! ## First occurrences -/

section

variable {α : Type} [DecidableEq α]

theorem eraseDups_append_singleton (as : List α) (a : α) :
    (as ++ [a]).eraseDups = if a ∈ as then as.eraseDups else as.eraseDups ++ [a] := by
  rw [List.eraseDups_append]
  by_cases h : a ∈ as <;> simp [h, List.removeAll, List.eraseDups_cons]

theorem nodup_eraseDups (as : List α) : as.eraseDups.Nodup := by
  induction as using List.reverseRecOn with
  | nil => simp
  | append_singleton as a ih =>
    rw [eraseDups_append_singleton]
    split
    · exact ih
    · rename_i h
      rw [List.nodup_append]
      refine ⟨ih, List.nodup_singleton a, ?_⟩
      intro b hb c hc hbc
      rw [List.mem_singleton] at hc
      exact h (List.mem_eraseDups.1 (hc ▸ hbc ▸ hb))

theorem eraseDups_of_nodup {as : List α} (h : as.Nodup) : as.eraseDups = as := by
  induction as using List.reverseRecOn with
  | nil => rfl
  | append_singleton as a ih =>
    obtain ⟨has, -, hdisjoint⟩ := List.nodup_append.1 h
    have hnew : a ∉ as := fun ha => hdisjoint a ha a (List.mem_singleton_self a) rfl
    rw [eraseDups_append_singleton, if_neg hnew, ih has]

end

namespace GroupSchema

variable {askNonEmpty : AskNonEmpty} {title : Value} {fields : List Value} {g g' : GroupSchema}
  {field : Value} {name : Text}

/-! ## Names and definitions -/

/-- The usable names of fields, as often as they occur. -/
def names (fields : List Value) : List Text := fields.filterMap usableName?

/-- The last definition of a field. -/
def definition? (fields : List Value) (name : Text) : Option Value :=
  fields.findRev? fun field => usableName? field = some name

/-- The fields that are required, in whichever definition. -/
def requiredNames (fields : List Value) : List Text := names (fields.filter isRequired)

theorem names_append_singleton (fields : List Value) (field : Value) :
    names (fields ++ [field]) = names fields ++ (usableName? field).toList := by
  unfold names
  rw [List.filterMap_append]
  cases h : usableName? field with
  | none => rw [List.filterMap_cons_none h]; rfl
  | some name => rw [List.filterMap_cons_some h]; rfl

theorem requiredNames_append_singleton (fields : List Value) (field : Value) :
    requiredNames (fields ++ [field])
      = requiredNames fields ++ if isRequired field then (usableName? field).toList else [] := by
  unfold requiredNames
  by_cases h : isRequired field = true
  · rw [List.filter_append, List.filter_cons_of_pos h, List.filter_nil, names_append_singleton,
      if_pos h]
  · rw [List.filter_append, List.filter_cons_of_neg h, List.filter_nil, List.append_nil, if_neg h,
      List.append_nil]

theorem definition?_append_singleton (fields : List Value) (field : Value) (name : Text) :
    definition? (fields ++ [field]) name
      = if usableName? field = some name then some field else definition? fields name := by
  unfold definition?
  rw [List.findRev?_eq_find?_reverse, List.findRev?_eq_find?_reverse, List.reverse_append]
  by_cases h : usableName? field = some name <;> simp [h]

theorem of_definition?_eq_some (h : definition? fields name = some field) :
    field ∈ fields ∧ usableName? field = some name := by
  unfold definition? at h
  rw [List.findRev?_eq_find?_reverse] at h
  exact ⟨List.mem_reverse.1 (List.mem_of_find?_eq_some h), by simpa using List.find?_some h⟩

theorem definition?_isSome_iff : (definition? fields name).isSome ↔ name ∈ names fields := by
  unfold definition? names
  rw [List.findRev?_eq_find?_reverse, List.find?_isSome, List.mem_filterMap]
  simp

theorem mem_requiredNames :
    name ∈ requiredNames fields
      ↔ ∃ field ∈ fields, usableName? field = some name ∧ isRequired field := by
  unfold requiredNames names
  simp only [List.mem_filterMap, List.mem_filter]
  constructor
  · rintro ⟨field, ⟨hfield, hrequired⟩, hname⟩
    exact ⟨field, hfield, hname, hrequired⟩
  · rintro ⟨field, hfield, hname, hrequired⟩
    exact ⟨field, ⟨hfield, hrequired⟩, hname⟩

theorem mem_names_of_mem_requiredNames (h : name ∈ requiredNames fields) :
    name ∈ names fields := by
  obtain ⟨field, hfield, hname, -⟩ := mem_requiredNames.1 h
  exact List.mem_filterMap.2 ⟨field, hfield, hname⟩

/-! ## The schema of a group -/

/-- What the schema of a group says of its fields: each has a property by its last definition,
and is required if any definition says so. -/
structure Describes (askNonEmpty : AskNonEmpty) (title : Value) (fields : List Value)
    (g : GroupSchema) : Prop where
  title : g.title = title
  keys : g.properties.keys = (names fields).eraseDups
  property : ∀ name, g.properties.get? name = (definition? fields name).bind fun field =>
    (PropertySchema.compile askNonEmpty (fieldMembers field)).result.toOption
  required : g.required = (requiredNames fields).eraseDups

theorem describes_nil (askNonEmpty : AskNonEmpty) (title : Value) :
    Describes askNonEmpty title [] ⟨title, [], []⟩ where
  title := rfl
  keys := rfl
  property _ := rfl
  required := rfl

theorem addName_eraseDups (as : List Text) (name : Text) :
    addName as.eraseDups name = (as ++ [name]).eraseDups := by
  unfold addName
  rw [eraseDups_append_singleton]
  simp [List.mem_eraseDups]

theorem addField_eq_ok_iff (hname : usableName? field = some name) :
    (addField askNonEmpty g field).result = .ok g'
      ↔ ∃ property, (PropertySchema.compile askNonEmpty (fieldMembers field)).result = .ok property
        ∧ g' = { g with
          properties := g.properties.put name property
          required := if isRequired field then addName g.required name else g.required } := by
  rw [result_addField, hname]
  cases (PropertySchema.compile askNonEmpty (fieldMembers field)).result with
  | error fault => simp [Except.map]
  | ok property =>
    constructor
    · rintro ⟨⟩
      exact ⟨property, rfl, rfl⟩
    · rintro ⟨_, ⟨⟩, rfl⟩
      rfl

/-- One more field is described as well. -/
theorem Describes.addField (h : Describes askNonEmpty title fields g)
    (hstep : (addField askNonEmpty g field).result = .ok g') :
    Describes askNonEmpty title (fields ++ [field]) g' := by
  cases hname : usableName? field with
  | none =>
    rw [result_addField, hname] at hstep
    cases hstep
    constructor
    case title => exact h.title
    case keys => rw [h.keys, names_append_singleton, hname, Option.toList_none, List.append_nil]
    case property =>
      intro other
      rw [h.property other, definition?_append_singleton, if_neg (by simp [hname])]
    case required =>
      rw [h.required, requiredNames_append_singleton, hname, Option.toList_none, ite_self,
        List.append_nil]
  | some name =>
    obtain ⟨property, hproperty, rfl⟩ := (addField_eq_ok_iff hname).1 hstep
    constructor
    case title => exact h.title
    case keys =>
      rw [names_append_singleton, hname, Option.toList_some, eraseDups_append_singleton,
        Entries.keys_put, h.keys]
      simp only [List.mem_eraseDups]
    case property =>
      intro other
      rw [Entries.get?_put, definition?_append_singleton, hname, h.property other]
      by_cases hother : name = other
      · rw [if_pos hother, if_pos (congrArg some hother), Option.bind_some, hproperty]
        rfl
      · rw [if_neg hother, if_neg fun heq => hother (Option.some.inj heq)]
    case required =>
      rw [requiredNames_append_singleton, hname, h.required]
      by_cases hrequired : isRequired field = true
      · rw [if_pos hrequired, if_pos hrequired, addName_eraseDups, Option.toList_some]
      · rw [if_neg hrequired, if_neg hrequired, List.append_nil]

/-- The schema of a group describes its fields. -/
theorem describes_of_compile (h : (compile askNonEmpty title fields).result = .ok g) :
    Describes askNonEmpty title fields g := by
  induction fields using List.reverseRecOn generalizing g with
  | nil =>
    cases h
    exact describes_nil askNonEmpty title
  | append_singleton fields field ih =>
    unfold compile at h
    rw [List.foldlM_append, Outcome.result_bind_eq_ok_iff] at h
    obtain ⟨before, hbefore, hstep⟩ := h
    rw [List.foldlM_cons, Outcome.result_bind_eq_ok_iff] at hstep
    obtain ⟨after, hstep, hafter⟩ := hstep
    cases hafter
    exact (ih hbefore).addField hstep

/-- Fields whose options can be gone over have a schema, which describes them. -/
theorem exists_describes (h : ∀ field ∈ fields, ∀ v ∈ selectOptions? field, v.Iterable)
    (askNonEmpty : AskNonEmpty) (title : Value) :
    ∃ g, (compile askNonEmpty title fields).result = .ok g
      ∧ Describes askNonEmpty title fields g := by
  obtain ⟨g, hg⟩ := exists_foldlM_addField askNonEmpty h ⟨title, [], []⟩
  exact ⟨g, hg, describes_of_compile hg⟩

/-- A name in the schema has the property of its last definition. -/
theorem Describes.exists_property (h : Describes askNonEmpty title fields g)
    (hname : name ∈ g.properties.keys) :
    ∃ field property, definition? fields name = some field
      ∧ (PropertySchema.compile askNonEmpty (fieldMembers field)).result = .ok property
      ∧ g.properties.get? name = some property := by
  obtain ⟨property, hproperty⟩ := Option.isSome_iff_exists.1
    ((Entries.get?_isSome_iff g.properties name).2 hname)
  have hget := h.property name
  rw [hproperty] at hget
  obtain ⟨field, hfield, hcompile⟩ := Option.bind_eq_some_iff.1 hget.symm
  refine ⟨field, property, hfield, ?_, hproperty⟩
  cases hresult : (PropertySchema.compile askNonEmpty (fieldMembers field)).result with
  | error fault =>
    rw [hresult] at hcompile
    cases hcompile
  | ok other =>
    rw [hresult] at hcompile
    cases hcompile
    rfl

theorem Describes.mem_keys_of_mem_required (h : Describes askNonEmpty title fields g)
    (hname : name ∈ g.required) : name ∈ g.properties.keys := by
  rw [h.required, List.mem_eraseDups] at hname
  rw [h.keys, List.mem_eraseDups]
  exact mem_names_of_mem_requiredNames hname

end GroupSchema

/-! ## Notices -/

/-- A notice that a field was left out, or that its name was in its group already. -/
def Notice.tellsOfField : Notice → Bool
  | .fieldSkipped _ | .fieldRepeated .. => true
  | _ => false

theorem PropertySchema.countP_notices_compile (askNonEmpty : AskNonEmpty)
    (members : Entries Value) :
    (compile askNonEmpty members).notices.countP Notice.tellsOfField = 0 := by
  unfold compile compileDefault
  cases compileOptions members with
  | error fault => rfl
  | ok options =>
    dsimp only
    split
    · rfl
    · split <;> rfl

theorem Entries.length_keys {α : Type} (entries : Entries α) :
    entries.keys.length = entries.length :=
  List.length_map _

theorem Entries.length_put {α : Type} (entries : Entries α) (name : Text) (a : α) :
    (entries.put name a).length
      = if entries.has name then entries.length else entries.length + 1 := by
  rw [← length_keys, keys_put, ← length_keys entries]
  by_cases h : name ∈ keys entries
  · rw [if_pos h, if_pos ((has_iff entries name).2 h)]
  · rw [if_neg h, if_neg fun hhas => h ((has_iff entries name).1 hhas)]
    simp

namespace GroupSchema

variable {askNonEmpty : AskNonEmpty} {title : Value} {fields : List Value} {g g' : GroupSchema}
  {field : Value}

/-- One more field is one more property or one more notice. -/
theorem countP_notices_addField (hstep : (addField askNonEmpty g field).result = .ok g') :
    (addField askNonEmpty g field).notices.countP Notice.tellsOfField + g'.properties.length
      = g.properties.length + 1 := by
  cases hname : usableName? field with
  | none =>
    rw [result_addField, hname] at hstep
    cases hstep
    unfold addField
    rw [hname]
    show 1 + g.properties.length = _
    omega
  | some name =>
    obtain ⟨property, hproperty, rfl⟩ := (addField_eq_ok_iff hname).1 hstep
    have hnotices : (addField askNonEmpty g field).notices
        = (if g.properties.has name then [.fieldRepeated name g.title] else [])
          ++ (PropertySchema.compile askNonEmpty (fieldMembers field)).notices := by
      unfold addField
      rw [hname]
      dsimp only
      rw [Outcome.notices_bind_of_ok (Outcome.result_notifyAll _),
        Outcome.notices_bind_of_ok hproperty]
      exact congrArg _ (List.append_nil _)
    rw [hnotices, List.countP_append, PropertySchema.countP_notices_compile]
    dsimp only
    rw [Entries.length_put]
    split
    · show 1 + 0 + g.properties.length = _
      omega
    · show 0 + 0 + (g.properties.length + 1) = _
      omega

theorem countP_notices_foldlM (hfields : (fields.foldlM (addField askNonEmpty) g).result = .ok g') :
    (fields.foldlM (addField askNonEmpty) g).notices.countP Notice.tellsOfField
        + g'.properties.length
      = g.properties.length + fields.length := by
  induction fields generalizing g with
  | nil =>
    cases hfields
    exact Nat.zero_add _
  | cons field fields ih =>
    rw [List.foldlM_cons] at hfields ⊢
    obtain ⟨after, hstep, hrest⟩ := Outcome.result_bind_eq_ok_iff.1 hfields
    have hfield := countP_notices_addField hstep
    have hafter := ih hrest
    rw [Outcome.notices_bind_of_ok hstep, List.countP_append, List.length_cons]
    omega

/-- Every field has a property of its own or is noticed to have none. -/
theorem countP_notices_compile (h : (compile askNonEmpty title fields).result = .ok g) :
    (compile askNonEmpty title fields).notices.countP Notice.tellsOfField + g.properties.length
      = fields.length := by
  have hcount := countP_notices_foldlM h
  rwa [List.length_nil, Nat.zero_add] at hcount

/-! ## Fields with names of their own -/

theorem nodup_requiredNames (h : (names fields).Nodup) : (requiredNames fields).Nodup :=
  h.sublist (List.filter_sublist.filterMap usableName?)

/-- A field that the compiler can use, under its name. -/
def Usable (field : Value) (name : Text) : Prop :=
  usableName? field = some name ∧ ∀ v ∈ selectOptions? field, v.Iterable

/-- Fields with different usable names are all listed, and none is noticed. -/
theorem compile_of_usable {ns : List Text} (h : List.Forall₂ Usable fields ns)
    (hnodup : ns.Nodup) (askNonEmpty : AskNonEmpty) (title : Value) :
    ∃ g, (compile askNonEmpty title fields).result = .ok g
      ∧ g.properties.keys = ns ∧ g.required = requiredNames fields
      ∧ (compile askNonEmpty title fields).notices.countP Notice.tellsOfField = 0 := by
  obtain ⟨hnames, hoptions⟩ : names fields = ns
      ∧ ∀ field ∈ fields, ∀ v ∈ selectOptions? field, v.Iterable := by
    clear hnodup
    induction h with
    | nil => exact ⟨rfl, by simp⟩
    | cons hfield _ ih =>
      exact ⟨(List.filterMap_cons_some hfield.1).trans (congrArg _ ih.1),
        List.forall_mem_cons.2 ⟨hfield.2, ih.2⟩⟩
  obtain ⟨g, hg, hdescribes⟩ := exists_describes hoptions askNonEmpty title
  have hkeys : g.properties.keys = ns := by
    rw [hdescribes.keys, hnames, eraseDups_of_nodup hnodup]
  refine ⟨g, hg, hkeys, ?_, ?_⟩
  · rw [hdescribes.required, eraseDups_of_nodup (nodup_requiredNames (hnames ▸ hnodup))]
  · have hcount := countP_notices_compile hg
    have hlength : g.properties.length = fields.length := by
      rw [h.length_eq, ← hkeys, Entries.length_keys]
    omega

theorem usable_toValue {f : Field} (h : f.Normal) : Usable f.toValue f.name :=
  ⟨h.definedBy_toValue.name, iterable_options (.inr ⟨_, rfl⟩)⟩

theorem requiredNames_toValue {read : List Field} (h : ∀ f ∈ read, f.Normal) :
    requiredNames (read.map Field.toValue) = (read.filter Field.required).map Field.name := by
  have hrequired : isRequired ∘ Field.toValue = Field.required := rfl
  unfold requiredNames names
  rw [List.filter_map, hrequired, List.filterMap_map, ← List.filterMap_eq_map]
  refine List.filterMap_congr fun f hf => ?_
  exact (usable_toValue (h f (List.mem_filter.1 hf).1)).1

/-- An object in which every name stands once can be used as it is if a field is read from
it. -/
theorem usable_of_ofValue {v : Value} {f : Field} (hmembers : (fieldMembers v).keys.Nodup)
    (h : Field.ofValue v = .ok f) : Usable v f.name := by
  obtain ⟨g, hread, -, hsolid, rfl⟩ := Field.exists_ofMembers h
  obtain ⟨hname, -, -, hoptions, -⟩ := Field.attributes_of_ofMembers hread
  replace hname := Attribute.read_of_required hname
  replace hoptions := Attribute.read_of_orDefault hoptions
  rw [nameAttribute, Attribute.read_ofName, Field.member_dropNulls hmembers,
    Reader.nonEmptyText_eq_ok_iff] at hname
  rw [Attribute.read_ofName, Field.member_dropNulls hmembers, Reader.texts_eq_ok_iff] at hoptions
  exact ⟨usableName?_eq_some_iff.2 ⟨hname.1, hsolid⟩,
    iterable_options (hoptions.imp And.left fun hlist => ⟨_, hlist⟩)⟩

/-- The fields of a draft are read from what was sent for its group. -/
theorem forall₂_ofValue_sent {payload : Value} {draft : TemplateDraft}
    (h : TemplateDraft.ofValue payload = .ok draft) (group : FieldGroup) :
    List.Forall₂ (fun v f => Field.ofValue v = .ok f)
      ((TemplateView.ofValue payload).groups.get group).passed (draft.groups.get group) := by
  obtain ⟨members, rfl, -, -, -, hgroups⟩ := TemplateDraft.ofValue_eq_ok_iff.1 h
  have hview : (TemplateView.ofValue (.object members)).groups.get group
      = group.fields.read members := Groups.get_ofFun ..
  rw [hview]
  rcases TemplateDraft.readFields_of_readGroup (hgroups group) with ⟨hnull, hnone⟩ | hread
  · rw [hnull, hnone]
    exact .nil
  · obtain ⟨items, hitems, hfields⟩ :=
      Reader.list_eq_ok_iff_forall₂.1 (readFields_eq_ok_iff.1 hread).1
    rw [hitems]
    exact hfields

/-- The schema of a group, from the list of its fields.  Its properties have the usable names in
the order in which they first occur, each with the schema of its last definition; it requires
the names that any definition requires, in the order of the first such definition; and every
other field is noticed.  In a template that has been read, nothing is left out and no name
occurs twice, whether its fields are taken as they are read or as they were sent. -/
theorem compile_lists (askNonEmpty : AskNonEmpty) (title : Value) :
    (∀ fields : List Value, (∀ field ∈ fields, ∀ v ∈ selectOptions? field, v.Iterable) →
      ∃ g, (compile askNonEmpty title fields).result = .ok g
        ∧ g.title = title
        ∧ g.properties.keys = (names fields).eraseDups
        ∧ (∀ name ∈ g.properties.keys, ∃ field property, definition? fields name = some field
          ∧ (PropertySchema.compile askNonEmpty (fieldMembers field)).result = .ok property
          ∧ g.properties.get? name = some property)
        ∧ g.required = (requiredNames fields).eraseDups
        ∧ g.required.Nodup
        ∧ (∀ name ∈ g.required, name ∈ g.properties.keys)
        ∧ (compile askNonEmpty title fields).notices.countP Notice.tellsOfField
            + g.properties.length
          = fields.length)
    ∧ ∀ payload draft, TemplateDraft.ofValue payload = .ok draft → ∀ group,
      let read := draft.groups.get group
      let sent := ((TemplateView.ofValue payload).groups.get group).passed
      (∃ g, (compile askNonEmpty title (read.map Field.toValue)).result = .ok g
        ∧ g.properties.keys = read.map Field.name
        ∧ g.required = (read.filter Field.required).map Field.name
        ∧ (compile askNonEmpty title (read.map Field.toValue)).notices.countP
          Notice.tellsOfField = 0)
      ∧ ((∀ field ∈ sent, (fieldMembers field).keys.Nodup) →
        ∃ g, (compile askNonEmpty title sent).result = .ok g
          ∧ g.properties.keys = read.map Field.name
          ∧ g.required = requiredNames sent
          ∧ (compile askNonEmpty title sent).notices.countP Notice.tellsOfField = 0) := by
  constructor
  · intro fields h
    obtain ⟨g, hg, hdescribes⟩ := exists_describes h askNonEmpty title
    refine ⟨g, hg, hdescribes.title, hdescribes.keys, fun _ => hdescribes.exists_property,
      hdescribes.required, ?_, fun _ => hdescribes.mem_keys_of_mem_required,
      countP_notices_compile hg⟩
    rw [hdescribes.required]
    exact nodup_eraseDups _
  · intro payload draft hdraft group read sent
    have hwell : WellFormedFields read := TemplateDraft.wellFormed_of_ofValue hdraft group
    constructor
    · have husable : List.Forall₂ Usable (read.map Field.toValue) (read.map Field.name) := by
        rw [List.forall₂_map_left_iff, List.forall₂_map_right_iff, List.forall₂_same]
        exact fun f hf => usable_toValue (hwell.normal f hf)
      obtain ⟨g, hg, hkeys, hrequired, hcount⟩ :=
        compile_of_usable husable hwell.names_nodup askNonEmpty title
      exact ⟨g, hg, hkeys, hrequired.trans (requiredNames_toValue hwell.normal), hcount⟩
    · intro hmembers
      have husable : List.Forall₂ Usable sent (read.map Field.name) := by
        rw [List.forall₂_map_right_iff]
        refine (List.forall₂_and_left _ _).2 ⟨hmembers, forall₂_ofValue_sent hdraft group⟩
          |>.imp ?_
        rintro v f ⟨hv, hf⟩
        exact usable_of_ofValue hv hf
      exact compile_of_usable husable hwell.names_nodup askNonEmpty title

/-- A field defined twice beside a select, a blank name and what is no field; and a template of
two fields as it was sent. -/
theorem compile_lists_repeated :
    let fields : List Value := [
      .object [("name", .str "a"), ("required", .bool true)],
      .object [("name", .str "s"), ("type", .str "select"), ("options", .list [.str "x"])],
      .object [("name", .str " ")],
      .str "a",
      .object [("name", .str "a"), ("type", .str "number")]]
    let payload : Value := .object [("name", .str "T"), ("objectFields", .list [
      .object [("name", .str "z")],
      .object [("name", .str "a"), ("required", .bool true)]])]
    let sent := ((TemplateView.ofValue payload).groups.get .object).passed
    (∀ field ∈ fields, ∀ v ∈ selectOptions? field, v.Iterable)
      ∧ (∃ g, (compile true (.str "G") fields).result = .ok g
        ∧ g.properties.keys = ["a", "s"] ∧ g.required = ["a"]
        ∧ (compile true (.str "G") fields).notices.countP Notice.tellsOfField = 3)
      ∧ (∃ draft, TemplateDraft.ofValue payload = .ok draft)
      ∧ (∀ field ∈ sent, (fieldMembers field).keys.Nodup)
      ∧ ∃ g, (compile true (.str "G") sent).result = .ok g
        ∧ g.properties.keys = ["z", "a"] ∧ g.required = ["a"]
        ∧ (compile true (.str "G") sent).notices.countP Notice.tellsOfField = 0 := by
  intro fields payload sent
  obtain ⟨hlists, hdrafts⟩ := compile_lists true (.str "G")
  have h : ∀ field ∈ fields, ∀ v ∈ selectOptions? field, v.Iterable := by decide +kernel
  obtain ⟨g, hg, -, hkeys, -, hrequired, -, -, hcount⟩ := hlists fields h
  obtain ⟨draft, hdraft⟩ : ∃ draft, TemplateDraft.ofValue payload = .ok draft := ⟨_, by rfl⟩
  have hmembers : ∀ field ∈ sent, (fieldMembers field).keys.Nodup := by decide +kernel
  obtain ⟨g', hg', hkeys', hrequired', hcount'⟩ := (hdrafts payload draft hdraft .object).2 hmembers
  have hnames : (names fields).eraseDups = ["a", "s"] := by decide +kernel
  have hlength : g.properties.length = 2 := by
    rw [← Entries.length_keys, hkeys, hnames]
    rfl
  refine ⟨h, ⟨g, hg, hkeys.trans hnames, hrequired.trans (by decide +kernel), ?_⟩,
    ⟨draft, hdraft⟩, hmembers, g', hg', ?_, hrequired'.trans (by decide +kernel), hcount'⟩
  · rw [hlength] at hcount
    exact Nat.add_right_cancel hcount
  · cases hdraft
    exact hkeys'

end GroupSchema

end Formulary
