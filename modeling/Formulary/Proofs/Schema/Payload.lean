import Formulary.Proofs.Schema.Compile

/-!
# Compiling payloads

A template can be compiled as it was sent, before anything in it has been read.
Where its field objects are plain, the schema is the one of the draft that is read
from it: reading clears options, fits defaults and fills in what was left out, and
nothing of that shows in the schema.

* `PlainField` says which objects are plain: those whose default has the spelling
  of the wire, and whose truth value is a truth value if it is there at all.  What
  is read more freely than that is compiled in another way.
* `declared_of_ofMembers` says that the members of a plain object declare the field
  that is read from them.
* `Schema.compile_payload` is the result for a template.
-/

namespace Formulary

theorem Entries.get?_filter {α : Type} {entries : Entries α} (h : (keys entries).Nodup)
    (p : Text × α → Bool) (name : Text) :
    get? (entries.filter p) name = (get? entries name).filter fun a => p (name, a) := by
  induction entries with
  | nil => rfl
  | cons entry rest ih =>
    obtain ⟨k, a⟩ := entry
    obtain ⟨hk, hrest⟩ := List.nodup_cons.1 h
    rw [List.filter_cons, get?_cons]
    by_cases hname : k = name
    · subst hname
      rw [if_pos rfl, Option.filter_some]
      split
      · rw [get?_cons, if_pos rfl]
      · -- No other entry has the name of the one that is left out.
        rw [ih hrest]
        have hnone : get? rest k = none := by
          rw [← Option.not_isSome_iff_eq_none, get?_isSome_iff]
          exact hk
        rw [hnone]
        rfl
    · rw [if_neg hname]
      split
      · rw [get?_cons, if_neg hname, ih hrest]
      · exact ih hrest

/-- A field object in which every name stands once, the default has its spelling on
the wire, and the field is required by a truth value if it is said at all. -/
structure PlainField (members : Entries Value) : Prop where
  names_nodup : members.keys.Nodup
  default_spelling : members.get? "default_value" = none
  required : Value.member members "required" = .null
    ∨ Value.member members "required" = .bool false ∨ Value.member members "required" = .bool true

instance (members : Entries Value) : Decidable (PlainField members) :=
  decidable_of_iff
    (members.keys.Nodup ∧ members.get? "default_value" = none
      ∧ (Value.member members "required" = .null
        ∨ Value.member members "required" = .bool false
        ∨ Value.member members "required" = .bool true))
    ⟨fun h => ⟨h.1, h.2.1, h.2.2⟩, fun h => ⟨h.names_nodup, h.default_spelling, h.required⟩⟩

/-! ## Attributes -/

namespace Attribute

variable {α : Type} {a : Attribute} {members : Entries Value}

/-- An attribute with one spelling is read under it. -/
theorem read_ofName (name : String) (members : Entries Value) :
    (ofName name).read members = Value.member members name := by
  unfold read find? ofName Value.member
  cases members.get? name <;> rfl

/-- An attribute without the spelling of rows is read under that of the wire. -/
theorem read_of_row_eq_none (h : members.get? a.row = none) :
    a.read members = Value.member members a.wire := by
  unfold read find? Value.member
  rw [h]
  cases members.get? a.wire <;> rfl

/-- An attribute that has to be there is read from its value. -/
theorem read_of_required {x : α} {reader : Reader α} (h : a.required reader members = .ok x) :
    reader (a.read members) = .ok x := by
  unfold required at h
  unfold read
  split at h
  · rename_i hfind
    rw [hfind]
    exact Checked.within_eq_ok_iff.1 h
  · cases h

/-- An attribute that may be left out is read from its value, or counts as null. -/
theorem read_of_orDefault {default x : α} {reader : Reader α}
    (h : a.orDefault default reader members = .ok x) :
    a.read members = .null ∧ x = default ∨ reader (a.read members) = .ok x := by
  unfold orDefault at h
  unfold read
  split at h
  · rename_i hfind
    rw [hfind]
    exact .inr (Checked.within_eq_ok_iff.1 h)
  · rename_i hfind
    rw [hfind]
    exact .inl ⟨rfl, (Checked.ok.inj h).symm⟩

end Attribute

/-! ## Readers -/

theorem Scalar.toValue_ne_null (a : Scalar) : a.toValue ≠ .null := by
  cases a <;> exact Value.noConfusion

namespace Reader

variable {α : Type} {reader : Reader α} {v : Value}

theorem list_eq_ok_iff_forall₂ {as : List α} :
    list reader v = .ok as
      ↔ ∃ items, v = .list items ∧ List.Forall₂ (fun v a => reader v = .ok a) items as := by
  rw [list_eq_ok_iff]
  refine exists_congr fun items => and_congr_right fun _ => ?_
  rw [← List.forall₂_eq_eq_eq, List.forall₂_map_left_iff, List.forall₂_map_right_iff]

theorem text_eq_ok_iff {s : Text} : text v = .ok s ↔ v = .str s := by
  cases v <;> simp [text, Checked.fail]

theorem texts_eq_ok_iff {ts : List Text} : list text v = .ok ts ↔ v = .list (ts.map .str) := by
  rw [list_eq_ok_iff_forall₂]
  have hitems (items : List Value) :
      List.Forall₂ (fun v s => text v = .ok s) items ts ↔ items = ts.map .str := by
    simp only [text_eq_ok_iff]
    rw [← List.forall₂_map_right_iff (R := (· = ·)), List.forall₂_eq_eq_eq]
  simp only [hitems, exists_eq_right]

theorem fieldType_eq_ok_iff {type : FieldType} :
    fieldType v = .ok type ↔ FieldType.ofValue? v = some type := by
  unfold fieldType
  cases FieldType.ofValue? v with
  | none => cases v <;> simp [refuse, Checked.fail]
  | some t => simp

theorem validationKind_eq_ok_iff {kind : ValidationKind} :
    validationKind v = .ok kind ↔ ValidationKind.ofValue? v = some kind := by
  unfold validationKind
  cases ValidationKind.ofValue? v with
  | none => cases v <;> simp [refuse, Checked.fail]
  | some k => simp

/-- What may be null is read from an optional value. -/
theorem nullable_eq_ok_iff {toValue : α → Value}
    (hreader : ∀ {v a}, reader v = .ok a ↔ v = toValue a) (hnull : ∀ a, toValue a ≠ .null) {x : Option α} :
    nullable reader v = .ok x ↔ v = (x.map toValue).getD .null := by
  unfold nullable
  split
  · cases x with
    | none => simp
    | some a => simp [(hnull a).symm]
  · rename_i hv
    rw [Checked.map_eq_ok_iff]
    simp only [hreader]
    cases x with
    | none => simpa using hv
    | some a => simp

theorem nullable_text_eq_ok_iff {t : Option Text} : nullable text v = .ok t ↔ v = .ofText? t := by
  rw [nullable_eq_ok_iff text_eq_ok_iff fun _ => Value.noConfusion]
  cases t <;> rfl

theorem nullable_scalar_eq_ok_iff {a : Option Scalar} :
    nullable scalar v = .ok a ↔ v = (a.map Scalar.toValue).getD .null :=
  nullable_eq_ok_iff scalar_eq_ok_iff Scalar.toValue_ne_null

end Reader

/-! ## Fields -/

namespace Field

variable {members : Entries Value}

/-- A member that is dropped because it is null counts as null. -/
theorem member_dropNulls (h : members.keys.Nodup) (name : Text) :
    Value.member (dropNulls members) name = Value.member members name := by
  unfold Value.member dropNulls
  rw [Entries.get?_filter h]
  cases members.get? name with
  | none => rfl
  | some v =>
    rw [Option.filter_some]
    dsimp only
    split
    · rfl
    · rename_i hdropped
      rw [Bool.not_eq_true, Bool.not_eq_false', Bool.and_eq_true, decide_eq_true_eq] at hdropped
      rw [hdropped.2]
      rfl

/-- The default of a plain object is read under the spelling of the wire. -/
theorem read_default_dropNulls (hplain : PlainField members) :
    defaultAttribute.read (dropNulls members) = Value.member members "defaultValue" := by
  have hrow : (dropNulls members).get? defaultAttribute.row = none := by
    unfold dropNulls
    rw [Entries.get?_filter hplain.names_nodup, defaultAttribute, hplain.default_spelling]
    rfl
  rw [Attribute.read_of_row_eq_none hrow, member_dropNulls hplain.names_nodup, defaultAttribute]

/-- The members of a plain object declare the field that is read from them. -/
theorem declared_of_ofMembers {f : Field} (hplain : PlainField members)
    (h : ofMembers members = .ok f) : f.Declared members := by
  obtain ⟨hname, htype, hrequired, hoptions, hdefault, hvalidation, -, hdescription⟩ :=
    attributes_of_ofMembers h
  have hread (name : String) :
      (Attribute.ofName name).read (dropNulls members) = Value.member members name := by
    rw [Attribute.read_ofName, member_dropNulls hplain.names_nodup]
  -- Every attribute is read from its value, or is null and has its default.
  replace hname := Attribute.read_of_required hname
  replace htype := Attribute.read_of_orDefault htype
  replace hrequired := Attribute.read_of_orDefault hrequired
  replace hoptions := Attribute.read_of_orDefault hoptions
  replace hdefault := Attribute.read_of_orDefault hdefault
  replace hvalidation := Attribute.read_of_orDefault hvalidation
  replace hdescription := Attribute.read_of_orDefault hdescription
  rw [nameAttribute, hread, Reader.nonEmptyText_eq_ok_iff] at hname
  rw [hread, Reader.fieldType_eq_ok_iff] at htype
  rw [hread] at hrequired
  rw [hread, Reader.texts_eq_ok_iff] at hoptions
  rw [read_default_dropNulls hplain, Reader.nullable_scalar_eq_ok_iff] at hdefault
  rw [hread, Reader.validationKind_eq_ok_iff] at hvalidation
  rw [descriptionAttribute, hread, Reader.nullable_text_eq_ok_iff] at hdescription
  constructor
  case name => exact hname.1
  case type =>
    rcases htype with ⟨hnull, hdefault⟩ | hvalue
    · rw [hnull, hdefault]
      rfl
    · rw [hvalue]
      rfl
  case required =>
    rcases hrequired with ⟨hnull, hdefault⟩ | hvalue
    · rw [hnull, hdefault]
      rfl
    · rcases hplain.required with hv | hv | hv
      all_goals rw [hv] at hvalue ⊢
      · cases hvalue
      · exact Checked.ok.inj hvalue
      · exact Checked.ok.inj hvalue
  case options =>
    rcases hoptions with ⟨hnull, hdefault⟩ | hvalue
    · rw [hnull, hdefault]
      rfl
    · rw [hvalue]
      exact Value.orElse_list _
  case default =>
    rcases hdefault with ⟨hnull, hdefault⟩ | hvalue
    · rw [hnull, hdefault]
      rfl
    · exact hvalue
  case validation =>
    rcases hvalidation with ⟨hnull, hdefault⟩ | hvalue
    · rw [hnull, hdefault]
      rfl
    · rw [hvalue]
      rfl
  case description =>
    rcases hdescription with ⟨hnull, hdefault⟩ | hvalue
    · rw [hnull, hdefault]
      rfl
    · exact hvalue

/-- A field is read from the members of an object, and brought to its normal form. -/
theorem exists_ofMembers {v : Value} {f : Field} (h : ofValue v = .ok f) :
    ∃ g, ofMembers (GroupSchema.fieldMembers v) = .ok g ∧ v = .object (GroupSchema.fieldMembers v)
      ∧ Text.isBlankText g.name = false ∧ f = g.normalized := by
  unfold ofValue at h
  cases v with
  | object members =>
    cases hread : ofMembers members with
    | error issues =>
      rw [Reader.record, hread] at h
      cases h
    | ok g =>
      rw [Reader.record, hread, Checked.andThen_ok] at h
      split at h
      · cases h
      · rename_i hname
        cases h
        exact ⟨g, hread, rfl, Bool.not_eq_true _ ▸ hname, rfl⟩
  | _ => cases h

/-- A plain object that is read as a field defines it. -/
theorem definedBy_of_ofValue {v : Value} {f : Field}
    (hplain : PlainField (GroupSchema.fieldMembers v)) (h : ofValue v = .ok f) : f.DefinedBy v := by
  obtain ⟨g, hread, hv, hname, rfl⟩ := exists_ofMembers h
  rw [hv]
  exact (declared_of_ofMembers hplain hread).definedBy hname

end Field

/-! ## Templates -/

/-- Every field object of a group is plain. -/
def PlainGroup (v : Value) : Prop :=
  ∀ field ∈ v.items?.getD [], PlainField (GroupSchema.fieldMembers field)

instance (v : Value) : Decidable (PlainGroup v) :=
  inferInstanceAs
    (Decidable (∀ field ∈ v.items?.getD [], PlainField (GroupSchema.fieldMembers field)))

/-- Every field object of a template is plain, under whichever spelling its group is
found. -/
def PlainTemplate (payload : Value) : Prop :=
  ∀ g, PlainGroup ((TemplateView.ofValue payload).groups.get g)

/-- The fields of a group of a draft are read from the group's value; null is no
fields. -/
theorem TemplateDraft.readFields_of_readGroup {members : Entries Value} {g : FieldGroup}
    {fields : List Field} (h : readGroup members g = .ok fields) :
    g.fields.read members = .null ∧ fields = []
      ∨ readFields (g.fields.read members) = .ok fields := by
  rcases Attribute.read_of_orDefault h with hnull | hread
  · exact .inl hnull
  · split at hread
    · rename_i hnull
      cases hread
      exact .inl ⟨hnull, rfl⟩
    · exact .inr hread

namespace Schema

/-- A group of plain objects compiles to the schema of the fields that are read from
it. -/
theorem compileGroup_payload {members : Entries Value} {g : FieldGroup} {fields : List Field}
    (hplain : PlainGroup (g.fields.read members))
    (h : TemplateDraft.readGroup members g = .ok fields) (askNonEmpty : AskNonEmpty) :
    (compileGroup askNonEmpty (TemplateView.ofValue (.object members)) g).result
      = .ok (.ofFields askNonEmpty (.str g.title) fields) := by
  have hview : (TemplateView.ofValue (.object members)).groups.get g = g.fields.read members :=
    Groups.get_ofFun ..
  unfold compileGroup
  rw [hview, Outcome.result_bind_eq_ok_iff]
  rcases TemplateDraft.readFields_of_readGroup h with ⟨hnull, rfl⟩ | hread
  · rw [hnull]
    exact ⟨[], rfl, rfl⟩
  · obtain ⟨hlist, hnames⟩ := readFields_eq_ok_iff.1 hread
    obtain ⟨items, hitems, hfields⟩ := Reader.list_eq_ok_iff_forall₂.1 hlist
    rw [hitems] at hplain ⊢
    rw [Value.orElse_list]
    refine ⟨items, rfl, GroupSchema.compile_of_definedBy ?_ hnames askNonEmpty _⟩
    refine (List.forall₂_and_left _ _).2 ⟨hplain, hfields⟩ |>.imp ?_
    rintro v f ⟨hv, hf⟩
    exact Field.definedBy_of_ofValue hv hf

/-- A payload of plain field objects from which a draft is read compiles, before
anything in it has been read, to the schema of the draft. -/
theorem compile_payload {payload : Value} {draft : TemplateDraft} (hplain : PlainTemplate payload)
    (h : TemplateDraft.ofValue payload = .ok draft) (askNonEmpty : AskNonEmpty) :
    (compile askNonEmpty (TemplateView.ofValue payload)).result
      = .ok (draft.schema askNonEmpty) := by
  obtain ⟨members, rfl, hname, hdescription, -, hgroups⟩ := TemplateDraft.ofValue_eq_ok_iff.1 h
  refine compile_eq_schema ?_ ?_ fun g => ?_
  · exact (Reader.nonEmptyText_eq_ok_iff.1 (Attribute.read_of_required hname)).1
  · -- A description that is left out is read as empty, and neither shows.
    show (if (descriptionAttribute.read members).truthy
      then some (descriptionAttribute.read members) else none) = _
    rcases Attribute.read_of_orDefault hdescription with ⟨hnull, hempty⟩ | hvalue
    · rw [hnull, hempty]
      rfl
    · rw [Reader.nullable_text_eq_ok_iff.1 hvalue, truthy_ofText?]
  · have hgroup := hplain g
    rw [TemplateView.ofValue, Groups.get_ofFun] at hgroup
    exact compileGroup_payload hgroup (hgroups g) askNonEmpty

end Schema

end Formulary
