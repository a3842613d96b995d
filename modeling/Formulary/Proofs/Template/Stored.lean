import Formulary.Proofs.Template.Draft
import Mathlib.Data.List.Nodup

/-!
# Stored fields

What a template row holds of a group of fields, said of the plain value that is
stored.  `StoredField` and `StoredGroup` go by the members of the stored objects
alone, so that they can be asked of rows whoever wrote them.

* `keptDefault_eq_self_iff` says which defaults a field keeps: those that fit its
  type as they are, and those that do not fit it at all.
* Keeping a field in a JSON text changes no more than a default that is not a
  number, and such a default fits no type.  So `WellFormedFields.settled` holds,
  and `toValue_settled` brings the kept value back to fields.
* `storedGroup_iff` says that stored groups are just what well-formed fields are
  stored as, and `StoredGroup.settled` follows from it.
-/

namespace Formulary

/-! ## Values in a JSON text -/

namespace Value

theorem settledItems_eq_map (items : List Value) : settledItems items = items.map settled := by
  induction items with
  | nil => rfl
  | cons v vs ih => rw [settledItems, ih, List.map_cons]

@[simp] theorem settled_list (items : List Value) :
    (list items).settled = .list (items.map settled) := by
  rw [settled, settledItems_eq_map]

theorem settledMembers_eq_mapValues (members : Entries Value) :
    settledMembers members = members.mapValues settled := by
  induction members with
  | nil => rfl
  | cons member ms ih =>
    obtain ⟨k, v⟩ := member
    rw [settledMembers, ih]
    rfl

@[simp] theorem settled_object (members : Entries Value) :
    (object members).settled = .object (members.mapValues settled) := by
  rw [settled, settledMembers_eq_mapValues]

@[simp] theorem settled_ofText? (t : Option Text) : (ofText? t).settled = ofText? t := by
  cases t <;> rfl

/-- A list of texts is kept as it is. -/
theorem settled_texts (ts : List Text) : (list (ts.map str)).settled = list (ts.map str) := by
  rw [settled_list, List.map_map]
  rfl

end Value

/-! ## Defaults -/

namespace SchemaType

/-- What fits as it is is kept as it is: the only scalar that a JSON text changes is
not a number. -/
theorem settled_eq_of_fit? {type : SchemaType} {a : Scalar} (h : type.fit? a = some a) :
    a.settled = a := by
  cases a with
  | bool _ | int _ | str _ => rfl
  | float x =>
    cases x with
    | finite _ _ _ | infinite _ => rfl
    | nan _ => cases type <;> exact absurd (hasType_of_fit? h) Bool.false_ne_true

/-- What does not fit does not fit either once it is kept. -/
theorem fit?_settled_eq_none {type : SchemaType} {a : Scalar} (h : type.fit? a = none) :
    type.fit? a.settled = none := by
  cases a with
  | bool _ | int _ | str _ => exact h
  | float x =>
    cases x with
    | finite _ _ _ | infinite _ => exact h
    | nan _ => cases type <;> first | rfl | cases h

end SchemaType

/-- A scalar that a field of a type keeps as its default: not the empty text, and
either fitted to the type already or not to be fitted. -/
structure Scalar.IsKeptDefault (type : FieldType) (a : Scalar) : Prop where
  ne_empty : a ≠ .str ""
  fitted : type.schemaType.fit? a = some a ∨ type.schemaType.fit? a = none

namespace Scalar.IsKeptDefault

variable {type : FieldType} {a : Scalar}

theorem settled (h : a.IsKeptDefault type) : a.settled.IsKeptDefault type where
  ne_empty := by
    intro hempty
    refine h.ne_empty (toValue_inj.1 ?_)
    have hvalue : a.toValue.settled = .str "" := by
      rw [← toValue_settled, hempty]
      rfl
    cases a with
    | str _ => exact hvalue
    | bool _ | int _ | float _ => cases hvalue
  fitted := by
    rcases h.fitted with hfit | hfit
    · rw [SchemaType.settled_eq_of_fit? hfit]
      exact .inl hfit
    · exact .inr (SchemaType.fit?_settled_eq_none hfit)

/-- Keeping a default does not change what it is fitted to. -/
theorem fit?_settled (h : a.IsKeptDefault type) :
    type.schemaType.fit? a.settled = type.schemaType.fit? a := by
  rcases h.fitted with hfit | hfit
  · rw [SchemaType.settled_eq_of_fit? hfit]
  · rw [hfit, SchemaType.fit?_settled_eq_none hfit]

end Scalar.IsKeptDefault

namespace Field

/-- The defaults that a field keeps. -/
theorem keptDefault_eq_self_iff {type : FieldType} {default? : Option Scalar} :
    keptDefault type default? = default? ↔ ∀ a ∈ default?, a.IsKeptDefault type := by
  cases default? with
  | none => simp [keptDefault]
  | some a =>
    simp only [Option.mem_some_iff, forall_eq']
    unfold keptDefault
    dsimp only
    constructor
    · intro h
      split at h
      · cases h
      · rename_i hempty
        refine ⟨hempty, ?_⟩
        cases hfit : type.schemaType.fit? a with
        | none => exact .inr rfl
        | some b =>
          rw [hfit, Option.getD_some, Option.some.injEq] at h
          exact .inl (h ▸ rfl)
    · rintro ⟨hempty, hfit | hfit⟩
      · rw [if_neg hempty, hfit]
        rfl
      · rw [if_neg hempty, hfit]
        rfl

/-! ## Fields in a JSON text -/

/-- A field as a JSON text keeps it. -/
def settled (f : Field) : Field := { f with default? := f.default?.map Scalar.settled }

theorem toValue_settled (f : Field) : f.settled.toValue = f.toValue.settled := by
  have hdefault : ((f.default?.map Scalar.settled).map Scalar.toValue).getD .null
      = ((f.default?.map Scalar.toValue).getD .null).settled := by
    cases f.default? with
    | none => rfl
    | some a => exact a.toValue_settled
  unfold toValue
  rw [Value.settled_object]
  simp only [toMembers, settled, Entries.mapValues, List.map_cons, List.map_nil, hdefault,
    Value.settled_texts, Value.settled_ofText?]
  rfl

theorem Normal.isKeptDefault {f : Field} (h : f.Normal) :
    ∀ a ∈ f.default?, a.IsKeptDefault f.type :=
  keptDefault_eq_self_iff.1 h.default_kept

theorem Normal.settled {f : Field} (h : f.Normal) : f.settled.Normal where
  name_solid := h.name_solid
  name_encodable := h.name_encodable
  options_select := h.options_select
  default_kept := by
    refine keptDefault_eq_self_iff.2 fun a ha => ?_
    obtain ⟨b, hb, rfl⟩ := Option.map_eq_some_iff.1 ha
    exact (h.isKeptDefault b hb).settled

end Field

theorem WellFormedFields.settled {fields : List Field} (h : WellFormedFields fields) :
    WellFormedFields (fields.map Field.settled) where
  normal f hf := by
    obtain ⟨g, hg, rfl⟩ := List.mem_map.1 hf
    exact (h.normal g hg).settled
  names_nodup := by
    rw [List.map_map]
    exact h.names_nodup

/-- A group of fields as a value. -/
def fieldsValue (fields : List Field) : Value := .list (fields.map Field.toValue)

theorem fieldsValue_settled (fields : List Field) :
    fieldsValue (fields.map Field.settled) = (fieldsValue fields).settled := by
  rw [fieldsValue, fieldsValue, Value.settled_list, List.map_map, List.map_map]
  refine congrArg Value.list (List.map_congr_left fun f _ => ?_)
  exact f.toValue_settled

/-- Well-formed fields are read back from what they are stored as. -/
theorem WellFormedFields.readFields_fieldsValue {fields : List Field}
    (h : WellFormedFields fields) : readFields (fieldsValue fields) = .ok fields := by
  refine readFields_eq_ok_iff.2 ⟨Reader.list_eq_ok_iff.2 ⟨_, rfl, ?_⟩, h.names_nodup⟩
  rw [List.map_map]
  exact List.map_congr_left fun f hf => Field.ofValue_toValue (h.normal f hf)

/-! ## Stored fields and groups -/

/-- The members of a stored field, in order. -/
def Field.memberNames : List Text :=
  ["name", "type", "required", "options", "defaultValue", "validation", "placeholder",
    "description"]

/-- The members of the stored object of a field of a type. -/
structure StoredField (type : FieldType) (members : Entries Value) : Prop where
  names : members.keys = Field.memberNames
  name : ∃ name : Text, Value.member members "name" = .str name
    ∧ Text.isBlankText name = false ∧ name.isEncodable
  token : Value.member members "type" = .str type.token
  required : ∃ b, Value.member members "required" = .bool b
  options : ∃ options : List Text, Value.member members "options" = .list (options.map .str)
    ∧ (type ≠ .select → options = [])
  default : Value.member members "defaultValue" = .null
    ∨ ∃ a : Scalar, Value.member members "defaultValue" = a.toValue ∧ a.IsKeptDefault type
  validation : ∃ kind : ValidationKind, Value.member members "validation" = .str kind.token
  placeholder : ∃ t, Value.member members "placeholder" = .ofText? t
  description : ∃ t, Value.member members "description" = .ofText? t

/-- A list of stored fields whose names are different. -/
def StoredGroup (v : Value) : Prop :=
  ∃ fields : List (Entries Value), v = .list (fields.map .object)
    ∧ (∀ members ∈ fields, ∃ type, StoredField type members)
    ∧ (fields.map fun members => Value.member members "name").Nodup

theorem Field.Normal.storedField {f : Field} (h : f.Normal) : StoredField f.type f.toMembers where
  names := rfl
  name := ⟨f.name, rfl, h.name_solid, h.name_encodable⟩
  token := rfl
  required := ⟨f.required, rfl⟩
  options := ⟨f.options, rfl, h.options_select⟩
  default := by
    show (f.default?.map Scalar.toValue).getD .null = .null
      ∨ ∃ a : Scalar, (f.default?.map Scalar.toValue).getD .null = a.toValue ∧ _
    cases hdefault : f.default? with
    | none => exact .inl rfl
    | some a => exact .inr ⟨a, rfl, h.isKeptDefault a hdefault⟩
  validation := ⟨f.validation, rfl⟩
  placeholder := ⟨f.placeholder, rfl⟩
  description := ⟨f.description, rfl⟩

/-- Members with different names are known by their names and what is under them. -/
theorem Value.eq_map_member {members : Entries Value} (h : members.keys.Nodup) :
    members = members.keys.map fun name => (name, member members name) := by
  induction members with
  | nil => rfl
  | cons entry rest ih =>
    obtain ⟨k, v⟩ := entry
    obtain ⟨hk, hrest⟩ := List.nodup_cons.1 h
    have hhead : member ((k, v) :: rest) k = v := by
      unfold member
      rw [Entries.get?_cons, if_pos rfl]
      rfl
    have htail : ∀ name ∈ Entries.keys rest, (name, member rest name)
        = (name, member ((k, v) :: rest) name) := by
      intro name hname
      have hne : k ≠ name := fun heq => hk (heq ▸ hname)
      unfold member
      rw [Entries.get?_cons, if_neg hne]
    show _ = (k, member ((k, v) :: rest) k) :: (Entries.keys rest).map _
    rw [hhead, ← List.map_congr_left htail]
    exact congrArg _ (ih hrest)

/-- A stored field is the stored object of a field in normal form. -/
theorem StoredField.exists_field {type : FieldType} {members : Entries Value}
    (h : StoredField type members) : ∃ f : Field, f.Normal ∧ f.toMembers = members := by
  obtain ⟨name, hname, hsolid, hencodable⟩ := h.name
  obtain ⟨required, hrequired⟩ := h.required
  obtain ⟨options, hoptions, hselect⟩ := h.options
  obtain ⟨kind, hkind⟩ := h.validation
  obtain ⟨placeholder, hplaceholder⟩ := h.placeholder
  obtain ⟨description, hdescription⟩ := h.description
  obtain ⟨default?, hdefault, hkept⟩ : ∃ default? : Option Scalar,
      Value.member members "defaultValue" = (default?.map Scalar.toValue).getD .null
        ∧ ∀ a ∈ default?, a.IsKeptDefault type := by
    rcases h.default with hnull | ⟨a, ha, hkept⟩
    · exact ⟨none, hnull, by simp⟩
    · exact ⟨some a, ha, by simpa using hkept⟩
  let f : Field := ⟨name, type, required, options, default?, kind, placeholder, description⟩
  refine ⟨f, ⟨hsolid, hencodable, hselect, Field.keptDefault_eq_self_iff.2 hkept⟩, ?_⟩
  have hnodup : members.keys.Nodup := by
    rw [h.names]
    decide
  rw [Value.eq_map_member hnodup, h.names]
  simp only [Field.memberNames, List.map_cons, List.map_nil, hname, h.token, hrequired, hoptions,
    hdefault, hkind, hplaceholder, hdescription]
  rfl

/-- A value is a stored group exactly when it is what well-formed fields are stored
as. -/
theorem storedGroup_iff {v : Value} :
    StoredGroup v ↔ ∃ fields, WellFormedFields fields ∧ v = fieldsValue fields := by
  have hname (fields : List Field) :
      (fields.map Field.toMembers).map (fun members => Value.member members "name")
        = (fields.map Field.name).map .str := by
    rw [List.map_map, List.map_map]
    rfl
  constructor
  · rintro ⟨objects, rfl, hstored, hnodup⟩
    have hfields : ∀ members ∈ objects, ∃ f : Field, f.Normal ∧ f.toMembers = members := by
      intro members hmembers
      obtain ⟨type, htype⟩ := hstored members hmembers
      exact htype.exists_field
    obtain ⟨fields, hnormal, rfl⟩ : ∃ fields : List Field,
        (∀ f ∈ fields, f.Normal) ∧ fields.map Field.toMembers = objects := by
      choose! toField hnormal hmembers using hfields
      have hid : objects.map (Field.toMembers ∘ toField) = objects.map id :=
        List.map_congr_left hmembers
      refine ⟨objects.map toField, by simpa using hnormal, ?_⟩
      rw [List.map_map, hid, List.map_id]
    rw [hname] at hnodup
    refine ⟨fields, ⟨hnormal, hnodup.of_map⟩, ?_⟩
    rw [fieldsValue, List.map_map]
    rfl
  · rintro ⟨fields, h, rfl⟩
    refine ⟨fields.map Field.toMembers, ?_, ?_, ?_⟩
    · rw [fieldsValue, List.map_map]
      rfl
    · intro members hmembers
      obtain ⟨f, hf, rfl⟩ := List.mem_map.1 hmembers
      exact ⟨f.type, (h.normal f hf).storedField⟩
    · rw [hname]
      exact h.names_nodup.map fun _ _ => Value.str.inj

/-- A stored group is one still when it is kept in a JSON text. -/
theorem StoredGroup.settled {v : Value} (h : StoredGroup v) : StoredGroup v.settled := by
  obtain ⟨fields, hfields, rfl⟩ := storedGroup_iff.1 h
  exact storedGroup_iff.2 ⟨_, hfields.settled, (fieldsValue_settled fields).symm⟩

end Formulary
