import Formulary.Checked.Reader
import Formulary.Field.Default
import Formulary.Text.Blank

/-!
# Fields

The definition of one field of a template: reading it from a payload, the form
it is kept in, and its stored object.

A field that has been read is in normal form: its name is not blank, options
stand only at a select, and a default that fits the field's type has been
fitted.  A default that does not fit stays as it is.

Main statements: `normal_of_ofValue`, and `ofValue_toValue`, by which a field in
normal form is read back from its stored object unchanged.
-/

namespace Formulary

/-- The definition of a field. -/
structure Field where
  name : Text
  type : FieldType
  required : Bool
  options : List Text
  default? : Option Scalar
  validation : ValidationKind
  placeholder : Option Text
  description : Option Text
deriving DecidableEq, Inhabited

namespace Field

/-! ## Attributes -/

/-- The attribute of the default. -/
def defaultAttribute : Attribute := ⟨"defaultValue", "default_value"⟩

/-- The attributes that count as left out when they are null. -/
def nullableNames : List Text := ["name", "type", "required", "options", "validation"]

/-- A payload without the attributes that are null and count as left out. -/
def dropNulls (members : Entries Value) : Entries Value :=
  members.filter fun (name, v) => !(nullableNames.contains name && v = .null)

/-! ## Normal form -/

/-- A default in the form it is kept in. -/
def keptDefault (type : FieldType) : Option Scalar → Option Scalar
  | none => none
  | some a => if a = .str "" then none else some ((type.schemaType.fit? a).getD a)

/-- A field in the form it is kept in. -/
def normalized (f : Field) : Field :=
  { f with
    options := if f.type = .select then f.options else []
    default? := keptDefault f.type f.default? }

/-- The normal form of fields. -/
structure Normal (f : Field) : Prop where
  name_solid : Text.isBlankText f.name = false
  name_encodable : f.name.isEncodable
  options_select : f.type ≠ .select → f.options = []
  default_kept : keptDefault f.type f.default? = f.default?

/-! ## Reading and storing -/

/-- The attributes of a field, as a payload gives them. -/
def ofMembers (members : Entries Value) : Checked Field :=
  let members := dropNulls members
  Field.mk
    <$> nameAttribute.required Reader.nonEmptyText members
    <*> (Attribute.ofName "type").orDefault .text Reader.fieldType members
    <*> (Attribute.ofName "required").orDefault false Reader.truth members
    <*> (Attribute.ofName "options").orDefault [] (Reader.list Reader.text) members
    <*> defaultAttribute.orDefault none (Reader.nullable Reader.scalar) members
    <*> (Attribute.ofName "validation").orDefault .none Reader.validationKind members
    <*> (Attribute.ofName "placeholder").orDefault none (Reader.nullable Reader.text) members
    <*> descriptionAttribute.orDefault none (Reader.nullable Reader.text) members

/-- A field from a payload, in normal form; a blank name is refused once
everything else has been read. -/
def ofValue : Reader Field := fun v =>
  (Reader.record ofMembers v).andThen fun f =>
    if Text.isBlankText f.name then .fail .blankFieldName v else .ok f.normalized

/-- The stored object of a field. -/
def toMembers (f : Field) : Entries Value := [
  ("name", .str f.name),
  ("type", .str f.type.token),
  ("required", .bool f.required),
  ("options", .list (f.options.map .str)),
  ("defaultValue", (f.default?.map Scalar.toValue).getD .null),
  ("validation", .str f.validation.token),
  ("placeholder", .ofText? f.placeholder),
  ("description", .ofText? f.description)]

/-- The stored object of a field, as a value. -/
def toValue (f : Field) : Value := .object f.toMembers

/-! ## Stored fields -/

theorem dropNulls_toMembers (f : Field) : dropNulls f.toMembers = f.toMembers := by
  simp [dropNulls, toMembers, nullableNames]

theorem ofMembers_toMembers {f : Field} (h : f.name ≠ "") (henc : f.name.isEncodable) :
    ofMembers f.toMembers = .ok f := by
  have hname : nameAttribute.find? f.toMembers = some ⟨"name", .str f.name⟩ := rfl
  have htype : (Attribute.ofName "type").find? f.toMembers = some ⟨"type", .str f.type.token⟩ := rfl
  have hrequired : (Attribute.ofName "required").find? f.toMembers
      = some ⟨"required", .bool f.required⟩ := rfl
  have hoptions : (Attribute.ofName "options").find? f.toMembers
      = some ⟨"options", .list (f.options.map .str)⟩ := rfl
  have hdefault : defaultAttribute.find? f.toMembers
      = some ⟨"defaultValue", (f.default?.map Scalar.toValue).getD .null⟩ := rfl
  have hvalidation : (Attribute.ofName "validation").find? f.toMembers
      = some ⟨"validation", .str f.validation.token⟩ := rfl
  have hplaceholder : (Attribute.ofName "placeholder").find? f.toMembers
      = some ⟨"placeholder", .ofText? f.placeholder⟩ := rfl
  have hdescription : descriptionAttribute.find? f.toMembers
      = some ⟨"description", .ofText? f.description⟩ := rfl
  have htexts : Reader.list Reader.text (.list (f.options.map .str)) = .ok f.options :=
    Reader.list_toValue (fun s => (rfl : Reader.text (.str s) = .ok s)) _
  simp [ofMembers, dropNulls_toMembers, Attribute.required, Attribute.orDefault, hname, htype,
    hrequired, hoptions, hdefault, hvalidation, hplaceholder, hdescription, Reader.nonEmptyText, h,
    henc, Reader.fieldType, Reader.truth, htexts, Reader.validationKind, Reader.nullable_text,
    Reader.nullable_scalar]

/-- What is read as a field is read attribute by attribute. -/
theorem attributes_of_ofMembers {members : Entries Value} {f : Field}
    (h : ofMembers members = .ok f) :
    nameAttribute.required Reader.nonEmptyText (dropNulls members) = .ok f.name
      ∧ (Attribute.ofName "type").orDefault .text Reader.fieldType (dropNulls members) = .ok f.type
      ∧ (Attribute.ofName "required").orDefault false Reader.truth (dropNulls members)
        = .ok f.required
      ∧ (Attribute.ofName "options").orDefault [] (Reader.list Reader.text) (dropNulls members)
        = .ok f.options
      ∧ defaultAttribute.orDefault none (Reader.nullable Reader.scalar) (dropNulls members)
        = .ok f.default?
      ∧ (Attribute.ofName "validation").orDefault .none Reader.validationKind (dropNulls members)
        = .ok f.validation
      ∧ (Attribute.ofName "placeholder").orDefault none (Reader.nullable Reader.text)
        (dropNulls members) = .ok f.placeholder
      ∧ descriptionAttribute.orDefault none (Reader.nullable Reader.text) (dropNulls members)
        = .ok f.description := by
  simp only [ofMembers, Checked.seq_eq_ok_iff, Checked.map_eq_ok_iff] at h
  obtain ⟨_, description, ⟨_, placeholder, ⟨_, validation, ⟨_, default?, ⟨_, options,
    ⟨_, required, ⟨_, type, ⟨name, hname, rfl⟩, htype, rfl⟩, hrequired, rfl⟩, hoptions, rfl⟩,
    hdefault, rfl⟩, hvalidation, rfl⟩, hplaceholder, rfl⟩, hdescription, rfl⟩ := h
  exact ⟨hname, htype, hrequired, hoptions, hdefault, hvalidation, hplaceholder, hdescription⟩

/-- The name of whatever is read has a UTF-8 form. -/
theorem isEncodable_name_of_ofMembers {members : Entries Value} {f : Field}
    (h : ofMembers members = .ok f) : f.name.isEncodable := by
  have hname := (attributes_of_ofMembers h).1
  unfold Attribute.required at hname
  split at hname
  · exact (Reader.nonEmptyText_eq_ok_iff.1 (Checked.within_eq_ok_iff.1 hname)).2.2
  · simp at hname

theorem keptDefault_keptDefault (type : FieldType) (a : Option Scalar) :
    keptDefault type (keptDefault type a) = keptDefault type a := by
  match a with
  | none => rfl
  | some a =>
    by_cases hempty : a = .str ""
    · subst hempty
      rfl
    · have kept (b : Scalar) (hb : b ≠ .str "") :
          keptDefault type (some b) = some ((type.schemaType.fit? b).getD b) := by
        unfold keptDefault
        split <;> simp_all
      rw [kept a hempty]
      cases hfit : type.schemaType.fit? a with
      | none => simp [kept a hempty, hfit]
      | some b =>
        have hb : b ≠ .str "" := fun h => hempty (SchemaType.eq_empty_of_fit? (h ▸ hfit))
        simp [kept b hb, SchemaType.fit?_fit? hfit]

theorem Normal.normalized_eq {f : Field} (h : f.Normal) : f.normalized = f := by
  have hoptions : (if f.type = .select then f.options else []) = f.options := by
    split
    · rfl
    · exact (h.options_select ‹_›).symm
  simp [normalized, hoptions, h.default_kept]

/-- A field in normal form is read back from its stored object. -/
theorem ofValue_toValue {f : Field} (h : f.Normal) : ofValue f.toValue = .ok f := by
  have hne : f.name ≠ "" := by
    intro hname
    simpa [hname, Text.isBlankText] using h.name_solid
  simp [ofValue, toValue, Reader.record, ofMembers_toMembers hne h.name_encodable, h.name_solid,
    h.normalized_eq]

/-- Whatever is read as a field is in normal form. -/
theorem normal_of_ofValue {v : Value} {f : Field} (h : ofValue v = .ok f) : f.Normal := by
  unfold ofValue at h
  cases hread : Reader.record ofMembers v with
  | error issues => simp [hread] at h
  | ok g =>
    rw [hread, Checked.andThen_ok] at h
    split at h
    · simp [Checked.fail] at h
    · rename_i hname
      injection h with h
      subst h
      exact {
        name_solid := by simpa [normalized] using hname
        name_encodable := by
          cases v with
          | object members =>
            have henc : g.name.isEncodable := isEncodable_name_of_ofMembers hread
            exact henc
          | _ => simp [Reader.record, Checked.fail] at hread
        options_select := by
          intro hselect
          simp only [normalized] at hselect ⊢
          simp [hselect]
        default_kept := keptDefault_keptDefault _ _ }

end Field

end Formulary
