import Formulary.Proofs.Document.Conformance
import Formulary.Proofs.Store.Table
import Formulary.Proofs.Template.Stored

/-!
# Rows written over

A row of either kind is written over by changes that supply values for some of its
attributes.  What is true of both kinds is stated for `Revisable` rows.

* One value.  `Value.written` is what an attribute holds after a value is written over
  another: the old one, where the two are alike.  `Value.afterWrites_eq_last` says when
  the last of many values is the one that is left.
* One row.  `Revisable` says which attributes a change can supply, and that all others
  stay.  Its instances are the rows of both tables.
* Many changes.  `Revisable.value_reviseAll` follows one attribute through all changes of
  a row.
-/

namespace Formulary

/-! ## One value -/

namespace Value

mutual

/-- What has been in a JSON text is left alone by another. -/
theorem settled_settled : (v : Value) → v.settled.settled = v.settled
  | .null | .bool _ | .int _ | .str _ => rfl
  | .float x => by cases x <;> rfl
  | .list items => congrArg list (settledItems_settledItems items)
  | .object members => congrArg object (settledMembers_settledMembers members)

theorem settledItems_settledItems :
    (items : List Value) → settledItems (settledItems items) = settledItems items
  | [] => rfl
  | v :: vs => by
    simp only [settledItems, settled_settled v, settledItems_settledItems vs]

theorem settledMembers_settledMembers : (members : List (Text × Value)) →
    settledMembers (settledMembers members) = settledMembers members
  | [] => rfl
  | (_, v) :: ms => by
    simp only [settledMembers, settled_settled v, settledMembers_settledMembers ms]

end

/-- What is held after a value is written over another: one that is alike is not written
again. -/
def written (old new : Value) : Value := if old.alike new then old else new.settled

/-- What is held after values are written one over the other. -/
def afterWrites (old : Value) (news : List Value) : Value := news.foldl written old

/-- No value is alike to the one that it is written over without being the same. -/
def Decisive : Value → List Value → Prop
  | _, [] => True
  | old, new :: news => (old.alike new → old = new.settled) ∧ Decisive (old.written new) news

instance decidableDecisive : (old : Value) → (news : List Value) → Decidable (Decisive old news)
  | _, [] => .isTrue trivial
  | old, new :: news =>
    have := decidableDecisive (old.written new) news
    inferInstanceAs (Decidable (_ ∧ _))

theorem written_of_decisive {old new : Value} (h : old.alike new → old = new.settled) :
    old.written new = new.settled := by
  unfold written
  split
  · exact h ‹_›
  · rfl

/-- What is held in the end is the last value, if each was told apart from the one
before. -/
theorem afterWrites_eq_last {old : Value} {news : List Value} (h : Decisive old news) :
    old.afterWrites news = (news.getLast?.map settled).getD old := by
  induction news generalizing old with
  | nil => rfl
  | cons new news ih =>
    obtain ⟨hnew, hnews⟩ := h
    rw [List.getLast?_cons]
    show (old.written new).afterWrites news = _
    rw [ih hnews, written_of_decisive hnew]
    cases news.getLast? <;> rfl

theorem settled_written {old new : Value} (h : old.settled = old) :
    (old.written new).settled = old.written new := by
  unfold written
  split
  · exact h
  · exact settled_settled new

/-- A text, or none. -/
def IsText (v : Value) : Prop := v = .null ∨ ∃ s, v = .str s

theorem isText_ofText? (t : Option Text) : IsText (ofText? t) := by
  cases t with
  | none => exact .inl rfl
  | some s => exact .inr ⟨s, rfl⟩

theorem IsText.settled_eq {v : Value} (h : v.IsText) : v.settled = v := by
  rcases h with rfl | ⟨s, rfl⟩ <;> rfl

/-- Texts that are alike are the same. -/
theorem IsText.eq_of_alike {old new : Value} (hold : old.IsText) (hnew : new.IsText)
    (halike : old.alike new) : old = new := by
  rcases hold with rfl | ⟨s, rfl⟩ <;> rcases hnew with rfl | ⟨t, rfl⟩
  · rfl
  · cases halike
  · cases halike
  · have : s = t := by simpa [alike, agree, sameLeaf, countTruth] using halike
    rw [this]

theorem IsText.written_eq {old new : Value} (hold : old.IsText) (hnew : new.IsText) :
    old.written new = new := by
  have hsame (halike : old.alike new) : old = new.settled :=
    (hold.eq_of_alike hnew halike).trans hnew.settled_eq.symm
  rw [written_of_decisive hsame, hnew.settled_eq]

/-- Of texts the last is the one that is left. -/
theorem decisive_of_isText {old : Value} {news : List Value} (hold : old.IsText)
    (hnews : ∀ new ∈ news, new.IsText) : Decisive old news := by
  induction news generalizing old with
  | nil => trivial
  | cons new news ih =>
    obtain ⟨hnew, hnews⟩ := List.forall_mem_cons.1 hnews
    have hsame (halike : old.alike new) : old = new.settled :=
      (hold.eq_of_alike hnew halike).trans hnew.settled_eq.symm
    refine ⟨hsame, ih ?_ hnews⟩
    rw [hold.written_eq hnew]
    exact hnew

end Value

/-! ## One row -/

/-- The value of one attribute among many. -/
def valueOf (attributes : List (Attribute × Value)) (a : Attribute) : Value :=
  Value.member (rowMembers attributes) a.row

/-- Rows that are written over by changes. -/
class Revisable (R : Type) (Δ : outParam Type) [Row R] where
  updatedAt : R → Instant
  /-- The attributes of a row, with their values. -/
  attributes : R → List (Attribute × Value)
  /-- The attributes that a change can supply. -/
  writable : List Attribute
  /-- Those among them that hold a text or none. -/
  texts : List Attribute
  /-- The values that a change supplies, under the names of the row. -/
  supplies : Δ → Entries Value
  /-- The row after a change. -/
  revise : R → Δ → Instant → R
  /-- There are no other attributes. -/
  attributes_fst : ∀ row, (attributes row).map Prod.fst
    = idAttribute :: writable ++ [customerAttribute, createdAttribute, updatedAttribute]
  id_revise : ∀ row change now, Row.id (revise row change now) = Row.id row
  customer_revise : ∀ row change now, Row.customer (revise row change now) = Row.customer row
  createdAt_revise : ∀ row change now, Row.createdAt (revise row change now) = Row.createdAt row
  updatedAt_revise : ∀ row change now, updatedAt (revise row change now) = now
  /-- What is supplied is written over what was held; all else stays. -/
  value_revise : ∀ row change now, ∀ a ∈ writable,
    (valueOf (attributes row) a).settled = valueOf (attributes row) a →
    valueOf (attributes (revise row change now)) a
      = (((supplies change).get? a.row).map (valueOf (attributes row) a).written).getD
        (valueOf (attributes row) a)
  isText_value : ∀ row, ∀ a ∈ texts, (valueOf (attributes row) a).IsText
  isText_supplies : ∀ change, ∀ a ∈ texts, ∀ v ∈ (supplies change).get? a.row, v.IsText

theorem Entries.get?_append {α : Type} (a b : Entries α) (name : Text) :
    get? (a ++ b) name = (get? a name).or (get? b name) := by
  induction a with
  | nil => rfl
  | cons entry rest ih =>
    obtain ⟨k, v⟩ := entry
    rw [List.cons_append, get?_cons, get?_cons, ih]
    split <;> rfl

theorem get?_optionalKey (k name : Text) (v? : Option Value) :
    Entries.get? (optionalKey k v?) name = if k = name then v? else none := by
  cases v? <;> simp [optionalKey]

/-! ## Templates -/

/-- The value that a text is supplied with, if it is supplied. -/
def Supplied.textValue? : Supplied Text → Option Value
  | .absent => none
  | .null => some .null
  | .value s => some (.str s)

namespace TemplateRevision

theorem changes_eq (revision : TemplateRevision) :
    revision.changes
      = optionalKey nameAttribute.row (revision.name.toOption.map .str)
        ++ optionalKey descriptionAttribute.row revision.description.textValue?
        ++ optionalKey connectionAttribute.row revision.connectionId.textValue?
        ++ FieldGroup.all.flatMap fun g =>
          optionalKey g.fields.row ((revision.newFields? g).map fieldsValue) := by
  unfold changes
  refine congrArg₂ (· ++ ·) (congrArg₂ (· ++ ·) (congrArg₂ (· ++ ·) ?_ ?_) ?_) ?_
  · cases revision.name <;> rfl
  · cases revision.description <;> rfl
  · cases revision.connectionId <;> rfl
  · refine congrArg (FieldGroup.all.flatMap ·) (funext fun g => ?_)
    cases revision.newFields? g <;> rfl

theorem get?_changes_name (revision : TemplateRevision) :
    revision.changes.get? nameAttribute.row = revision.name.toOption.map .str := by
  simp +decide [changes_eq, Entries.get?_append, get?_optionalKey, FieldGroup.all]

theorem get?_changes_fields (revision : TemplateRevision) (g : FieldGroup) :
    revision.changes.get? g.fields.row = (revision.newFields? g).map fieldsValue := by
  cases g <;> simp +decide [changes_eq, Entries.get?_append, get?_optionalKey, FieldGroup.all]

theorem get?_changes_description (revision : TemplateRevision) :
    revision.changes.get? descriptionAttribute.row = revision.description.textValue? := by
  simp +decide [changes_eq, Entries.get?_append, get?_optionalKey, FieldGroup.all]

theorem get?_changes_connection (revision : TemplateRevision) :
    revision.changes.get? connectionAttribute.row = revision.connectionId.textValue? := by
  simp +decide [changes_eq, Entries.get?_append, get?_optionalKey, FieldGroup.all]

end TemplateRevision

theorem Supplied.isText_textValue? {a : Supplied Text} {v : Value} (h : v ∈ a.textValue?) :
    v.IsText := by
  cases a with
  | absent => cases h
  | null => exact .inl (Option.some.inj h).symm
  | value s => exact .inr ⟨s, (Option.some.inj h).symm⟩

/-- A text after an update. -/
theorem Supplied.ofText?_update (a : Supplied Text) (old : Option Text) :
    Value.ofText? (a.update old)
      = (a.textValue?.map (Value.ofText? old).written).getD (Value.ofText? old) := by
  cases a with
  | absent => rfl
  | null => exact ((Value.isText_ofText? old).written_eq (.inl rfl)).symm
  | value s => exact ((Value.isText_ofText? old).written_eq (.inr ⟨s, rfl⟩)).symm

/-- A group that is written over and kept in a JSON text. -/
theorem settled_writeOver {old : Value} (new : Value) (h : old.settled = old) :
    (writeOver (fun v => v) old new).settled = old.written new := by
  unfold writeOver Value.written
  split
  · exact h
  · rfl

namespace TemplateRow

/-- The attributes of a template that hold a text or none. -/
def textAttributes : List Attribute := [nameAttribute, descriptionAttribute, connectionAttribute]

theorem valueOf_fields (row : TemplateRow) (g : FieldGroup) :
    valueOf row.attributes g.fields = row.groups.get g := by
  cases g <;> rfl

theorem value_revise (row : TemplateRow) (revision : TemplateRevision) (now : Instant)
    {a : Attribute} (ha : a ∈ textAttributes ++ FieldGroup.all.map FieldGroup.fields)
    (hsettled : (valueOf row.attributes a).settled = valueOf row.attributes a) :
    valueOf (row.revise revision now).attributes a
      = ((revision.changes.get? a.row).map (valueOf row.attributes a).written).getD
        (valueOf row.attributes a) := by
  rcases List.mem_append.1 ha with htext | hgroup
  · simp only [textAttributes, List.mem_cons, List.not_mem_nil, or_false] at htext
    rcases htext with rfl | rfl | rfl
    · rw [revision.get?_changes_name]
      show Value.str (revision.name.toOption.getD row.name) = _
      cases revision.name.toOption with
      | none => rfl
      | some s => exact (Value.IsText.written_eq (.inr ⟨_, rfl⟩) (.inr ⟨s, rfl⟩)).symm
    · rw [revision.get?_changes_description]
      exact revision.description.ofText?_update row.description
    · rw [revision.get?_changes_connection]
      exact revision.connectionId.ofText?_update row.connectionId
  · obtain ⟨g, -, rfl⟩ := List.mem_map.1 hgroup
    rw [revision.get?_changes_fields, valueOf_fields, valueOf_fields, revise, Groups.get_ofFun]
    rw [valueOf_fields] at hsettled
    cases revision.newFields? g with
    | none => rfl
    | some fields => exact settled_writeOver (fieldsValue fields) hsettled

theorem isText_changes {revision : TemplateRevision} {a : Attribute} (ha : a ∈ textAttributes)
    {v : Value} (hv : v ∈ revision.changes.get? a.row) : v.IsText := by
  simp only [textAttributes, List.mem_cons, List.not_mem_nil, or_false] at ha
  rcases ha with rfl | rfl | rfl
  · rw [revision.get?_changes_name] at hv
    obtain ⟨s, -, rfl⟩ := Option.map_eq_some_iff.1 hv
    exact .inr ⟨s, rfl⟩
  · rw [revision.get?_changes_description] at hv
    exact Supplied.isText_textValue? hv
  · rw [revision.get?_changes_connection] at hv
    exact Supplied.isText_textValue? hv

instance : Revisable TemplateRow TemplateRevision where
  updatedAt := TemplateRow.updatedAt
  attributes := TemplateRow.attributes
  writable := textAttributes ++ FieldGroup.all.map FieldGroup.fields
  texts := textAttributes
  supplies := TemplateRevision.changes
  revise := TemplateRow.revise
  attributes_fst _ := rfl
  id_revise _ _ _ := rfl
  customer_revise _ _ _ := rfl
  createdAt_revise _ _ _ := rfl
  updatedAt_revise _ _ _ := rfl
  value_revise row revision now _ ha := row.value_revise revision now ha
  isText_value row a ha := by
    simp only [textAttributes, List.mem_cons, List.not_mem_nil, or_false] at ha
    rcases ha with rfl | rfl | rfl
    · exact .inr ⟨row.name, rfl⟩
    · exact Value.isText_ofText? row.description
    · exact Value.isText_ofText? row.connectionId
  isText_supplies _ _ ha _ hv := isText_changes ha hv

end TemplateRow

/-! ## Documents -/

theorem Variables.toValue_settled (vars : Variables) :
    vars.settled.toValue = vars.toValue.settled := by
  unfold toValue settled Entries.mapValues
  rw [Value.settled_object, Entries.mapValues, List.map_map, List.map_map]
  exact congrArg Value.object (List.map_congr_left fun entry _ =>
    congrArg (entry.1, ·) entry.2.toValue_settled)

theorem Content.variableGroups_settled (content : Content) (g : FieldGroup) :
    content.settled.variableGroups.get g = (content.variableGroups.get g).settled := by
  cases g with
  | object => exact content.objectVariables.toValue_settled
  | contact => exact content.contactVariables.toValue_settled
  | lineItem =>
    show lineItemsValue (content.lineItemVariables.map Variables.settled)
      = (lineItemsValue content.lineItemVariables).settled
    unfold lineItemsValue
    rw [Value.settled_list, List.map_map, List.map_map]
    exact congrArg Value.list (List.map_congr_left fun vars _ => vars.toValue_settled)

namespace ContentChanges

theorem get?_toMembers_name (changes : ContentChanges) :
    changes.toMembers.get? nameAttribute.row = changes.name.map .str := by
  simp +decide [toMembers, Entries.get?_append, get?_optionalKey, FieldGroup.all]

theorem get?_toMembers_templateId (changes : ContentChanges) :
    changes.toMembers.get? Submission.templateAttribute.row = changes.templateId.map .str := by
  simp +decide [toMembers, Entries.get?_append, get?_optionalKey, FieldGroup.all]

theorem get?_toMembers_variables (changes : ContentChanges) (g : FieldGroup) :
    changes.toMembers.get? g.variableGroup.row = changes.variableGroup? g := by
  cases g <;> simp +decide [toMembers, Entries.get?_append, get?_optionalKey, FieldGroup.all]

theorem variableGroups_apply (changes : ContentChanges) (content : Content) (g : FieldGroup) :
    (changes.apply content).variableGroups.get g
      = (changes.variableGroup? g).getD (content.variableGroups.get g) := by
  cases g with
  | object =>
    show (changes.objectVariables.getD _).toValue = (changes.objectVariables.map _).getD _
    cases changes.objectVariables <;> rfl
  | contact =>
    show (changes.contactVariables.getD _).toValue = (changes.contactVariables.map _).getD _
    cases changes.contactVariables <;> rfl
  | lineItem =>
    show lineItemsValue (changes.lineItemVariables.getD _)
      = (changes.lineItemVariables.map _).getD _
    cases changes.lineItemVariables <;> rfl

end ContentChanges

namespace DocumentRow

/-- The attributes of a document that hold a text. -/
def textAttributes : List Attribute := [nameAttribute, Submission.templateAttribute]

theorem valueOf_variables (row : DocumentRow) (g : FieldGroup) :
    valueOf row.attributes g.variableGroup = row.content.variableGroups.get g := by
  cases g <;> rfl

/-- A text after an update. -/
theorem str_getD (new : Option Text) (old : Text) :
    Value.str (new.getD old)
      = ((new.map Value.str).map (Value.str old).written).getD (.str old) := by
  cases new with
  | none => rfl
  | some s => exact (Value.IsText.written_eq (.inr ⟨old, rfl⟩) (.inr ⟨s, rfl⟩)).symm

theorem value_update (row : DocumentRow) (changes : ContentChanges) (now : Instant)
    {a : Attribute} (ha : a ∈ textAttributes ++ FieldGroup.all.map FieldGroup.variableGroup)
    (hsettled : (valueOf row.attributes a).settled = valueOf row.attributes a) :
    valueOf (row.update changes now).attributes a
      = ((changes.toMembers.get? a.row).map (valueOf row.attributes a).written).getD
        (valueOf row.attributes a) := by
  rcases List.mem_append.1 ha with htext | hgroup
  · simp only [textAttributes, List.mem_cons, List.not_mem_nil, or_false] at htext
    rcases htext with rfl | rfl
    · rw [changes.get?_toMembers_name]
      exact str_getD changes.name row.content.name
    · rw [changes.get?_toMembers_templateId]
      exact str_getD changes.templateId row.content.templateId
  · obtain ⟨g, -, rfl⟩ := List.mem_map.1 hgroup
    rw [valueOf_variables] at hsettled
    rw [changes.get?_toMembers_variables, valueOf_variables, valueOf_variables]
    show (writeContent row.content (changes.apply row.content)).variableGroups.get g = _
    rw [variableGroups_writeContent, changes.variableGroups_apply, Content.variableGroups_settled,
      Content.variableGroups_settled, changes.variableGroups_apply, hsettled]
    cases changes.variableGroup? g with
    | none =>
      -- What is not supplied is written over itself.
      rw [Option.getD_none, hsettled, ite_self]
      rfl
    | some new => rfl

instance : Revisable DocumentRow ContentChanges where
  updatedAt := DocumentRow.updatedAt
  attributes := DocumentRow.attributes
  writable := textAttributes ++ FieldGroup.all.map FieldGroup.variableGroup
  texts := textAttributes
  supplies := ContentChanges.toMembers
  revise := DocumentRow.update
  attributes_fst _ := rfl
  id_revise _ _ _ := rfl
  customer_revise _ _ _ := rfl
  createdAt_revise _ _ _ := rfl
  updatedAt_revise _ _ _ := rfl
  value_revise row changes now _ ha := row.value_update changes now ha
  isText_value row a ha := by
    simp only [textAttributes, List.mem_cons, List.not_mem_nil, or_false] at ha
    rcases ha with rfl | rfl
    · exact .inr ⟨row.content.name, rfl⟩
    · exact .inr ⟨row.content.templateId, rfl⟩
  isText_supplies changes a ha v hv := by
    simp only [textAttributes, List.mem_cons, List.not_mem_nil, or_false] at ha
    rcases ha with rfl | rfl
    · rw [changes.get?_toMembers_name] at hv
      obtain ⟨s, -, rfl⟩ := Option.map_eq_some_iff.1 hv
      exact .inr ⟨s, rfl⟩
    · rw [changes.get?_toMembers_templateId] at hv
      obtain ⟨s, -, rfl⟩ := Option.map_eq_some_iff.1 hv
      exact .inr ⟨s, rfl⟩

end DocumentRow

/-! ## Many changes -/

namespace Revisable

variable {R Δ : Type} [Row R] [Revisable R Δ]

/-- What a row holds is as a JSON text keeps it. -/
def Settled (row : R) : Prop :=
  ∀ a ∈ writable R, (valueOf (attributes row) a).settled = valueOf (attributes row) a

/-- The row after changes, each at its time. -/
def reviseAll (row : R) (changes : List (Δ × Instant)) : R :=
  changes.foldl (fun row change => revise row change.1 change.2) row

/-- The values that changes supply for an attribute. -/
def suppliedFor (R : Type) [Row R] [Revisable R Δ] (a : Attribute)
    (changes : List (Δ × Instant)) : List Value :=
  changes.filterMap fun change => (supplies R change.1).get? a.row

theorem Settled.revise {row : R} (h : Settled row) (change : Δ) (now : Instant) :
    Settled (revise row change now) := by
  intro a ha
  rw [value_revise row change now a ha (h a ha)]
  cases (supplies R change).get? a.row with
  | none => exact h a ha
  | some new => exact Value.settled_written (h a ha)

/-- Changes leave the id, the owner and the time of the creation. -/
theorem identity_reviseAll (row : R) (changes : List (Δ × Instant)) :
    Row.id (reviseAll row changes) = Row.id row
      ∧ Row.customer (reviseAll row changes) = Row.customer row
      ∧ Row.createdAt (reviseAll row changes) = Row.createdAt row := by
  induction changes generalizing row with
  | nil => exact ⟨rfl, rfl, rfl⟩
  | cons change changes ih =>
    obtain ⟨hid, hcustomer, htime⟩ := ih (revise row change.1 change.2)
    exact ⟨hid.trans (id_revise ..), hcustomer.trans (customer_revise ..),
      htime.trans (createdAt_revise ..)⟩

/-- The last change is the last update. -/
theorem updatedAt_reviseAll (row : R) (changes : List (Δ × Instant)) :
    updatedAt (reviseAll row changes) = (changes.getLast?.map Prod.snd).getD (updatedAt row) := by
  induction changes generalizing row with
  | nil => rfl
  | cons change changes ih =>
    show updatedAt (reviseAll (revise row change.1 change.2) changes) = _
    rw [ih, updatedAt_revise, List.getLast?_cons]
    cases changes.getLast? <;> rfl

/-- What an attribute holds after all changes is what has been written over it. -/
theorem value_reviseAll {row : R} (h : Settled row) (changes : List (Δ × Instant))
    {a : Attribute} (ha : a ∈ writable R) :
    valueOf (attributes (reviseAll row changes)) a
      = (valueOf (attributes row) a).afterWrites (suppliedFor R a changes) := by
  induction changes generalizing row with
  | nil => rfl
  | cons change changes ih =>
    show valueOf (attributes (reviseAll (revise row change.1 change.2) changes)) a = _
    rw [ih (h.revise change.1 change.2), value_revise row change.1 change.2 a ha (h a ha)]
    unfold suppliedFor
    rw [List.filterMap_cons]
    cases (supplies R change.1).get? a.row <;> rfl

/-- An attribute that holds a text holds the last one that was supplied. -/
theorem decisive_of_mem_texts (row : R) (changes : List (Δ × Instant)) {a : Attribute}
    (ha : a ∈ texts R) : (valueOf (attributes row) a).Decisive (suppliedFor R a changes) := by
  refine Value.decisive_of_isText (isText_value row a ha) fun new hnew => ?_
  obtain ⟨change, -, hsupplies⟩ := List.mem_filterMap.1 hnew
  exact isText_supplies change.1 a ha new hsupplies

end Revisable

theorem TemplateRow.settled_create (draft : TemplateDraft) (id customer : Text) (now : Instant) :
    Revisable.Settled (create draft id customer now) := by
  intro a ha
  rcases List.mem_append.1 ha with htext | hgroup
  · exact (Revisable.isText_value (create draft id customer now) a htext).settled_eq
  · obtain ⟨g, -, rfl⟩ := List.mem_map.1 hgroup
    have hgroup : valueOf (create draft id customer now).attributes g.fields
        = (draft.storedGroups.get g).settled :=
      (valueOf_fields _ g).trans (Groups.get_map ..)
    exact (congrArg Value.settled hgroup).trans
      ((Value.settled_settled _).trans hgroup.symm)

theorem DocumentRow.settled_create (content : Content) (id customer : Text) (now : Instant) :
    Revisable.Settled (create content id customer now) := by
  intro a ha
  rcases List.mem_append.1 ha with htext | hgroup
  · exact (Revisable.isText_value (create content id customer now) a htext).settled_eq
  · obtain ⟨g, -, rfl⟩ := List.mem_map.1 hgroup
    have hgroup : valueOf (create content id customer now).attributes g.variableGroup
        = (content.variableGroups.get g).settled :=
      (valueOf_variables _ g).trans (content.variableGroups_settled g)
    exact (congrArg Value.settled hgroup).trans
      ((Value.settled_settled _).trans hgroup.symm)

end Formulary
