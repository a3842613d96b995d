import Formulary.Proofs.Document.Preparation
import Formulary.Proofs.Schema.Compile
import Formulary.Proofs.Schema.Violations

/-!
# Variables that conform to a template

What it means for the variables of a document to match its template, group by
group, and what becomes of a match when a document is written over another.

* `templateComplaints_eq_nil_iff` takes the check of a document apart into checks
  of its groups.
* `admits_settled` says that variables which match still match once they are kept
  in a JSON text.
* `Conforms.writeContent_iff` says when a content written over another matches,
  given that the new one does: each group that the store does not write again,
  since it is alike, has to match as it was.
-/

namespace Formulary

/-- Variables of a group that violate nothing of the group's schema; line items are
looked at one by one. -/
def GroupSchema.Admits (schema : GroupSchema) (v : Value) : FieldGroup → Prop
  | .lineItem => ∃ items, (v.orElse (.list [])).items = .ok items
      ∧ ∀ item ∈ items, schema.violations item = []
  | _ => schema.violations (v.orElse (.object [])) = []

/-- Variables of a group match a template. -/
def TemplateView.Admits (askNonEmpty : AskNonEmpty) (view : TemplateView) (g : FieldGroup)
    (v : Value) : Prop :=
  ∃ schema, (Schema.compileGroup askNonEmpty view g).result = .ok schema ∧ schema.Admits v g

/-- The variables of a document match a template: checking them gives no
complaint. -/
def Content.Conforms (askNonEmpty : AskNonEmpty) (view : TemplateView) (content : Content) :
    Prop :=
  (templateComplaints askNonEmpty view content.variableGroups).result = .ok []

/-! ## Group by group -/

theorem groupComplaints_eq_nil_iff {path : Text} {schema : GroupSchema} {v : Value} :
    groupComplaints path schema v = [] ↔ schema.violations v = [] :=
  List.map_eq_nil_iff

theorem flatten_mapIdx_eq_nil_iff {α β : Type} {f : Nat → α → List β} {l : List α} :
    (l.mapIdx f).flatten = [] ↔ ∀ i a, l[i]? = some a → f i a = [] := by
  rw [List.flatten_eq_nil_iff]
  constructor
  · intro h i a ha
    refine h (f i a) (List.mem_iff_getElem?.2 ⟨i, ?_⟩)
    rw [List.getElem?_mapIdx, ha]
    rfl
  · intro h b hb
    obtain ⟨i, hi⟩ := List.mem_iff_getElem?.1 hb
    rw [List.getElem?_mapIdx] at hi
    obtain ⟨a, ha, rfl⟩ := Option.map_eq_some_iff.1 hi
    exact h i a ha

theorem complaints_eq_nil_iff {schema : Schema} {vars : Groups Value} :
    schema.complaints vars = .ok [] ↔ ∀ g, (schema.groups.get g).Admits (vars.get g) g := by
  rw [FieldGroup.forall_iff]
  unfold Schema.complaints GroupSchema.Admits
  dsimp only [Groups.get]
  cases (vars.lineItem.orElse (.list [])).items with
  | error fault => simp [bind, Except.bind]
  | ok items =>
    simp only [bind, Except.bind, pure, Except.pure, Except.ok.injEq, List.append_eq_nil_iff,
      groupComplaints_eq_nil_iff, exists_eq_left', flatten_mapIdx_eq_nil_iff, and_assoc]
    refine and_congr_right' (and_congr_right' ?_)
    constructor
    · intro h item hitem
      obtain ⟨i, hi⟩ := List.mem_iff_getElem?.1 hitem
      exact h i item hi
    · intro h i item hi
      exact h item (List.mem_of_getElem? hi)

/-- Variables get no complaint exactly when each group of them matches. -/
theorem templateComplaints_eq_nil_iff {askNonEmpty : AskNonEmpty} {view : TemplateView}
    {vars : Groups Value} :
    (templateComplaints askNonEmpty view vars).result = .ok []
      ↔ ∀ g, view.Admits askNonEmpty g (vars.get g) := by
  unfold templateComplaints
  simp only [Outcome.result_bind_eq_ok_iff, Outcome.result_ofExcept, complaints_eq_nil_iff]
  constructor
  · rintro ⟨schema, hschema, hadmits⟩ g
    exact ⟨_, (Schema.compile_eq_ok_iff.1 hschema).1 g, hadmits g⟩
  · intro h
    obtain ⟨⟨object, hobject, hobjectVars⟩, ⟨contact, hcontact, hcontactVars⟩,
      lineItem, hlineItem, hlineItemVars⟩ := FieldGroup.forall_iff.1 h
    exact ⟨⟨_, _, ⟨object, contact, lineItem⟩⟩,
      Schema.compile_eq_ok_iff.2 ⟨FieldGroup.forall_iff.2 ⟨hobject, hcontact, hlineItem⟩, rfl, rfl⟩,
      FieldGroup.forall_iff.2 ⟨hobjectVars, hcontactVars, hlineItemVars⟩⟩

/-! ## Kept and written over -/

theorem admits_lineItems_iff {schema : GroupSchema} {items : List Variables} :
    schema.Admits (lineItemsValue items) .lineItem
      ↔ ∀ vars ∈ items, schema.violations vars.toValue = [] := by
  unfold GroupSchema.Admits lineItemsValue
  rw [Value.orElse_list]
  simp [Value.items, Value.items?]

/-- Variables that match a schema match it once they are kept. -/
theorem GroupSchema.admits_settled {schema : GroupSchema} {content : Content} {g : FieldGroup}
    (h : schema.Admits (content.variableGroups.get g) g) :
    schema.Admits (content.settled.variableGroups.get g) g := by
  cases g with
  | object =>
    simp only [Admits, Content.variableGroups, Groups.get, Variables.toValue, Value.orElse_object] at h ⊢
    exact violations_settled h
  | contact =>
    simp only [Admits, Content.variableGroups, Groups.get, Variables.toValue, Value.orElse_object] at h ⊢
    exact violations_settled h
  | lineItem =>
    have hitems := admits_lineItems_iff.1 h
    refine admits_lineItems_iff.2 fun vars hvars => ?_
    obtain ⟨old, hold, rfl⟩ := List.mem_map.1 hvars
    exact violations_settled (hitems old hold)

theorem TemplateView.admits_settled {askNonEmpty : AskNonEmpty} {view : TemplateView}
    {content : Content} {g : FieldGroup}
    (h : view.Admits askNonEmpty g (content.variableGroups.get g)) :
    view.Admits askNonEmpty g (content.settled.variableGroups.get g) := by
  obtain ⟨schema, hschema, hadmits⟩ := h
  exact ⟨schema, hschema, GroupSchema.admits_settled hadmits⟩

/-- A group that is alike is kept, any other is written. -/
theorem variableGroups_writeContent (old new : Content) (g : FieldGroup) :
    (DocumentRow.writeContent old new).variableGroups.get g =
      if (old.variableGroups.get g).alike (new.variableGroups.get g) then
        old.settled.variableGroups.get g
      else new.settled.variableGroups.get g := by
  unfold DocumentRow.writeContent writeOver
  cases g with
  | object => exact apply_ite (fun vars : Variables => vars.settled.toValue) _ _ _
  | contact => exact apply_ite (fun vars : Variables => vars.settled.toValue) _ _ _
  | lineItem =>
    exact apply_ite (fun items : List Variables => lineItemsValue (items.map Variables.settled)) _ _ _

theorem Content.conforms_iff {askNonEmpty : AskNonEmpty} {view : TemplateView}
    {content : Content} : content.Conforms askNonEmpty view
      ↔ ∀ g, view.Admits askNonEmpty g (content.variableGroups.get g) :=
  templateComplaints_eq_nil_iff

/-- A content that matches still does once it is kept. -/
theorem Content.Conforms.settled {askNonEmpty : AskNonEmpty} {view : TemplateView}
    {content : Content} (h : content.Conforms askNonEmpty view) :
    content.settled.Conforms askNonEmpty view :=
  conforms_iff.2 fun g => TemplateView.admits_settled (conforms_iff.1 h g)

/-- A content that matches, written over another, matches exactly when each group
that is kept since it is alike does. -/
theorem Content.Conforms.writeContent_iff {askNonEmpty : AskNonEmpty} {view : TemplateView}
    {new : Content} (h : new.Conforms askNonEmpty view) (old : Content) :
    (DocumentRow.writeContent old new).Conforms askNonEmpty view
      ↔ ∀ g, (old.variableGroups.get g).alike (new.variableGroups.get g) = true →
        view.Admits askNonEmpty g (old.settled.variableGroups.get g) := by
  rw [conforms_iff]
  refine forall_congr' fun g => ?_
  rw [variableGroups_writeContent]
  by_cases halike : (old.variableGroups.get g).alike (new.variableGroups.get g) = true
  · rw [if_pos halike]
    simp [halike]
  · rw [if_neg halike]
    have hnew := TemplateView.admits_settled (conforms_iff.1 h g)
    simp [halike, hnew]

end Formulary
