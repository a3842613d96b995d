import Formulary.Document.Preparation
import Formulary.Proofs.Schema.Compile

/-!
# What is reported about variables

The check of a document's variables goes through a schema.  What it reports can
also be read off the definitions of the fields: `Field.violations` has the rules
for one value and `TemplateDraft.complaints` the order in which a whole document
is gone through.  `objectComplaints_view` says that the two are the same.

* `violations_property` compares the rules for one value.
* `groupComplaints_fields` compares what is reported about one group.
-/

namespace Formulary

/-! ## By definition -/

/-- A value is of the type that a field is declared with. -/
def FieldType.takes : FieldType → Value → Bool
  | .number, .int _ | .number, .float _ => true
  | .checkbox, .bool _ => true
  | .text, .str _ | .textarea, .str _ | .date, .str _ | .select, .str _ => true
  | _, _ => false

/-- What a value violates of the definition of its field, in order. -/
def Field.violations (askNonEmpty : AskNonEmpty) (f : Field) (v : Value) :
    List ViolationCause :=
  (if f.type.takes v then [] else [.wrongType v f.type.schemaType])
    ++ (if f.type = .select ∧ f.options ≠ [] ∧ ∀ o ∈ f.options, v ≠ .str o then
      [.notAnOption v (f.options.map .str)] else [])
    ++ (match f.validation, v with
      | .date, .str s => if s.string?.any Text.isDateTime then [] else [.wrongFormat v .dateTime]
      | .email, .str s => if .char '@' ∈ s.points then [] else [.wrongFormat v .email]
      | .url, .str s => if s.string?.any Text.isUri then [] else [.wrongFormat v .uri]
      | _, _ => [])
    ++ (if askNonEmpty ∧ f.required ∧ f.type ≠ .number ∧ f.type ≠ .checkbox ∧ v = .str "" then
      [.empty v] else [])

/-- What is reported about one group of variables below a path: the violations of
the fields that are given, then the required fields that are not. -/
def fieldComplaints (askNonEmpty : AskNonEmpty) (fields : List Field) (path : Text)
    (members : Entries Value) : List Complaint :=
  (fields.flatMap fun f =>
    match members.get? f.name with
    | some v =>
      (f.violations askNonEmpty v).map fun cause => ⟨path ++ "." ++ f.name, .violated cause⟩
    | none => [])
  ++ (fields.filter fun f => f.required && !members.has f.name).map fun f =>
    ⟨path, .violated (.missing f.name)⟩

/-- The members of a group of variables; null has none. -/
def Value.groupMembers (v : Value) : Entries Value := v.members?.getD []

/-- The line items in a value, each with its members; null has none. -/
def Value.lineItems : Value → List (Entries Value)
  | .list items => items.map groupMembers
  | _ => []

/-- What is reported about variables, in order. -/
def TemplateDraft.complaints (askNonEmpty : AskNonEmpty) (draft : TemplateDraft)
    (vars : Entries Value) : List Complaint :=
  fieldComplaints askNonEmpty draft.groups.object "objectVariables"
      (Value.member vars "object_variables").groupMembers
    ++ fieldComplaints askNonEmpty draft.groups.contact "contactVariables"
      (Value.member vars "contact_variables").groupMembers
    ++ ((Value.member vars "line_item_variables").lineItems.mapIdx fun i item =>
      fieldComplaints askNonEmpty draft.groups.lineItem
        ("lineItemVariables" ++ "." ++ toString i) item).flatten

/-- The groups of variables are objects and the line items a list of objects, where
they are neither null nor left out. -/
structure WellShaped (vars : Entries Value) : Prop where
  object : Value.member vars "object_variables" = .null
    ∨ ∃ members, Value.member vars "object_variables" = .object members
  contact : Value.member vars "contact_variables" = .null
    ∨ ∃ members, Value.member vars "contact_variables" = .object members
  lineItem : Value.member vars "line_item_variables" = .null
    ∨ ∃ items : List (Entries Value),
      Value.member vars "line_item_variables" = .list (items.map .object)

/-! ## One value -/

theorem isOfType_schemaType (type : FieldType) (v : Value) :
    v.isOfType type.schemaType = type.takes v := by
  cases type <;> cases v <;> rfl

/-- Only a text means the same as a text. -/
theorem same_str {s : Text} {v : Value} : (Value.str s).same v = true ↔ v = .str s := by
  cases v with
  | str t =>
    show (s == t) = true ↔ Value.str t = .str s
    rw [beq_iff_eq, Value.str.injEq]
    exact eq_comm
  | null | bool _ | int _ | float _ | list _ | object _ =>
    simp [Value.same, Value.agree, Value.sameLeaf]

theorem optionViolations_property {f : Field} (h : f.Normal) (askNonEmpty : AskNonEmpty)
    (v : Value) :
    (f.property askNonEmpty).optionViolations v
      = if f.type = .select ∧ f.options ≠ [] ∧ ∀ o ∈ f.options, v ≠ .str o then
          [.notAnOption v (f.options.map .str)]
        else [] := by
  unfold PropertySchema.optionViolations Field.property
  dsimp only
  by_cases hnil : f.options = []
  · rw [if_pos hnil, if_neg fun hselect => hselect.2.1 hnil]
  · have hselect : f.type = .select := by
      by_contra hne
      exact hnil (h.options_select hne)
    rw [if_neg hnil]
    dsimp only
    by_cases hmem : ∃ o ∈ f.options, v = .str o
    · obtain ⟨o, ho, hv⟩ := hmem
      rw [if_pos, if_neg fun hnone => hnone.2.2 o ho hv]
      exact List.any_eq_true.2 ⟨.str o, List.mem_map_of_mem ho, same_str.2 hv⟩
    · rw [if_neg, if_pos ⟨hselect, hnil, fun o ho hv => hmem ⟨o, ho, hv⟩⟩]
      intro hany
      obtain ⟨_, hoption, hsame⟩ := List.any_eq_true.1 hany
      obtain ⟨o, ho, rfl⟩ := List.mem_map.1 hoption
      exact hmem ⟨o, ho, same_str.1 hsame⟩

theorem formatViolations_property (f : Field) (askNonEmpty : AskNonEmpty) (v : Value) :
    (f.property askNonEmpty).formatViolations v
      = match f.validation, v with
        | .date, .str s => if s.string?.any Text.isDateTime then [] else [.wrongFormat v .dateTime]
        | .email, .str s => if .char '@' ∈ s.points then [] else [.wrongFormat v .email]
        | .url, .str s => if s.string?.any Text.isUri then [] else [.wrongFormat v .uri]
        | _, _ => [] := by
  unfold PropertySchema.formatViolations Field.property
  dsimp only
  cases v with
  | str s =>
    cases f.validation with
    | email =>
      simp only [ValidationKind.format?, Format.holds, List.contains_iff_mem]
    | none | phone | date | number | url => rfl
  | null | bool _ | int _ | float _ | list _ | object _ => cases f.validation <;> rfl

theorem lengthViolations_property (f : Field) (askNonEmpty : AskNonEmpty) (v : Value) :
    (f.property askNonEmpty).lengthViolations v
      = if askNonEmpty ∧ f.required ∧ f.type ≠ .number ∧ f.type ≠ .checkbox ∧ v = .str "" then
          [.empty v]
        else [] := by
  have htype : f.type.schemaType = .string ↔ f.type ≠ .number ∧ f.type ≠ .checkbox := by
    cases f.type <;> decide
  unfold PropertySchema.lengthViolations Field.property
  refine if_congr ?_ rfl rfl
  simp only [Bool.and_eq_true, decide_eq_true_eq, htype]
  tauto

/-- A value violates of the schema of a field what it violates of the definition. -/
theorem violations_property {f : Field} (h : f.Normal) (askNonEmpty : AskNonEmpty) (v : Value) :
    (f.property askNonEmpty).violations v = f.violations askNonEmpty v := by
  have htype : (f.property askNonEmpty).typeViolations v
      = if f.type.takes v then [] else [.wrongType v f.type.schemaType] := by
    rw [← isOfType_schemaType]
    rfl
  unfold PropertySchema.violations Field.violations
  rw [htype, optionViolations_property h, formatViolations_property, lengthViolations_property]

/-! ## Groups and documents -/

/-- What is reported about a group through its schema is what is reported about it by
the definitions of its fields. -/
theorem groupComplaints_fields {fields : List Field} (h : WellFormedFields fields)
    (askNonEmpty : AskNonEmpty) (title : Value) (path : Text) (members : Entries Value) :
    groupComplaints path (.ofFields askNonEmpty title fields) (.object members)
      = fieldComplaints askNonEmpty fields path members := by
  unfold groupComplaints GroupSchema.violations GroupSchema.ofFields fieldComplaints
  rw [List.map_append]
  congr 1
  · unfold GroupSchema.propertyViolations
    rw [List.flatMap_map, List.map_flatMap, List.flatMap_def, List.flatMap_def]
    refine congrArg List.flatten (List.map_congr_left fun f hf => ?_)
    dsimp only
    cases members.get? f.name with
    | none => rfl
    | some v =>
      dsimp only
      rw [violations_property (h.normal f hf), List.map_map]
      rfl
  · unfold GroupSchema.missingViolations
    rw [List.filter_map, List.map_map, List.map_map, List.filter_filter]
    refine congrArg (List.map _) (List.filter_congr fun f _ => ?_)
    exact Bool.and_comm ..

theorem orElse_groupMembers {v : Value} (h : v = .null ∨ ∃ members, v = .object members) :
    v.orElse (.object []) = .object v.groupMembers := by
  rcases h with rfl | ⟨members, rfl⟩
  · rfl
  · exact Value.orElse_object members

theorem items_lineItems {v : Value}
    (h : v = .null ∨ ∃ items : List (Entries Value), v = .list (items.map .object)) :
    (v.orElse (.list [])).items = .ok (v.lineItems.map .object) := by
  rcases h with rfl | ⟨items, rfl⟩
  · rfl
  · have hmembers : (items.map Value.object).map Value.groupMembers = items := by
      rw [List.map_map]
      exact List.map_id items
    rw [Value.orElse_list, Value.lineItems, hmembers]
    rfl

/-- Checking the variables of a document against a template that was accepted reports
exactly what the definitions of the fields say is violated, in their order. -/
theorem objectComplaints_view {payload : Value} {draft : TemplateDraft}
    (h : TemplateDraft.ofValue payload = .ok draft) (askNonEmpty : AskNonEmpty)
    {vars : Entries Value} (hvars : WellShaped vars) :
    (objectComplaints askNonEmpty draft.view (.object vars)).result
      = .ok (draft.complaints askNonEmpty vars) := by
  have hfields := TemplateDraft.wellFormed_of_ofValue h
  have hitems := items_lineItems hvars.lineItem
  unfold objectComplaints
  rw [Outcome.result_bind_eq_ok_iff]
  refine ⟨_, Schema.compile_view h askNonEmpty, ?_⟩
  show Schema.complaints _ _ = _
  simp only [Schema.complaints, Groups.ofFun, Groups.get, FieldGroup.variableGroup,
    TemplateDraft.schema, hitems, orElse_groupMembers hvars.object,
    orElse_groupMembers hvars.contact, bind, Except.bind, pure, Except.pure]
  have hobject : WellFormedFields draft.groups.object := hfields .object
  have hcontact : WellFormedFields draft.groups.contact := hfields .contact
  have hlineItem : WellFormedFields draft.groups.lineItem := hfields .lineItem
  rw [groupComplaints_fields hobject, groupComplaints_fields hcontact]
  unfold TemplateDraft.complaints
  congr 3
  rw [List.mapIdx_eq_iff]
  intro i
  rw [List.getElem?_mapIdx, List.getElem?_map, Option.map_map]
  refine congrFun (congrArg Option.map (funext fun item => ?_)) _
  exact (groupComplaints_fields hlineItem ..).symm

/-- A truth value for a number, a number for an option, an empty text and a missing
one, and an address without an at sign in the second line item. -/
theorem objectComplaints_view_several :
    let payload : Value := .object [("name", .str "Offer"),
      ("objectFields", .list [
        .object [("name", .str "sum"), ("type", .str "number")],
        .object [("name", .str "kind"), ("type", .str "select"), ("options", .list [.str "a"])],
        .object [("name", .str "title"), ("required", .bool true)],
        .object [("name", .str "note"), ("required", .bool true)]]),
      ("lineItemFields", .list [.object [("name", .str "mail"), ("validation", .str "email")]])]
    let vars : Entries Value := [
      ("object_variables", .object [("kind", .int 1), ("sum", .bool true), ("title", .str "")]),
      ("line_item_variables", .list [.object [], .object [("mail", .str "x")]])]
    let draft : TemplateDraft := ⟨"Offer", some "", none, {
      object := [⟨"sum", .number, false, [], none, .none, none, none⟩,
        ⟨"kind", .select, false, ["a"], none, .none, none, none⟩,
        ⟨"title", .text, true, [], none, .none, none, none⟩,
        ⟨"note", .text, true, [], none, .none, none, none⟩]
      contact := []
      lineItem := [⟨"mail", .text, false, [], none, .email, none, none⟩] }⟩
    TemplateDraft.ofValue payload = .ok draft ∧ WellShaped vars
      ∧ (objectComplaints true draft.view (.object vars)).result = .ok (draft.complaints true vars)
      ∧ (draft.complaints true vars).map Complaint.field
        = ["objectVariables.sum", "objectVariables.kind", "objectVariables.kind",
          "objectVariables.title", "objectVariables", "lineItemVariables.1.mail"].map
            Text.ofString := by
  intro payload vars draft
  have h : TemplateDraft.ofValue payload = .ok draft := by rfl
  have hvars : WellShaped vars := {
    object := .inr ⟨_, rfl⟩
    contact := .inl rfl
    lineItem := .inr ⟨[[], [("mail", .str "x")]], rfl⟩ }
  exact ⟨h, hvars, objectComplaints_view h true hvars, by decide +kernel⟩

end Formulary
