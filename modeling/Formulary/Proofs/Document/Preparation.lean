import Formulary.Store.Row

/-!
# What preparation asks for

A new document and an update are prepared in two ways that have to come to the
same thing: to change a document is to submit it again with the changes in it.
`Submission.onto` is that submission.

There are four groups.

* Merging.  `emptied_eq_missing` and `apply_changes` compare an update of a content
  with the merged submission.
* The strict check.  `requireMatch_eq_ok_iff` says when it passes.
* Preparation.  `prepare_eq_ok_iff` and `prepareUpdate_eq_ok_iff` say when there is
  a content or a change, and which; both ask one check of one content.
* Agreement.  `prepareUpdate_agrees_prepare` is the comparison.
-/

namespace Formulary

/-! ## Merging -/

/-- An attribute as it is supplied, or with the value that it has when it is left
out. -/
def Supplied.onto {α : Type} (old : α) : Supplied α → Supplied α
  | .absent => .value old
  | given => given

namespace Submission

/-- A content submitted again, with every attribute that an update supplies as the
update supplies it. -/
def onto (u : Submission) (old : Content) : Submission where
  name := u.name.onto old.name
  templateId := u.templateId.onto old.templateId
  objectVariables := u.objectVariables.onto old.objectVariables
  contactVariables := u.contactVariables.onto old.contactVariables
  lineItemVariables := u.lineItemVariables.onto old.lineItemVariables

/-- The names in a row of the attributes that a submission supplies, in order. -/
def suppliedNames (u : Submission) : List Text :=
  (if u.name.isSupplied then [Text.ofString nameAttribute.row] else [])
    ++ (if u.templateId.isSupplied then [Text.ofString templateAttribute.row] else [])
    ++ (if u.objectVariables.isSupplied then [Text.ofString FieldGroup.object.variableGroup.row]
      else [])
    ++ (if u.contactVariables.isSupplied then [Text.ofString FieldGroup.contact.variableGroup.row]
      else [])
    ++ (if u.lineItemVariables.isSupplied then
      [Text.ofString FieldGroup.lineItem.variableGroup.row] else [])

/-- A text over one that is not blank is missing exactly when it is supplied and
has nothing solid. -/
theorem solid?_onto_isNone {old : Text} (h : Text.isBlankText old = false) (a : Supplied Text) :
    (solid? (a.onto old)).isNone = (a.isSupplied && (solid? a).isNone) := by
  cases a with
  | absent => simp [Supplied.onto, Supplied.isSupplied, solid?, Supplied.toOption, h]
  | null => rfl
  | value s => simp [Supplied.onto, Supplied.isSupplied]

/-- What an update would blank is what the merged submission has not. -/
theorem emptied_eq_missing {u : Submission} {old : Content}
    (hname : Text.isBlankText old.name = false)
    (htemplate : Text.isBlankText old.templateId = false) : u.emptied = (u.onto old).missing := by
  unfold emptied missing onto
  rw [solid?_onto_isNone hname, solid?_onto_isNone htemplate]

/-- A text that an update supplies and does not blank has a value. -/
theorem exists_value_of_solid {a : Supplied Text}
    (h : ¬ (a.isSupplied && (solid? a).isNone) = true) : a = .absent ∨ ∃ s, a = .value s := by
  cases a with
  | absent => exact .inl rfl
  | null => exact absurd rfl h
  | value s => exact .inr ⟨s, rfl⟩

theorem name_of_emptied_eq_nil {u : Submission} (h : u.emptied = []) :
    u.name = .absent ∨ ∃ s, u.name = .value s := by
  refine exists_value_of_solid fun hname => ?_
  simp [emptied, hname] at h

theorem templateId_of_emptied_eq_nil {u : Submission} (h : u.emptied = []) :
    u.templateId = .absent ∨ ∃ s, u.templateId = .value s := by
  refine exists_value_of_solid fun htemplate => ?_
  simp [emptied, htemplate] at h

theorem getD_change? {α : Type} (a : Supplied α) (empty old : α) :
    (a.change? empty).getD old = (a.onto old).getD empty := by
  cases a <;> rfl

theorem getD_toOption {α : Type} {a : Supplied α} (h : a = .absent ∨ ∃ s, a = .value s)
    (empty old : α) : a.toOption.getD old = (a.onto old).getD empty := by
  rcases h with rfl | ⟨s, rfl⟩ <;> rfl

/-- A content after an update that blanks nothing is the content of the merged
submission. -/
theorem apply_changes {u : Submission} (h : u.emptied = []) (old : Content) :
    u.changes.apply old = (u.onto old).content := by
  simp only [ContentChanges.apply, changes, content, onto, getD_change?,
    getD_toOption (name_of_emptied_eq_nil h) "",
    getD_toOption (templateId_of_emptied_eq_nil h) ""]

/-- An update that blanks nothing leads to the template that it names, if it names
one. -/
theorem templateId_apply_changes {u : Submission} (h : u.emptied = []) (old : Content) :
    (u.changes.apply old).templateId
      = if u.templateId.getD "" = "" then old.templateId else u.templateId.getD "" := by
  show u.templateId.toOption.getD old.templateId = _
  rcases templateId_of_emptied_eq_nil h with habsent | ⟨s, hs⟩
  · rw [habsent]
    rfl
  · have hne : s ≠ "" := by
      rintro rfl
      have hblank : solid? (.value "") = none := by decide
      simp [emptied, hs, Supplied.isSupplied, hblank] at h
    rw [hs]
    exact (if_neg hne).symm

/-- An update that blanks nothing changes the attributes that it supplies. -/
theorem keys_changes {u : Submission} (h : u.emptied = []) :
    u.changes.toMembers.keys = u.suppliedNames := by
  have hkeys {α : Type} (name : Text) (a : Supplied α) (empty : α) (toValue : α → Value) :
      (optionalKey name ((a.change? empty).map toValue)).map Prod.fst
        = if a.isSupplied then [name] else [] := by
    cases a <;> rfl
  have hsolid (name : Text) {a : Supplied Text} (h : a = .absent ∨ ∃ s, a = .value s) :
      (optionalKey name (a.toOption.map .str)).map Prod.fst
        = if a.isSupplied then [name] else [] := by
    rcases h with rfl | ⟨s, rfl⟩ <;> rfl
  simp only [ContentChanges.toMembers, Entries.keys, FieldGroup.all, List.flatMap_cons,
    List.flatMap_nil, List.map_append, ContentChanges.variableGroup?, changes, hkeys,
    hsolid _ (name_of_emptied_eq_nil h), hsolid _ (templateId_of_emptied_eq_nil h),
    suppliedNames, List.append_nil, List.append_assoc]

end Submission

/-! ## The strict check -/

/-- A strict policy passes variables exactly when the template is there and they
violate nothing of it. -/
theorem requireMatch_eq_ok_iff {askNonEmpty : AskNonEmpty} {template : Option TemplateView}
    {templateId : Value} {vars : Groups Value} :
    (requireMatch askNonEmpty template templateId vars).result = .ok ()
      ↔ ∃ view, template = some view
        ∧ (templateComplaints askNonEmpty view vars).result = .ok [] := by
  unfold requireMatch
  cases template with
  | none => simp
  | some view =>
    dsimp only
    rw [Outcome.result_bind_eq_ok_iff]
    constructor
    · rintro ⟨complaints, hcomplaints, hempty⟩
      refine ⟨view, rfl, ?_⟩
      split at hempty
      · rename_i hnil
        rw [List.isEmpty_iff.1 hnil] at hcomplaints
        exact Outcome.result_mapError_eq_ok_iff.1 hcomplaints
      · obtain ⟨_, -, hfail⟩ := Outcome.result_bind_eq_ok_iff.1 hempty
        simp at hfail
    · rintro ⟨_, hview, hcomplaints⟩
      cases hview
      exact ⟨[], Outcome.result_mapError_eq_ok_iff.2 hcomplaints, rfl⟩

/-- What a policy asks of a content: nothing, or the strict check. -/
def Policy.check (policy : Policy) (template : Option TemplateView) (content : Content) :
    Outcome Failure Unit :=
  if policy.strict then
    requireMatch policy.askNonEmpty template (.str content.templateId) content.variableGroups
  else .ok ()

theorem Policy.check_eq_ok_iff {policy : Policy} {template : Option TemplateView}
    {content : Content} :
    (policy.check template content).result = .ok ()
      ↔ (policy.strict → ∃ view, template = some view
        ∧ (templateComplaints policy.askNonEmpty view content.variableGroups).result = .ok []) := by
  unfold check
  cases policy.strict with
  | false => simp
  | true =>
    rw [if_pos rfl, requireMatch_eq_ok_iff]
    simp

/-! ## Preparation -/

/-- A new document is prepared by one check of the content that is submitted. -/
theorem prepare_of_submission {payload : Payload} {s : Submission}
    (h : payload.submission = .ok s) (policy : Policy) (template : Option TemplateView) :
    prepare policy template payload =
      if s.missing = [] then policy.check template s.content >>= fun _ => .ok s.content
      else .fail (.refused .incomplete
        (s.missing.map fun name : String => ⟨name, .required⟩)) := by
  unfold prepare Policy.check
  rw [h, Outcome.ofExcept_ok, Outcome.ok_bind]
  simp only [List.isEmpty_iff]
  split
  · cases policy.strict <;> rfl
  · rfl

/-- What is checked for an update is the content that the row would have. -/
theorem requireMatch_merged (askNonEmpty : AskNonEmpty) (template : Option TemplateView)
    (changes : ContentChanges) (row : DocumentRow) :
    requireMatch askNonEmpty template
        ((changes.templateId.map Value.str).getD
          (Value.member (rowMembers row.attributes) Submission.templateAttribute.row))
        (.ofFun fun g => (changes.variableGroup? g).getD
          (Value.member (rowMembers row.attributes) g.variableGroup.row))
      = requireMatch askNonEmpty template (.str (changes.apply row.content).templateId)
        (changes.apply row.content).variableGroups := by
  congr 1
  · show _ = Value.str (changes.templateId.getD row.content.templateId)
    cases changes.templateId with
    | none => rfl
    | some s => rfl
  · refine Groups.ext_get fun g => ?_
    rw [Groups.get_ofFun]
    cases g with
    | object =>
      show _ = (changes.objectVariables.getD row.content.objectVariables).toValue
      unfold ContentChanges.variableGroup?
      cases changes.objectVariables <;> rfl
    | contact =>
      show _ = (changes.contactVariables.getD row.content.contactVariables).toValue
      unfold ContentChanges.variableGroup?
      cases changes.contactVariables <;> rfl
    | lineItem =>
      show _ = lineItemsValue (changes.lineItemVariables.getD row.content.lineItemVariables)
      unfold ContentChanges.variableGroup?
      cases changes.lineItemVariables <;> rfl

/-- An update of a row is prepared by one check of the content that the row would
have. -/
theorem prepareUpdate_of_submission {payload : Payload} {u : Submission}
    (h : payload.submission = .ok u) (policy : Policy) (template : Option TemplateView)
    (row : DocumentRow) :
    prepareUpdate policy template payload (rowMembers row.attributes) =
      if u.emptied = [] then
        policy.check template (u.changes.apply row.content) >>= fun _ => .ok u.changes
      else .fail (.refused .invalidUpdate
        (u.emptied.map fun name : String => ⟨name, .emptied⟩)) := by
  unfold prepareUpdate Policy.check
  rw [h, Outcome.ofExcept_ok, Outcome.ok_bind]
  simp only [List.isEmpty_iff, requireMatch_merged]
  split
  · cases policy.strict <;> rfl
  · rfl

/-- There is a content exactly when there is a submission that lacks nothing and
passes the check. -/
theorem prepare_eq_ok_iff {policy : Policy} {template : Option TemplateView} {payload : Payload}
    {content : Content} :
    (prepare policy template payload).result = .ok content
      ↔ ∃ s, payload.submission = .ok s ∧ s.missing = [] ∧ s.content = content
        ∧ (policy.check template content).result = .ok () := by
  constructor
  · intro h
    obtain ⟨s, hs, -⟩ := Outcome.result_bind_eq_ok_iff.1 h
    rw [Outcome.result_ofExcept] at hs
    rw [prepare_of_submission hs] at h
    split at h
    · rename_i hmissing
      obtain ⟨_, hcheck, hcontent⟩ := Outcome.result_bind_eq_ok_iff.1 h
      cases hcontent
      exact ⟨s, hs, hmissing, rfl, hcheck⟩
    · simp at h
  · rintro ⟨s, hs, hmissing, rfl, hcheck⟩
    rw [prepare_of_submission hs, if_pos hmissing, Outcome.result_bind_eq_ok_iff]
    exact ⟨(), hcheck, rfl⟩

/-- There are changes exactly when there is a submission that blanks nothing and the
changed content passes the check. -/
theorem prepareUpdate_eq_ok_iff {policy : Policy} {template : Option TemplateView}
    {payload : Payload} {row : DocumentRow} {changes : ContentChanges} :
    (prepareUpdate policy template payload (rowMembers row.attributes)).result = .ok changes
      ↔ ∃ u, payload.submission = .ok u ∧ u.emptied = [] ∧ u.changes = changes
        ∧ (policy.check template (changes.apply row.content)).result = .ok () := by
  constructor
  · intro h
    obtain ⟨u, hu, -⟩ := Outcome.result_bind_eq_ok_iff.1 h
    rw [Outcome.result_ofExcept] at hu
    rw [prepareUpdate_of_submission hu] at h
    split at h
    · rename_i hemptied
      obtain ⟨_, hcheck, hchanges⟩ := Outcome.result_bind_eq_ok_iff.1 h
      cases hchanges
      exact ⟨u, hu, hemptied, rfl, hcheck⟩
    · simp at h
  · rintro ⟨u, hu, hemptied, rfl, hcheck⟩
    rw [prepareUpdate_of_submission hu, if_pos hemptied, Outcome.result_bind_eq_ok_iff]
    exact ⟨(), hcheck, rfl⟩

/-! ## Agreement -/

/-- The fields that a failure reports, in order, if it refuses a document. -/
def Failure.fields? : Failure → Option (List Text)
  | .refused _ complaints => some (complaints.map Complaint.field)
  | _ => none

/-- An update of a row succeeds exactly when the merged submission does as a new
document.  Then the changes make the row's content the new one, and are changes of
just the attributes that the update supplies; otherwise both report the same fields,
or fail alike. -/
theorem prepareUpdate_agrees_prepare (policy : Policy) (template : Option TemplateView)
    (u : Submission) (row : DocumentRow) (hname : Text.isBlankText row.content.name = false)
    (htemplate : Text.isBlankText row.content.templateId = false) :
    let update := (prepareUpdate policy template (.read u) (rowMembers row.attributes)).result
    let create := (prepare policy template (.read (u.onto row.content))).result
    ((∃ changes, update = .ok changes) ↔ ∃ content, create = .ok content)
      ∧ (∀ changes content, update = .ok changes → create = .ok content →
        changes.apply row.content = content ∧ changes.toMembers.keys = u.suppliedNames)
      ∧ ∀ failure failure', update = .error failure → create = .error failure' →
        failure.fields? = failure'.fields? ∧ (failure.fields? = none → failure = failure') := by
  intro update create
  have hmissing := u.emptied_eq_missing hname htemplate
  have hread (s : Submission) : (Payload.read s).submission = .ok s := rfl
  have hupdate : update = _ :=
    congrArg Outcome.result (prepareUpdate_of_submission (hread u) policy template row)
  have hcreate : create = _ :=
    congrArg Outcome.result (prepare_of_submission (hread (u.onto row.content)) policy template)
  by_cases hsolid : u.emptied = []
  · -- Both come down to the same check of the same content.
    rw [if_pos hsolid, Submission.apply_changes hsolid] at hupdate
    rw [if_pos (hmissing ▸ hsolid)] at hcreate
    generalize policy.check template (u.onto row.content).content = check at hupdate hcreate
    rcases check with ⟨notices, failure | _⟩
    · rw [hupdate, hcreate]
      simp
    · rw [hupdate, hcreate]
      refine ⟨by simp, ?_, by simp⟩
      intro changes content hchanges hcontent
      cases hchanges
      cases hcontent
      exact ⟨Submission.apply_changes hsolid row.content, Submission.keys_changes hsolid⟩
  · -- What the update would blank is what the merged submission has not.
    rw [if_neg hsolid] at hupdate
    rw [if_neg (hmissing ▸ hsolid)] at hcreate
    rw [hupdate, hcreate]
    refine ⟨by simp, by simp, ?_⟩
    intro failure failure' hfailure hfailure'
    cases hfailure
    cases hfailure'
    simp [Failure.fields?, hmissing]

/-- A strict update that moves a document to another template and sets a group to
null. -/
theorem prepareUpdate_agrees_prepare_of_null :
    let template : TemplateView := ⟨.str "Offer", .null,
      ⟨.list [.object [("name", .str "due"), ("type", .str "date")]], .null, .null⟩⟩
    let u : Submission := ⟨.absent, .value "2", .absent, .null, .absent⟩
    let row : DocumentRow := ⟨"3", ⟨"Offer", "1", [], [("due", .int 1)], []⟩, "a", 0, 0⟩
    let update :=
      (prepareUpdate ⟨true, true⟩ (some template) (.read u) (rowMembers row.attributes)).result
    let create := (prepare ⟨true, true⟩ (some template) (.read (u.onto row.content))).result
    Text.isBlankText row.content.name = false ∧ Text.isBlankText row.content.templateId = false
      ∧ ∃ changes content, update = .ok changes ∧ create = .ok content
        ∧ changes.apply row.content = content ∧ changes.toMembers.keys = u.suppliedNames := by
  intro template u row update create
  have hname : Text.isBlankText row.content.name = false := by decide +kernel
  have htemplate : Text.isBlankText row.content.templateId = false := by decide +kernel
  obtain ⟨hiff, hagree, -⟩ := prepareUpdate_agrees_prepare ⟨true, true⟩ (some template) u row
    hname htemplate
  have hupdate : update = .ok u.changes := by rfl
  obtain ⟨content, hcontent⟩ := hiff.1 ⟨u.changes, hupdate⟩
  exact ⟨hname, htemplate, u.changes, content, hupdate, hcontent,
    hagree u.changes content hupdate hcontent⟩

end Formulary
