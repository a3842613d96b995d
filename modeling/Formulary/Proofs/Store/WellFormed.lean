import Formulary.Proofs.Document.Preparation
import Formulary.Proofs.Template.Stored
import Formulary.Store.Basic

/-!
# Well-formed rows

What every row holds that the service itself has written.  A template row has a
name and three stored groups of fields; a document row has a name and a template
id with a solid character in them and groups of scalars.

Each way of writing a row has one lemma: `wellFormed_create` and
`WellFormed.revise` for templates, `wellFormed_create` and `WellFormed.update` for
documents.  A row that is written over may keep what it held, so the lemmas about
changed rows ask that the old row was well-formed too.
-/

namespace Formulary

/-! ## Templates -/

/-- A template row as the service writes it. -/
structure TemplateRow.WellFormed (row : TemplateRow) : Prop where
  name_ne_empty : row.name ≠ ""
  groups : ∀ g, StoredGroup (row.groups.get g)

namespace TemplateRow

theorem wellFormed_create {payload : Value} {draft : TemplateDraft}
    (h : TemplateDraft.ofValue payload = .ok draft) (id customer : Text) (now : Instant) :
    (create draft id customer now).WellFormed where
  name_ne_empty := TemplateDraft.name_ne_empty_of_ofValue h
  groups g := by
    have hgroup : (create draft id customer now).groups.get g
        = (fieldsValue (draft.groups.get g)).settled := by
      rw [create, TemplateDraft.storedGroups, Groups.get_map, Groups.get_map]
      rfl
    rw [hgroup]
    exact (storedGroup_iff.2 ⟨_, TemplateDraft.wellFormed_of_ofValue h g, rfl⟩).settled

theorem WellFormed.revise {row : TemplateRow} (h : row.WellFormed) {payload : Value}
    {revision : TemplateRevision} (hread : TemplateRevision.ofValue payload = .ok revision)
    (now : Instant) : (row.revise revision now).WellFormed where
  name_ne_empty := by
    show revision.name.toOption.getD row.name ≠ ""
    cases hname : revision.name with
    | absent | null => exact h.name_ne_empty
    | value name => exact TemplateRevision.name_ne_empty_of_ofValue hread hname
  groups g := by
    unfold TemplateRow.revise
    dsimp only
    rw [Groups.get_ofFun]
    split
    · rename_i fields hfields
      have hnew : StoredGroup (fieldsValue fields) :=
        storedGroup_iff.2 ⟨_, TemplateRevision.wellFormed_of_newFields? hread hfields, rfl⟩
      -- The old group stays where the new one is alike.
      unfold writeOver
      split
      · exact (h.groups g).settled
      · exact hnew.settled
    · exact h.groups g

end TemplateRow

/-! ## Documents -/

/-- An object of scalars. -/
def ScalarObject (v : Value) : Prop :=
  ∃ members : Entries Value, v = .object members
    ∧ ∀ entry ∈ members, ∃ a : Scalar, entry.2 = a.toValue

theorem scalarObject_toValue (vars : Variables) : ScalarObject vars.toValue := by
  refine ⟨_, rfl, fun entry hentry => ?_⟩
  obtain ⟨e, -, rfl⟩ := List.mem_map.1 hentry
  exact ⟨e.2, rfl⟩

/-- A document row as the service writes it. -/
structure DocumentRow.WellFormed (row : DocumentRow) : Prop where
  name_solid : Text.isBlankText row.content.name = false
  templateId_solid : Text.isBlankText row.content.templateId = false
  object : ScalarObject (row.content.variableGroups.get .object)
  contact : ScalarObject (row.content.variableGroups.get .contact)
  lineItem : ∃ items, row.content.variableGroups.get .lineItem = .list items
    ∧ ∀ item ∈ items, ScalarObject item

namespace Submission

theorem isBlankText_getD_of_solid? {a : Supplied Text} (h : ¬ (solid? a).isNone = true) :
    Text.isBlankText (a.getD "") = false := by
  cases a with
  | absent | null => exact absurd rfl h
  | value s =>
    cases hs : Text.isBlankText s with
    | false => exact hs
    | true => exact absurd (by simp [solid?, Supplied.toOption, hs]) h

/-- A submission that lacks nothing has a name and a template id that are not
blank. -/
theorem solid_of_missing_eq_nil {s : Submission} (h : s.missing = []) :
    Text.isBlankText s.content.name = false ∧ Text.isBlankText s.content.templateId = false := by
  constructor
  · refine isBlankText_getD_of_solid? fun hname => ?_
    simp [missing, hname] at h
  · refine isBlankText_getD_of_solid? fun htemplate => ?_
    simp [missing, htemplate] at h

end Submission

namespace DocumentRow

/-- A row is well-formed as soon as its name and its template id are: its variables
are scalars by their type. -/
theorem wellFormed_of_solid {row : DocumentRow} (hname : Text.isBlankText row.content.name = false)
    (htemplate : Text.isBlankText row.content.templateId = false) : row.WellFormed where
  name_solid := hname
  templateId_solid := htemplate
  object := scalarObject_toValue _
  contact := scalarObject_toValue _
  lineItem := by
    refine ⟨_, rfl, fun item hitem => ?_⟩
    obtain ⟨vars, -, rfl⟩ := List.mem_map.1 hitem
    exact scalarObject_toValue vars

theorem wellFormed_create {policy : Policy} {template : Option TemplateView} {payload : Payload}
    {content : Content} (h : (prepare policy template payload).result = .ok content)
    (id customer : Text) (now : Instant) : (create content id customer now).WellFormed := by
  obtain ⟨s, -, hmissing, rfl, -⟩ := prepare_eq_ok_iff.1 h
  obtain ⟨hname, htemplate⟩ := Submission.solid_of_missing_eq_nil hmissing
  exact wellFormed_of_solid hname htemplate

theorem WellFormed.update {row : DocumentRow} (h : row.WellFormed) {policy : Policy}
    {template : Option TemplateView} {payload : Payload} {changes : ContentChanges}
    (hchanges : (prepareUpdate policy template payload (rowMembers row.attributes)).result
      = .ok changes) (now : Instant) : (row.update changes now).WellFormed := by
  obtain ⟨u, -, hemptied, rfl, -⟩ := prepareUpdate_eq_ok_iff.1 hchanges
  -- What the row would have is what the merged submission has.
  have hmissing : (u.onto row.content).missing = [] :=
    (Submission.emptied_eq_missing h.name_solid h.templateId_solid).symm.trans hemptied
  obtain ⟨hname, htemplate⟩ := Submission.solid_of_missing_eq_nil hmissing
  rw [← Submission.apply_changes hemptied] at hname htemplate
  exact wellFormed_of_solid hname htemplate

end DocumentRow

/-- A store whose rows are all well-formed. -/
structure Store.WellFormed (store : Store) : Prop where
  templates : ∀ row ∈ store.templates, row.WellFormed
  documents : ∀ row ∈ store.documents, row.WellFormed

theorem Store.wellFormed_empty : Store.empty.WellFormed := ⟨by simp [empty], by simp [empty]⟩

end Formulary
