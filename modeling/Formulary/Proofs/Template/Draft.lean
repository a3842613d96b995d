import Formulary.Proofs.Checked.Supplied
import Formulary.Template.Draft

/-!
# What is read as fields

Fields that have been read are in normal form, and within a group their names
are different.  `TemplateDraft.wellFormed_of_ofValue` says so of the groups of a
draft, and `TemplateRevision.wellFormed_of_newFields?` of those that a revision
replaces.  The two `ofValue_eq_ok_iff` take a draft and a revision apart into
their attributes.
-/

namespace Formulary

/-- The fields of a group as they are read: each in normal form, and with a name of
its own. -/
structure WellFormedFields (fields : List Field) : Prop where
  normal : ∀ f ∈ fields, f.Normal
  names_nodup : (fields.map Field.name).Nodup

theorem wellFormedFields_nil : WellFormedFields [] := ⟨by simp, by simp⟩

/-- No name is found a second time exactly when the names are different and none has
been seen before. -/
theorem firstRepeated?_eq_none_iff {seen names : List Text} :
    firstRepeated? seen names = none ↔ names.Nodup ∧ ∀ name ∈ names, name ∉ seen := by
  induction names generalizing seen with
  | nil => simp [firstRepeated?]
  | cons name rest ih =>
    unfold firstRepeated?
    by_cases hseen : name ∈ seen
    · simp [hseen]
    · simp only [List.contains_iff_mem, hseen, if_false, ih, List.nodup_cons, List.mem_cons,
        forall_eq_or_imp, not_false_eq_true, true_and, not_or]
      constructor
      · rintro ⟨hnodup, hrest⟩
        exact ⟨⟨fun hmem => (hrest name hmem).1 rfl, hnodup⟩, fun other hother =>
          (hrest other hother).2⟩
      · rintro ⟨⟨hname, hnodup⟩, hrest⟩
        exact ⟨hnodup, fun other hother =>
          ⟨fun heq => hname (heq ▸ hother), hrest other hother⟩⟩

/-- Fields are read exactly when each of them is and their names are different. -/
theorem readFields_eq_ok_iff {v : Value} {fields : List Field} :
    readFields v = .ok fields
      ↔ Reader.list Field.ofValue v = .ok fields ∧ (fields.map Field.name).Nodup := by
  have hnames (read : List Field) :
      firstRepeated? [] (read.map Field.name) = none ↔ (read.map Field.name).Nodup := by
    simp [firstRepeated?_eq_none_iff]
  unfold readFields
  cases Reader.list Field.ofValue v with
  | error issues => simp
  | ok read =>
    rw [Checked.andThen_ok]
    split
    · rename_i hrepeated
      simp only [Checked.fail, reduceCtorEq, Checked.ok.injEq, false_iff, not_and]
      rintro rfl hnodup
      rw [(hnames _).2 hnodup] at hrepeated
      cases hrepeated
    · rename_i hrepeated
      simp only [Checked.ok.injEq, iff_self_and]
      rintro rfl
      exact (hnames _).1 hrepeated

/-- Whatever is read as fields is well-formed. -/
theorem wellFormedFields_of_readFields {v : Value} {fields : List Field}
    (h : readFields v = .ok fields) : WellFormedFields fields := by
  obtain ⟨hread, hnames⟩ := readFields_eq_ok_iff.1 h
  refine ⟨fun f hf => ?_, hnames⟩
  obtain ⟨items, -, hitems⟩ := Reader.list_eq_ok_iff.1 hread
  have hmem : Checked.ok f ∈ items.map Field.ofValue := hitems ▸ List.mem_map_of_mem hf
  obtain ⟨item, -, hitem⟩ := List.mem_map.1 hmem
  exact Field.normal_of_ofValue hitem

/-! ## Drafts -/

/-- The groups are read exactly when each of them is. -/
theorem Checked.groups_eq_ok_iff {α : Type} {read : FieldGroup → Checked α} {groups : Groups α} :
    (Groups.mk <$> read .object <*> read .contact <*> read .lineItem) = .ok groups
      ↔ ∀ g, read g = .ok (groups.get g) := by
  rw [FieldGroup.forall_iff]
  simp only [Checked.seq_eq_ok_iff, Checked.map_eq_ok_iff]
  constructor
  · rintro ⟨_, lineItem, ⟨_, contact, ⟨object, hobject, rfl⟩, hcontact, rfl⟩, hlineItem, rfl⟩
    exact ⟨hobject, hcontact, hlineItem⟩
  · rintro ⟨hobject, hcontact, hlineItem⟩
    exact ⟨_, _, ⟨_, _, ⟨_, hobject, rfl⟩, hcontact, rfl⟩, hlineItem, rfl⟩

/-- A record of four parts is read exactly when each of them is. -/
theorem Checked.record_eq_ok_iff {α β γ δ ρ : Type} {mk : α → β → γ → δ → ρ} {a : Checked α}
    {b : Checked β} {c : Checked γ} {d : Checked δ} {r : ρ} :
    (mk <$> a <*> b <*> c <*> d) = .ok r
      ↔ ∃ x y z w, a = .ok x ∧ b = .ok y ∧ c = .ok z ∧ d = .ok w ∧ mk x y z w = r := by
  simp only [Checked.seq_eq_ok_iff, Checked.map_eq_ok_iff]
  constructor
  · rintro ⟨_, w, ⟨_, z, ⟨_, y, ⟨x, hx, rfl⟩, hy, rfl⟩, hz, rfl⟩, hw, rfl⟩
    exact ⟨x, y, z, w, hx, hy, hz, hw, rfl⟩
  · rintro ⟨x, y, z, w, hx, hy, hz, hw, rfl⟩
    exact ⟨_, w, ⟨_, z, ⟨_, y, ⟨x, hx, rfl⟩, hy, rfl⟩, hz, rfl⟩, hw, rfl⟩

namespace TemplateDraft

theorem wellFormedFields_of_readGroup {members : Entries Value} {g : FieldGroup}
    {fields : List Field} (h : readGroup members g = .ok fields) : WellFormedFields fields := by
  unfold readGroup Attribute.orDefault at h
  split at h
  · have hread := Checked.within_eq_ok_iff.1 h
    dsimp only at hread
    split at hread
    · cases hread
      exact wellFormedFields_nil
    · exact wellFormedFields_of_readFields hread
  · cases h
    exact wellFormedFields_nil

/-- A draft is read exactly when each of its attributes is. -/
theorem ofValue_eq_ok_iff {payload : Value} {draft : TemplateDraft} :
    ofValue payload = .ok draft
      ↔ ∃ members, payload = .object members
        ∧ nameAttribute.required Reader.nonEmptyText members = .ok draft.name
        ∧ descriptionAttribute.orDefault (some ("" : Text)) (Reader.nullable Reader.text) members
          = .ok draft.description
        ∧ connectionAttribute.orDefault none (Reader.nullable Reader.text) members
          = .ok draft.connectionId
        ∧ ∀ g, readGroup members g = .ok (draft.groups.get g) := by
  unfold ofValue Reader.record
  split
  · rename_i members
    rw [Checked.record_eq_ok_iff]
    simp only [Value.object.injEq, exists_eq_left']
    constructor
    · rintro ⟨name, description, connectionId, groups, hname, hdescription, hconnection, hgroups,
        rfl⟩
      exact ⟨hname, hdescription, hconnection, Checked.groups_eq_ok_iff.1 hgroups⟩
    · rintro ⟨hname, hdescription, hconnection, hgroups⟩
      exact ⟨_, _, _, _, hname, hdescription, hconnection, Checked.groups_eq_ok_iff.2 hgroups, rfl⟩
  · rename_i hpayload
    simp only [Checked.fail, reduceCtorEq, false_iff, not_exists, not_and]
    exact fun members h => absurd h (hpayload members)

theorem name_ne_empty_of_ofValue {payload : Value} {draft : TemplateDraft}
    (h : ofValue payload = .ok draft) : draft.name ≠ "" := by
  obtain ⟨members, -, hname, -⟩ := ofValue_eq_ok_iff.1 h
  unfold Attribute.required at hname
  split at hname
  · exact (Reader.nonEmptyText_eq_ok_iff.1 (Checked.within_eq_ok_iff.1 hname)).2.1
  · cases hname

/-- The groups of a draft are well-formed. -/
theorem wellFormed_of_ofValue {payload : Value} {draft : TemplateDraft}
    (h : ofValue payload = .ok draft) (g : FieldGroup) :
    WellFormedFields (draft.groups.get g) := by
  obtain ⟨members, -, -, -, -, hgroups⟩ := ofValue_eq_ok_iff.1 h
  exact wellFormedFields_of_readGroup (hgroups g)

end TemplateDraft

/-! ## Revisions -/

namespace TemplateRevision

/-- A revision is read exactly when each of its attributes is. -/
theorem ofValue_eq_ok_iff {payload : Value} {revision : TemplateRevision} :
    ofValue payload = .ok revision
      ↔ ∃ members, payload = .object members
        ∧ nameAttribute.supplied Reader.nonEmptyText members = .ok revision.name
        ∧ descriptionAttribute.supplied Reader.text members = .ok revision.description
        ∧ connectionAttribute.supplied Reader.text members = .ok revision.connectionId
        ∧ ∀ g : FieldGroup, g.fields.supplied readFields members
          = .ok (revision.groups.get g) := by
  unfold ofValue Reader.record
  split
  · rename_i members
    rw [Checked.record_eq_ok_iff]
    simp only [Value.object.injEq, exists_eq_left']
    constructor
    · rintro ⟨name, description, connectionId, groups, hname, hdescription, hconnection, hgroups,
        rfl⟩
      exact ⟨hname, hdescription, hconnection, Checked.groups_eq_ok_iff.1 hgroups⟩
    · rintro ⟨hname, hdescription, hconnection, hgroups⟩
      exact ⟨_, _, _, _, hname, hdescription, hconnection, Checked.groups_eq_ok_iff.2 hgroups, rfl⟩
  · rename_i hpayload
    simp only [Checked.fail, reduceCtorEq, false_iff, not_exists, not_and]
    exact fun members h => absurd h (hpayload members)

/-- A name that a revision gives is not empty. -/
theorem name_ne_empty_of_ofValue {payload : Value} {revision : TemplateRevision}
    (h : ofValue payload = .ok revision) {name : Text} (hname : revision.name = .value name) :
    name ≠ "" := by
  obtain ⟨members, -, hread, -⟩ := ofValue_eq_ok_iff.1 h
  rw [hname] at hread
  exact (Reader.nonEmptyText_eq_ok_iff.1 (Attribute.read_of_supplied hread)).2.1

/-- The groups that a revision replaces are well-formed. -/
theorem wellFormed_of_newFields? {payload : Value} {revision : TemplateRevision}
    (h : ofValue payload = .ok revision) {g : FieldGroup} {fields : List Field}
    (hfields : revision.newFields? g = some fields) : WellFormedFields fields := by
  obtain ⟨members, -, -, -, -, hgroups⟩ := ofValue_eq_ok_iff.1 h
  have hread := hgroups g
  unfold newFields? at hfields
  cases hsupplied : revision.groups.get g with
  | absent =>
    rw [hsupplied] at hfields
    cases hfields
  | null =>
    rw [hsupplied] at hfields
    cases hfields
    exact wellFormedFields_nil
  | value new =>
    rw [hsupplied] at hfields hread
    cases hfields
    exact wellFormedFields_of_readFields (Attribute.read_of_supplied hread)

end TemplateRevision

end Formulary
