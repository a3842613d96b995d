import Formulary.Document.Preparation
import Formulary.Proofs.Checked.Supplied
import Formulary.Proofs.Schema.Payload

/-!
# What is read as a submission

A submission is read attribute by attribute, each from the value that its spelling leads to.

* Submissions.  `ofValue_eq_ok_iff` takes a submission apart, and `texts_of_ofValue` and
  `templateId_of_ofValue` say which texts it has.
* Payloads.  `submission_of_ok` and `submission_of_error` say what one that was sent holds, and
  `prepare_of_submission_error` and `prepareUpdate_of_submission_error` that nothing is made of
  one that cannot be read.
-/

namespace Formulary

/-! ## Readers -/

theorem Variables.toValue_ne_null (vars : Variables) : vars.toValue ≠ .null := Value.noConfusion

theorem lineItemsValue_ne_null (items : List Variables) : lineItemsValue items ≠ .null :=
  Value.noConfusion

/-- What reads as line items is a list of just these groups of variables. -/
theorem Reader.lineItems_eq_ok_iff {v : Value} {items : List Variables} :
    list variableGroup v = .ok items ↔ v = lineItemsValue items := by
  rw [list_eq_ok_iff_forall₂]
  have hitems (vs : List Value) :
      List.Forall₂ (fun v vars => variableGroup v = .ok vars) vs items
        ↔ vs = items.map Variables.toValue := by
    simp only [variableGroup_eq_ok_iff]
    rw [← List.forall₂_map_right_iff (R := (· = ·)), List.forall₂_eq_eq_eq]
  simp only [hitems, exists_eq_right]
  rfl

/-! ## Submissions -/

namespace Submission

/-- A submission is read exactly when each of its attributes is. -/
theorem ofValue_eq_ok_iff {payload : Value} {s : Submission} :
    ofValue payload = .ok s
      ↔ ∃ members, payload = .object members
        ∧ nameAttribute.supplied Reader.text members = .ok s.name
        ∧ templateAttribute.supplied Reader.text members = .ok s.templateId
        ∧ FieldGroup.object.variableGroup.supplied Reader.variableGroup members
          = .ok s.objectVariables
        ∧ FieldGroup.contact.variableGroup.supplied Reader.variableGroup members
          = .ok s.contactVariables
        ∧ FieldGroup.lineItem.variableGroup.supplied (Reader.list Reader.variableGroup) members
          = .ok s.lineItemVariables := by
  unfold ofValue Reader.record
  split
  · rename_i members
    simp only [Checked.seq_eq_ok_iff, Checked.map_eq_ok_iff, Value.object.injEq, exists_eq_left']
    constructor
    · rintro ⟨_, _, ⟨_, _, ⟨_, _, ⟨_, _, ⟨_, hname, rfl⟩, htemplate, rfl⟩, hobject, rfl⟩,
        hcontact, rfl⟩, hlineItem, rfl⟩
      exact ⟨hname, htemplate, hobject, hcontact, hlineItem⟩
    · rintro ⟨hname, htemplate, hobject, hcontact, hlineItem⟩
      exact ⟨_, _, ⟨_, _, ⟨_, _, ⟨_, _, ⟨_, hname, rfl⟩, htemplate, rfl⟩, hobject, rfl⟩,
        hcontact, rfl⟩, hlineItem, rfl⟩
  · rename_i hpayload
    simp only [Checked.fail, reduceCtorEq, false_iff, not_exists, not_and]
    exact fun members h => absurd h (hpayload members)

/-- The texts of a submission are those that its payload holds, null where there are none. -/
theorem texts_of_ofValue {members : Entries Value} {s : Submission}
    (h : ofValue (.object members) = .ok s) :
    nameAttribute.read members = .ofText? s.name.toOption
      ∧ templateAttribute.read members = .ofText? s.templateId.toOption := by
  obtain ⟨_, hmembers, hname, htemplate, -⟩ := ofValue_eq_ok_iff.1 h
  cases hmembers
  have htext {a : Attribute} {given : Supplied Text}
      (h : a.supplied Reader.text members = .ok given) :
      a.read members = .ofText? given.toOption := by
    rw [((Attribute.supplied_eq_ok_iff Reader.text_eq_ok_iff fun _ => Value.noConfusion).1 h).1]
    cases given.toOption <;> rfl
  exact ⟨htext hname, htext htemplate⟩

/-- The template id of a submission can be read without reading the rest of its payload. -/
theorem templateId_of_ofValue {members : Entries Value} {s : Submission}
    (h : ofValue (.object members) = .ok s) :
    s.templateId.toOption = (templateAttribute.read members).text? := by
  rw [(texts_of_ofValue h).2]
  cases s.templateId.toOption <;> rfl

end Submission

/-! ## Payloads -/

/-- The refusal of a payload that cannot be read: one complaint for each issue, at its
path. -/
def Failure.malformed (issues : List Issue) : Failure :=
  .refused .malformed (issues.map fun issue => ⟨issue.path, .malformed issue.cause⟩)

theorem Payload.submission_of_ok {v : Value} {s : Submission}
    (h : Submission.ofValue (v.orElse (.object [])) = .ok s) : (raw v).submission = .ok s := by
  unfold submission
  dsimp only
  rw [h]

theorem Payload.submission_of_error {v : Value} {issues : List Issue}
    (h : Submission.ofValue (v.orElse (.object [])) = .error issues) :
    (raw v).submission = .error (.malformed issues) := by
  unfold submission
  dsimp only
  rw [h]
  rfl

theorem Payload.submission_object_of_error {members : Entries Value} {issues : List Issue}
    (h : Submission.ofValue (.object members) = .error issues) :
    (raw (.object members)).submission = .error (.malformed issues) :=
  submission_of_error ((Value.orElse_object members).symm ▸ h)

variable {payload : Payload} {failure : Failure}

theorem prepare_of_submission_error (h : payload.submission = .error failure) (policy : Policy)
    (template : Option TemplateView) : prepare policy template payload = .fail failure := by
  unfold prepare
  rw [h]
  rfl

theorem prepareUpdate_of_submission_error (h : payload.submission = .error failure)
    (policy : Policy) (template : Option TemplateView) (existing : Entries Value) :
    prepareUpdate policy template payload existing = .fail failure := by
  unfold prepareUpdate
  rw [h]
  rfl

end Formulary
