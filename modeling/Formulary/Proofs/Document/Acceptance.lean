import Formulary.Proofs.Document.Submission
import Formulary.Proofs.Store.WellFormed

/-!
# What a lenient policy accepts

Which payloads a new document can be made of, said of the values under their attributes
alone: the name and the template id are texts with something solid in them, and each group
of variables is left out, null, or made of scalars.

* `WellTyped` asks only that every value has a type that its attribute takes, and
  `exists_ofValue_iff` says that just these payloads are read.
* `Holds` says that a content has the values of a payload, and nothing else where a group is
  left out or null.  `holds_content` is the content of a submission.
* `missing_of_ofValue` finds the attributes that are reported in the payload itself.
* `lenient_prepare` is the result.
-/

namespace Formulary

/-! ## By the values -/

/-- A text with something solid in it. -/
def Value.isSolid : Value → Bool
  | .str s => !Text.isBlankText s
  | _ => false

namespace FieldGroup

/-- What a payload may hold for the variables of a group. -/
def Takes : FieldGroup → Value → Prop
  | .lineItem, v => v = .null ∨ ∃ items, v = .list items ∧ ∀ item ∈ items, ScalarObject item
  | _, v => v = .null ∨ ScalarObject v

/-- A group without variables. -/
def noVariables : FieldGroup → Value
  | .lineItem => .list []
  | _ => .object []

end FieldGroup

/-- Members in which every attribute of a document that is there has a type that it
takes. -/
structure WellTyped (members : Entries Value) : Prop where
  name : nameAttribute.read members = .null ∨ ∃ s, nameAttribute.read members = .str s
  templateId : Submission.templateAttribute.read members = .null
    ∨ ∃ s, Submission.templateAttribute.read members = .str s
  groups : ∀ g : FieldGroup, g.Takes (g.variableGroup.read members)

/-- Members from which a new document can be made. -/
structure Acceptable (members : Entries Value) : Prop where
  name : (nameAttribute.read members).isSolid
  templateId : (Submission.templateAttribute.read members).isSolid
  groups : ∀ g : FieldGroup, g.Takes (g.variableGroup.read members)

/-- The attributes of a new document that have nothing solid, in order. -/
def blankAttributes (members : Entries Value) : List Attribute :=
  [nameAttribute, Submission.templateAttribute].filter fun a => !(a.read members).isSolid

/-- A content has the values that members give, its groups being without variables where
they give none. -/
structure Content.Holds (content : Content) (members : Entries Value) : Prop where
  name : nameAttribute.read members = .str content.name
  templateId : Submission.templateAttribute.read members = .str content.templateId
  groups : ∀ g : FieldGroup, content.variableGroups.get g
    = if g.variableGroup.read members = .null then g.noVariables
      else g.variableGroup.read members

/-! ## Groups -/

theorem scalarObject_iff {v : Value} : ScalarObject v ↔ ∃ vars : Variables, v = vars.toValue := by
  constructor
  · rintro ⟨members, rfl, hscalars⟩
    choose! toScalar hscalar using hscalars
    refine ⟨members.map fun entry => (entry.1, toScalar entry), congrArg Value.object ?_⟩
    rw [Entries.mapValues, List.map_map]
    refine (List.map_id members).symm.trans (List.map_congr_left fun entry hentry => ?_)
    exact Prod.ext rfl (hscalar entry hentry)
  · rintro ⟨vars, rfl⟩
    exact scalarObject_toValue vars

theorem scalarObjects_iff {v : Value} :
    (∃ items, v = .list items ∧ ∀ item ∈ items, ScalarObject item)
      ↔ ∃ items : List Variables, v = lineItemsValue items := by
  simp only [scalarObject_iff]
  constructor
  · rintro ⟨items, rfl, hitems⟩
    choose! toVariables hvariables using hitems
    refine ⟨items.map toVariables, congrArg Value.list ?_⟩
    rw [List.map_map]
    exact (List.map_id items).symm.trans (List.map_congr_left hvariables)
  · rintro ⟨items, rfl⟩
    exact ⟨_, rfl, by simp⟩

namespace Submission

variable {members : Entries Value} {s : Submission}

/-! ## What is read -/

/-- A payload is read exactly when each attribute has a type that it takes. -/
theorem exists_ofValue_iff : (∃ s, ofValue (.object members) = .ok s) ↔ WellTyped members := by
  have htext (a : Attribute) : (∃ given, a.supplied Reader.text members = .ok given)
      ↔ a.read members = .null ∨ ∃ s, a.read members = .str s :=
    Attribute.exists_supplied_iff Reader.text_eq_ok_iff fun _ => Value.noConfusion
  have hgroup (a : Attribute) : (∃ given, a.supplied Reader.variableGroup members = .ok given)
      ↔ a.read members = .null ∨ ScalarObject (a.read members) := by
    rw [scalarObject_iff]
    exact Attribute.exists_supplied_iff Reader.variableGroup_eq_ok_iff Variables.toValue_ne_null
  have hitems (a : Attribute) :
      (∃ given, a.supplied (Reader.list Reader.variableGroup) members = .ok given)
        ↔ a.read members = .null
          ∨ ∃ items, a.read members = .list items ∧ ∀ item ∈ items, ScalarObject item := by
    rw [scalarObjects_iff]
    exact Attribute.exists_supplied_iff Reader.lineItems_eq_ok_iff lineItemsValue_ne_null
  simp only [ofValue_eq_ok_iff, Value.object.injEq, exists_eq_left']
  constructor
  · rintro ⟨s, hname, htemplate, hobject, hcontact, hlineItem⟩
    exact ⟨(htext _).1 ⟨_, hname⟩, (htext _).1 ⟨_, htemplate⟩, FieldGroup.forall_iff.2
      ⟨(hgroup _).1 ⟨_, hobject⟩, (hgroup _).1 ⟨_, hcontact⟩, (hitems _).1 ⟨_, hlineItem⟩⟩⟩
  · rintro ⟨hname, htemplate, hvariables⟩
    obtain ⟨hobject, hcontact, hlineItem⟩ := FieldGroup.forall_iff.1 hvariables
    obtain ⟨name, hname⟩ := (htext _).2 hname
    obtain ⟨templateId, htemplate⟩ := (htext _).2 htemplate
    obtain ⟨object, hobject⟩ := (hgroup _).2 hobject
    obtain ⟨contact, hcontact⟩ := (hgroup _).2 hcontact
    obtain ⟨lineItem, hlineItem⟩ := (hitems _).2 hlineItem
    exact ⟨⟨name, templateId, object, contact, lineItem⟩, hname, htemplate, hobject, hcontact,
      hlineItem⟩

theorem isNone_solid? (a : Supplied Text) :
    (solid? a).isNone = !(Value.ofText? a.toOption).isSolid := by
  cases a with
  | absent | null => rfl
  | value s =>
    unfold solid? Supplied.toOption Value.ofText? Value.isSolid
    cases Text.isBlankText s <;> simp [*]

/-- What a submission lacks is what its payload has nothing solid for. -/
theorem missing_of_ofValue (h : ofValue (.object members) = .ok s) :
    s.missing = (blankAttributes members).map Attribute.wire := by
  obtain ⟨hname, htemplate⟩ := texts_of_ofValue h
  unfold missing blankAttributes
  rw [isNone_solid?, isNone_solid?, ← hname, ← htemplate, List.filter_cons, List.filter_cons,
    List.filter_nil]
  cases (nameAttribute.read members).isSolid <;>
    cases (templateAttribute.read members).isSolid <;> rfl

theorem ofText?_of_isSolid {a : Supplied Text} (h : (Value.ofText? a.toOption).isSolid) :
    Value.ofText? a.toOption = .str (a.getD "") := by
  cases a with
  | absent | null => cases h
  | value s => rfl

/-- A group that is left out or null has no variables, and any other has what is given. -/
theorem toValue_getD {α : Type} {a : Attribute} {reader : Reader α} {toValue : α → Value}
    (hreader : ∀ {v x}, reader v = .ok x ↔ v = toValue x) (hnull : ∀ x, toValue x ≠ .null)
    {given : Supplied α} (h : a.supplied reader members = .ok given) (empty : α) :
    toValue (given.getD empty)
      = if a.read members = .null then toValue empty else a.read members := by
  rw [((Attribute.supplied_eq_ok_iff hreader hnull).1 h).1]
  cases given with
  | absent | null => rfl
  | value x => exact (if_neg (hnull x)).symm

/-- The content of a submission that lacks nothing has the values of its payload. -/
theorem holds_content (h : ofValue (.object members) = .ok s)
    (hsolid : blankAttributes members = []) : s.content.Holds members := by
  obtain ⟨hname, htemplate⟩ := texts_of_ofValue h
  obtain ⟨_, hmembers, -, -, hobject, hcontact, hlineItem⟩ := ofValue_eq_ok_iff.1 h
  cases hmembers
  simp only [blankAttributes, List.filter_eq_nil_iff, List.forall_mem_cons, Bool.not_eq_true',
    Bool.not_eq_false] at hsolid
  obtain ⟨hsolidName, hsolidTemplate, -⟩ := hsolid
  rw [hname] at hsolidName
  rw [htemplate] at hsolidTemplate
  exact {
    name := hname.trans (ofText?_of_isSolid hsolidName)
    templateId := htemplate.trans (ofText?_of_isSolid hsolidTemplate)
    groups := FieldGroup.forall_iff.2
      ⟨toValue_getD Reader.variableGroup_eq_ok_iff Variables.toValue_ne_null hobject [],
        toValue_getD Reader.variableGroup_eq_ok_iff Variables.toValue_ne_null hcontact [],
        toValue_getD Reader.lineItems_eq_ok_iff lineItemsValue_ne_null hlineItem []⟩ }

end Submission

/-- A new document can be made of a payload exactly if its values have the types that they
need and no attribute is blank that must not be. -/
theorem acceptable_iff {members : Entries Value} :
    Acceptable members ↔ WellTyped members ∧ blankAttributes members = [] := by
  have hsolid : blankAttributes members = [] ↔ (nameAttribute.read members).isSolid
      ∧ (Submission.templateAttribute.read members).isSolid := by
    simp [blankAttributes]
  have htext {v : Value} (h : v.isSolid) : v = .null ∨ ∃ s, v = .str s := by
    cases v with
    | str s => exact .inr ⟨s, rfl⟩
    | _ => cases h
  rw [hsolid]
  exact ⟨fun h => ⟨⟨htext h.name, htext h.templateId, h.groups⟩, h.name, h.templateId⟩,
    fun ⟨htyped, hname, htemplate⟩ => ⟨hname, htemplate, htyped.groups⟩⟩

/-! ## Lenient policies -/

theorem Policy.check_of_lenient (askNonEmpty : AskNonEmpty) (template : Option TemplateView)
    (content : Content) : Policy.check ⟨false, askNonEmpty⟩ template content = .ok () := rfl

variable (askNonEmpty : AskNonEmpty) (template : Option TemplateView)

/-- A payload that is read is prepared unless something is blank in it. -/
theorem prepare_of_ofValue {members : Entries Value} {v : Value} {s : Submission}
    (hv : v.orElse (.object []) = .object members)
    (h : Submission.ofValue (.object members) = .ok s) :
    prepare ⟨false, askNonEmpty⟩ template (.raw v) =
      if blankAttributes members = [] then .ok s.content
      else .fail (.refused .incomplete
        ((blankAttributes members).map fun a => ⟨a.wire, .required⟩)) := by
  rw [prepare_of_submission (Payload.submission_of_ok (hv.symm ▸ h)), Policy.check_of_lenient,
    Outcome.ok_bind, Submission.missing_of_ofValue h, List.map_map]
  simp only [List.map_eq_nil_iff]
  rfl

/-- What is not well-typed is refused: it cannot be read, or it stands for an empty object,
which lacks everything. -/
theorem prepare_of_not_wellTyped {v : Value}
    (h : ¬∃ members, v = .object members ∧ WellTyped members) :
    ∃ reason complaints, ∀ askNonEmpty template,
      prepare ⟨false, askNonEmpty⟩ template (.raw v) = .fail (.refused reason complaints) := by
  by_cases hempty : v.orElse (.object []) = v
  · cases hread : Submission.ofValue v with
    | error issues =>
      have hsubmission := Payload.submission_of_error (hempty.symm ▸ hread)
      exact ⟨.malformed, _, fun _ => prepare_of_submission_error hsubmission _⟩
    | ok s =>
      obtain ⟨members, rfl, -⟩ := Submission.ofValue_eq_ok_iff.1 hread
      exact absurd ⟨members, rfl, Submission.exists_ofValue_iff.1 ⟨s, hread⟩⟩ h
  · have hv : v.orElse (.object []) = .object [] :=
      (ite_eq_or_eq _ _ _).resolve_left hempty
    exact ⟨.incomplete, _, fun _ _ => prepare_of_ofValue _ _ hv rfl⟩

/-- A lenient policy makes a document of a payload exactly if it is an object whose name and
template id have something solid and whose groups are scalars, left out or null.  The
document has the values of the payload, as they are and in their order, and no template
matters.  Every other payload is refused; one that is well-typed for the attributes that are
blank in it, in order. -/
theorem lenient_prepare (v : Value) :
    let prepared := prepare ⟨false, askNonEmpty⟩ template (.raw v)
    (∀ askNonEmpty template, prepare ⟨false, askNonEmpty⟩ template (.raw v) = prepared)
      ∧ ((∃ content, prepared.result = .ok content)
        ↔ ∃ members, v = .object members ∧ Acceptable members)
      ∧ (∀ content, prepared.result = .ok content →
        ∃ members, v = .object members ∧ content.Holds members)
      ∧ (∀ failure, prepared.result = .error failure →
        ∃ reason complaints, failure = .refused reason complaints)
      ∧ ∀ members, v = .object members → WellTyped members → blankAttributes members ≠ [] →
        prepared.result = .error (.refused .incomplete
          ((blankAttributes members).map fun a => ⟨a.wire, .required⟩)) := by
  intro prepared
  by_cases htyped : ∃ members, v = .object members ∧ WellTyped members
  · obtain ⟨members, rfl, htyped⟩ := htyped
    obtain ⟨s, hread⟩ := Submission.exists_ofValue_iff.2 htyped
    have hprepared (askNonEmpty : AskNonEmpty) (template : Option TemplateView) :=
      prepare_of_ofValue askNonEmpty template (Value.orElse_object members) hread
    have hsame (askNonEmpty : AskNonEmpty) (template : Option TemplateView) :
        prepare ⟨false, askNonEmpty⟩ template (.raw (.object members)) = prepared :=
      (hprepared askNonEmpty template).trans (hprepared _ _).symm
    refine ⟨hsame, ?_⟩
    simp only [Value.object.injEq, exists_eq_left', forall_eq', acceptable_iff]
    by_cases hsolid : blankAttributes members = []
    · have hok : prepared = .ok s.content := (hprepared _ _).trans (if_pos hsolid)
      rw [hok]
      refine ⟨⟨fun _ => ⟨htyped, hsolid⟩, fun _ => ⟨_, rfl⟩⟩, ?_, ?_, ?_⟩
      · rintro content ⟨⟩
        exact Submission.holds_content hread hsolid
      · rintro failure ⟨⟩
      · exact fun _ h => absurd hsolid h
    · have hfail : prepared = .fail _ := (hprepared _ _).trans (if_neg hsolid)
      rw [hfail]
      refine ⟨⟨?_, fun h => absurd h.2 hsolid⟩, ?_, ?_, fun _ _ => rfl⟩
      · rintro ⟨content, ⟨⟩⟩
      · rintro content ⟨⟩
      · rintro failure ⟨⟩
        exact ⟨_, _, rfl⟩
  · obtain ⟨reason, complaints, hrefused⟩ := prepare_of_not_wellTyped htyped
    have hfail : prepared = .fail (.refused reason complaints) := hrefused _ _
    rw [hfail]
    refine ⟨hrefused, ⟨?_, ?_⟩, ?_, ?_, ?_⟩
    · rintro ⟨content, ⟨⟩⟩
    · rintro ⟨members, hv, hacceptable⟩
      exact absurd ⟨members, hv, (acceptable_iff.1 hacceptable).1⟩ htyped
    · rintro content ⟨⟩
    · rintro failure ⟨⟩
      exact ⟨_, _, rfl⟩
    · exact fun members hv hmembers => absurd ⟨members, hv, hmembers⟩ htyped

/-- Both spellings, a null group, numbers of either kind, truth values and further keys. -/
theorem lenient_prepare_spellings :
    let members : Entries Value := [("template_id", .int 5), ("name", .str " Offer"),
      ("object_variables", .object [("b", .bool true), ("a", .int 1), ("c", .str "")]),
      ("templateId", .str "t"), ("contactVariables", .null),
      ("contact_variables", .object [("d", .list [])]), ("due", .null),
      ("lineItemVariables", .list [.object [], .object [("a", .float (.signedZero true))]])]
    let blank : Entries Value := [("templateId", .str " \t"), ("objectVariables", .null)]
    (∃ content, (prepare ⟨false, true⟩ none (.raw (.object members))).result = .ok content
        ∧ content.Holds members)
      ∧ (prepare ⟨false, true⟩ none (.raw (.object blank))).result
        = .error (.refused .incomplete [⟨"name", .required⟩, ⟨"templateId", .required⟩]) := by
  intro members blank
  have hprepared : (prepare ⟨false, true⟩ none (.raw (.object members))).result = .ok _ := rfl
  obtain ⟨-, -, hholds, -⟩ := lenient_prepare true none (.object members)
  obtain ⟨members', hmembers, hcontent⟩ := hholds _ hprepared
  cases hmembers
  have htyped : WellTyped blank :=
    Submission.exists_ofValue_iff.1 ⟨⟨.absent, .value " \t", .null, .absent, .absent⟩, rfl⟩
  obtain ⟨-, -, -, -, hreported⟩ := lenient_prepare true none (.object blank)
  exact ⟨⟨_, hprepared, hcontent⟩, hreported blank rfl htyped (by decide)⟩

end Formulary
