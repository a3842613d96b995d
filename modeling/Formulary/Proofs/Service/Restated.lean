import Formulary.Proofs.Checked.Supplied
import Formulary.Proofs.Http.Publishable
import Formulary.Proofs.Service.LiveRows

/-!
# What is read is accepted again

What the service answers about fields and templates can be handed back to it, and changes
nothing.

* Fields.  A field that is read is written as a value that reads as the same field.
* Templates.  `RestatedBy` says that members give a row's own values for all that a revision
  can change.  `ofValue_restated` reads them as the revision `restating`, and
  `revise_restating` says that it leaves all but the time of the last change.  For the
  groups this needs that the row holds them as a JSON text keeps them, which is
  `Reachable.settled`.
* `restated_unchanged` puts this together for the templates of reachable stores.
-/

namespace Formulary

/-- An optional value as a payload supplies it, null where there is none. -/
def Supplied.ofOption {α : Type} : Option α → Supplied α
  | none => .null
  | some a => .value a

@[simp] theorem Supplied.update_ofOption {α : Type} (new old : Option α) :
    (Supplied.ofOption new).update old = new := by
  cases new <;> rfl

theorem Value.written_self {v : Value} (h : v.settled = v) : v.written v = v := by
  unfold written
  rw [h, ite_self]

namespace TemplateRow

/-- Members that give a row's own values for all that a revision can change. -/
structure RestatedBy (row : TemplateRow) (members : Entries Value) : Prop where
  name : members.get? nameAttribute.wire = some (.str row.name)
  description : members.get? descriptionAttribute.wire = some (.ofText? row.description)
  connectionId : members.get? connectionAttribute.wire = some (.ofText? row.connectionId)
  groups : ∀ g : FieldGroup, members.get? g.fields.wire = some (row.groups.get g)

/-- A row under the names of the wire restates itself, whatever else it says. -/
theorem restatedBy_wire (row : TemplateRow) :
    row.RestatedBy (row.attributes.map fun entry => (entry.1.wire, entry.2)) where
  name := rfl
  description := rfl
  connectionId := rfl
  groups g := by cases g <;> rfl

/-- The revision to what a row is, with its groups read as fields. -/
def restating (row : TemplateRow) (fields : FieldGroup → List Field) : TemplateRevision where
  name := .value row.name
  description := .ofOption row.description
  connectionId := .ofOption row.connectionId
  groups := .ofFun fun g => .value (fields g)

variable {row : TemplateRow} {members : Entries Value} {fields : FieldGroup → List Field}

theorem supplied_text {a : Attribute} {t : Option Text}
    (h : members.get? a.wire = some (.ofText? t)) :
    a.supplied Reader.text members = .ok (.ofOption t) := by
  have hfind := Attribute.find?_of_wire h
  cases t with
  | none => exact Attribute.supplied_eq_null_iff.2 ⟨_, hfind⟩
  | some s => exact Attribute.supplied_eq_value_iff.2 ⟨_, _, hfind, Value.noConfusion, rfl⟩

theorem ofValue_restated (h : row.RestatedBy members) (hname : row.name ≠ "")
    (hencodable : row.name.isEncodable) (hwell : ∀ g, WellFormedFields (fields g))
    (hfields : ∀ g, row.groups.get g = fieldsValue (fields g)) :
    TemplateRevision.ofValue (.object members) = .ok (row.restating fields) := by
  refine TemplateRevision.ofValue_eq_ok_iff.2 ⟨members, rfl, ?_, supplied_text h.description,
    supplied_text h.connectionId, fun g => ?_⟩
  · exact Attribute.supplied_eq_value_iff.2 ⟨_, _, Attribute.find?_of_wire h.name,
      Value.noConfusion, Reader.nonEmptyText_eq_ok_iff.2 ⟨rfl, hname, hencodable⟩⟩
  · have hgroup : (row.restating fields).groups.get g = .value (fields g) := Groups.get_ofFun ..
    have hfind := Attribute.find?_of_wire (h.groups g)
    rw [hfields g] at hfind
    rw [hgroup]
    exact Attribute.supplied_eq_value_iff.2 ⟨_, _, hfind, Value.noConfusion,
      (hwell g).readFields_fieldsValue⟩

/-- A row that is revised to what it is changes by the time alone. -/
theorem revise_restating (hsettled : Revisable.Settled row)
    (hfields : ∀ g, row.groups.get g = fieldsValue (fields g)) (now : Instant) :
    row.revise (row.restating fields) now = { row with updatedAt := now } := by
  have hgroups : (row.revise (row.restating fields) now).groups = row.groups := by
    refine Groups.ext_get fun g => ?_
    have hgroup : (row.groups.get g).settled = row.groups.get g := by
      rw [← row.valueOf_fields g]
      exact hsettled _ (List.mem_append_right _ (List.mem_map_of_mem g.mem_all))
    have hnew : (row.restating fields).newFields? g = some (fields g) := by
      unfold TemplateRevision.newFields? restating
      rw [Groups.get_ofFun]
      rfl
    unfold revise
    dsimp only
    rw [Groups.get_ofFun, hnew]
    show (writeOver (fun v => v) (row.groups.get g) (fieldsValue (fields g))).settled = _
    -- A group is written over itself here, and what has been in a JSON text stays.
    rw [settled_writeOver _ hgroup, ← hfields g, Value.written_self hgroup]
  show ({ row with
    description := (Supplied.ofOption row.description).update row.description
    connectionId := (Supplied.ofOption row.connectionId).update row.connectionId
    groups := (row.revise (row.restating fields) now).groups
    updatedAt := now } : TemplateRow) = _
  rw [hgroups, Supplied.update_ofOption, Supplied.update_ofOption]

end TemplateRow

namespace Store

variable {store : Store} {policy : Policy} {caller : Caller}

/-- The templates of a reachable store hold their groups as a JSON text keeps them. -/
theorem Reachable.settled (h : store.Reachable) :
    ∀ row ∈ store.templates, Revisable.Settled row :=
  h.forall_templates (fun _ => TemplateRow.settled_create _)
    (fun {_ revision _} _ hsettled now => hsettled.revise revision now)

/-- A store with one of its templates replaced, if the ids of the templates are different. -/
theorem replacing_template (hids : (store.ids .template).Nodup) {old new : TemplateRow}
    (hold : old ∈ store.templates) (hid : new.id = old.id)
    (hcustomer : new.customer = old.customer) :
    store.replacing .replaceTemplate old new = { store with
      templates := store.templates.map fun row => if row = old then new else row } := by
  have htemplates : (store.replacing .replaceTemplate old new).templates
      = store.templates.map fun row => if row = old then new else row := by
    refine (templates_replacing hids hold).trans (List.map_congr_left fun row hrow => ?_)
    have hat : Table.isAt row (Row.id new) (Row.customer new) = true ↔ row = old := by
      rw [Table.isAt_iff]
      constructor
      · exact fun hkey => List.inj_on_of_nodup_map hids hrow hold (hkey.1.trans hid)
      · rintro rfl
        exact ⟨hid.symm, hcustomer.symm⟩
    simp only [hat]
  rw [← htemplates]
  unfold replacing
  split <;> rfl

/-- A template that is revised to what it is changes by the time alone, and nothing else
changes. -/
theorem run_restated (hstore : store.Reachable) (hnormal : store.mode = .normal)
    (hids : (store.ids .template).Nodup) {row : TemplateRow} (hrow : row ∈ store.templates)
    (howner : row.customer = caller.customer) {members : Entries Value}
    (hmembers : row.RestatedBy members) :
    let now := { row with updatedAt := caller.now }
    let reply := store.run policy caller (.updateTemplate (some row.id) (.object members))
    reply.outcome.result = .ok (.template now)
      ∧ reply.store
        = { store with templates := store.templates.map fun r => if r = row then now else r } := by
  intro now reply
  have hwell := hstore.wellFormed.templates row hrow
  have htexts := hstore.legible.templates row hrow
  obtain ⟨fields, hfields⟩ := hwell.exists_fields
  have hread : TemplateRevision.ofValue (.object members) = .ok (row.restating fields) :=
    TemplateRow.ofValue_restated hmembers hwell.name_ne_empty
      (htexts row.name (by simp [TemplateRow.texts])) (fun g => (hfields g).1)
      fun g => (hfields g).2
  have hnow : row.revise (row.restating fields) caller.now = now :=
    TemplateRow.revise_restating (hstore.settled row hrow) (fun g => (hfields g).2) _
  have hget : (store.getTemplate (some row.id) caller.customer).result = .ok row := by
    rw [← howner]
    refine getTemplate_of_mem ?_ hids hrow htexts
    rw [hnormal]
    exact StorageMode.noConfusion
  have hplan : (store.plan policy caller (.updateTemplate (some row.id) (.object members))).result
      = .ok (.replacing .replaceTemplate .template row now) := by
    rw [← hnow]
    exact (Outcome.result_bind_of_ok (result_orFail_eq_ok_iff.2 hread) _).trans
      (Outcome.result_bind_of_ok hget _)
  have hresult : reply.outcome.result = .ok (.template now) := by
    refine perform_eq_ok_iff.2 ⟨_, hplan, rfl, fun change hchange => ?_⟩
    refine obstacle?_eq_none_iff.2 ⟨hnormal, textFault?_eq_none_iff.2 ?_⟩
    -- What is written has the texts of the row.
    have hwritten : change = .replaceTemplate now := by
      unfold Plan.replacing at hchange
      dsimp only at hchange
      split at hchange
      · cases hchange
      · exact (Option.some.inj hchange).symm
    rw [hwritten]
    exact htexts
  refine ⟨hresult, ?_⟩
  obtain ⟨p, hp, -, hafter⟩ := perform_of_ok hresult
  cases hplan.symm.trans hp
  rw [apply_replacing] at hafter
  exact hafter.trans (replacing_template hids hrow rfl rfl)

/-- What is answered about fields and templates is accepted again.  A field that is read is
written as a value that reads as the same field.  A template of a reachable store is read for
its answer as it is stored; and its customer can hand the answer back as a revision, which
changes the time of its last change and nothing else in the store. -/
theorem restated_unchanged (hstore : store.Reachable) (policy : Policy) (caller : Caller) :
    (∀ v f, Field.ofValue v = .ok f → Field.ofValue f.toValue = .ok f)
    ∧ ∀ row ∈ store.templates, row.published = .ok row
      ∧ (∃ members, wireObject row.attributes = .object members ∧ row.RestatedBy members)
      ∧ (store.mode = .normal → (store.ids .template).Nodup → row.customer = caller.customer →
        ∀ members, row.RestatedBy members →
          let now := { row with updatedAt := caller.now }
          let reply := store.run policy caller (.updateTemplate (some row.id) (.object members))
          reply.outcome.result = .ok (.template now)
            ∧ reply.store = { store with
              templates := store.templates.map fun r => if r = row then now else r }) := by
  refine ⟨fun v f hf => Field.ofValue_toValue (Field.normal_of_ofValue hf), fun row hrow => ?_⟩
  refine ⟨?_, ⟨_, rfl, row.restatedBy_wire⟩, fun hnormal hids howner members hmembers => ?_⟩
  · exact TemplateRow.published_eq (hstore.wellFormed.templates row hrow)
      (hstore.legible.templates row hrow)
  · exact run_restated hstore hnormal hids hrow howner hmembers

/-- A template with a default that became a number, one that is no number and never will be,
options and a description that is gone, beside another template. -/
theorem restated_unchanged_of_defaults :
    let fields : Value := .list [
      .object [("name", .str "sum"), ("type", .str "number"), ("defaultValue", .str " 5 ")],
      .object [("name", .str "rate"), ("type", .str "number"),
        ("defaultValue", .float (.nan false))],
      .object [("name", .str "kind"), ("type", .str "select"),
        ("options", .list [.str "a", .str ""]), ("validation", .null)]]
    let store := Store.empty.after ⟨false, true⟩ [
      .call ⟨"a", 1, "1"⟩ (.createTemplate (.object [("name", .str "Offer"),
        ("object_fields", fields)])),
      .call ⟨"a", 2, "2"⟩ (.createTemplate (.object [("name", .str "Offer")])),
      .call ⟨"a", 3, "3"⟩ (.updateTemplate (some "1") (.object [("description", .null)]))]
    ∃ row other, store.templates = [row, other] ∧ row.description = none
      ∧ row.published = .ok row
      ∧ let now := { row with updatedAt := 4 }
        let reply := store.run ⟨true, false⟩ ⟨"a", 4, "3"⟩
          (.updateTemplate (some row.id) (wireObject row.attributes))
        reply.outcome.result = .ok (.template now) ∧ reply.store.templates = [now, other] := by
  intro fields store
  have hstore : store.Reachable := Reachable.empty.after _ _
  obtain ⟨row, other, htemplates⟩ : ∃ row other, store.templates = [row, other] :=
    List.length_eq_two.1 (by decide +kernel)
  have hkeys : (store.templates.map fun row => (row.id, row.description, row.customer))
      = ([("1", none, "a"), ("2", some "", "a")] : List (Text × Option Text × Text)) := by
    decide +kernel
  rw [htemplates] at hkeys
  simp only [List.map_cons, List.map_nil, List.cons.injEq, Prod.mk.injEq, and_true] at hkeys
  obtain ⟨⟨-, hdescription, howner⟩, -, hother, -⟩ := hkeys
  obtain ⟨-, hrows⟩ := restated_unchanged hstore ⟨true, false⟩ ⟨"a", 4, "3"⟩
  obtain ⟨hpublished, ⟨members, hwire, hmembers⟩, hupdate⟩ := hrows row (by simp [htemplates])
  obtain ⟨hresult, hafter⟩ := hupdate (by rfl) (by decide +kernel) howner members hmembers
  refine ⟨row, other, htemplates, hdescription, hpublished, ?_⟩
  rw [hwire]
  refine ⟨hresult, ?_⟩
  have hne : other ≠ row := by
    rintro rfl
    rw [hdescription] at hother
    cases hother
  rw [hafter, htemplates]
  simp [hne]

end Store

end Formulary
