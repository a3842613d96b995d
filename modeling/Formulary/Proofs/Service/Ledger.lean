import Formulary.Proofs.Service.Replay
import Formulary.Proofs.Service.Session

/-!
# Runs and their deeds

A run is a session in which every step has its policy.  The answered calls of a run are
its deeds, and both tables are what the deeds come to.

* What is answered.  `Answered` says what an answered operation has read, and the store
  that it leaves; `answered_of_ok` says that there is nothing else.
* Ledgers.  A `Ledger` reads the deeds of one table off the calls of a run, with what is
  needed to do them again.  There is one for each kind of rows.
* Runs.  `Ledger.table_through` is the induction over a run: a table is what its deeds
  come to, as long as no id is given twice.
-/

namespace Formulary

/-- A step of a run, under the policy of its time. -/
structure Turn where
  policy : Policy
  move : Move
deriving DecidableEq

namespace Operation

/-- What an operation is about. -/
def entity : Operation → Entity
  | createTemplate _ | updateTemplate .. | getTemplate _ | findTemplate _ | listTemplates
  | deleteTemplate _ | getSchema _ => .template
  | createDocument .. | updateDocument .. | getDocument _ | listDocuments | deleteDocument _
  | resolveDocument _ => .document

/-- The operation does no more than answer. -/
def reads : Operation → Bool
  | createTemplate _ | updateTemplate .. | deleteTemplate _ | createDocument .. | updateDocument ..
  | deleteDocument _ => false
  | _ => true

end Operation

namespace Store

/-- A store after a step of a run. -/
def turn (store : Store) (t : Turn) : Store := store.move t.policy t.move

/-- A store after a run. -/
def through (store : Store) (turns : List Turn) : Store := turns.foldl turn store

/-- The changes that are prepared for an update of a document. -/
def preparedChanges? (store : Store) (policy : Policy) (caller : Caller) (readFirst : Bool)
    (id : Text) (v : Value) : Option ContentChanges := do
  let payload ← (Payload.ofInput readFirst v).result.toOption
  let row ← store.document? id caller.customer
  let given ← payload.templateId.toOption
  let template ← (store.resolveTemplate (if given = "" then row.content.templateId else given)
    caller.customer).result.toOption
  (prepareUpdate policy (template.map TemplateRow.view) payload
    (rowMembers row.attributes)).result.toOption

/-- A store after a row is put in the place of another; a row that stays the same is not
written. -/
def replacing {R : Type} [DecidableEq R] (store : Store) (change : R → Change) (old new : R) :
    Store :=
  if new = old then store else store.apply (change new)

/-! ## What is answered -/

variable {store : Store} {policy : Policy} {caller : Caller}

/-- What an answered operation has read, with its answer and the store after it. -/
inductive Answered (store : Store) (policy : Policy) (caller : Caller) :
    Operation → Answer → Store → Prop
  | createTemplate {payload draft row} (hdraft : TemplateDraft.ofValue payload = .ok draft)
      (hrow : row = .create draft caller.freshId caller.customer caller.now)
      (htexts : textFault? row.texts = none) :
      Answered store policy caller (.createTemplate payload) (.template row)
        (store.apply (.insertTemplate row))
  | updateTemplate {id payload old revision} (hold : store.template? id caller.customer = some old)
      (hrevision : TemplateRevision.ofValue payload = .ok revision) :
      Answered store policy caller (.updateTemplate (some id) payload)
        (.template (old.revise revision caller.now))
        (store.replacing .replaceTemplate old (old.revise revision caller.now))
  | deleteTemplate {id row} (hrow : store.template? id caller.customer = some row) :
      Answered store policy caller (.deleteTemplate (some id)) .done
        (store.apply (.removeTemplate id caller.customer))
  | createDocument {readFirst v content row}
      (hrow : row = .create content caller.freshId caller.customer caller.now)
      (htexts : textFault? row.texts = none) :
      Answered store policy caller (.createDocument readFirst v) (.document row)
        (store.apply (.insertDocument row))
  | updateDocument {readFirst id v old changes}
      (hold : store.document? id caller.customer = some old)
      (hchanges : store.preparedChanges? policy caller readFirst id v = some changes) :
      Answered store policy caller (.updateDocument readFirst (some id) v)
        (.document (old.update changes caller.now))
        (store.replacing .replaceDocument old (old.update changes caller.now))
  | deleteDocument {id row} (hrow : store.document? id caller.customer = some row) :
      Answered store policy caller (.deleteDocument (some id)) .done
        (store.apply (.removeDocument id caller.customer))
  | read {operation answer} (hreads : operation.reads) :
      Answered store policy caller operation answer store

theorem planCreateTemplate_eq_ok {payload : Value} {plan : Plan}
    (h : (planCreateTemplate caller payload).result = .ok plan) :
    ∃ draft, TemplateDraft.ofValue payload = .ok draft
      ∧ plan.change = some
        (.insertTemplate (.create draft caller.freshId caller.customer caller.now))
      ∧ plan.answer = .template (.create draft caller.freshId caller.customer caller.now) := by
  unfold planCreateTemplate at h
  obtain ⟨draft, hdraft, h⟩ := Outcome.result_bind_eq_ok_iff.1 h
  obtain ⟨_, -, h⟩ := Outcome.result_bind_eq_ok_iff.1 h
  cases h
  exact ⟨draft, result_orFail_eq_ok_iff.1 hdraft, rfl, rfl⟩

theorem planDeleteTemplate_eq_ok {id : Option Text} {plan : Plan}
    (h : (store.planDeleteTemplate caller id).result = .ok plan) :
    ∃ i row, id = some i ∧ store.template? i caller.customer = some row
      ∧ plan.change = some (.removeTemplate i caller.customer) ∧ plan.answer = .done := by
  unfold planDeleteTemplate at h
  obtain ⟨row, hrow, h⟩ := Outcome.result_bind_eq_ok_iff.1 h
  cases h
  obtain ⟨i, rfl, hfind⟩ := Option.bind_eq_some_iff.1 (getTemplate_eq_ok_iff.1 hrow).2.2
  exact ⟨i, row, rfl, hfind, by rw [(template?_eq_some hfind).2.1], rfl⟩

theorem planDeleteDocument_eq_ok {id : Option Text} {plan : Plan}
    (h : (store.planDeleteDocument caller id).result = .ok plan) :
    ∃ i row, id = some i ∧ store.document? i caller.customer = some row
      ∧ plan.change = some (.removeDocument i caller.customer) ∧ plan.answer = .done := by
  unfold planDeleteDocument at h
  obtain ⟨row, hrow, h⟩ := Outcome.result_bind_eq_ok_iff.1 h
  cases h
  obtain ⟨i, rfl, hfind⟩ := Option.bind_eq_some_iff.1 (getDocument_eq_ok_iff.1 hrow).2.2
  exact ⟨i, row, rfl, hfind, by rw [(document?_eq_some hfind).2.1], rfl⟩

/-- An update of a document is planned with the changes that are prepared for it. -/
theorem preparedChanges?_of_plan {readFirst : Bool} {id : Option Text} {v : Value} {plan : Plan}
    (h : (store.plan policy caller (.updateDocument readFirst id v)).result = .ok plan) :
    ∃ i old changes, id = some i ∧ store.document? i caller.customer = some old
      ∧ store.preparedChanges? policy caller readFirst i v = some changes
      ∧ plan = .replacing .replaceDocument .document old (old.update changes caller.now) := by
  obtain ⟨payload, hpayload, hplan⟩ := Outcome.result_bind_eq_ok_iff.1 h
  obtain ⟨i, old, templateId, template, changes, rfl, hold, hid, htemplate, hchanges, rfl⟩ :=
    planUpdateDocument_eq_ok hplan
  refine ⟨i, old, changes, rfl, hold, ?_, rfl⟩
  simp [preparedChanges?, hpayload, hold, hid, htemplate, hchanges, Except.toOption]

/-- What a planned replacement leaves. -/
theorem apply_replacing {R : Type} [DecidableEq R] (change : R → Change) (answer : R → Answer)
    (old new : R) :
    ((Plan.replacing change answer old new).change.map store.apply).getD store
      = store.replacing change old new := by
  unfold Plan.replacing replacing
  dsimp only
  split <;> rfl

/-- Every answered operation is one of these. -/
theorem answered_of_ok {operation : Operation} {answer : Answer}
    (h : (store.run policy caller operation).outcome.result = .ok answer) :
    store.Answered policy caller operation answer
      (store.run policy caller operation).store := by
  obtain ⟨p, hplan, rfl, hafter⟩ := perform_of_ok h
  have htexts : ∀ change ∈ p.change, textFault? change.texts = none := by
    obtain ⟨q, hq, -, hobstacle⟩ := perform_eq_ok_iff.1 h
    cases hplan.symm.trans hq
    exact fun change hchange => (obstacle?_eq_none_iff.1 (hobstacle change hchange)).2
  change (store.run policy caller operation).store = _ at hafter
  rw [hafter]
  cases operation with
  | createTemplate payload =>
    obtain ⟨draft, hdraft, hchange, hanswer⟩ := planCreateTemplate_eq_ok hplan
    rw [hchange, hanswer]
    exact .createTemplate hdraft rfl (htexts _ hchange)
  | updateTemplate id payload =>
    obtain ⟨i, old, revision, rfl, hold, hrevision, rfl⟩ := planUpdateTemplate_eq_ok hplan
    rw [apply_replacing]
    exact .updateTemplate hold hrevision
  | deleteTemplate id =>
    obtain ⟨i, row, rfl, hrow, hchange, hanswer⟩ := planDeleteTemplate_eq_ok hplan
    rw [hchange, hanswer]
    exact .deleteTemplate hrow
  | createDocument readFirst v =>
    obtain ⟨payload, -, hplan⟩ := Outcome.result_bind_eq_ok_iff.1 hplan
    obtain ⟨_, _, content, -, -, -, hchange, hanswer⟩ := planCreateDocument_eq_ok hplan
    rw [hchange, hanswer]
    exact .createDocument rfl (htexts _ hchange)
  | updateDocument readFirst id v =>
    obtain ⟨i, old, changes, rfl, hold, hchanges, rfl⟩ := preparedChanges?_of_plan hplan
    rw [apply_replacing]
    exact .updateDocument hold hchanges
  | deleteDocument id =>
    obtain ⟨i, row, rfl, hrow, hchange, hanswer⟩ := planDeleteDocument_eq_ok hplan
    rw [hchange, hanswer]
    exact .deleteDocument hrow
  | getTemplate | findTemplate | listTemplates | getSchema | getDocument | listDocuments
  | resolveDocument =>
    rw [change_answering hplan]
    exact .read rfl

end Store

/-! ## Ledgers -/

/-- How the deeds of one table are read off answered operations. -/
structure Ledger (R Δ : Type) [Row R] [Revisable R Δ] where
  table : Store → List R
  /-- What an answered operation did to the table. -/
  act? : Store → Policy → Caller → Operation → Answer → Option (Act R Δ)
  table_empty : table .empty = []
  table_storage : ∀ (store : Store) mode, table { store with mode := mode } = table store
  /-- The table is written by the act alone. -/
  table_answered : ∀ {store : Store} {policy caller operation answer after},
    store.Answered policy caller operation answer after →
    ((table store).map Row.id).Nodup →
    table after = ((act? store policy caller operation answer).map fun act =>
      Deed.apply (table store) ⟨caller, act⟩).getD (table store)
  /-- A row that is made is the caller's. -/
  madeFor : ∀ {store : Store} {policy caller operation answer after row},
    store.Answered policy caller operation answer after →
    act? store policy caller operation answer = some (.made row) → MadeFor caller row

/-- The id and the customer of a row are among its texts. -/
theorem TemplateRow.key_mem_texts (row : TemplateRow) :
    row.id ∈ row.texts ∧ row.customer ∈ row.texts := by
  simp [texts]

/-- The id and the customer of a row are among its texts. -/
theorem DocumentRow.key_mem_texts (row : DocumentRow) :
    row.id ∈ row.texts ∧ row.customer ∈ row.texts := by
  simp [texts]

/-- A row that is put in its own place changes nothing. -/
theorem Table.apply_replace_self {R : Type} [Row R] {rows : List R}
    (hids : (rows.map Row.id).Nodup) {row : R} (hrow : row ∈ rows) :
    Write.apply rows (.replace row) = rows := by
  refine (List.map_congr_left fun r hr => ?_).trans (List.map_id rows)
  show (if isAt r (Row.id row) (Row.customer row) then row else r) = r
  split
  · rename_i hat
    exact List.inj_on_of_nodup_map hids hrow hr (isAt_iff.1 hat).1.symm
  · rfl

namespace Store

/-- What an answered operation on templates did. -/
def templateAct? : Operation → Answer → Option (Act TemplateRow TemplateRevision)
  | .createTemplate _, .template row => some (.made row)
  | .updateTemplate (some id) payload, _ =>
    match TemplateRevision.ofValue payload with
    | .ok revision => some (.revised id revision)
    | .error _ => none
  | .deleteTemplate (some id), _ => some (.removed id)
  | _, _ => none

/-- What an answered operation on documents did. -/
def documentAct? (store : Store) (policy : Policy) (caller : Caller) :
    Operation → Answer → Option (Act DocumentRow ContentChanges)
  | .createDocument .., .document row => some (.made row)
  | .updateDocument readFirst (some id) payload, _ =>
    (store.preparedChanges? policy caller readFirst id payload).map (.revised id)
  | .deleteDocument (some id), _ => some (.removed id)
  | _, _ => none

variable {store after : Store} {policy : Policy} {caller : Caller} {operation : Operation}
  {answer : Answer}

theorem templateAct?_of_reads (h : operation.reads) : templateAct? operation answer = none := by
  cases operation <;> first | rfl | cases h

theorem documentAct?_of_reads (h : operation.reads) :
    store.documentAct? policy caller operation answer = none := by
  cases operation <;> first | rfl | cases h

theorem templates_replacing {old new : TemplateRow} (hids : (store.templates.map Row.id).Nodup)
    (hold : old ∈ store.templates) :
    (store.replacing .replaceTemplate old new).templates
      = Table.Write.apply store.templates (.replace new) := by
  unfold replacing
  split
  · rename_i hsame
    rw [hsame, Table.apply_replace_self hids hold]
  · rfl

theorem documents_replacing {old new : DocumentRow} (hids : (store.documents.map Row.id).Nodup)
    (hold : old ∈ store.documents) :
    (store.replacing .replaceDocument old new).documents
      = Table.Write.apply store.documents (.replace new) := by
  unfold replacing
  split
  · rename_i hsame
    rw [hsame, Table.apply_replace_self hids hold]
  · rfl

theorem templates_answered (h : store.Answered policy caller operation answer after)
    (hids : (store.templates.map Row.id).Nodup) :
    after.templates = ((templateAct? operation answer).map fun act =>
      Deed.apply store.templates ⟨caller, act⟩).getD store.templates := by
  cases h with
  | createTemplate _ _ _ => exact (Deed.apply_made store.templates caller _).symm
  | updateTemplate hold hrevision =>
    obtain ⟨hmem, rfl, hcustomer⟩ := template?_eq_some hold
    rw [templates_replacing hids hmem, templateAct?, hrevision]
    exact (Deed.apply_revised hids hmem hcustomer _).symm
  | deleteTemplate _ => exact (Deed.apply_removed store.templates caller _).symm
  | createDocument | deleteDocument => rfl
  | updateDocument =>
    show (replacing ..).templates = store.templates
    unfold replacing
    split <;> rfl
  | read hreads =>
    rw [templateAct?_of_reads hreads]
    rfl

theorem documents_answered (h : store.Answered policy caller operation answer after)
    (hids : (store.documents.map Row.id).Nodup) :
    after.documents = ((store.documentAct? policy caller operation answer).map fun act =>
      Deed.apply store.documents ⟨caller, act⟩).getD store.documents := by
  cases h with
  | createDocument _ _ => exact (Deed.apply_made store.documents caller _).symm
  | updateDocument hold hchanges =>
    obtain ⟨hmem, rfl, hcustomer⟩ := document?_eq_some hold
    rw [documents_replacing hids hmem, documentAct?, hchanges]
    exact (Deed.apply_revised hids hmem hcustomer _).symm
  | deleteDocument _ => exact (Deed.apply_removed store.documents caller _).symm
  | createTemplate | deleteTemplate => rfl
  | updateTemplate =>
    show (replacing ..).documents = store.documents
    unfold replacing
    split <;> rfl
  | read hreads =>
    rw [documentAct?_of_reads hreads]
    rfl

theorem madeFor_template {row : TemplateRow}
    (h : store.Answered policy caller operation answer after)
    (hact : templateAct? operation answer = some (.made row)) : MadeFor caller row := by
  cases h with
  | createTemplate _ hrow htexts =>
    cases hact
    subst hrow
    obtain ⟨hid, hcustomer⟩ := TemplateRow.key_mem_texts
      (.create _ caller.freshId caller.customer caller.now)
    exact ⟨rfl, rfl, rfl, rfl, TemplateRow.settled_create _ _ _ _,
      textFault?_eq_none_iff.1 htexts _ hid, textFault?_eq_none_iff.1 htexts _ hcustomer⟩
  | updateTemplate _ hrevision =>
    rw [templateAct?, hrevision] at hact
    cases hact
  | deleteTemplate | createDocument | updateDocument | deleteDocument => cases hact
  | read hreads =>
    rw [templateAct?_of_reads hreads] at hact
    cases hact

theorem madeFor_document {row : DocumentRow}
    (h : store.Answered policy caller operation answer after)
    (hact : store.documentAct? policy caller operation answer = some (.made row)) :
    MadeFor caller row := by
  cases h with
  | createDocument hrow htexts =>
    cases hact
    subst hrow
    obtain ⟨hid, hcustomer⟩ := DocumentRow.key_mem_texts
      (.create _ caller.freshId caller.customer caller.now)
    exact ⟨rfl, rfl, rfl, rfl, DocumentRow.settled_create _ _ _ _,
      textFault?_eq_none_iff.1 htexts _ hid, textFault?_eq_none_iff.1 htexts _ hcustomer⟩
  | updateDocument _ hchanges =>
    rw [documentAct?, hchanges] at hact
    cases hact
  | createTemplate | updateTemplate | deleteTemplate | deleteDocument => cases hact
  | read hreads =>
    rw [documentAct?_of_reads hreads] at hact
    cases hact

end Store

/-- The ledger of the templates. -/
def templateLedger : Ledger TemplateRow TemplateRevision where
  table := Store.templates
  act? _ _ _ operation answer := Store.templateAct? operation answer
  table_empty := rfl
  table_storage _ _ := rfl
  table_answered := Store.templates_answered
  madeFor := Store.madeFor_template

/-- The ledger of the documents. -/
def documentLedger : Ledger DocumentRow ContentChanges where
  table := Store.documents
  act? := Store.documentAct?
  table_empty := rfl
  table_storage _ _ := rfl
  table_answered := Store.documents_answered
  madeFor := Store.madeFor_document

/-! ## Runs -/

namespace Ledger

variable {R Δ : Type} [Row R] [Revisable R Δ] (ledger : Ledger R Δ)

/-- The deed that a step of a run did, if it is a call that is answered. -/
def deed? (store : Store) : Turn → Option (Deed R Δ)
  | ⟨policy, .call caller operation⟩ =>
    match (store.run policy caller operation).outcome.result with
    | .ok answer => (ledger.act? store policy caller operation answer).map (⟨caller, ·⟩)
    | .error _ => none
  | ⟨_, .storage _⟩ => none

/-- The deeds of a run. -/
def deeds : Store → List Turn → List (Deed R Δ)
  | _, [] => []
  | store, t :: turns => (ledger.deed? store t).toList ++ deeds (store.turn t) turns

/-- A step of a run does its deed, if it does one. -/
theorem table_turn {store : Store} (hids : ((ledger.table store).map Row.id).Nodup) (t : Turn) :
    ledger.table (store.turn t)
      = Deeds.replay (ledger.table store) (ledger.deed? store t).toList := by
  obtain ⟨policy, m⟩ := t
  cases m with
  | storage mode => exact ledger.table_storage store mode
  | call caller operation =>
    show ledger.table (store.run policy caller operation).store = _
    unfold deed?
    dsimp only
    cases hresult : (store.run policy caller operation).outcome.result with
    | error failure => exact congrArg ledger.table (Store.run_error hresult)
    | ok answer =>
      dsimp only
      rw [ledger.table_answered (Store.answered_of_ok hresult) hids]
      cases ledger.act? store policy caller operation answer <;> rfl

/-- A table is what its deeds come to. -/
theorem table_through (store : Store) (turns : List Turn)
    (hids : ((ledger.table store).map Row.id
      ++ (Deeds.made (ledger.deeds store turns)).map Row.id).Nodup) :
    ledger.table (store.through turns)
      = Deeds.replay (ledger.table store) (ledger.deeds store turns) := by
  induction turns generalizing store with
  | nil => rfl
  | cons t turns ih =>
    rw [deeds, Deeds.made_append, List.map_append, ← List.append_assoc] at hids
    have htable := ledger.table_turn (List.nodup_append.1 (List.nodup_append.1 hids).1).1 t
    show ledger.table ((store.turn t).through turns) = _
    rw [ih, htable, deeds, Deeds.replay, Deeds.replay, Deeds.replay, List.foldl_append]
    -- The deed adds no id that it did not give to a row.
    rw [htable]
    exact hids.sublist ((Deeds.ids_replay_sublist _ _).append (.refl _))

/-- A table that was empty holds the rows that its deeds made and did not remove. -/
theorem table_eq_survivors {turns : List Turn}
    (hids : ((Deeds.made (ledger.deeds .empty turns)).map Row.id).Nodup) :
    ledger.table (Store.empty.through turns) = Deeds.survivors (ledger.deeds .empty turns) := by
  rw [ledger.table_through, Deeds.replay_eq, ledger.table_empty]
  · rfl
  · rw [ledger.table_empty]
    exact hids

/-- A deed is done by a call. -/
theorem deed?_eq_some {store : Store} {t : Turn} {deed : Deed R Δ}
    (h : ledger.deed? store t = some deed) : ∃ operation answer,
      t.move = .call deed.caller operation
        ∧ store.Answered t.policy deed.caller operation answer (store.turn t)
        ∧ ledger.act? store t.policy deed.caller operation answer = some deed.act := by
  obtain ⟨policy, m⟩ := t
  cases m with
  | storage mode => cases h
  | call caller operation =>
    unfold deed? at h
    dsimp only at h
    cases hresult : (store.run policy caller operation).outcome.result with
    | error failure =>
      rw [hresult] at h
      cases h
    | ok answer =>
      rw [hresult] at h
      obtain ⟨act, hact, rfl⟩ := Option.map_eq_some_iff.1 h
      exact ⟨operation, answer, rfl, Store.answered_of_ok hresult, hact⟩

/-- Rows are made for those who call. -/
theorem genuine_deeds (store : Store) (turns : List Turn) :
    Deeds.Genuine (ledger.deeds store turns) := by
  induction turns generalizing store with
  | nil => exact fun _ hdeed => absurd hdeed List.not_mem_nil
  | cons t turns ih =>
    intro deed hdeed row hrow
    rcases List.mem_append.1 hdeed with hfirst | hlater
    · obtain ⟨operation, answer, -, hanswered, hact⟩ :=
        ledger.deed?_eq_some (Option.mem_toList.1 hfirst)
      refine ledger.madeFor hanswered (hact.trans ?_)
      obtain ⟨caller, act⟩ := deed
      cases act with
      | made _ =>
        cases hrow
        rfl
      | revised | removed => cases hrow
    · exact ih (store.turn t) deed hlater row hrow

end Ledger

/-- The clock reading of a step, if it is a call. -/
def Turn.time? : Turn → Option Instant
  | ⟨_, .call caller _⟩ => some caller.now
  | ⟨_, .storage _⟩ => none

/-- The deeds of a run are done at the clock readings of its calls. -/
theorem Ledger.times_deeds_sublist {R Δ : Type} [Row R] [Revisable R Δ] (ledger : Ledger R Δ)
    (store : Store) (turns : List Turn) :
    ((ledger.deeds store turns).map fun deed => deed.caller.now).Sublist
      (turns.filterMap Turn.time?) := by
  induction turns generalizing store with
  | nil => exact .refl _
  | cons t turns ih =>
    have htime : t.time?.toList ++ turns.filterMap Turn.time?
        = (t :: turns).filterMap Turn.time? := by
      rw [List.filterMap_cons]
      cases t.time? <;> rfl
    rw [deeds, List.map_append, ← htime]
    refine List.Sublist.append ?_ (ih (store.turn t))
    cases hdeed : ledger.deed? store t with
    | none => exact List.nil_sublist _
    | some deed =>
      obtain ⟨operation, _, hmove, -⟩ := ledger.deed?_eq_some hdeed
      obtain ⟨policy, m⟩ := t
      obtain rfl : m = .call deed.caller operation := hmove
      exact .refl _

/-- A run on the empty store with a clock that goes on, in which no id is given to two rows
of a kind. -/
structure Orderly (turns : List Turn) : Prop where
  times : (turns.filterMap Turn.time?).Pairwise (· < ·)
  templates : ((Deeds.made (templateLedger.deeds .empty turns)).map Row.id).Nodup
  documents : ((Deeds.made (documentLedger.deeds .empty turns)).map Row.id).Nodup

instance (turns : List Turn) : Decidable (Orderly turns) :=
  decidable_of_iff
    ((turns.filterMap Turn.time?).Pairwise (· < ·)
      ∧ ((Deeds.made (templateLedger.deeds .empty turns)).map Row.id).Nodup
      ∧ ((Deeds.made (documentLedger.deeds .empty turns)).map Row.id).Nodup)
    ⟨fun h => ⟨h.1, h.2.1, h.2.2⟩, fun h => ⟨h.times, h.templates, h.documents⟩⟩

/-- The deeds of an orderly run are done one after the other. -/
theorem Orderly.pairwise_deeds {turns : List Turn} (h : Orderly turns) {R Δ : Type} [Row R]
    [Revisable R Δ] (ledger : Ledger R Δ) :
    (ledger.deeds .empty turns).Pairwise fun a b => a.caller.now < b.caller.now := by
  rw [← List.pairwise_map (f := fun deed : Deed R Δ => deed.caller.now) (R := (· < ·))]
  exact h.times.sublist (ledger.times_deeds_sublist .empty turns)

end Formulary
