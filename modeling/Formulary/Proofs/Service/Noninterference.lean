import Formulary.Proofs.Service.Session

/-!
# Noninterference

What a customer is answered, and what becomes of the customer's rows, depends on
the customer's rows alone.  Two stores that hold the same rows of a customer are
told apart by no operation of the customer, and the operations of all others
leave these rows as they are.  So in a session of many customers each of them
gets the answers of the session that is left when the others' calls are taken
out.

The argument has two steps.

* `EqualFor.seenAlike`: where a customer has the same rows, every look-up and
  every list of the customer is the same, whatever the order of the tables.  A plan
  is made of such look-ups and lists only.
* `EqualFor.run` and `EqualFor.run_other` are the steps of a session, and
  `answers_concerning` is the induction over it.
-/

namespace Formulary.Store

variable {customer : Text} {s t : Store}

/-! ## The same rows of a customer -/

/-- Two stores in one mode that hold the same rows of a customer, in whatever order
their tables keep them. -/
structure SameFor (customer : Text) (s t : Store) : Prop where
  mode : s.mode = t.mode
  templates : (Table.own customer s.templates).Perm (Table.own customer t.templates)
  documents : (Table.own customer s.documents).Perm (Table.own customer t.documents)

/-- A customer's rows in a store are told apart by their ids and by the times at
which they were made. -/
structure DistinctFor (customer : Text) (s : Store) : Prop where
  templates : Table.Distinct (Table.own customer s.templates)
  documents : Table.Distinct (Table.own customer s.documents)

/-- Two stores in one mode that hold the same rows of a customer, each told apart
from the others. -/
structure EqualFor (customer : Text) (s t : Store) : Prop where
  same : SameFor customer s t
  distinct : DistinctFor customer s

instance (customer : Text) (s t : Store) : Decidable (EqualFor customer s t) :=
  decidable_of_iff
    ((s.mode = t.mode
        ∧ (Table.own customer s.templates).Perm (Table.own customer t.templates)
        ∧ (Table.own customer s.documents).Perm (Table.own customer t.documents))
      ∧ Table.Distinct (Table.own customer s.templates)
      ∧ Table.Distinct (Table.own customer s.documents))
    ⟨fun h => ⟨⟨h.1.1, h.1.2.1, h.1.2.2⟩, h.2.1, h.2.2⟩,
      fun h => ⟨⟨h.same.mode, h.same.templates, h.same.documents⟩,
        h.distinct.templates, h.distinct.documents⟩⟩

theorem EqualFor.seenAlike (h : EqualFor customer s t) : SeenAlike customer s t where
  down := by rw [h.same.mode]
  template? id := Table.find?_congr h.distinct.templates h.same.templates id
  document? id := Table.find?_congr h.distinct.documents h.same.documents id
  templatesOf := Table.newestFirst_congr h.distinct.templates h.same.templates
  documentsOf := Table.newestFirst_congr h.distinct.documents h.same.documents

/-! ## One operation -/

/-- One change of the customer's leaves the same rows of the customer in both
stores. -/
theorem SameFor.apply (h : SameFor customer s t) {change : Change}
    (htemplates : ∀ w, change.templateWrite? = some w → w.customer = customer)
    (hdocuments : ∀ w, change.documentWrite? = some w → w.customer = customer) :
    SameFor customer (s.apply change) (t.apply change) where
  mode := by rw [mode_apply, mode_apply, h.mode]
  templates := by
    rw [templates_apply, templates_apply]
    cases hw : change.templateWrite? with
    | none => exact h.templates
    | some w =>
      obtain rfl := htemplates w hw
      show (Table.own _ (w.apply _)).Perm (Table.own _ (w.apply _))
      rw [Table.own_apply, Table.own_apply]
      exact Table.perm_apply w h.templates
  documents := by
    rw [documents_apply, documents_apply]
    cases hw : change.documentWrite? with
    | none => exact h.documents
    | some w =>
      obtain rfl := hdocuments w hw
      show (Table.own _ (w.apply _)).Perm (Table.own _ (w.apply _))
      rw [Table.own_apply, Table.own_apply]
      exact Table.perm_apply w h.documents

/-- Two stores with the same rows of a customer answer an operation of the
customer alike, and have the same rows of the customer after it. -/
theorem EqualFor.run {caller : Caller} (h : EqualFor caller.customer s t) (policy : Policy)
    (operation : Operation) :
    (s.run policy caller operation).outcome = (t.run policy caller operation).outcome
      ∧ SameFor caller.customer (s.run policy caller operation).store
        (t.run policy caller operation).store := by
  unfold Store.run
  rw [← h.seenAlike.plan_eq]
  obtain ⟨houtcome, hstores⟩ := perform_congr h.same.mode (s.plan policy caller operation)
  refine ⟨houtcome, ?_⟩
  rcases hstores with ⟨hs, ht⟩ | ⟨p, change, hplan, hchange, hs, ht⟩
  · rw [hs, ht]
    exact h.same
  · rw [hs, ht]
    have heffect := effect_of_plan hplan hchange
    exact h.same.apply (fun w hw => (heffect.templateWrite hw).customer_eq)
      fun w hw => (heffect.documentWrite hw).customer_eq

/-- The rows of a customer stay apart through an operation of the customer that is
given a new id and a new time. -/
theorem DistinctFor.run {caller : Caller} {operation : Operation}
    (h : DistinctFor caller.customer s) (policy : Policy) (hfresh : s.Fresh caller operation) :
    DistinctFor caller.customer (s.run policy caller operation).store where
  templates := (templates_run s policy caller operation).distinct h.templates
    (fun row hrow => hfresh.id.1 row (Table.mem_own.1 hrow).1) hfresh.templateTime
  documents := (documents_run s policy caller operation).distinct h.documents
    (fun row hrow => hfresh.id.2 row (Table.mem_own.1 hrow).1) hfresh.documentTime

/-- An operation of another customer changes nothing for a customer. -/
theorem EqualFor.run_other {caller : Caller} (h : EqualFor customer s t)
    (hne : caller.customer ≠ customer) (policy : Policy) (operation : Operation) :
    EqualFor customer (s.run policy caller operation).store t where
  same := {
    mode := (mode_run s policy caller operation).trans h.same.mode
    templates := by
      rw [(templates_run s policy caller operation).own_of_ne hne]
      exact h.same.templates
    documents := by
      rw [(documents_run s policy caller operation).own_of_ne hne]
      exact h.same.documents }
  distinct := {
    templates := by
      rw [(templates_run s policy caller operation).own_of_ne hne]
      exact h.distinct.templates
    documents := by
      rw [(documents_run s policy caller operation).own_of_ne hne]
      exact h.distinct.documents }

/-! ## Sessions -/

theorem EqualFor.storage (h : EqualFor customer s t) (policy : Policy) (mode : StorageMode) :
    EqualFor customer (s.move policy (.storage mode)) (t.move policy (.storage mode)) where
  same := ⟨rfl, h.same.templates, h.same.documents⟩
  distinct := ⟨h.distinct.templates, h.distinct.documents⟩

/-- A customer is answered in a session what the customer is answered when the
calls of all others are taken out of it, and is left with the same rows.  The
induction is on the session; what carries it is that both stores hold the same
rows of the customer at every point. -/
theorem answers_concerning (policy : Policy) (moves : List Move) (h : EqualFor customer s t)
    (hfresh : s.FreshFor policy customer moves) :
    (s.answers policy moves).filter (fun answer => answer.1 = customer)
        = t.answers policy (moves.filter (Move.concerns customer))
      ∧ EqualFor customer (s.after policy moves)
        (t.after policy (moves.filter (Move.concerns customer))) := by
  induction moves generalizing s t with
  | nil => exact ⟨rfl, h⟩
  | cons m moves ih =>
    cases m with
    | storage mode => exact ih (h.storage policy mode) hfresh
    | call caller operation =>
      obtain ⟨hcall, hrest⟩ := hfresh
      by_cases hcaller : caller.customer = customer
      · subst hcaller
        obtain ⟨houtcome, hsame⟩ := h.run policy operation
        have hdistinct := h.distinct.run policy (hcall rfl)
        obtain ⟨hanswers, hafter⟩ := ih ⟨hsame, hdistinct⟩ hrest
        simp only [answers, Move.concerns, List.filter_cons, decide_true, if_true, houtcome]
        exact ⟨congrArg _ hanswers, hafter⟩
      · obtain ⟨hanswers, hafter⟩ := ih (h.run_other hcaller policy operation) hrest
        simp only [answers, Move.concerns, List.filter_cons, hcaller, decide_false,
          Bool.false_eq_true, if_false]
        exact ⟨hanswers, hafter⟩

/-- What a customer is answered, and which rows the customer has afterwards, does
not depend on the rows and the operations of other customers.  This is said of
one operation of the customer on two stores, of one operation of another
customer, and of a session in which many customers take turns. -/
theorem noninterference (policy : Policy) (customer : Text) :
    (∀ (s t : Store) (caller : Caller) (operation : Operation), caller.customer = customer →
      EqualFor customer s t →
      (s.run policy caller operation).outcome = (t.run policy caller operation).outcome
        ∧ SameFor customer (s.run policy caller operation).store
          (t.run policy caller operation).store
        ∧ (s.Fresh caller operation →
          EqualFor customer (s.run policy caller operation).store
            (t.run policy caller operation).store))
    ∧ (∀ (s : Store) (caller : Caller) (operation : Operation), caller.customer ≠ customer →
      Table.own customer (s.run policy caller operation).store.templates
          = Table.own customer s.templates
        ∧ Table.own customer (s.run policy caller operation).store.documents
          = Table.own customer s.documents
        ∧ (∀ row ∈ (s.run policy caller operation).store.templates, row ∉ s.templates →
          row.customer = caller.customer)
        ∧ ∀ row ∈ (s.run policy caller operation).store.documents, row ∉ s.documents →
          row.customer = caller.customer)
    ∧ ∀ (s t : Store) (moves : List Move), EqualFor customer s t →
      s.FreshFor policy customer moves →
      (s.answers policy moves).filter (fun answer => answer.1 = customer)
          = t.answers policy (moves.filter (Move.concerns customer))
        ∧ EqualFor customer (s.after policy moves)
          (t.after policy (moves.filter (Move.concerns customer))) := by
  refine ⟨?_, ?_, ?_⟩
  · rintro s t caller operation rfl h
    obtain ⟨houtcome, hsame⟩ := h.run policy operation
    exact ⟨houtcome, hsame, fun hfresh => ⟨hsame, h.distinct.run policy hfresh⟩⟩
  · intro s caller operation hne
    have htemplates := templates_run s policy caller operation
    have hdocuments := documents_run s policy caller operation
    exact ⟨htemplates.own_of_ne hne, hdocuments.own_of_ne hne,
      fun row hrow hnew => htemplates.customer_of_mem hrow hnew,
      fun row hrow hnew => hdocuments.customer_of_mem hrow hnew⟩
  · intro s t moves h hfresh
    exact answers_concerning policy moves h hfresh

/-- Two customers share a store.  One creates a document and lists the documents while
the other, who tries to delete the first one's document and creates one under the same
name, is never noticed. -/
theorem noninterference_two_customers :
    let policy : Policy := ⟨false, true⟩
    let mine (id : Text) (time : Instant) : DocumentRow :=
      ⟨id, ⟨"Offer", "1", [], [], []⟩, "a", time, time⟩
    let theirs : DocumentRow := ⟨"4", ⟨"Offer", "1", [], [], []⟩, "b", 2, 2⟩
    let s : Store := ⟨[], [theirs, mine "2" 2, mine "3" 3], .normal⟩
    let t : Store := ⟨[], [mine "3" 3, mine "2" 2], .normal⟩
    let payload : Value := .object [("name", .str "Bill"), ("templateId", .str "1")]
    let create (customer id : Text) (time : Instant) : Move :=
      .call ⟨customer, time, id⟩ (.createDocument false payload)
    let moves : List Move := [.call ⟨"b", 5, "5"⟩ (.deleteDocument (some "2")),
      create "a" "5" 5, create "b" "6" 5, .storage .readOnly, create "a" "7" 6,
      .call ⟨"a", 7, "8"⟩ .listDocuments]
    EqualFor "a" s t ∧ s.FreshFor policy "a" moves
      ∧ (s.run policy ⟨"a", 5, "5"⟩ (.createDocument false payload)).outcome
        = (t.run policy ⟨"a", 5, "5"⟩ (.createDocument false payload)).outcome
      ∧ Table.own "a" (s.run policy ⟨"b", 5, "5"⟩ (.deleteDocument (some "2"))).store.documents
        = Table.own "a" s.documents
      ∧ (s.answers policy moves).filter (fun answer => answer.1 = ("a" : Text))
        = t.answers policy (moves.filter (Move.concerns "a")) := by
  intro policy mine theirs s t payload create moves
  have h : EqualFor "a" s t := by decide +kernel
  have hfresh : s.FreshFor policy "a" moves := by decide +kernel
  obtain ⟨own, others, sessions⟩ := noninterference policy "a"
  exact ⟨h, hfresh, (own s t ⟨"a", 5, "5"⟩ _ rfl h).1,
    (others s ⟨"b", 5, "5"⟩ _ (by decide)).2.1, (sessions s t moves h hfresh).1⟩

end Formulary.Store
