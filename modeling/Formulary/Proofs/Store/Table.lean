import Formulary.Store.Basic
import Mathlib.Data.List.Nodup

/-!
# Tables

The two tables of a store are kept, looked up and written in the same way, so
what is true of both is stated once, for rows of any type that have an id, a
customer and a time at which they were made.  `templates_apply` and
`documents_apply` bring a change of the store back to one write of a table.

There are five groups.

* A customer's own rows.  `own_apply_of_ne` says that a write leaves the rows of
  every other customer as they are, and `own_apply` that among the customer's
  own rows it does what it does in the whole table.
* Who writes what.  `Write.MadeBy` is the form of the writes that operations
  make, and `Step` is what an operation does to a table.  `Step.own_of_ne` and
  `Step.customer_of_mem` say that it is done to the customer's rows alone.
* Rows told apart.  `Distinct` is the invariant behind look-ups and lists, and
  `Step.distinct` says when an operation keeps it.
* Look-ups.  `find?_eq_some_iff` describes the row that is found by what it is,
  not by where it stands, and `find?_congr` is what follows for two tables.
* Lists.  `newestFirst_congr` says that the order of a list does not depend on
  the order of the table, since no two rows were made at the same time.
-/

namespace Formulary

/-- What rows of both tables have. -/
class Row (R : Type) where
  id : R → Text
  customer : R → Text
  createdAt : R → Instant

instance : Row TemplateRow := ⟨TemplateRow.id, TemplateRow.customer, TemplateRow.createdAt⟩

instance : Row DocumentRow := ⟨DocumentRow.id, DocumentRow.customer, DocumentRow.createdAt⟩

namespace Table

variable {R : Type} [Row R]

/-- The row is the one with an id, and belongs to a customer. -/
def isAt (row : R) (id customer : Text) : Bool :=
  Row.id row = id && Row.customer row = customer

/-- A customer's rows. -/
def own (customer : Text) (rows : List R) : List R :=
  rows.filter fun row => Row.customer row = customer

/-- A customer's row with an id. -/
def find? (rows : List R) (id customer : Text) : Option R :=
  rows.find? (isAt · id customer)

/-- Rows in the order in which they are listed. -/
def newestFirst (rows : List R) : List R :=
  rows.mergeSort fun a b => Row.createdAt b ≤ Row.createdAt a

/-- One write to a table. -/
inductive Write (R : Type) where
  | insert (row : R)
  | replace (row : R)
  | remove (id customer : Text)

namespace Write

/-- The customer whose rows a write is about. -/
def customer : Write R → Text
  | insert row | replace row => Row.customer row
  | remove _ customer => customer

/-- A table after a write. -/
def apply (rows : List R) : Write R → List R
  | insert row => rows ++ [row]
  | replace row => rows.map fun r => if isAt r (Row.id row) (Row.customer row) then row else r
  | remove id customer => rows.filter fun r => !isAt r id customer

/-- The row that a write puts into the table, if it puts one. -/
def written? : Write R → Option R
  | insert row | replace row => some row
  | remove _ _ => none

end Write

theorem isAt_iff {row : R} {id customer : Text} :
    isAt row id customer = true ↔ Row.id row = id ∧ Row.customer row = customer := by
  simp [isAt]

theorem mem_own {customer : Text} {rows : List R} {row : R} :
    row ∈ own customer rows ↔ row ∈ rows ∧ Row.customer row = customer := by
  simp [own]

/-- What is in a table after a write was there before or has been written. -/
theorem mem_apply {w : Write R} {rows : List R} {row : R} (h : row ∈ w.apply rows) :
    row ∈ rows ∨ w.written? = some row := by
  cases w with
  | insert new =>
    rcases List.mem_append.1 h with hold | hnew
    · exact .inl hold
    · rw [List.mem_singleton] at hnew
      exact .inr (hnew ▸ rfl)
  | replace new =>
    obtain ⟨r, hr, hrow⟩ := List.mem_map.1 h
    split at hrow
    · exact .inr (hrow ▸ rfl)
    · exact .inl (hrow ▸ hr)
  | remove id customer => exact .inl (List.mem_filter.1 h).1

/-- A row that is replaced has the id that it had before. -/
theorem ids_apply_replace (rows : List R) (row : R) :
    (Write.apply rows (.replace row)).map Row.id = rows.map Row.id := by
  rw [Write.apply, List.map_map]
  refine List.map_congr_left fun r _ => ?_
  show Row.id (if isAt r _ _ then row else r) = Row.id r
  split
  · rename_i hat
    exact (isAt_iff.1 hat).1.symm
  · rfl

/-- What is true of every row and of what is written, if anything is, is true of every
row after it. -/
theorem forall_mem_apply {p : R → Prop} {w? : Option (Write R)} {rows : List R}
    (hrows : ∀ row ∈ rows, p row)
    (hwritten : ∀ w row, w? = some w → w.written? = some row → p row) :
    ∀ row ∈ (w?.map fun w => w.apply rows).getD rows, p row := by
  intro row hrow
  cases w? with
  | none => exact hrows row hrow
  | some w =>
    rcases mem_apply hrow with hold | hnew
    · exact hrows row hold
    · exact hwritten w row rfl hnew

/-! ## A customer's own rows -/

/-- A replaced row has the customer that it had before. -/
theorem customer_replaced (row r : R) :
    Row.customer (if isAt r (Row.id row) (Row.customer row) then row else r)
      = Row.customer r := by
  split
  · rename_i hat
    exact (isAt_iff.1 hat).2.symm
  · rfl

/-- A write leaves the rows of every other customer as they are. -/
theorem own_apply_of_ne {w : Write R} {customer : Text} (h : w.customer ≠ customer)
    (rows : List R) : own customer (w.apply rows) = own customer rows := by
  cases w with
  | insert row =>
    have hrow : Row.customer row ≠ customer := h
    simp [own, Write.apply, hrow]
  | replace row =>
    have hrow : Row.customer row ≠ customer := h
    unfold own
    rw [Write.apply, List.filter_map]
    have hsame : ∀ r ∈ rows.filter fun r => Row.customer r = customer,
        (if isAt r (Row.id row) (Row.customer row) then row else r) = r := by
      intro r hr
      rw [if_neg]
      intro hat
      have hr' : Row.customer r = customer := by simpa using (List.mem_filter.1 hr).2
      exact hrow ((isAt_iff.1 hat).2.symm.trans hr')
    have hfilter : (fun r : R => decide (Row.customer r = customer)) ∘
        (fun r => if isAt r (Row.id row) (Row.customer row) then row else r)
          = fun r => decide (Row.customer r = customer) := by
      funext r
      show decide (Row.customer (if isAt r _ _ then row else r) = customer) = _
      rw [customer_replaced]
    rw [hfilter, List.map_congr_left hsame, List.map_id']
  | remove id other =>
    have hother : other ≠ customer := h
    unfold own
    rw [Write.apply, List.filter_filter]
    refine List.filter_congr fun r _ => ?_
    by_cases hr : Row.customer r = customer
    · have hat : isAt r id other = false := by
        rw [Bool.eq_false_iff]
        intro hat
        exact hother ((isAt_iff.1 hat).2.symm.trans hr)
      simp [hr, hat]
    · simp [hr]

/-- Among the rows of its customer a write does what it does in the whole
table. -/
theorem own_apply (w : Write R) (rows : List R) :
    own w.customer (w.apply rows) = w.apply (own w.customer rows) := by
  cases w with
  | insert row => simp [own, Write.apply, Write.customer]
  | replace row =>
    simp only [own, Write.apply, Write.customer]
    rw [List.filter_map]
    congr 1
    refine List.filter_congr fun r _ => ?_
    rw [Function.comp_apply, customer_replaced]
  | remove id customer =>
    simp only [own, Write.apply, Write.customer]
    rw [List.filter_filter, List.filter_filter]
    exact List.filter_congr fun r _ => Bool.and_comm ..

/-- Tables with the same rows have the same rows after a write. -/
theorem perm_apply (w : Write R) {rows rows' : List R} (h : rows.Perm rows') :
    (w.apply rows).Perm (w.apply rows') := by
  cases w with
  | insert row => exact h.append_right _
  | replace row => exact h.map _
  | remove id customer => exact h.filter _

/-! ## Who writes what -/

/-- A write as operations make it: what it inserts is a row of the customer with
a given id and time, and only an operation that creates inserts; what it replaces
is a row of the customer that keeps its id and time; and what it removes belongs
to the customer. -/
def Write.MadeBy (creating : Prop) (customer id : Text) (time : Instant) (rows : List R) :
    Write R → Prop
  | insert row =>
    creating ∧ Row.customer row = customer ∧ Row.id row = id ∧ Row.createdAt row = time
  | replace row =>
    Row.customer row = customer ∧ ∃ old ∈ rows, isAt old (Row.id row) customer
      ∧ Row.createdAt old = Row.createdAt row
  | remove _ owner => owner = customer

section MadeBy

variable {creating : Prop} {customer id : Text} {time : Instant} {rows rows' : List R}

theorem Write.MadeBy.customer_eq {w : Write R} (h : w.MadeBy creating customer id time rows) :
    w.customer = customer := by
  cases w with
  | insert row => exact h.2.1
  | replace row => exact h.1
  | remove _ owner => exact h

/-- The row that is replaced is one of the customer's own. -/
theorem Write.MadeBy.own {w : Write R} (h : w.MadeBy creating customer id time rows) :
    w.MadeBy creating customer id time (own customer rows) := by
  cases w with
  | insert row => exact h
  | replace row =>
    obtain ⟨hrow, old, hold, hat, htime⟩ := h
    exact ⟨hrow, old, mem_own.2 ⟨hold, (isAt_iff.1 hat).2⟩, hat, htime⟩
  | remove _ owner => exact h

/-- A table after an operation of a customer, who was given an id and a time: it is
as it was, or one write of the customer further. -/
inductive Step (creating : Prop) (customer id : Text) (time : Instant) (rows : List R) :
    List R → Prop
  | same : Step creating customer id time rows rows
  | write (w : Write R) (h : w.MadeBy creating customer id time rows) :
      Step creating customer id time rows (w.apply rows)

/-- What is in a table after an operation and was not there before belongs to the
customer. -/
theorem Step.customer_of_mem (h : Step creating customer id time rows rows') {row : R}
    (hrow : row ∈ rows') (hnew : row ∉ rows) : Row.customer row = customer := by
  cases h with
  | same => exact absurd hrow hnew
  | write w h =>
    cases w with
    | insert new =>
      rcases List.mem_append.1 hrow with hold | hnew'
      · exact absurd hold hnew
      · rw [List.mem_singleton] at hnew'
        exact hnew' ▸ h.2.1
    | replace new =>
      obtain ⟨r, hr, rfl⟩ := List.mem_map.1 hrow
      split at hnew
      · rename_i hat
        rw [if_pos hat]
        exact h.1
      · exact absurd hr hnew
    | remove _ owner => exact absurd (List.mem_filter.1 hrow).1 hnew

/-- An operation leaves the rows of every other customer as they are. -/
theorem Step.own_of_ne (h : Step creating customer id time rows rows') {other : Text}
    (hne : customer ≠ other) : own other rows' = own other rows := by
  cases h with
  | same => rfl
  | write w h => exact own_apply_of_ne (h.customer_eq ▸ hne) rows

/-- The ids after an operation are those before, less what was removed, and at most the
one that was given. -/
theorem Step.ids_sublist (h : Step creating customer id time rows rows') :
    (rows'.map Row.id).Sublist (rows.map Row.id ++ [id]) := by
  cases h with
  | same => exact List.sublist_append_left _ _
  | write w h =>
    cases w with
    | insert row =>
      rw [Write.apply, List.map_append, List.map_singleton, h.2.2.1]
    | replace row =>
      rw [ids_apply_replace]
      exact List.sublist_append_left _ _
    | remove removed owner =>
      have hsub : (Write.apply rows (.remove removed owner)).Sublist rows := List.filter_sublist
      exact (hsub.map _).trans (List.sublist_append_left _ _)

end MadeBy

/-! ## Rows told apart -/

/-- No two rows have the same id, and no two were made at the same time. -/
structure Distinct (rows : List R) : Prop where
  ids : (rows.map Row.id).Nodup
  times : (rows.map Row.createdAt).Nodup

/-- No row has an id. -/
def IdUnused (rows : List R) (id : Text) : Prop := ∀ row ∈ rows, Row.id row ≠ id

/-- No row was made at a time. -/
def TimeUnused (rows : List R) (time : Instant) : Prop := ∀ row ∈ rows, Row.createdAt row ≠ time

instance (rows : List R) : Decidable (Distinct rows) :=
  decidable_of_iff ((rows.map Row.id).Nodup ∧ (rows.map Row.createdAt).Nodup)
    ⟨fun h => ⟨h.1, h.2⟩, fun h => ⟨h.ids, h.times⟩⟩

instance (rows : List R) (id : Text) : Decidable (IdUnused rows id) :=
  inferInstanceAs (Decidable (∀ row ∈ rows, Row.id row ≠ id))

instance (rows : List R) (time : Instant) : Decidable (TimeUnused rows time) :=
  inferInstanceAs (Decidable (∀ row ∈ rows, Row.createdAt row ≠ time))

theorem Distinct.perm {rows rows' : List R} (h : Distinct rows) (hperm : rows.Perm rows') :
    Distinct rows' where
  ids := (hperm.map _).nodup_iff.1 h.ids
  times := (hperm.map _).nodup_iff.1 h.times

/-- Rows with the same id are the same row. -/
theorem Distinct.eq_of_id {rows : List R} (h : Distinct rows) {a b : R} (ha : a ∈ rows)
    (hb : b ∈ rows) (hid : Row.id a = Row.id b) : a = b :=
  List.inj_on_of_nodup_map h.ids ha hb hid

/-- Rows made at the same time are the same row. -/
theorem Distinct.eq_of_time {rows : List R} (h : Distinct rows) {a b : R} (ha : a ∈ rows)
    (hb : b ∈ rows) (htime : Row.createdAt a = Row.createdAt b) : a = b :=
  List.inj_on_of_nodup_map h.times ha hb htime

theorem nodup_map_append_singleton {α β : Type} {f : α → β} {l : List α} {a : α}
    (hl : (l.map f).Nodup) (ha : ∀ b ∈ l, f b ≠ f a) : ((l ++ [a]).map f).Nodup := by
  rw [List.map_append, List.nodup_append]
  refine ⟨hl, by simp, ?_⟩
  intro x hx y hy hxy
  obtain ⟨b, hb, rfl⟩ := List.mem_map.1 hx
  rw [List.map_singleton, List.mem_singleton] at hy
  exact ha b hb (hxy.trans hy)

/-- A write keeps rows apart if what it inserts has an id and a time of its
own. -/
theorem Distinct.apply {creating : Prop} {customer id : Text} {time : Instant} {rows : List R}
    {w : Write R} (h : Distinct rows) (hw : w.MadeBy creating customer id time rows)
    (hid : IdUnused rows id) (htime : creating → TimeUnused rows time) :
    Distinct (w.apply rows) := by
  cases w with
  | insert row =>
    obtain ⟨hcreating, -, rfl, rfl⟩ := hw
    exact ⟨nodup_map_append_singleton h.ids hid,
      nodup_map_append_singleton h.times (htime hcreating)⟩
  | replace row =>
    obtain ⟨hcustomer, old, hold, hat, hmade⟩ := hw
    -- Only `old` is replaced, so neither the ids nor the times change.
    have hsame : ∀ r ∈ rows, isAt r (Row.id row) (Row.customer row) = true → r = old := by
      intro r hr hrat
      exact h.eq_of_id hr hold ((isAt_iff.1 hrat).1.trans (isAt_iff.1 hat).1.symm)
    have hids := ids_apply_replace rows row
    have htimes : (Write.apply rows (.replace row)).map Row.createdAt
        = rows.map Row.createdAt := by
      rw [Write.apply, List.map_map]
      refine List.map_congr_left fun r hr => ?_
      show Row.createdAt (if isAt r _ _ then row else r) = Row.createdAt r
      split
      · rename_i hrat
        rw [hsame r hr hrat, hmade]
      · rfl
    exact ⟨hids ▸ h.ids, htimes ▸ h.times⟩
  | remove removed owner =>
    have hsub : (Write.apply rows (.remove removed owner)).Sublist rows := List.filter_sublist
    exact ⟨h.ids.sublist (hsub.map _), h.times.sublist (hsub.map _)⟩

/-- A customer's own rows stay apart when the customer is given an id that is new
and, for a new row, a time that is. -/
theorem Step.distinct {creating : Prop} {customer id : Text} {time : Instant}
    {rows rows' : List R} (h : Step creating customer id time rows rows')
    (hdistinct : Distinct (own customer rows)) (hid : IdUnused (own customer rows) id)
    (htime : creating → TimeUnused (own customer rows) time) : Distinct (own customer rows') := by
  cases h with
  | same => exact hdistinct
  | write w h =>
    have happly : own customer (w.apply rows) = w.apply (own customer rows) := by
      have := own_apply w rows
      rwa [h.customer_eq] at this
    rw [happly]
    exact hdistinct.apply h.own hid htime

/-! ## Look-ups -/

theorem of_find?_eq_some {rows : List R} {id customer : Text} {row : R}
    (h : find? rows id customer = some row) :
    row ∈ rows ∧ Row.id row = id ∧ Row.customer row = customer := by
  unfold find? at h
  have hat := List.find?_some h
  exact ⟨List.mem_of_find?_eq_some h, isAt_iff.1 hat⟩

theorem find?_own (rows : List R) (id customer : Text) :
    find? (own customer rows) id customer = find? rows id customer := by
  unfold find? own
  rw [List.find?_filter]
  congr 1
  funext r
  by_cases hr : Row.customer r = customer <;> simp [isAt, hr]

/-- Where no two rows have one id, a row is found by its own. -/
theorem find?_of_mem {rows : List R} (hids : (rows.map Row.id).Nodup) {row : R}
    (hrow : row ∈ rows) : find? rows (Row.id row) (Row.customer row) = some row := by
  cases hfind : find? rows (Row.id row) (Row.customer row) with
  | none => exact absurd (isAt_iff.2 ⟨rfl, rfl⟩) (List.find?_eq_none.1 hfind row hrow)
  | some other =>
    obtain ⟨hmem, hother, -⟩ := of_find?_eq_some hfind
    rw [List.inj_on_of_nodup_map hids hmem hrow hother]

/-- A row is found exactly when it is among the rows and is the one asked for. -/
theorem find?_eq_some_iff {rows : List R} (h : Distinct rows) {id customer : Text} {row : R} :
    find? rows id customer = some row
      ↔ row ∈ rows ∧ Row.id row = id ∧ Row.customer row = customer := by
  constructor
  · exact of_find?_eq_some
  · rintro ⟨hrow, rfl, rfl⟩
    exact find?_of_mem h.ids hrow

/-- Where a customer has the same rows, the same row is found. -/
theorem find?_congr {rows rows' : List R} {customer : Text} (h : Distinct (own customer rows))
    (hperm : (own customer rows).Perm (own customer rows')) (id : Text) :
    find? rows id customer = find? rows' id customer := by
  rw [← find?_own rows, ← find?_own rows']
  refine Option.ext fun row => ?_
  rw [find?_eq_some_iff h, find?_eq_some_iff (h.perm hperm), hperm.mem_iff]

/-! ## Lists -/

/-- Rows are listed by the times at which they were made. -/
theorem pairwise_newestFirst (rows : List R) :
    (newestFirst rows).Pairwise fun a b => Row.createdAt b ≤ Row.createdAt a := by
  have hpair : (newestFirst rows).Pairwise fun a b : R =>
      decide (Row.createdAt b ≤ Row.createdAt a) = true := by
    refine List.pairwise_mergeSort (fun a b c hab hbc => ?_) (fun a b => ?_) rows
    · rw [decide_eq_true_eq] at hab hbc ⊢
      exact Nat.le_trans hbc hab
    · rw [Bool.or_eq_true, decide_eq_true_eq, decide_eq_true_eq]
      exact Nat.le_total _ _
  simpa only [decide_eq_true_eq] using hpair

/-- Rows made at different times are listed in one order only. -/
theorem newestFirst_congr {rows rows' : List R} (h : Distinct rows) (hperm : rows.Perm rows') :
    newestFirst rows = newestFirst rows' := by
  have hmem {l : List R} {a : R} (ha : a ∈ newestFirst l) : a ∈ l :=
    (List.mergeSort_perm l _).mem_iff.1 ha
  refine List.Perm.eq_of_pairwise (fun a b ha hb hab hba => ?_)
    (pairwise_newestFirst rows) (pairwise_newestFirst rows') ?_
  · exact h.eq_of_time (hmem ha) (hperm.mem_iff.2 (hmem hb)) (Nat.le_antisymm hba hab)
  · exact ((List.mergeSort_perm rows _).trans hperm).trans (List.mergeSort_perm rows' _).symm

end Table

/-! ## The tables of a store -/

namespace Change

/-- The write that a change makes to the table of templates. -/
def templateWrite? : Change → Option (Table.Write TemplateRow)
  | insertTemplate row => some (.insert row)
  | replaceTemplate row => some (.replace row)
  | removeTemplate id customer => some (.remove id customer)
  | _ => none

/-- The write that a change makes to the table of documents. -/
def documentWrite? : Change → Option (Table.Write DocumentRow)
  | insertDocument row => some (.insert row)
  | replaceDocument row => some (.replace row)
  | removeDocument id customer => some (.remove id customer)
  | _ => none

end Change

namespace Store

theorem templates_apply (store : Store) (change : Change) :
    (store.apply change).templates
      = (change.templateWrite?.map fun w => w.apply store.templates).getD store.templates := by
  cases change <;> rfl

theorem documents_apply (store : Store) (change : Change) :
    (store.apply change).documents
      = (change.documentWrite?.map fun w => w.apply store.documents).getD store.documents := by
  cases change <;> rfl

end Store

end Formulary
