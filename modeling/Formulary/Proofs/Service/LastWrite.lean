import Formulary.Proofs.Service.Ledger

/-!
# The last write of each attribute

What a row holds at the end of a run is told by the deeds of the run.  Its id, its
customer and the time of its creation are those of the call that made it, its last update
is the last call that changed it, and each other attribute holds what was written over
the value that it was made with.  Nothing else touches the row.

What is written over a value is not always what is left: a value that is alike to the one
that it is written over is dropped.  So the last value that was supplied is left as long
as no value was alike to the one before without being the same, as texts never are.

* `LastWrites` is what is said of one row.  `Ledger.lastWrites` finds it for every row of
  a table.
* `documents_run_of_template` and `templates_run_of_document` say that operations on one
  kind of rows leave the other kind as it is.
* `rows_hold_last_writes` puts both together, and `last_write_dropped` is a run in which
  the last value is not the one that is left.
-/

namespace Formulary

/-- What has become of a row that was made by a call, after later deeds. -/
structure LastWrites {R Δ : Type} [Row R] [Revisable R Δ] (caller : Caller) (made : R)
    (later : List (Deed R Δ)) (row : R) : Prop where
  id : Row.id row = caller.freshId
  customer : Row.customer row = caller.customer
  createdAt : Row.createdAt row = caller.now
  /-- No deed of the owner removed the row. -/
  left : Deeds.remove caller.freshId caller.customer later = false
  /-- The last update is the last change by the owner, or the creation. -/
  updatedAt : Revisable.updatedAt row
    = ((Deeds.changes caller.freshId caller.customer later).getLast?.map Prod.snd).getD caller.now
  createdAt_le : Row.createdAt row ≤ Revisable.updatedAt row
  /-- An attribute holds what the owner has written over the value that it was made with. -/
  value : ∀ a ∈ Revisable.writable R, valueOf (Revisable.attributes row) a
    = (valueOf (Revisable.attributes made) a).afterWrites
      (Revisable.suppliedFor R a (Deeds.changes caller.freshId caller.customer later))
  /-- Where values are told apart, it is the last one that the owner has supplied. -/
  value_of_decisive : ∀ a ∈ Revisable.writable R,
    (valueOf (Revisable.attributes made) a).Decisive
      (Revisable.suppliedFor R a (Deeds.changes caller.freshId caller.customer later)) →
    valueOf (Revisable.attributes row) a
      = ((Revisable.suppliedFor R a (Deeds.changes caller.freshId caller.customer
        later)).getLast?.map Value.settled).getD (valueOf (Revisable.attributes made) a)
  /-- Texts always are. -/
  decisive : ∀ a ∈ Revisable.texts R, (valueOf (Revisable.attributes made) a).Decisive
    (Revisable.suppliedFor R a (Deeds.changes caller.freshId caller.customer later))

/-- A change is one of the deeds. -/
theorem Deeds.exists_of_mem_changes {R Δ : Type} {deeds : List (Deed R Δ)} {id customer : Text}
    {change : Δ × Instant} (h : change ∈ changes id customer deeds) :
    ∃ deed ∈ deeds, deed.caller.now = change.2 := by
  obtain ⟨⟨caller, act⟩, hdeed, hchange⟩ := List.mem_filterMap.1 h
  refine ⟨⟨caller, act⟩, hdeed, ?_⟩
  cases act with
  | revised i δ =>
    unfold Deed.change? at hchange
    dsimp only at hchange
    split at hchange
    · cases hchange
      rfl
    · cases hchange
  | made | removed => cases hchange

/-- A row that was made for a call and is left by later deeds holds their last writes. -/
theorem lastWrites_of_fate {R Δ : Type} [Row R] [Revisable R Δ] {caller : Caller} {made row : R}
    {later : List (Deed R Δ)} (hmade : MadeFor caller made)
    (hlater : ∀ deed ∈ later, caller.now < deed.caller.now)
    (hfate : Deeds.fate later made = some row) : LastWrites caller made later row := by
  rw [Deeds.fate_eq, hmade.id, hmade.customer] at hfate
  split at hfate
  · cases hfate
  · rename_i hleft
    obtain rfl := Option.some.inj hfate
    let changes := Deeds.changes caller.freshId caller.customer later
    obtain ⟨hid, hcustomer, hcreated⟩ := Revisable.identity_reviseAll made changes
    have hupdated := Revisable.updatedAt_reviseAll made changes
    rw [hmade.updatedAt] at hupdated
    have hvalue {a : Attribute} (ha : a ∈ Revisable.writable R) :=
      Revisable.value_reviseAll hmade.settled changes ha
    constructor
    · exact hid.trans hmade.id
    · exact hcustomer.trans hmade.customer
    · exact hcreated.trans hmade.createdAt
    · exact Bool.eq_false_iff.2 hleft
    · exact hupdated
    · rw [hupdated, hcreated, hmade.createdAt]
      cases hlast : changes.getLast? with
      | none => exact Nat.le_refl _
      | some change =>
        obtain ⟨deed, hdeed, htime⟩ := Deeds.exists_of_mem_changes (List.mem_of_getLast? hlast)
        show caller.now ≤ change.2
        rw [← htime]
        exact Nat.le_of_lt (hlater deed hdeed)
    · exact fun a ha => hvalue ha
    · intro a ha hdecisive
      rw [hvalue ha, Value.afterWrites_eq_last hdecisive]
    · exact fun a ha => Revisable.decisive_of_mem_texts made changes ha

/-- Every row at the end of an orderly run was made by a deed, and holds the last writes of
the later ones. -/
theorem Ledger.lastWrites {R Δ : Type} [Row R] [Revisable R Δ] (ledger : Ledger R Δ)
    {turns : List Turn} (horderly : Orderly turns)
    (hids : ((Deeds.made (ledger.deeds .empty turns)).map Row.id).Nodup) {row : R}
    (hrow : row ∈ ledger.table (Store.empty.through turns)) :
    ∃ before caller made later,
      ledger.deeds .empty turns = before ++ ⟨caller, .made made⟩ :: later
        ∧ LastWrites caller made later row := by
  rw [ledger.table_eq_survivors hids] at hrow
  obtain ⟨before, caller, made, later, hdeeds, hfate⟩ := Deeds.mem_survivors_iff.1 hrow
  have hmem : (⟨caller, .made made⟩ : Deed R Δ) ∈ ledger.deeds .empty turns := by
    rw [hdeeds]
    exact List.mem_append_right _ List.mem_cons_self
  have hlater : ∀ deed ∈ later, caller.now < deed.caller.now := by
    have htimes := horderly.pairwise_deeds ledger
    rw [hdeeds] at htimes
    exact (List.pairwise_cons.1 (List.pairwise_append.1 htimes).2.1).1
  exact ⟨before, caller, made, later, hdeeds,
    lastWrites_of_fate (ledger.genuine_deeds .empty turns _ hmem made rfl) hlater hfate⟩

namespace Store

/-- An operation on templates leaves the documents as they are. -/
theorem documents_run_of_template (store : Store) (policy : Policy) (caller : Caller)
    {operation : Operation} (h : operation.entity = .template) :
    (store.run policy caller operation).store.documents = store.documents := by
  rcases run_store store policy caller operation with hsame | ⟨change, heffect, hrun⟩
  · rw [hsame]
  · rw [hrun]
    cases heffect with
    | createTemplate | updateTemplate | deleteTemplate => rfl
    | createDocument | updateDocument | deleteDocument => cases h

/-- An operation on documents leaves the templates as they are. -/
theorem templates_run_of_document (store : Store) (policy : Policy) (caller : Caller)
    {operation : Operation} (h : operation.entity = .document) :
    (store.run policy caller operation).store.templates = store.templates := by
  rcases run_store store policy caller operation with hsame | ⟨change, heffect, hrun⟩
  · rw [hsame]
  · rw [hrun]
    cases heffect with
    | createTemplate | updateTemplate | deleteTemplate => cases h
    | createDocument | updateDocument | deleteDocument => rfl

end Store

/-- What every row holds at the end of an orderly run of any customers, under any policies,
with failures and in any modes of the storage: the last writes of its owner.  Operations on
one kind of rows never touch the other kind. -/
theorem rows_hold_last_writes (turns : List Turn) (h : Orderly turns) :
    (∀ row ∈ (Store.empty.through turns).templates, ∃ before caller made later,
      templateLedger.deeds .empty turns = before ++ ⟨caller, .made made⟩ :: later
        ∧ LastWrites caller made later row)
    ∧ (∀ row ∈ (Store.empty.through turns).documents, ∃ before caller made later,
      documentLedger.deeds .empty turns = before ++ ⟨caller, .made made⟩ :: later
        ∧ LastWrites caller made later row)
    ∧ ∀ (store : Store) policy caller operation,
      let after := (store.run policy caller operation).store
      (operation.entity = .template → after.documents = store.documents)
        ∧ (operation.entity = .document → after.templates = store.templates) :=
  ⟨fun _ hrow => templateLedger.lastWrites h h.templates hrow,
    fun _ hrow => documentLedger.lastWrites h h.documents hrow,
    fun store policy caller _ => ⟨store.documents_run_of_template policy caller,
      store.templates_run_of_document policy caller⟩⟩

/-- A template after two revisions by its owner, and a failed one by another customer in
between.  The name that was null is not supplied, the description is taken away, and the
group that was null is empty. -/
theorem rows_hold_last_writes_of_revisions :
    let policy : Policy := ⟨false, true⟩
    let field : Value := .object [("name", .str "n"), ("type", .str "text")]
    let revise (customer : Text) (now : Instant) (payload : Entries Value) : Turn :=
      ⟨policy, .call ⟨customer, now, "3"⟩ (.updateTemplate (some "1") (.object payload))⟩
    let turns : List Turn := [
      ⟨policy, .call ⟨"a", 1, "1"⟩ (.createTemplate (.object [("name", .str "T"),
        ("contactFields", .list [field])]))⟩,
      ⟨policy, .call ⟨"b", 2, "2"⟩ (.createDocument true (.object [("name", .str "d"),
        ("templateId", .str "1")]))⟩,
      revise "a" 3 [("name", .null), ("description", .str "first"), ("contactFields", .null)],
      revise "b" 4 [("name", .str "U")],
      revise "a" 5 [("description", .null)]]
    let row : TemplateRow := ⟨"1", "T", none, none, ⟨.list [], .list [], .list []⟩, "a", 1, 5⟩
    Orderly turns ∧ row ∈ (Store.empty.through turns).templates
      ∧ ∃ before caller made later,
        templateLedger.deeds .empty turns = before ++ ⟨caller, .made made⟩ :: later
          ∧ LastWrites caller made later row := by
  intro policy field revise turns row
  have h : Orderly turns := by decide +kernel
  have hrow : row ∈ (Store.empty.through turns).templates := by decide +kernel
  exact ⟨h, hrow, (rows_hold_last_writes turns h).1 row hrow⟩

/-- A document is updated from one to true: the last value that was supplied is alike to the
one that it is written over, and is not the one that is left. -/
theorem last_write_dropped :
    let policy : Policy := ⟨false, true⟩
    let turns : List Turn := [
      ⟨policy, .call ⟨"a", 1, "1"⟩ (.createDocument true (.object [("name", .str "d"),
        ("templateId", .str "t"), ("objectVariables", .object [("n", .int 1)])]))⟩,
      ⟨policy, .call ⟨"a", 2, "2"⟩ (.updateDocument true (some "1")
        (.object [("objectVariables", .object [("n", .bool true)])]))⟩]
    let made : DocumentRow := ⟨"1", ⟨"d", "t", [("n", .int 1)], [], []⟩, "a", 1, 1⟩
    let changes : ContentChanges := ⟨none, none, some [("n", .bool true)], none, none⟩
    let row : DocumentRow := { made with updatedAt := 2 }
    Orderly turns
      ∧ documentLedger.deeds .empty turns
        = [⟨⟨"a", 1, "1"⟩, .made made⟩, ⟨⟨"a", 2, "2"⟩, .revised "1" changes⟩]
      ∧ (Store.empty.through turns).documents = [row]
      ∧ Revisable.suppliedFor DocumentRow FieldGroup.object.variableGroup [(changes, 2)]
        = [.object [("n", .bool true)]]
      ∧ valueOf row.attributes FieldGroup.object.variableGroup = .object [("n", .int 1)] := by
  decide +kernel

end Formulary
