import Formulary.Json.Reader
import Mathlib.Data.List.Induction

/-!
# Names in objects

An object whose names are different loses nothing when it is put together anew from its
members.  A value that is read from a JSON text has only such objects in it, since the
reader keeps one member for each name.

* `Entries.ofList_of_nodup` and `Entries.mem_ofList` say what putting together does.
* `Value.WellNamed` says of a value that all objects in it have different names.
* `Json.wellNamed_of_read` is the result, by induction on the fuel of the reader.
-/

namespace Formulary

namespace Entries

variable {α : Type}

theorem mem_put {entries : Entries α} {k : Text} {a : α} {entry : Text × α}
    (h : entry ∈ put entries k a) : entry ∈ entries ∨ entry = (k, a) := by
  induction entries with
  | nil => exact .inr (List.mem_singleton.1 h)
  | cons first rest ih =>
    obtain ⟨name, b⟩ := first
    unfold put at h
    split at h
    · rename_i hname
      rcases List.mem_cons.1 h with rfl | hrest
      · exact .inr (by rw [hname])
      · exact .inl (List.mem_cons_of_mem _ hrest)
    · rcases List.mem_cons.1 h with rfl | hrest
      · exact .inl List.mem_cons_self
      · exact (ih hrest).imp_left (List.mem_cons_of_mem _)

theorem ofList_append_singleton (pairs : List (Text × α)) (pair : Text × α) :
    ofList (pairs ++ [pair]) = put (ofList pairs) pair.1 pair.2 :=
  List.foldl_append

/-- Entries are taken from the list. -/
theorem mem_ofList {pairs : List (Text × α)} {entry : Text × α} (h : entry ∈ ofList pairs) :
    entry ∈ pairs := by
  induction pairs using List.reverseRecOn with
  | nil => exact h
  | append_singleton pairs pair ih =>
    rw [ofList_append_singleton] at h
    rcases mem_put h with hold | hnew
    · exact List.mem_append_left _ (ih hold)
    · exact List.mem_append_right _ (List.mem_singleton.2 hnew)

/-- A list without a repeated name is kept as it is. -/
theorem ofList_of_nodup {pairs : List (Text × α)} (h : (keys pairs).Nodup) :
    ofList pairs = pairs := by
  induction pairs using List.reverseRecOn with
  | nil => rfl
  | append_singleton pairs pair ih =>
    rw [keys, List.map_append, List.nodup_append] at h
    obtain ⟨hpairs, -, hdisjoint⟩ := h
    have hnew : pair.1 ∉ keys pairs := fun hmem =>
      hdisjoint pair.1 hmem pair.1 (List.mem_singleton_self pair.1) rfl
    rw [ofList_append_singleton, ih hpairs, put_of_not_mem hnew]

end Entries

namespace Value

mutual

/-- The names of every object in a value are different. -/
def WellNamed : Value → Prop
  | .list items => WellNamedItems items
  | .object members => (Entries.keys members).Nodup ∧ WellNamedMembers members
  | _ => True

/-- The names of every object in a list of values are different. -/
def WellNamedItems : List Value → Prop
  | [] => True
  | v :: vs => WellNamed v ∧ WellNamedItems vs

/-- The names of every object in the values of members are different. -/
def WellNamedMembers : List (Text × Value) → Prop
  | [] => True
  | (_, v) :: ms => WellNamed v ∧ WellNamedMembers ms

end

theorem wellNamed_list {items : List Value} :
    (list items).WellNamed ↔ ∀ v ∈ items, v.WellNamed := by
  rw [WellNamed]
  induction items with
  | nil => simp [WellNamedItems]
  | cons v vs ih => rw [WellNamedItems, ih, List.forall_mem_cons]

theorem wellNamed_object {members : Entries Value} :
    (object members).WellNamed ↔ members.keys.Nodup ∧ ∀ m ∈ members, m.2.WellNamed := by
  rw [WellNamed]
  refine and_congr_right' ?_
  induction members with
  | nil => simp [WellNamedMembers]
  | cons m ms ih =>
    obtain ⟨k, v⟩ := m
    rw [WellNamedMembers, ih, List.forall_mem_cons]

end Value

namespace Json

theorem bind_eq_ok_iff {α β : Type} {x : Except Stop α} {f : α → Except Stop β} {b : β} :
    x >>= f = .ok b ↔ ∃ a, x = .ok a ∧ f a = .ok b := by
  cases x with
  | error stop => simp [bind, Except.bind]
  | ok a => simp [bind, Except.bind]

theorem wellNamed_constant? {s rest : List CodePoint} {v : Value}
    (h : constant? s = some (v, rest)) : v.WellNamed := by
  obtain ⟨⟨name, w⟩, hmem, hfound⟩ := List.exists_of_findSome?_eq_some h
  dsimp only at hfound
  split at hfound
  · cases hfound
    simp only [constants, List.mem_cons, Prod.mk.injEq, List.not_mem_nil, or_false] at hmem
    rcases hmem with ⟨-, rfl⟩ | ⟨-, rfl⟩ | ⟨-, rfl⟩ | ⟨-, rfl⟩ | ⟨-, rfl⟩ | ⟨-, rfl⟩ <;> trivial
  · cases hfound

theorem wellNamed_readNumber {before rest : List CodePoint} {v : Value}
    (h : readNumber before = .ok (v, rest)) : v.WellNamed := by
  unfold readNumber at h
  dsimp only at h
  split at h
  · cases h
  · split at h
    · split at h
      · cases h
      · cases h
        trivial
    · cases h
      trivial

/-- What some fuel lets read is well-named: a value, the items of a list, and the values
of members. -/
structure ReadsWellNamed (fuel : Nat) : Prop where
  value : ∀ {depth s v rest}, readValue fuel depth s = .ok (v, rest) → v.WellNamed
  items : ∀ {depth s vs rest}, readItems fuel depth s = .ok (vs, rest) → ∀ v ∈ vs, v.WellNamed
  members : ∀ {depth s ms rest}, readMembers fuel depth s = .ok (ms, rest) →
    ∀ m ∈ ms, m.2.WellNamed

namespace ReadsWellNamed

variable {fuel depth : Nat} {s rest : List CodePoint}

theorem value_succ (ih : ReadsWellNamed fuel) {v : Value}
    (h : readValue (fuel + 1) depth s = .ok (v, rest)) : v.WellNamed := by
  unfold readValue at h
  split at h
  · obtain ⟨⟨t, _⟩, -, h⟩ := bind_eq_ok_iff.1 h
    cases h
    trivial
  · split at h
    · cases h
    · split at h
      · cases h
        exact Value.wellNamed_list.2 (by simp)
      · obtain ⟨⟨items, _⟩, hread, h⟩ := bind_eq_ok_iff.1 h
        cases h
        exact Value.wellNamed_list.2 (ih.items hread)
  · split at h
    · cases h
    · split at h
      · cases h
        exact Value.wellNamed_object.2 ⟨by simp [Entries.keys], by simp⟩
      · obtain ⟨⟨members, _⟩, hread, h⟩ := bind_eq_ok_iff.1 h
        cases h
        exact Value.wellNamed_object.2 ⟨Entries.nodup_keys_ofList members,
          fun m hm => ih.members hread m (Entries.mem_ofList hm)⟩
  · split at h
    · rename_i hfound
      cases h
      exact wellNamed_constant? hfound
    · exact wellNamed_readNumber h

theorem items_succ (ih : ReadsWellNamed fuel) {vs : List Value}
    (h : readItems (fuel + 1) depth s = .ok (vs, rest)) : ∀ v ∈ vs, v.WellNamed := by
  unfold readItems at h
  obtain ⟨⟨v, _⟩, hv, h⟩ := bind_eq_ok_iff.1 h
  dsimp only at h
  split at h
  · cases h
    exact List.forall_mem_singleton.2 (ih.value hv)
  · obtain ⟨⟨vs, _⟩, hvs, h⟩ := bind_eq_ok_iff.1 h
    cases h
    exact List.forall_mem_cons.2 ⟨ih.value hv, ih.items hvs⟩
  · cases h

theorem members_succ (ih : ReadsWellNamed fuel) {ms : List (Text × Value)}
    (h : readMembers (fuel + 1) depth s = .ok (ms, rest)) : ∀ m ∈ ms, m.2.WellNamed := by
  unfold readMembers at h
  split at h
  · obtain ⟨⟨name, _⟩, -, h⟩ := bind_eq_ok_iff.1 h
    dsimp only at h
    split at h
    · obtain ⟨⟨v, _⟩, hv, h⟩ := bind_eq_ok_iff.1 h
      dsimp only at h
      split at h
      · cases h
        exact List.forall_mem_singleton.2 (ih.value hv)
      · obtain ⟨⟨ms, _⟩, hms, h⟩ := bind_eq_ok_iff.1 h
        cases h
        exact List.forall_mem_cons.2 ⟨ih.value hv, ih.members hms⟩
      · cases h
    · cases h
  · cases h

end ReadsWellNamed

theorem readsWellNamed (fuel : Nat) : ReadsWellNamed fuel := by
  induction fuel with
  | zero =>
    constructor
    · intro depth s v rest h
      cases h
    · intro depth s vs rest h
      cases h
    · intro depth s ms rest h
      cases h
  | succ fuel ih => exact ⟨ih.value_succ, ih.items_succ, ih.members_succ⟩

/-- The objects in a value that is read have different names. -/
theorem wellNamed_of_read {text : Text} {v : Value} (h : read text = .ok v) : v.WellNamed := by
  unfold read at h
  dsimp only at h
  split at h
  · rename_i w hread
    cases h
    obtain ⟨⟨v, rest⟩, hvalue, hrest⟩ := bind_eq_ok_iff.1 hread
    dsimp only at hrest
    split at hrest
    · cases hrest
      exact (readsWellNamed _).value hvalue
    · cases hrest
  all_goals cases h

end Json

end Formulary
