import Formulary.Proofs.Template.Stored
import Formulary.Proofs.Value.Names

/-!
# Values that can be sent

What becomes of a value in an answer.  A value has an answer when its texts and names have
a UTF-8 form; the numbers in it that are not finite are left out of the answer, and all
else is as it was, as long as no object has a name twice.

* Parts.  `Value.induct` is the induction on a value by its parts, and the lemmas that
  end in `_list` and `_object` say what a property of all parts comes to.
* `Value.Sendable` says that nothing stands in the way of sending a value; with `special`
  numbers that are not finite are let pass.
* `Value.answered?_of_sendable` says what is sent, and `Value.nulled_of_isFinite` that this
  is the value itself when all its numbers are finite.
-/

namespace Formulary

/-- A name with a UTF-8 form is sent as it is. -/
theorem Text.replaced_of_isEncodable {t : Text} (h : t.isEncodable) :
    Text.ofString t.replaced = t := by
  obtain ⟨s, rfl⟩ := (Text.isEncodable_iff t).1 h
  rw [Text.replaced_ofString]

namespace Value

/-! ## Parts -/

/-- What is true of a list or an object as soon as it is true of its parts, and of all
that has no parts, is true of every value. -/
@[elab_as_elim]
theorem induct {p : Value → Prop} (null : p .null) (bool : ∀ b, p (.bool b))
    (int : ∀ n, p (.int n)) (float : ∀ x, p (.float x)) (str : ∀ s, p (.str s))
    (list : ∀ items, (∀ v ∈ items, p v) → p (.list items))
    (object : ∀ members : Entries Value, (∀ m ∈ members, p m.2) → p (.object members)) :
    ∀ v, p v :=
  @Value.rec p (fun items => ∀ v ∈ items, p v) (fun members => ∀ m ∈ members, p m.2)
    (fun m => p m.2) null bool int float str list object
    (by simp) (fun _ _ hv hvs => List.forall_mem_cons.2 ⟨hv, hvs⟩)
    (by simp) (fun _ _ hm hms => List.forall_mem_cons.2 ⟨hm, hms⟩) (fun _ _ h => h)

theorem isEncodable_list {items : List Value} :
    (list items).isEncodable ↔ ∀ v ∈ items, v.isEncodable := by
  rw [isEncodable]
  induction items with
  | nil => simp [isEncodableItems]
  | cons v vs ih => rw [isEncodableItems, Bool.and_eq_true, ih, List.forall_mem_cons]

theorem isEncodable_object {members : Entries Value} :
    (object members).isEncodable ↔ ∀ m ∈ members, m.1.isEncodable ∧ m.2.isEncodable := by
  rw [isEncodable]
  induction members with
  | nil => simp [isEncodableMembers]
  | cons m ms ih =>
    obtain ⟨k, v⟩ := m
    rw [isEncodableMembers, Bool.and_eq_true, Bool.and_eq_true, ih, List.forall_mem_cons]

theorem isFinite_list {items : List Value} :
    (list items).isFinite ↔ ∀ v ∈ items, v.isFinite := by
  rw [isFinite]
  induction items with
  | nil => simp [isFiniteItems]
  | cons v vs ih => rw [isFiniteItems, Bool.and_eq_true, ih, List.forall_mem_cons]

theorem isFinite_object {members : Entries Value} :
    (object members).isFinite ↔ ∀ m ∈ members, m.2.isFinite := by
  rw [isFinite]
  induction members with
  | nil => simp [isFiniteMembers]
  | cons m ms ih =>
    obtain ⟨k, v⟩ := m
    rw [isFiniteMembers, Bool.and_eq_true, ih, List.forall_mem_cons]

/-! ## Sending -/

/-- Nothing stands in the way of sending a value: all texts in it have a UTF-8 form, its
objects have different names, and its numbers are finite, unless special ones are let
pass. -/
structure Sendable (special : Bool) (v : Value) : Prop where
  encodable : v.isEncodable
  finite : special = false → v.isFinite
  wellNamed : v.WellNamed

variable {special : Bool}

@[simp] theorem sendable_null : null.Sendable special := ⟨rfl, fun _ => rfl, trivial⟩

@[simp] theorem sendable_bool (b : Bool) : (bool b).Sendable special := ⟨rfl, fun _ => rfl, trivial⟩

@[simp] theorem sendable_int (n : Int) : (int n).Sendable special := ⟨rfl, fun _ => rfl, trivial⟩

@[simp] theorem sendable_float {x : Binary64} :
    (float x).Sendable special ↔ (special = false → x.isFinite) :=
  ⟨fun h => h.finite, fun h => ⟨rfl, h, trivial⟩⟩

@[simp] theorem sendable_str {s : Text} : (str s).Sendable special ↔ s.isEncodable :=
  ⟨fun h => h.encodable, fun h => ⟨h, fun _ => rfl, trivial⟩⟩

@[simp] theorem sendable_ofText? {t : Option Text} :
    (ofText? t).Sendable special ↔ ∀ s ∈ t, s.isEncodable := by
  cases t with
  | none => simp [ofText?]
  | some s => simp [ofText?]

theorem sendable_list {items : List Value} :
    (list items).Sendable special ↔ ∀ v ∈ items, v.Sendable special := by
  constructor
  · intro h v hv
    exact ⟨isEncodable_list.1 h.encodable v hv, fun hs => isFinite_list.1 (h.finite hs) v hv,
      wellNamed_list.1 h.wellNamed v hv⟩
  · intro h
    exact ⟨isEncodable_list.2 fun v hv => (h v hv).encodable,
      fun hs => isFinite_list.2 fun v hv => (h v hv).finite hs,
      wellNamed_list.2 fun v hv => (h v hv).wellNamed⟩

theorem sendable_object {members : Entries Value} :
    (object members).Sendable special
      ↔ members.keys.Nodup ∧ ∀ m ∈ members, m.1.isEncodable ∧ m.2.Sendable special := by
  constructor
  · intro h
    obtain ⟨hnames, hmembers⟩ := wellNamed_object.1 h.wellNamed
    refine ⟨hnames, fun m hm => ?_⟩
    obtain ⟨hname, hvalue⟩ := isEncodable_object.1 h.encodable m hm
    exact ⟨hname, hvalue, fun hs => isFinite_object.1 (h.finite hs) m hm, hmembers m hm⟩
  · rintro ⟨hnames, h⟩
    exact ⟨isEncodable_object.2 fun m hm => ⟨(h m hm).1, (h m hm).2.encodable⟩,
      fun hs => isFinite_object.2 fun m hm => (h m hm).2.finite hs,
      wellNamed_object.2 ⟨hnames, fun m hm => (h m hm).2.wellNamed⟩⟩

@[simp] theorem sendable_list_nil : (list []).Sendable special :=
  sendable_list.2 fun _ hv => absurd hv List.not_mem_nil

@[simp] theorem sendable_object_nil : (object []).Sendable special :=
  sendable_object.2 ⟨List.nodup_nil, fun _ hm => absurd hm List.not_mem_nil⟩

theorem sendable_texts {ts : List Text} :
    (list (ts.map str)).Sendable special ↔ ∀ t ∈ ts, t.isEncodable := by
  simp [sendable_list]

/-- What could be sent can be sent still when it has been in a JSON text. -/
theorem Sendable.settled {v : Value} (h : v.Sendable special) : v.settled.Sendable special := by
  induction v using induct with
  | null | bool _ | int _ | str _ => exact h
  | float x =>
    cases x with
    | finite _ _ _ | infinite _ => exact h
    | nan _ =>
      have hspecial := sendable_float.1 h
      exact sendable_float.2 hspecial
  | list items ih =>
    rw [settled_list, sendable_list, List.forall_mem_map]
    exact fun v hv => ih v hv (sendable_list.1 h v hv)
  | object members ih =>
    obtain ⟨hnames, hmembers⟩ := sendable_object.1 h
    rw [settled_object, sendable_object, Entries.keys_mapValues]
    refine ⟨hnames, List.forall_mem_map.2 fun m hm => ?_⟩
    exact ⟨(hmembers m hm).1, ih m hm (hmembers m hm).2⟩

/-! ## Answers -/

mutual

/-- A value with null in the place of every number that is not finite. -/
def nulled : Value → Value
  | .float x => if x.isFinite then .float x else .null
  | .list items => .list (nulledItems items)
  | .object members => .object (nulledMembers members)
  | v => v

/-- The values of a list with null in the place of such numbers. -/
def nulledItems : List Value → List Value
  | [] => []
  | v :: vs => nulled v :: nulledItems vs

/-- The members of an object with null in the place of such numbers. -/
def nulledMembers : List (Text × Value) → List (Text × Value)
  | [] => []
  | (k, v) :: ms => (k, nulled v) :: nulledMembers ms

end

theorem nulledItems_eq_map (items : List Value) : nulledItems items = items.map nulled := by
  induction items with
  | nil => rfl
  | cons v vs ih => rw [nulledItems, ih, List.map_cons]

theorem nulledMembers_eq_mapValues (members : Entries Value) :
    nulledMembers members = members.mapValues nulled := by
  induction members with
  | nil => rfl
  | cons m ms ih =>
    obtain ⟨k, v⟩ := m
    rw [nulledMembers, ih]
    rfl

/-- A value whose numbers are finite is sent as it is. -/
theorem nulled_of_isFinite {v : Value} (h : v.isFinite) : v.nulled = v := by
  induction v using induct with
  | null | bool _ | int _ | str _ => rfl
  | float x => exact if_pos h
  | list items ih =>
    rw [nulled, nulledItems_eq_map]
    refine congrArg list ((List.map_congr_left fun v hv => ?_).trans (List.map_id items))
    exact ih v hv (isFinite_list.1 h v hv)
  | object members ih =>
    rw [nulled, nulledMembers_eq_mapValues]
    refine congrArg object ((List.map_congr_left fun m hm => ?_).trans (List.map_id members))
    exact congrArg (m.1, ·) (ih m hm (isFinite_object.1 h m hm))

theorem answeredItems?_eq {items : List Value} (h : ∀ v ∈ items, v.answered? = some v.nulled) :
    answeredItems? items = some (nulledItems items) := by
  induction items with
  | nil => rfl
  | cons v vs ih =>
    obtain ⟨hv, hvs⟩ := List.forall_mem_cons.1 h
    rw [answeredItems?, hv, ih hvs]
    rfl

theorem answeredMembers?_eq {members : Entries Value}
    (h : ∀ m ∈ members, m.1.isEncodable ∧ m.2.answered? = some m.2.nulled) :
    answeredMembers? members = some (nulledMembers members) := by
  induction members with
  | nil => rfl
  | cons m ms ih =>
    obtain ⟨k, v⟩ := m
    obtain ⟨⟨hk, hv⟩, hms⟩ := List.forall_mem_cons.1 h
    rw [answeredMembers?, hv, ih hms, Text.replaced_of_isEncodable hk]
    rfl

/-- What can be sent is sent, with null in the place of the numbers that are not finite. -/
theorem answered?_of_sendable {v : Value} (h : v.Sendable special) :
    v.answered? = some v.nulled := by
  induction v using induct with
  | null | bool _ | int _ => rfl
  | float x => rfl
  | str s => exact if_pos (sendable_str.1 h)
  | list items ih =>
    rw [answered?, answeredItems?_eq fun v hv => ih v hv (sendable_list.1 h v hv)]
    rfl
  | object members ih =>
    obtain ⟨hnames, hmembers⟩ := sendable_object.1 h
    have hsent : answeredMembers? members = some (nulledMembers members) :=
      answeredMembers?_eq fun m hm => ⟨(hmembers m hm).1, ih m hm (hmembers m hm).2⟩
    have hkeys : (Entries.keys (nulledMembers members)).Nodup := by
      rwa [nulledMembers_eq_mapValues, Entries.keys_mapValues]
    rw [answered?, hsent, nulled, Option.map_some, Entries.ofList_of_nodup hkeys]

end Value

end Formulary
