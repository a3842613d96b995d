import Formulary.Checked.Reader
import Formulary.Template.View

/-!
# Attributes that may be left out

An attribute that a payload may leave out is read from the value that its spelling leads to:
null where there is none.

* `supplied_eq_absent_iff`, `supplied_eq_null_iff` and `supplied_eq_value_iff` are the three
  cases, for any reader.
* `supplied_eq_ok_iff` and `exists_supplied_iff` put them together for readers that take just
  what some values look like.
-/

namespace Formulary

namespace Attribute

variable {α : Type} {a : Attribute} {reader : Reader α} {members : Entries Value}

/-- The spelling of the wire counts first. -/
theorem find?_of_wire {v : Value} (h : members.get? a.wire = some v) :
    a.find? members = some (a.wire, v) := by
  unfold find?
  rw [h]

theorem supplied_eq_absent_iff :
    a.supplied reader members = .ok .absent ↔ a.find? members = none := by
  unfold supplied
  split <;> simp_all [Checked.map_eq_ok_iff]

theorem supplied_eq_null_iff :
    a.supplied reader members = .ok .null ↔ ∃ name, a.find? members = some (name, .null) := by
  unfold supplied
  split <;> simp_all [Checked.map_eq_ok_iff]

theorem supplied_eq_value_iff {x : α} :
    a.supplied reader members = .ok (.value x)
      ↔ ∃ name v, a.find? members = some (name, v) ∧ v ≠ .null ∧ reader v = .ok x := by
  unfold supplied
  split
  · simp_all
  · rename_i name v hnull hfind
    simp only [Checked.map_eq_ok_iff, Checked.within_eq_ok_iff, Supplied.value.injEq,
      exists_eq_right, hfind, Option.some.injEq, Prod.mk.injEq]
    constructor
    · exact fun hread => ⟨name, v, ⟨rfl, rfl⟩, hnull, hread⟩
    · rintro ⟨_, _, ⟨rfl, rfl⟩, -, hread⟩
      exact hread
  · simp_all

/-- A value that an attribute supplies is read from its value. -/
theorem read_of_supplied {x : α} (h : a.supplied reader members = .ok (.value x)) :
    reader (a.read members) = .ok x := by
  obtain ⟨name, v, hfind, -, hread⟩ := supplied_eq_value_iff.1 h
  unfold read
  rw [hfind]
  exact hread

section

variable {toValue : α → Value} (hreader : ∀ {v x}, reader v = .ok x ↔ v = toValue x)
  (hnull : ∀ x, toValue x ≠ .null)

include hreader hnull

/-- What is supplied for an attribute is what its value looks like, null where there is
none. -/
theorem supplied_eq_ok_iff {s : Supplied α} :
    a.supplied reader members = .ok s
      ↔ a.read members = (s.toOption.map toValue).getD .null
        ∧ (a.find? members).isSome = s.isSupplied := by
  cases s with
  | absent =>
    rw [supplied_eq_absent_iff]
    unfold read
    cases a.find? members <;> simp [Supplied.toOption, Supplied.isSupplied]
  | null =>
    rw [supplied_eq_null_iff]
    unfold read
    rcases a.find? members with _ | ⟨name, v⟩ <;> simp [Supplied.toOption, Supplied.isSupplied]
  | value x =>
    rw [supplied_eq_value_iff]
    unfold read
    rcases a.find? members with _ | ⟨name, v⟩
    · simp [Supplied.isSupplied]
    · simp only [hreader, Option.some.injEq, Prod.mk.injEq, Option.map_some, Option.getD_some,
        Option.isSome_some, Supplied.toOption, Supplied.isSupplied, and_true]
      constructor
      · rintro ⟨_, _, ⟨rfl, rfl⟩, -, hv⟩
        exact hv
      · rintro rfl
        exact ⟨name, _, ⟨rfl, rfl⟩, hnull x, rfl⟩

/-- Something is supplied for an attribute exactly when its value is null or looks like
something. -/
theorem exists_supplied_iff :
    (∃ s, a.supplied reader members = .ok s)
      ↔ a.read members = .null ∨ ∃ x, a.read members = toValue x := by
  simp only [supplied_eq_ok_iff hreader hnull]
  constructor
  · rintro ⟨s, hread, -⟩
    cases hs : s.toOption with
    | none => exact .inl (by rw [hread, hs]; rfl)
    | some x => exact .inr ⟨x, by rw [hread, hs]; rfl⟩
  · unfold read
    rcases a.find? members with _ | ⟨name, v⟩
    · exact fun _ => ⟨.absent, rfl, rfl⟩
    · rintro (hv | ⟨x, hv⟩)
      · exact ⟨.null, hv, rfl⟩
      · exact ⟨.value x, hv, rfl⟩

end

end Attribute

end Formulary
