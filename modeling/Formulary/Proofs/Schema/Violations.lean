import Formulary.Schema.Check
import Formulary.Scalar

/-!
# What variables violate

When variables violate nothing of a schema.

* `PropertySchema.violations_eq_nil_iff` and `GroupSchema.violations_eq_nil_iff` say
  it for a value and for a group of values.
* `violations_settled` says that variables which violate nothing still violate
  nothing once they are kept in a JSON text.
-/

namespace Formulary

namespace PropertySchema

/-- A value violates nothing of its property exactly when it is of the type, is one
of the options, has the format and is not empty, each where it is asked for. -/
theorem violations_eq_nil_iff {p : PropertySchema} {v : Value} :
    p.violations v = []
      ↔ v.isOfType p.type = true
        ∧ (∀ options, p.options = some options → ∃ o ∈ options, o.same v = true)
        ∧ (∀ format s, p.format = some format → v = .str s → format.holds s = true)
        ∧ (p.nonEmpty = true → v ≠ .str "") := by
  unfold violations
  rw [List.append_eq_nil_iff, List.append_eq_nil_iff, List.append_eq_nil_iff, and_assoc, and_assoc]
  refine and_congr ?_ (and_congr ?_ (and_congr ?_ ?_))
  · unfold typeViolations
    split <;> simp [*]
  · unfold optionViolations
    cases p.options with
    | none => simp
    | some options => simp
  · unfold formatViolations
    split
    · rename_i format s hformat
      simp [hformat]
    · rename_i hnone
      simp only [true_iff]
      exact fun format s hformat hv => absurd hv (hnone format s hformat)
  · unfold lengthViolations
    simp

end PropertySchema

namespace GroupSchema

/-- Variables violate nothing of their schema exactly when those of its properties
that are given violate nothing and the required ones are given. -/
theorem violations_eq_nil_iff {g : GroupSchema} {members : Entries Value} :
    g.violations (.object members) = []
      ↔ (∀ property ∈ g.properties, ∀ v, members.get? property.1 = some v →
          property.2.violations v = [])
        ∧ ∀ name ∈ g.required, members.has name = true := by
  unfold violations propertyViolations missingViolations
  rw [List.append_eq_nil_iff]
  refine and_congr ?_ ?_
  · rw [List.flatMap_eq_nil_iff]
    refine forall₂_congr fun property _ => ?_
    obtain ⟨name, p⟩ := property
    dsimp only
    cases members.get? name with
    | none => simp
    | some v => simp
  · simp

end GroupSchema

/-! ## Variables in a JSON text -/

namespace Scalar

theorem isOfType_settled (a : Scalar) (type : SchemaType) :
    a.settled.toValue.isOfType type = a.toValue.isOfType type := by
  cases a with
  | float x => cases type <;> rfl
  | bool _ | int _ | str _ => rfl

theorem settled_toValue_eq_str_iff {a : Scalar} {s : Text} :
    a.settled.toValue = .str s ↔ a.toValue = .str s := by
  cases a <;> simp [settled, toValue]

/-- What means the same as a scalar still does when the scalar is kept: of what is
not a number only the shared one means the same as anything. -/
theorem same_settled {v : Value} {a : Scalar} (h : v.same a.toValue = true) :
    v.same a.settled.toValue = true := by
  cases a with
  | bool _ | int _ | str _ => exact h
  | float x =>
    cases x with
    | finite _ _ _ | infinite _ => exact h
    | nan shared =>
      cases v with
      | float y =>
        cases y with
        | nan shared' =>
          have hboth : (shared' && shared) = true := h
          rw [Bool.and_eq_true] at hboth
          rw [hboth.1]
          rfl
        | finite _ _ _ | infinite _ => exact absurd h Bool.false_ne_true
      | null | bool _ | int _ | str _ | list _ | object _ => exact absurd h Bool.false_ne_true

end Scalar

theorem PropertySchema.violations_settled {p : PropertySchema} {a : Scalar}
    (h : p.violations a.toValue = []) : p.violations a.settled.toValue = [] := by
  rw [violations_eq_nil_iff] at h ⊢
  obtain ⟨htype, hoptions, hformat, hlength⟩ := h
  refine ⟨?_, ?_, ?_, ?_⟩
  · rw [Scalar.isOfType_settled]
    exact htype
  · intro options hsome
    obtain ⟨o, ho, hsame⟩ := hoptions options hsome
    exact ⟨o, ho, Scalar.same_settled hsame⟩
  · intro format s hsome hs
    exact hformat format s hsome (Scalar.settled_toValue_eq_str_iff.1 hs)
  · intro hempty hs
    exact hlength hempty (Scalar.settled_toValue_eq_str_iff.1 hs)

/-- Variables that violate nothing violate nothing once they are kept. -/
theorem GroupSchema.violations_settled {g : GroupSchema} {vars : Variables}
    (h : g.violations vars.toValue = []) : g.violations vars.settled.toValue = [] := by
  unfold Variables.toValue at h ⊢
  rw [violations_eq_nil_iff] at h ⊢
  obtain ⟨hgiven, hrequired⟩ := h
  refine ⟨?_, ?_⟩
  · intro property hproperty v hv
    rw [Entries.get?_mapValues, Variables.settled, Entries.get?_mapValues] at hv
    obtain ⟨b, hb, rfl⟩ := Option.map_eq_some_iff.1 hv
    obtain ⟨a, ha, rfl⟩ := Option.map_eq_some_iff.1 hb
    refine PropertySchema.violations_settled (hgiven property hproperty a.toValue ?_)
    rw [Entries.get?_mapValues, ha]
    rfl
  · intro name hname
    have hhas := hrequired name hname
    rw [Entries.has_iff, Entries.keys_mapValues] at hhas ⊢
    rwa [Variables.settled, Entries.keys_mapValues]

end Formulary
