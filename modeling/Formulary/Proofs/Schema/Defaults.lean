import Formulary.Proofs.Schema.Unchecked
import Formulary.Schema.Check

/-!
# Defaults in schemas

What a schema shows as the default of a field, whatever the field says.

* `SchemaType.fitted_eq_self_iff` says which values fit as they are: the finite ones of the
  schema type.  Whatever else fits is fitted to one of these (`of_fitted`), so that to fit is to
  project onto them.
* `PropertySchema.shownDefault?_eq_some_iff` says when a default is shown, and
  `PropertySchema.compile_put_default` that a field with the default that its schema shows, in
  the place of its own, compiles to the same schema.
* `PropertySchema.defaults_fit` is the result.
-/

namespace Formulary

/-! ## Fitting as a projection -/

theorem Scalar.hasType_iff {a : Scalar} {type : SchemaType} :
    a.hasType type ↔ a.toValue.isOfType type ∧ a.toValue.isFinite := by
  cases a <;> cases type <;> simp [hasType, toValue, Value.isOfType, Value.isFinite]

/-- A value of a schema type is a scalar. -/
theorem Value.exists_scalar_of_isOfType {v : Value} {type : SchemaType} (h : v.isOfType type) :
    ∃ a : Scalar, v = a.toValue := by
  cases v with
  | bool b => exact ⟨.bool b, rfl⟩
  | int n => exact ⟨.int n, rfl⟩
  | float x => exact ⟨.float x, rfl⟩
  | str s => exact ⟨.str s, rfl⟩
  | null | list _ | object _ => cases type <;> cases h

namespace SchemaType

variable {declared v w : Value}

theorem fitted_eq_true_iff :
    fitted declared v = (true, w)
      ↔ ∃ a, (ofValue declared).fitValue? v = some a ∧ a.toValue = w := by
  unfold fitted
  cases (ofValue declared).fitValue? v <;> simp

/-- What does not fit stays as it is. -/
theorem eq_of_fitted_eq_false (h : fitted declared v = (false, w)) : w = v := by
  unfold fitted at h
  cases hfit : (ofValue declared).fitValue? v <;> simp_all

/-- What a value is fitted to is a finite value of the schema type. -/
theorem of_fitted (h : fitted declared v = (true, w)) :
    w.isOfType (ofValue declared) ∧ w.isFinite := by
  obtain ⟨a, hfit, rfl⟩ := fitted_eq_true_iff.1 h
  obtain ⟨b, -, hb⟩ := Option.bind_eq_some_iff.1 hfit
  exact Scalar.hasType_iff.1 (hasType_of_fit? hb)

/-- The finite values of the schema type are those that fit as they are. -/
theorem fitted_eq_self_iff :
    fitted declared v = (true, v) ↔ v.isOfType (ofValue declared) ∧ v.isFinite := by
  refine ⟨of_fitted, fun h => ?_⟩
  obtain ⟨a, rfl⟩ := Value.exists_scalar_of_isOfType h.1
  refine fitted_eq_true_iff.2 ⟨a, ?_, rfl⟩
  rw [fitValue?, Value.scalar?_toValue, Option.bind_some]
  exact fit?_of_hasType (Scalar.hasType_iff.2 h)

end SchemaType

/-! ## Defaults that are shown -/

theorem Value.member_put (members : Entries Value) (k name : Text) (v : Value) :
    member (members.put k v) name = if k = name then v else member members name := by
  unfold member
  rw [Entries.get?_put]
  split <;> rfl

namespace PropertySchema

variable {askNonEmpty : AskNonEmpty} {members : Entries Value} {a : Scalar}

/-- A default is shown without a notice. -/
theorem compileDefault_eq_ok_some_iff {type : SchemaType} :
    compileDefault type members = .ok (some a)
      ↔ shownDefault? type (Value.member members "defaultValue") = some a := by
  unfold compileDefault shownDefault?
  dsimp only
  split
  · simp [Outcome.ok]
  · cases type.fitValue? (Value.member members "defaultValue") with
    | none => simp [Outcome.ok, Outcome.notify]
    | some b => simp [Outcome.ok]

theorem shownDefault?_eq_some_iff {declared default : Value} :
    shownDefault? (SchemaType.ofValue declared) default = some a
      ↔ default ≠ .null ∧ default ≠ .str ""
        ∧ SchemaType.fitted declared default = (true, a.toValue) := by
  unfold shownDefault?
  rw [SchemaType.fitted_eq_true_iff]
  by_cases hnull : default = .null
  · simp [hnull]
  · by_cases hempty : default = .str ""
    · simp [hempty]
    · simp [hnull, hempty, Scalar.toValue_inj]

/-- A field whose options can be gone over has a schema, and it shows the default that the field
gives if that is neither null nor the empty text and fits. -/
theorem exists_compile_default (askNonEmpty : AskNonEmpty)
    (h : (Value.member members "options").Iterable) :
    ∃ p, (compile askNonEmpty members).result = .ok p
      ∧ p.type = SchemaType.ofValue (Value.member members "type")
      ∧ p.default? = shownDefault? p.type (Value.member members "defaultValue") := by
  rw [result_compile, compileOptions_of_iterable fun _ => h]
  exact ⟨_, rfl, rfl, rfl⟩

/-- A field with the default that its schema shows in the place of its own has the same
schema. -/
theorem compile_put_default (h : shownDefault? (SchemaType.ofValue (Value.member members "type"))
      (Value.member members "defaultValue") = some a) :
    compile askNonEmpty (Entries.put members "defaultValue" a.toValue)
      = compile askNonEmpty members := by
  have hshown := shownDefault?_shown (SchemaType.ofValue (Value.member members "type"))
    (Value.member members "defaultValue")
  rw [h, Option.map_some, Option.getD_some] at hshown
  have hother : ∀ name : Text, "defaultValue" ≠ name →
      Value.member (Entries.put members "defaultValue" a.toValue) name
        = Value.member members name := by
    intro name hname
    rw [Value.member_put, if_neg hname]
  have hput : compileDefault (SchemaType.ofValue (Value.member members "type"))
      (Entries.put members "defaultValue" a.toValue) = .ok (some a) := by
    rw [compileDefault_eq_ok_some_iff, Value.member_put, if_pos rfl, hshown]
  unfold compile compileOptions
  rw [hother "type" (by decide), hother "description" (by decide), hother "options" (by decide),
    hother "name" (by decide), hother "validation" (by decide), hother "required" (by decide)]
  dsimp only
  rw [hput, compileDefault_eq_ok_some_iff.2 h]

/-- Fitting is a projection onto the finite values of the schema type, and leaves alone what does
not fit.  So a field whose options can be gone over, as null and lists can, has a schema; the
default there is what the field's own is fitted to, violates neither the type nor the length that
the schema asks for, and gives the same schema when the field has it in the place of its own. -/
theorem defaults_fit (askNonEmpty : AskNonEmpty) {members : Entries Value}
    (hoptions : (Value.member members "options").Iterable) :
    (∀ declared v, (SchemaType.fitted declared v = (true, v)
          ↔ v.isOfType (SchemaType.ofValue declared) ∧ v.isFinite)
        ∧ ∀ w, (SchemaType.fitted declared v = (true, w) →
            w.isOfType (SchemaType.ofValue declared) ∧ w.isFinite
              ∧ SchemaType.fitted declared w = (true, w))
          ∧ (SchemaType.fitted declared v = (false, w) → w = v))
      ∧ ∃ p, (compile askNonEmpty members).result = .ok p
        ∧ ∀ a, (p.default? = some a ↔ Value.member members "defaultValue" ≠ .null
            ∧ Value.member members "defaultValue" ≠ .str ""
            ∧ SchemaType.fitted (Value.member members "type")
                (Value.member members "defaultValue") = (true, a.toValue))
          ∧ (p.default? = some a →
            a.toValue.isOfType p.type ∧ a.toValue.isFinite ∧ a.toValue ≠ .str ""
              ∧ p.typeViolations a.toValue = [] ∧ p.lengthViolations a.toValue = []
              ∧ (compile askNonEmpty
                (Entries.put members "defaultValue" a.toValue)).result = .ok p) := by
  refine ⟨fun declared v => ⟨SchemaType.fitted_eq_self_iff, fun w =>
    ⟨fun h => ?_, SchemaType.eq_of_fitted_eq_false⟩⟩, ?_⟩
  · obtain ⟨htype, hfinite⟩ := SchemaType.of_fitted h
    exact ⟨htype, hfinite, SchemaType.fitted_eq_self_iff.2 ⟨htype, hfinite⟩⟩
  · obtain ⟨p, hp, htype, hdefault⟩ := exists_compile_default askNonEmpty hoptions
    rw [htype] at hdefault
    refine ⟨p, hp, fun a => ⟨?_, fun ha => ?_⟩⟩
    · rw [hdefault, shownDefault?_eq_some_iff]
    · have hshown := hdefault.symm.trans ha
      obtain ⟨hfits, hne⟩ := hasType_of_shownDefault? hshown
      have hempty : a.toValue ≠ .str "" := fun heq => hne (Scalar.toValue_inj.1 heq)
      obtain ⟨hinstance, hfinite⟩ := Scalar.hasType_iff.1 hfits
      rw [← htype] at hinstance
      refine ⟨hinstance, hfinite, hempty, ?_, ?_, ?_⟩
      · rw [typeViolations, if_pos hinstance]
      · rw [lengthViolations, if_neg (by simp [hempty])]
      · rw [compile_put_default hshown, hp]

/-- The default zero of a required date is shown as a text, which has the length that is asked
for. -/
theorem defaults_fit_of_zero :
    let members : Entries Value := [("name", .str "d"), ("type", .str "date"),
      ("required", .bool true), ("options", .list [.int 5]), ("defaultValue", .int 0)]
    (Value.member members "options").Iterable
      ∧ SchemaType.fitted (.str "number") (.str " 42 ") = (true, .int 42)
      ∧ SchemaType.fitted (.str "number") (.int 42) = (true, .int 42)
      ∧ SchemaType.fitted (.str "number") (.bool true) = (false, .bool true)
      ∧ ∃ p, (compile true members).result = .ok p ∧ p.default? = some (.str "0")
        ∧ p.lengthViolations (.str "0") = []
        ∧ (compile true (Entries.put members "defaultValue" (.str "0"))).result = .ok p := by
  intro members
  have hoptions : (Value.member members "options").Iterable := Value.iterable_list _
  have hread : SchemaType.fitted (.str "number") (.str " 42 ") = (true, .int 42) := by
    decide +kernel
  obtain ⟨hprojection, p, hp, hdefault⟩ := defaults_fit true hoptions
  obtain ⟨-, -, hagain⟩ := ((hprojection (.str "number") (.str " 42 ")).2 _).1 hread
  obtain ⟨hshown, hsound⟩ := hdefault (.str "0")
  have hzero : p.default? = some (.str "0") := hshown.2 (by decide +kernel)
  obtain ⟨-, -, -, -, hlength, hsame⟩ := hsound hzero
  exact ⟨hoptions, hread, hagain, by decide +kernel, p, hp, hzero, hlength, hsame⟩

end PropertySchema

end Formulary
