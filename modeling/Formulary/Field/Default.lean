import Formulary.Field.Kind
import Formulary.Number.Decimal
import Formulary.Number.Layout
import Formulary.Text.Blank
import Formulary.Scalar

/-!
# Defaults

How a default value is fitted to the schema type of its field.  A number takes
finite numbers and texts that read as one, integers exactly; a truth value takes
zero and one and a few words; a text takes everything, numbers in the form in
which messages show them.
-/

namespace Formulary

/-- The words for true. -/
def trueWords : List String := ["true", "yes", "1", "on"]

/-- The words for false. -/
def falseWords : List String := ["false", "no", "0", "off"]

/-- The truth value that a text stands for, in letters of either case.  Lower
case is that of ASCII: no other letter turns into one of these words. -/
def truthOfText? (s : String) : Option Bool :=
  let word := String.ofList ((Text.trim s.toList).map Char.toLower)
  if trueWords.contains word then some true
  else if falseWords.contains word then some false
  else none

/-- The number that a text with blanks around it stands for: an integer if it
reads as one, else a double. -/
def numberOfText? (s : String) : Option Scalar :=
  match Number.integer? (Text.trim s.toList) with
  | some n => some (.int n)
  | none => (Number.decimal? (Text.trim s.toList)).map .float

namespace Scalar

/-- A scalar other than a number that is not finite. -/
def isFinite : Scalar → Bool
  | .float x => x.isFinite
  | _ => true

/-- A scalar is of a schema type.  Truth values are no numbers, and a number
that is not finite has no place in a schema. -/
def hasType : Scalar → SchemaType → Bool
  | .str _, .string => true
  | .int _, .number => true
  | .float x, .number => x.isFinite
  | .bool _, .boolean => true
  | _, _ => false

end Scalar

namespace SchemaType

/-- A scalar fitted to a schema type, if it can be. -/
def fit? : SchemaType → Scalar → Option Scalar
  | .number, .bool _ => none
  | .number, .int n => some (.int n)
  | .number, .float x => if x.isFinite then some (.float x) else none
  | .number, .str s => (s.string?.bind numberOfText?).filter Scalar.isFinite
  | .boolean, .bool b => some (.bool b)
  | .boolean, .int n =>
    if n = 0 then some (.bool false)
    else if n = 1 then some (.bool true)
    else none
  | .boolean, .float x =>
    if x.equalsInt 0 then some (.bool false)
    else if x.equalsInt 1 then some (.bool true)
    else none
  | .boolean, .str s => (s.string?.bind truthOfText?).map .bool
  | .string, .bool b => some (.str (if b then "true" else "false"))
  | .string, .int n => some (.str (Number.integerText n))
  | .string, .float x => some (.str (Number.floatText Number.plainLayout x))
  | .string, .str s => some (.str s)

/-- A value fitted to a schema type, if it is a scalar that can be. -/
def fitValue? (type : SchemaType) (v : Value) : Option Scalar :=
  v.scalar?.bind type.fit?

/-- Whether a value fits a field of a stored type, and what it is fitted to; a value that
does not fit stays as it is. -/
def fitted (declared v : Value) : Bool × Value :=
  match (ofValue declared).fitValue? v with
  | some a => (true, a.toValue)
  | none => (false, v)

theorem hasType_of_fit? {type : SchemaType} {a b : Scalar} (h : type.fit? a = some b) :
    b.hasType type := by
  cases type with
  | number =>
    cases a with
    | bool _ => simp [fit?] at h
    | int n => cases h; rfl
    | float x =>
      simp only [fit?] at h
      split at h
      · cases h; assumption
      · simp at h
    | str s =>
      obtain ⟨hread, hfinite⟩ := Option.filter_eq_some_iff.1 h
      obtain ⟨t, -, hread⟩ := Option.bind_eq_some_iff.1 hread
      unfold numberOfText? at hread
      split at hread
      · cases hread; rfl
      · obtain ⟨x, -, rfl⟩ := Option.map_eq_some_iff.1 hread
        exact hfinite
  | boolean =>
    have bool_of_ite {p q : Prop} [Decidable p] [Decidable q] (h : (if p then some (.bool false)
        else if q then some (.bool true) else none) = some b) : b.hasType .boolean := by
      split at h
      · cases h; rfl
      · split at h
        · cases h; rfl
        · simp at h
    cases a with
    | bool t => cases h; rfl
    | int n => exact bool_of_ite h
    | float x => exact bool_of_ite h
    | str s =>
      obtain ⟨t, -, rfl⟩ := Option.map_eq_some_iff.1 h
      rfl
  | string => cases a <;> cases h <;> rfl

theorem fit?_of_hasType {type : SchemaType} {a : Scalar} (h : a.hasType type) :
    type.fit? a = some a := by
  cases type <;> cases a <;> simp_all [fit?, Scalar.hasType]

/-- A fitted scalar fits as it is. -/
theorem fit?_fit? {type : SchemaType} {a b : Scalar} (h : type.fit? a = some b) :
    type.fit? b = some b :=
  fit?_of_hasType (hasType_of_fit? h)

/-- Only the empty text is fitted to the empty text. -/
theorem eq_empty_of_fit? {type : SchemaType} {a : Scalar}
    (h : type.fit? a = some (.str "")) : a = .str "" := by
  have htype : type = .string := by
    have := hasType_of_fit? h
    cases type <;> simp_all [Scalar.hasType]
  subst htype
  cases a with
  | bool b => cases b <;> simp [fit?] at h
  | int n => simp [fit?, Number.integerText_ne_empty] at h
  | float x => simp [fit?, Number.floatText_plainLayout_ne_empty] at h
  | str s => simpa [fit?] using h

end SchemaType

end Formulary
