import Formulary.Field.Kind
import Formulary.Scalar

/-!
# Checked input

Reading a value into a type of the domain, with every issue on the way
collected: an issue names the place inside the value, what is wrong there and
the input that was found.  Parts of a record are read side by side (`<*>`), so
that the issues of one part do not hide those of another.

Main statements: `seq_eq_ok_iff` and `all_eq_ok_iff`, which say when a record
and a list are read.
-/

namespace Formulary

/-- One step into a value.  A name is known to reports by its form in UTF-8. -/
inductive Step where
  | key (name : String)
  | index (n : Nat)
deriving DecidableEq, Inhabited, Repr

/-- A step as a dotted path shows it. -/
def Step.text : Step → String
  | .key name => name
  | .index n => toString n

/-- A step as a list of places shows it. -/
def Step.toValue : Step → Value
  | .key name => .str name
  | .index n => .int n

/-- What can be wrong with an input. -/
inductive IssueCause where
  | missing
  | notText
  /-- A text with a lone half of a surrogate pair, where its characters count. -/
  | brokenText
  | textTooShort
  | notFieldType
  | notValidationKind
  | notTruth
  | unclearTruth
  | notInteger
  | notNumber
  | notList
  | notObject
  | notRecord
  | blankFieldName
  | duplicateFieldName (name : Text)
deriving DecidableEq, Repr

/-- Words in quotes, the last two joined by "or". -/
def alternatives (words : List String) : String :=
  let marked := words.map fun w => "'" ++ w ++ "'"
  String.intercalate ", " marked.dropLast ++ " or " ++ marked.getLast?.getD ""

/-- The code of a cause. -/
def IssueCause.code : IssueCause → String
  | .missing => "missing"
  | .notText => "string_type"
  | .brokenText => "string_unicode"
  | .textTooShort => "string_too_short"
  | .notFieldType | .notValidationKind => "enum"
  | .notTruth => "bool_type"
  | .unclearTruth => "bool_parsing"
  | .notInteger => "int_type"
  | .notNumber => "float_type"
  | .notList => "list_type"
  | .notObject => "dict_type"
  | .notRecord => "model_attributes_type"
  | .blankFieldName | .duplicateFieldName _ => "value_error"

/-- The wording of a cause. -/
def IssueCause.message : IssueCause → Text
  | .missing => "Field required"
  | .notText => "Input should be a valid string"
  | .brokenText => "Input should be a valid string, unable to parse raw data as a unicode string"
  | .textTooShort => "String should have at least 1 character"
  | .notFieldType => "Input should be " ++ alternatives (FieldType.all.map FieldType.token)
  | .notValidationKind =>
    "Input should be " ++ alternatives (ValidationKind.all.map ValidationKind.token)
  | .notTruth => "Input should be a valid boolean"
  | .unclearTruth => "Input should be a valid boolean, unable to interpret input"
  | .notInteger => "Input should be a valid integer"
  | .notNumber => "Input should be a valid number"
  | .notList => "Input should be a valid list"
  | .notObject => "Input should be a valid dictionary"
  | .notRecord => "Input should be a valid dictionary or object to extract fields from"
  | .blankFieldName => "Value error, field name must not be blank"
  | .duplicateFieldName name => "Value error, duplicate field name '" ++ name ++ "'"

/-- One thing that is wrong with an input. -/
structure Issue where
  place : List Step
  cause : IssueCause
  input : Value
deriving DecidableEq

/-- The place of an issue as a dotted path. -/
def Issue.path (issue : Issue) : String :=
  String.intercalate "." (issue.place.map Step.text)

/-- An issue as it is reported: its code, its place and its wording. -/
def Issue.toValue (issue : Issue) : Value := .object [
  ("type", .str issue.cause.code),
  ("loc", .list (issue.place.map Step.toValue)),
  ("msg", .str issue.cause.message)]

/-- Something read from an input, or all that is wrong with it. -/
inductive Checked (α : Type) where
  | ok (a : α)
  | error (issues : List Issue)

namespace Checked

variable {α β : Type}

/-- One issue about the whole input. -/
def fail (cause : IssueCause) (input : Value) : Checked α := .error [⟨[], cause, input⟩]

/-- A function read and its argument read; the issues of both. -/
def seq : Checked (α → β) → Checked α → Checked β
  | .ok f, .ok a => .ok (f a)
  | .ok _, .error issues => .error issues
  | .error issues, .ok _ => .error issues
  | .error issues, .error more => .error (issues ++ more)

instance : Applicative Checked where
  pure := .ok
  seq f a := seq f (a ())

/-- A further check of something read. -/
def andThen : Checked α → (α → Checked β) → Checked β
  | .ok a, check => check a
  | .error issues, _ => .error issues

/-- The issues of a part, placed below a step. -/
def within (step : Step) : Checked α → Checked α
  | .ok a => .ok a
  | .error issues => .error (issues.map fun issue => { issue with place := step :: issue.place })

/-- Parts read side by side. -/
def all : List (Checked α) → Checked (List α)
  | [] => .ok []
  | a :: as => List.cons <$> a <*> all as

@[simp] theorem pure_eq (a : α) : (pure a : Checked α) = ok a := rfl

@[simp] theorem map_ok (f : α → β) (a : α) : (f <$> ok a) = ok (f a) := rfl

@[simp] theorem map_error (f : α → β) (issues : List Issue) :
    (f <$> (error issues : Checked α)) = error issues := rfl

@[simp] theorem seq_ok_ok (f : α → β) (a : α) : (ok f <*> ok a) = ok (f a) := rfl

@[simp] theorem seq_ok_error (f : α → β) (issues : List Issue) :
    (ok f <*> (error issues : Checked α)) = error issues := rfl

@[simp] theorem seq_error_ok (issues : List Issue) (a : α) :
    ((error issues : Checked (α → β)) <*> ok a) = error issues := rfl

@[simp] theorem seq_error_error (issues more : List Issue) :
    ((error issues : Checked (α → β)) <*> (error more : Checked α)) = error (issues ++ more) := rfl

@[simp] theorem andThen_ok (a : α) (check : α → Checked β) : (ok a).andThen check = check a := rfl

@[simp] theorem andThen_error (issues : List Issue) (check : α → Checked β) :
    (error issues : Checked α).andThen check = error issues := rfl

@[simp] theorem within_ok (step : Step) (a : α) : (ok a).within step = ok a := rfl

theorem within_eq_ok_iff {step : Step} {part : Checked α} {a : α} :
    part.within step = ok a ↔ part = ok a := by
  cases part <;> simp [within]

theorem seq_eq_ok_iff {f : Checked (α → β)} {part : Checked α} {b : β} :
    (f <*> part) = ok b ↔ ∃ g a, f = ok g ∧ part = ok a ∧ g a = b := by
  cases f <;> cases part <;> simp

theorem map_eq_ok_iff {f : α → β} {part : Checked α} {b : β} :
    (f <$> part) = ok b ↔ ∃ a, part = ok a ∧ f a = b := by
  cases part <;> simp

/-- A list is read exactly when each part is. -/
theorem all_eq_ok_iff (parts : List (Checked α)) (as : List α) :
    all parts = ok as ↔ parts = as.map ok := by
  induction parts generalizing as with
  | nil => cases as <;> simp [all]
  | cons part parts ih =>
    cases as with
    | nil => cases part <;> cases h : all parts <;> simp [all, h]
    | cons a as =>
      rw [List.map_cons, List.cons.injEq, ← ih as, all, seq_eq_ok_iff]
      constructor
      · rintro ⟨g, bs, hg, hbs, heq⟩
        obtain ⟨b, rfl, rfl⟩ := map_eq_ok_iff.1 hg
        cases heq
        exact ⟨rfl, hbs⟩
      · rintro ⟨rfl, h⟩
        exact ⟨List.cons a, as, rfl, h, rfl⟩

end Checked

end Formulary
