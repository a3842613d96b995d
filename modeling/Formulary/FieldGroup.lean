import Formulary.Checked.Reader

/-!
# Field groups

The three groups that a template divides its fields into.  Each group of fields
has a group of variables in a document; line items come as a list of such
groups.
-/

namespace Formulary

/-- A group of fields. -/
inductive FieldGroup where
  | object
  | contact
  | lineItem
deriving DecidableEq, Inhabited, Repr

namespace FieldGroup

/-- The groups, in the order of templates, schemas and checks. -/
def all : List FieldGroup := [.object, .contact, .lineItem]

/-- The attribute of a template that holds the group. -/
def fields : FieldGroup → Attribute
  | .object => ⟨"objectFields", "object_fields"⟩
  | .contact => ⟨"contactFields", "contact_fields"⟩
  | .lineItem => ⟨"lineItemFields", "line_item_fields"⟩

/-- The attribute of a document that holds the group's variables. -/
def variableGroup : FieldGroup → Attribute
  | .object => ⟨"objectVariables", "object_variables"⟩
  | .contact => ⟨"contactVariables", "contact_variables"⟩
  | .lineItem => ⟨"lineItemVariables", "line_item_variables"⟩

/-- The title of the group in a schema. -/
def title : FieldGroup → String
  | .object => "Object Fields"
  | .contact => "Contact Fields"
  | .lineItem => "Line Item Fields"

theorem mem_all (g : FieldGroup) : g ∈ all := by cases g <;> decide

theorem forall_iff {p : FieldGroup → Prop} :
    (∀ g, p g) ↔ p .object ∧ p .contact ∧ p .lineItem := by
  constructor
  · exact fun h => ⟨h _, h _, h _⟩
  · rintro ⟨hobject, hcontact, hlineItem⟩ (_ | _ | _)
    · exact hobject
    · exact hcontact
    · exact hlineItem

end FieldGroup

/-- One thing for each field group. -/
structure Groups (α : Type) where
  object : α
  contact : α
  lineItem : α
deriving DecidableEq, Inhabited

namespace Groups

variable {α β : Type}

/-- The thing for one group. -/
def get (groups : Groups α) : FieldGroup → α
  | .object => groups.object
  | .contact => groups.contact
  | .lineItem => groups.lineItem

/-- A function of the group, tabulated. -/
def ofFun (f : FieldGroup → α) : Groups α := ⟨f .object, f .contact, f .lineItem⟩

/-- Every group's thing changed alike. -/
def map (f : α → β) (groups : Groups α) : Groups β :=
  ⟨f groups.object, f groups.contact, f groups.lineItem⟩

/-- The groups with their things, in order. -/
def toList (groups : Groups α) : List (FieldGroup × α) :=
  FieldGroup.all.map fun g => (g, groups.get g)

@[simp] theorem get_ofFun (f : FieldGroup → α) (g : FieldGroup) : (ofFun f).get g = f g := by
  cases g <;> rfl

@[simp] theorem get_map (f : α → β) (groups : Groups α) (g : FieldGroup) :
    (groups.map f).get g = f (groups.get g) := by
  cases g <;> rfl

theorem ext_get {a b : Groups α} (h : ∀ g, a.get g = b.get g) : a = b := by
  cases a
  cases b
  exact congr (congr (congrArg mk (h .object)) (h .contact)) (h .lineItem)

end Groups

end Formulary
