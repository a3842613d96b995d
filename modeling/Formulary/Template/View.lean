import Formulary.FieldGroup

/-!
# Template views

What a schema is compiled from: a template's name, description and groups as
plain values, wherever they come from.  Nothing about them has been checked.
-/

namespace Formulary

/-- A template as the schema compiler sees it. -/
structure TemplateView where
  name : Value
  description : Value
  groups : Groups Value

/-- The value of an attribute among the members of an object, null when it has
neither spelling. -/
def Attribute.read (a : Attribute) (members : Entries Value) : Value :=
  ((a.find? members).map Prod.snd).getD .null

/-- The view of an unchecked template.  What is no object has no attributes. -/
def TemplateView.ofValue (v : Value) : TemplateView :=
  let members := v.members?.getD []
  { name := nameAttribute.read members
    description := descriptionAttribute.read members
    groups := .ofFun fun g => g.fields.read members }

end Formulary
