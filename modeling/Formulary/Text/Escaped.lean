import Formulary.Text.Basic
import Formulary.Text.Hex

/-!
# Texts in UTF-8

Two ways to bring any text into a form that UTF-8 has, where it cannot be
refused: `escaped` writes every lone half of a surrogate pair as an escape, and
`replaced` puts replacement characters there, one for each of the three octets
that the half would take.  Both leave a string as it is.

Main statements: `escaped_ofString` and `replaced_ofString`.
-/

namespace Formulary.Text

/-- The escape of a lone half. -/
def escapeHalf (h : Half) : List Char := '\\' :: 'u' :: hexDigits 4 h.unit

/-- A text with `form` of every lone half in its place. -/
def withHalves (form : Half → List Char) (t : Text) : String :=
  String.ofList (t.points.flatMap fun
    | .char c => [c]
    | .half h => form h)

/-- A text with its lone halves escaped. -/
def escaped (t : Text) : String := withHalves escapeHalf t

/-- A text with its lone halves replaced. -/
def replaced (t : Text) : String := withHalves (fun _ => ['\uFFFD', '\uFFFD', '\uFFFD']) t

theorem withHalves_ofString (form : Half → List Char) (s : String) : withHalves form s = s := by
  rw [withHalves, points_ofString, List.flatMap_map, ← List.flatMap_singleton' s.toList]
  simp

@[simp] theorem escaped_ofString (s : String) : escaped s = s := withHalves_ofString _ s

@[simp] theorem replaced_ofString (s : String) : replaced s = s := withHalves_ofString _ s

/-- A text as a terminal shows it. -/
instance : ToString Text := ⟨escaped⟩

end Formulary.Text
