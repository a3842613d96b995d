import Formulary.Text.CodePoint

/-!
# Texts

A text is a sequence of code points.  It is kept as a string, and after it the
lone halves of surrogate pairs that the text holds, each with the string up to
the next; so a text without a lone half is a string and nothing else, and every
text is kept in one way.

A text with a lone half has no UTF-8 form: it can be kept and compared, but not
sent, and not put where UTF-8 is asked for.

Main statements: `points_ofPoints` and `ofPoints_points`, by which texts and
sequences of code points are the same, and `points_append`.
-/

namespace Formulary

/-- A text. -/
structure Text where
  /-- What comes before the first lone half. -/
  head : String
  /-- The lone halves, each with what comes after it. -/
  tail : List (Half × String)
deriving DecidableEq, Inhabited, Repr

namespace Text

/-! ## Strings as texts -/

/-- A string as a text. -/
@[coe] def ofString (s : String) : Text := ⟨s, []⟩

instance : Coe String Text := ⟨ofString⟩

/-- The string that a text is, if it holds no lone half. -/
def string? (t : Text) : Option String := if t.tail.isEmpty then some t.head else none

/-- A text has a UTF-8 form: no lone half is in it. -/
def isEncodable (t : Text) : Bool := t.tail.isEmpty

@[simp] theorem ofString_inj {s t : String} : ofString s = ofString t ↔ s = t := by
  simp [ofString]

@[simp] theorem string?_ofString (s : String) : (ofString s).string? = some s := rfl

@[simp] theorem isEncodable_ofString (s : String) : isEncodable s = true := rfl

theorem string?_eq_some_iff {t : Text} {s : String} : t.string? = some s ↔ t = s := by
  obtain ⟨head, tail⟩ := t
  cases tail <;> simp [string?, ofString]

theorem isEncodable_iff (t : Text) : isEncodable t ↔ ∃ s : String, t = s := by
  obtain ⟨head, tail⟩ := t
  cases tail <;> simp [isEncodable, ofString]

/-! ## Code points -/

/-- The code points of a text. -/
def points (t : Text) : List CodePoint :=
  t.head.toList.map .char ++ t.tail.flatMap fun (h, s) => .half h :: s.toList.map .char

/-- The characters before the first lone half among code points, and the lone
halves with the strings after them. -/
def split : List CodePoint → List Char × List (Half × String)
  | [] => ([], [])
  | .char c :: rest =>
    let after := split rest
    (c :: after.1, after.2)
  | .half h :: rest =>
    let after := split rest
    ([], (h, String.ofList after.1) :: after.2)

/-- The text of code points. -/
def ofPoints (ps : List CodePoint) : Text :=
  let parts := split ps
  ⟨String.ofList parts.1, parts.2⟩

@[simp] theorem points_ofString (s : String) : points s = s.toList.map .char := by
  simp [points, ofString]

@[simp] theorem points_ofPoints (ps : List CodePoint) : (ofPoints ps).points = ps := by
  induction ps with
  | nil => rfl
  | cons p ps ih =>
    simp only [ofPoints, points, String.toList_ofList] at ih
    cases p <;> simp [ofPoints, points, split, ih]

theorem split_chars (cs : List Char) : split (cs.map .char) = (cs, []) := by
  induction cs with
  | nil => rfl
  | cons c cs ih => simp [split, ih]

theorem split_chars_append_half (cs : List Char) (h : Half) (ps : List CodePoint) :
    split (cs.map .char ++ .half h :: ps)
      = (cs, (h, String.ofList (split ps).1) :: (split ps).2) := by
  induction cs with
  | nil => rfl
  | cons c cs ih => simp [split, ih]

@[simp] theorem ofPoints_points (t : Text) : ofPoints t.points = t := by
  obtain ⟨head, tail⟩ := t
  suffices h : split (points ⟨head, tail⟩) = (head.toList, tail) by simp [ofPoints, h]
  induction tail generalizing head with
  | nil => simp [points, split_chars]
  | cons entry tail ih =>
    obtain ⟨h, s⟩ := entry
    have hrest := ih s
    simp only [points] at hrest
    simp [points, split_chars_append_half, hrest]

theorem points_inj {t u : Text} : t.points = u.points ↔ t = u :=
  ⟨fun h => by rw [← ofPoints_points t, h, ofPoints_points], fun h => h ▸ rfl⟩

/-! ## Joining -/

/-- A text after the string and the tail of another. -/
def appendTo (s : String) : List (Half × String) → Text → Text
  | [], u => ⟨s ++ u.head, u.tail⟩
  | (h, r) :: tail, u =>
    let after := appendTo r tail u
    ⟨s, (h, after.head) :: after.tail⟩

instance : Append Text := ⟨fun t u => appendTo t.head t.tail u⟩

theorem append_def (t u : Text) : t ++ u = appendTo t.head t.tail u := rfl

theorem points_appendTo (s : String) (tail : List (Half × String)) (u : Text) :
    (appendTo s tail u).points = points ⟨s, tail⟩ ++ u.points := by
  induction tail generalizing s with
  | nil => simp [appendTo, points]
  | cons entry tail ih =>
    obtain ⟨h, r⟩ := entry
    have hrest := ih r
    simp only [points] at hrest
    simp [appendTo, points, hrest]

@[simp] theorem points_append (t u : Text) : (t ++ u).points = t.points ++ u.points :=
  points_appendTo ..

@[simp] theorem ofString_append (s t : String) : ofString s ++ ofString t = ofString (s ++ t) := rfl

/-- Texts one after the other with a string between any two. -/
def intercalate (between : String) : List Text → Text
  | [] => ""
  | t :: ts => ts.foldl (fun joined u => joined ++ between ++ u) t

end Text

end Formulary
