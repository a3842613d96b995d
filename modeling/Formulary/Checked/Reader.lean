import Formulary.Checked.Basic
import Formulary.Supplied
import Formulary.Text.Escaped

/-!
# Readers

Readers of the shapes that payloads are made of.  A text is taken as it is and
never made from a number; a truth value has numeric and written forms as well;
a scalar keeps the kind it came in.  Where the characters of a text count, it may
not hold a lone half of a surrogate pair.

An attribute of a record may be spelled in two ways.  The wire spelling counts
first, whatever it holds, and the spelling found is the one that issues name.
-/

namespace Formulary

/-- Reads a value into a type. -/
abbrev Reader (α : Type) := Value → Checked α

/-- The two spellings of an attribute. -/
structure Attribute where
  /-- The spelling in JSON payloads and answers. -/
  wire : String
  /-- The spelling in stored rows. -/
  row : String
deriving DecidableEq, Inhabited

/-- An attribute whose two spellings agree. -/
def Attribute.ofName (name : String) : Attribute := ⟨name, name⟩

/-- The attribute of a name. -/
def nameAttribute : Attribute := .ofName "name"

/-- The attribute of a description. -/
def descriptionAttribute : Attribute := .ofName "description"

/-- An attribute's spelling and value among the members of a record. -/
def Attribute.find? (a : Attribute) (members : Entries Value) : Option (String × Value) :=
  match members.get? a.wire with
  | some v => some (a.wire, v)
  | none => (members.get? a.row).map fun v => (a.row, v)

namespace Reader

variable {α : Type}

/-- A text. -/
def text : Reader Text
  | .str s => .ok s
  | v => .fail .notText v

/-- A value refused where a text's characters count: a text with a lone half for
that, and any other value for a cause of its own. -/
def refuse (cause : IssueCause) : Reader α
  | .str s => .fail (if s.isEncodable then cause else .brokenText) (.str s)
  | v => .fail cause v

/-- A text with at least one character. -/
def nonEmptyText : Reader Text
  | .str s => if s ≠ "" && s.isEncodable then .ok s else refuse .textTooShort (.str s)
  | v => .fail .notText v

/-- The words for false where a truth value is asked for. -/
def falseWords : List String := ["0", "off", "f", "false", "n", "no"]

/-- The words for true where a truth value is asked for. -/
def trueWords : List String := ["1", "on", "t", "true", "y", "yes"]

/-- An integer of 64 bits. -/
def isWord (n : Int) : Bool := -Int.pow 2 63 ≤ n && n < Int.pow 2 63

/-- The truth value of a whole number: zero or one; of the others some are in
range and only unclear. -/
def truthOfInt (inRange : Bool) (n : Int) : Reader Bool := fun v =>
  if n = 0 then .ok false
  else if n = 1 then .ok true
  else .fail (if inRange then .unclearTruth else .notTruth) v

/-- A truth value: itself, zero or one, or a word in letters of either case, with
no blanks around it.  The range of integers is that of 64 bits, and a double in
range has its opposite in range as well. -/
def truth : Reader Bool
  | .bool b => .ok b
  | .str s =>
    let word := s.string?.map fun s => String.ofList (s.toList.map Char.toLower)
    if word.any falseWords.contains then .ok false
    else if word.any trueWords.contains then .ok true
    else refuse .unclearTruth (.str s)
  | .int n => truthOfInt (isWord n) n (.int n)
  | .float x =>
    match x.integer? with
    | some n => truthOfInt (isWord n && isWord (-n)) n (.float x)
    | none => .fail .notTruth (.float x)
  | v => .fail .notTruth v

/-- A declared field type. -/
def fieldType : Reader FieldType := fun v =>
  match FieldType.ofValue? v with
  | some t => .ok t
  | none => refuse .notFieldType v

/-- A validation kind. -/
def validationKind : Reader ValidationKind := fun v =>
  match ValidationKind.ofValue? v with
  | some k => .ok k
  | none => refuse .notValidationKind v

/-- A scalar; what is none is refused once for each kind. -/
def scalar : Reader Scalar := fun v =>
  match v.scalar? with
  | some a => .ok a
  | none => .error [
      ⟨[.key "bool"], .notTruth, v⟩, ⟨[.key "int"], .notInteger, v⟩,
      ⟨[.key "float"], .notNumber, v⟩, ⟨[.key "str"], .notText, v⟩]

/-- A list, each item read alike. -/
def list (read : Reader α) : Reader (List α)
  | .list items => .all (items.mapIdx fun i v => (read v).within (.index i))
  | v => .fail .notList v

/-- A group of variables: an object of scalars. -/
def variableGroup : Reader Variables
  | .object members =>
    .all (members.map fun (name, v) => Prod.mk name <$> (scalar v).within (.key name.replaced))
  | v => .fail .notObject v

/-- Null, or what is read otherwise. -/
def nullable (read : Reader α) : Reader (Option α)
  | .null => .ok none
  | v => some <$> read v

/-- A record, read from its members. -/
def record (read : Entries Value → Checked α) : Reader α
  | .object members => read members
  | v => .fail .notRecord v

end Reader

namespace Attribute

variable {α : Type}

/-- An attribute that has to be there. -/
def required (a : Attribute) (read : Reader α) (members : Entries Value) : Checked α :=
  match a.find? members with
  | some (name, v) => (read v).within (.key name)
  | none => .error [⟨[.key a.wire], .missing, .object members⟩]

/-- An attribute with a value for when it is left out. -/
def orDefault (a : Attribute) (default : α) (read : Reader α) (members : Entries Value) :
    Checked α :=
  match a.find? members with
  | some (name, v) => (read v).within (.key name)
  | none => .ok default

/-- An attribute that may be left out or null. -/
def supplied (a : Attribute) (read : Reader α) (members : Entries Value) :
    Checked (Supplied α) :=
  match a.find? members with
  | some (_, .null) => .ok .null
  | some (name, v) => .value <$> (read v).within (.key name)
  | none => .ok .absent

end Attribute

/-! ## What is read -/

namespace Reader

/-- What reads as a text whose characters count is that text, and has a UTF-8
form. -/
theorem nonEmptyText_eq_ok_iff {v : Value} {s : Text} :
    nonEmptyText v = .ok s ↔ v = .str s ∧ s ≠ "" ∧ s.isEncodable := by
  unfold nonEmptyText
  split
  · rename_i t
    split
    · rename_i h
      simp only [ne_eq, Bool.and_eq_true, decide_eq_true_eq] at h
      simp only [Checked.ok.injEq, Value.str.injEq]
      exact ⟨fun hs => ⟨hs, hs ▸ h⟩, And.left⟩
    · rename_i h
      simp only [ne_eq, Bool.and_eq_true, decide_eq_true_eq] at h
      simp only [refuse, Checked.fail, reduceCtorEq, Value.str.injEq, false_iff, not_and]
      exact fun hs hne henc => h ⟨hs ▸ hne, hs ▸ henc⟩
  · rename_i hv
    simp only [Checked.fail, reduceCtorEq, false_iff]
    exact fun h => hv _ h.1

theorem scalar_toValue (a : Scalar) : scalar a.toValue = .ok a := by
  simp [scalar]

theorem scalar_eq_ok_iff {v : Value} {a : Scalar} : scalar v = .ok a ↔ v = a.toValue := by
  rw [← Value.scalar?_eq_some_iff]
  unfold scalar
  cases v.scalar? <;> simp

/-- What reads as variables is an object of just these scalars. -/
theorem variableGroup_eq_ok_iff {v : Value} {vars : Variables} :
    variableGroup v = .ok vars ↔ v = vars.toValue := by
  unfold variableGroup
  split
  · rename_i members
    rw [Checked.all_eq_ok_iff, Variables.toValue, Value.object.injEq]
    induction members generalizing vars with
    | nil => cases vars <;> simp [Entries.mapValues]
    | cons member members ih =>
      obtain ⟨name, v⟩ := member
      cases vars with
      | nil => simp [Entries.mapValues]
      | cons entry vars =>
        obtain ⟨k, a⟩ := entry
        simp only [List.map_cons, List.cons.injEq, Entries.mapValues, ih,
          Checked.map_eq_ok_iff, Checked.within_eq_ok_iff, scalar_eq_ok_iff, Prod.mk.injEq]
        constructor
        · rintro ⟨⟨b, rfl, rfl, rfl⟩, h⟩
          exact ⟨⟨rfl, rfl⟩, h⟩
        · rintro ⟨⟨rfl, rfl⟩, h⟩
          exact ⟨⟨a, rfl, rfl, rfl⟩, h⟩
  · rename_i hv
    simp only [Checked.fail, Variables.toValue, reduceCtorEq, false_iff]
    exact fun h => hv _ h

/-- What reads as a list is a list whose items read as its members. -/
theorem list_eq_ok_iff {α : Type} {read : Reader α} {v : Value} {as : List α} :
    list read v = .ok as ↔ ∃ items, v = .list items ∧ items.map read = as.map .ok := by
  unfold list
  split
  · rename_i items
    simp only [Checked.all_eq_ok_iff, Value.list.injEq, exists_eq_left']
    rw [List.ext_getElem?_iff, List.ext_getElem?_iff]
    refine forall_congr' fun i => ?_
    simp only [List.getElem?_mapIdx, List.getElem?_map]
    cases items[i]? with
    | none => simp
    | some v =>
      cases as[i]? with
      | none => simp
      | some a => simp [Checked.within_eq_ok_iff]
  · rename_i hv
    simp only [Checked.fail, reduceCtorEq, false_iff, not_exists, not_and]
    exact fun items h => absurd h (hv items)

theorem list_toValue {α : Type} {read : Reader α} {toValue : α → Value}
    (h : ∀ a, read (toValue a) = .ok a) (as : List α) :
    list read (.list (as.map toValue)) = .ok as := by
  rw [list_eq_ok_iff]
  exact ⟨_, rfl, by simp [h]⟩

theorem nullable_text (s : Option Text) : nullable text (.ofText? s) = .ok s := by
  cases s <;> rfl

theorem nullable_scalar (a : Option Scalar) :
    nullable scalar ((a.map Scalar.toValue).getD .null) = .ok a := by
  cases a with
  | none => rfl
  | some a => cases a <;> rfl

end Reader

end Formulary
