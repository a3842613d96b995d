import Formulary.Entries
import Formulary.Number.Binary64
import Formulary.Text.Escaped

/-!
# Values

The dynamic values that templates and documents arrive in: what a JSON text
denotes, with integers of any size kept apart from double-precision numbers and
the members of an object in their written order.

Questions that the rest of the library asks of a value are answered here: its
kind, whether it counts as true, what one passes through when going over it,
and when two values are equal.
-/

namespace Formulary

/-- A dynamic value. -/
inductive Value where
  | null
  | bool (b : Bool)
  | int (n : Int)
  | float (x : Binary64)
  | str (s : Text)
  | list (items : List Value)
  | object (members : List (Text × Value))
deriving Inhabited

namespace Value

/-! ## Decidable equality -/

mutual

/-- Two values are the same term. -/
def decEq : (a b : Value) → Decidable (a = b)
  | .null, .null => .isTrue rfl
  | .bool a, .bool b => decidable_of_iff (a = b) (by simp)
  | .int a, .int b => decidable_of_iff (a = b) (by simp)
  | .float a, .float b => decidable_of_iff (a = b) (by simp)
  | .str a, .str b => decidable_of_iff (a = b) (by simp)
  | .list as, .list bs =>
    have := decEqItems as bs
    decidable_of_iff (as = bs) (by simp)
  | .object as, .object bs =>
    have := decEqMembers as bs
    decidable_of_iff (as = bs) (by simp)
  | .null, .bool _ | .null, .int _ | .null, .float _ | .null, .str _ | .null, .list _
  | .null, .object _ | .bool _, .null | .bool _, .int _ | .bool _, .float _ | .bool _, .str _
  | .bool _, .list _ | .bool _, .object _ | .int _, .null | .int _, .bool _ | .int _, .float _
  | .int _, .str _ | .int _, .list _ | .int _, .object _ | .float _, .null | .float _, .bool _
  | .float _, .int _ | .float _, .str _ | .float _, .list _ | .float _, .object _ | .str _, .null
  | .str _, .bool _ | .str _, .int _ | .str _, .float _ | .str _, .list _ | .str _, .object _
  | .list _, .null | .list _, .bool _ | .list _, .int _ | .list _, .float _ | .list _, .str _
  | .list _, .object _ | .object _, .null | .object _, .bool _ | .object _, .int _
  | .object _, .float _ | .object _, .str _ | .object _, .list _ => .isFalse (by simp)

/-- Two lists of values are the same term. -/
def decEqItems : (as bs : List Value) → Decidable (as = bs)
  | [], [] => .isTrue rfl
  | a :: as, b :: bs =>
    have := decEq a b
    have := decEqItems as bs
    decidable_of_iff (a = b ∧ as = bs) (by simp)
  | [], _ :: _ | _ :: _, [] => .isFalse (by simp)

/-- Two lists of members are the same term. -/
def decEqMembers : (as bs : List (Text × Value)) → Decidable (as = bs)
  | [], [] => .isTrue rfl
  | (k, a) :: as, (l, b) :: bs =>
    have := decEq a b
    have := decEqMembers as bs
    decidable_of_iff (k = l ∧ a = b ∧ as = bs) (by simp [and_assoc])
  | [], _ :: _ | _ :: _, [] => .isFalse (by simp)

end

instance : DecidableEq Value := decEq

/-! ## Kinds, truth and iteration -/

/-- The name that diagnostics give to the kind of a value. -/
def kind : Value → String
  | .null => "NoneType"
  | .bool _ => "bool"
  | .int _ => "int"
  | .float _ => "float"
  | .str _ => "str"
  | .list _ => "list"
  | .object _ => "dict"

/-- A value that counts as true: all but null, false, zero and what is empty. -/
def truthy : Value → Bool
  | .null => false
  | .bool b => b
  | .int n => n != 0
  | .float x => !x.isZero
  | .str s => s != ""
  | .list items => !items.isEmpty
  | .object members => !members.isEmpty

/-- A value, or another in its place when it does not count as true. -/
def orElse (v other : Value) : Value := if v.truthy then v else other

@[simp] theorem orElse_object (members : List (Text × Value)) :
    (object members).orElse (.object []) = .object members := by
  cases members <;> rfl

@[simp] theorem orElse_list (items : List Value) :
    (list items).orElse (.list []) = .list items := by
  cases items <;> rfl

/-- What one passes through when going over a value: the items of a list, the
names of an object, the code points of a text. -/
def items? : Value → Option (List Value)
  | .list items => some items
  | .object members => some (members.map fun member => .str member.1)
  | .str s => some (s.points.map fun p => .str (.ofPoints [p]))
  | _ => none

/-- The members of an object. -/
def members? : Value → Option (Entries Value)
  | .object members => some members
  | _ => none

/-- The text of a text value. -/
def text? : Value → Option Text
  | .str s => some s
  | _ => none

/-- The member of an object under a name, null when it is absent. -/
def member (members : Entries Value) (name : Text) : Value :=
  (members.get? name).getD .null

/-- An optional text as a value. -/
def ofText? : Option Text → Value
  | some s => .str s
  | none => .null

mutual

/-- Every number in a value is finite. -/
def isFinite : Value → Bool
  | .float x => x.isFinite
  | .list items => isFiniteItems items
  | .object members => isFiniteMembers members
  | _ => true

/-- Every number in a list of values is finite. -/
def isFiniteItems : List Value → Bool
  | [] => true
  | v :: vs => isFinite v && isFiniteItems vs

/-- Every number in a list of members is finite. -/
def isFiniteMembers : List (Text × Value) → Bool
  | [] => true
  | (_, v) :: ms => isFinite v && isFiniteMembers ms

end

mutual

/-- A value as an answer carries it: null stands for a number that is not finite,
and a lone half in a name is replaced.  A text with a lone half has no place in
an answer. -/
def answered? : Value → Option Value
  | .float x => some (if x.isFinite then .float x else .null)
  | .str s => if s.isEncodable then some (.str s) else none
  | .list items => (answeredItems? items).map .list
  | .object members => (answeredMembers? members).map fun members =>
    .object (Entries.ofList members)
  | v => some v

/-- The values of a list as an answer carries them. -/
def answeredItems? : List Value → Option (List Value)
  | [] => some []
  | v :: vs => return (← answered? v) :: (← answeredItems? vs)

/-- The members of an object as an answer carries them; two names may have become
one. -/
def answeredMembers? : List (Text × Value) → Option (List (Text × Value))
  | [] => some []
  | (k, v) :: ms => return (Text.ofString k.replaced, ← answered? v) :: (← answeredMembers? ms)

end

/-! ## Values in texts and in storage -/

mutual

/-- A value has a UTF-8 form: no text in it and no name holds a lone half of a
surrogate pair. -/
def isEncodable : Value → Bool
  | .str s => s.isEncodable
  | .list items => isEncodableItems items
  | .object members => isEncodableMembers members
  | _ => true

/-- Every value of a list has a UTF-8 form. -/
def isEncodableItems : List Value → Bool
  | [] => true
  | v :: vs => isEncodable v && isEncodableItems vs

/-- Every name and value of an object's members has a UTF-8 form. -/
def isEncodableMembers : List (Text × Value) → Bool
  | [] => true
  | (k, v) :: ms => k.isEncodable && isEncodable v && isEncodableMembers ms

end

mutual

/-- A value as a JSON text keeps it, with the shared number in the place of any
other that is not one. -/
def settled : Value → Value
  | .float x => .float x.settled
  | .list items => .list (settledItems items)
  | .object members => .object (settledMembers members)
  | v => v

/-- The values of a list as a JSON text keeps them. -/
def settledItems : List Value → List Value
  | [] => []
  | v :: vs => settled v :: settledItems vs

/-- The members of an object as a JSON text keeps them. -/
def settledMembers : List (Text × Value) → List (Text × Value)
  | [] => []
  | (k, v) :: ms => (k, settled v) :: settledMembers ms

end

/-! ## Equality of meaning -/

/-- Two values that are neither lists nor objects mean the same: numbers are
compared by size whatever their kind, and a truth value is no number.  Of what is
not a number only the shared one is like itself. -/
def sameLeaf : Value → Value → Bool
  | .null, .null => true
  | .bool a, .bool b => a == b
  | .int a, .int b => a == b
  | .int a, .float b => b.equalsInt a
  | .float a, .int b => a.equalsInt b
  | .float a, .float b => a.coincides b
  | .str a, .str b => a == b
  | _, _ => false

mutual

/-- Two values agree: lists item by item, objects name by name whatever their
order, and all others as `leaf` compares them. -/
def agree (leaf : Value → Value → Bool) : Value → Value → Bool
  | .list as, .list bs => agreeItems leaf as bs
  | .object as, .object bs => as.length == bs.length && agreeMembers leaf as bs
  | a, b => leaf a b

/-- Two lists hold values that agree, place by place. -/
def agreeItems (leaf : Value → Value → Bool) : List Value → List Value → Bool
  | [], [] => true
  | a :: as, b :: bs => agree leaf a b && agreeItems leaf as bs
  | _, _ => false

/-- Every member has one of the same name among the others that agrees with it. -/
def agreeMembers (leaf : Value → Value → Bool) :
    List (Text × Value) → List (Text × Value) → Bool
  | [], _ => true
  | (k, a) :: as, bs =>
    (match Entries.get? bs k with
      | some b => agree leaf a b
      | none => false) && agreeMembers leaf as bs

end

/-- Two values mean the same. -/
def same : Value → Value → Bool := agree sameLeaf

/-- A truth value counted as one or zero. -/
def countTruth : Value → Value
  | .bool b => .int (if b then 1 else 0)
  | v => v

/-- Two values are alike: they mean the same when truth values are counted as
numbers. -/
def alike : Value → Value → Bool := agree fun a b => sameLeaf a.countTruth b.countTruth

end Value

end Formulary
