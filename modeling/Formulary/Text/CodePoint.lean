/-!
# Code points

What a text is made of: characters, and halves of surrogate pairs that stand
alone.  An escape in a JSON text can name such a half by its number, and the
octets of a UTF-16 text can hold one.  No character is a half and no half is a
character, whatever their numbers.

Main statement: `ofNat_toNat`, by which a code point is known by its number.
-/

namespace Formulary

/-- A half of a surrogate pair. -/
structure Half where
  /-- The code unit. -/
  unit : Nat
  isHalf : 0xD800 ≤ unit ∧ unit ≤ 0xDFFF
deriving DecidableEq, Repr

/-- A character, or a half of a surrogate pair without the other. -/
inductive CodePoint where
  | char (c : Char)
  | half (h : Half)
deriving DecidableEq, Repr

namespace CodePoint

/-- A code unit that is the first half of a surrogate pair. -/
def isHighHalf (unit : Nat) : Bool := 0xD800 ≤ unit && unit ≤ 0xDBFF

/-- A code unit that is the second half of a surrogate pair. -/
def isLowHalf (unit : Nat) : Bool := 0xDC00 ≤ unit && unit ≤ 0xDFFF

/-- The code point of a number. -/
def ofNat (n : Nat) : CodePoint :=
  if h : 0xD800 ≤ n ∧ n ≤ 0xDFFF then .half ⟨n, h⟩ else .char (Char.ofNat n)

/-- The code point that two halves of a surrogate pair make. -/
def ofPair (high low : Nat) : CodePoint :=
  .char (Char.ofNat (0x10000 + (high - 0xD800) * 0x400 + (low - 0xDC00)))

/-- The number of a code point. -/
def toNat : CodePoint → Nat
  | .char c => c.toNat
  | .half h => h.unit

/-- The character that a code point is. -/
def char? : CodePoint → Option Char
  | .char c => some c
  | .half _ => none

/-- A code point is a lone half. -/
def isHalf : CodePoint → Bool
  | .char _ => false
  | .half _ => true

/-- A code point is a character of a kind. -/
def satisfies (p : Char → Bool) : CodePoint → Bool
  | .char c => p c
  | .half _ => false

@[simp] theorem ofNat_toNat (p : CodePoint) : ofNat p.toNat = p := by
  cases p with
  | half h => simp [ofNat, toNat, h.isHalf]
  | char c =>
    have hc : ¬(0xD800 ≤ c.toNat ∧ c.toNat ≤ 0xDFFF) := by
      have hvalid : c.toNat < 0xD800 ∨ 0xDFFF < c.toNat ∧ c.toNat < 0x110000 := c.valid
      omega
    simp [ofNat, toNat, hc]

end CodePoint

end Formulary
