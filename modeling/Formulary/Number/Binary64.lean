/-!
# Double-precision numbers

The values of the 64-bit binary floating-point format, and rounding of an exact
quotient or an exact decimal to the nearest of them, ties to the even
significand.  Everything is exact arithmetic on natural numbers.

A finite value is a sign, a significand below `2 ^ 53` and a power of two not
below `-1074`.  Rounding keeps the significand at `2 ^ 52` or above unless the
power is `-1074`, so that equal results are equal terms.

Main statement: `roundQuotient_within_half`, by which a rounded quotient is at
most half a unit away from the exact one.
-/

namespace Formulary

/-- A double-precision number.  What is not a number comes in two ways: the one
that JSON texts name, which is always the same, and any other, which is one of
its own each time. -/
inductive Binary64 where
  | finite (negative : Bool) (significand : Nat) (exponent : Int)
  | infinite (negative : Bool)
  | nan (shared : Bool)
deriving DecidableEq, Inhabited, Repr

namespace Binary64

/-- The least power of two of a significand. -/
def minExponent : Int := -1074

/-- The greatest power of two of a significand. -/
def maxExponent : Int := 971

/-- The number zero with a sign. -/
def signedZero (negative : Bool) : Binary64 := .finite negative 0 minExponent

/-- A number other than the infinities and the one that is no number. -/
def isFinite : Binary64 → Bool
  | .finite .. => true
  | _ => false

/-- The number zero, of either sign. -/
def isZero : Binary64 → Bool
  | .finite _ 0 _ => true
  | _ => false

/-- A number as a JSON text keeps it: what is not a number becomes the shared
one. -/
def settled : Binary64 → Binary64
  | .nan _ => .nan true
  | x => x

/-! ## Rounding -/

/-- A quotient rounded to the nearest natural number, a tie to the even one. -/
def roundQuotient (num den : Nat) : Nat :=
  let q := num / den
  let r := num % den
  if 2 * r > den || (2 * r == den && q % 2 == 1) then q + 1 else q

/-- The quotient `num / (den * 2 ^ e)` as numerator and denominator. -/
def scaleDown (num den : Nat) : Int → Nat × Nat
  | .ofNat e => (num, den * Nat.pow 2 e)
  | .negSucc e => (num * Nat.pow 2 (e + 1), den)

/-- The power of two that a positive quotient is rounded at: the quotient over
it lies between `2 ^ 52` and `2 ^ 53`, unless that needs a power below the
least. -/
def quotientExponent (num den : Nat) : Int :=
  let guess : Int := (num.log2 : Int) - den.log2
  let (n, d) := scaleDown num den guess
  max minExponent ((if n < d then guess - 1 else guess) - 52)

/-- A rounded significand at its power of two.  One that has grown to `2 ^ 53`
moves to the next power, and one past the greatest power is infinite. -/
def ofSignificand (negative : Bool) (m : Nat) (e : Int) : Binary64 :=
  let (m, e) := if m < Nat.pow 2 53 then (m, e) else (Nat.pow 2 52, e + 1)
  if e ≤ maxExponent then .finite negative m e else .infinite negative

/-- The double nearest to a quotient of natural numbers. -/
def ofQuotient (negative : Bool) (num den : Nat) : Binary64 :=
  if num = 0 then signedZero negative
  else
    let e := quotientExponent num den
    let (n, d) := scaleDown num den e
    ofSignificand negative (roundQuotient n d) e

/-- The double nearest to `coefficient * 10 ^ exponent`.  A power so large or so
small that the coefficient cannot make up for it is answered without computing
it, since `10 ^ n` is at least `2 ^ (3 * n)`. -/
def ofDecimal (negative : Bool) (coefficient : Nat) : Int → Binary64
  | .ofNat n =>
    if coefficient = 0 then signedZero negative
    else if coefficient.log2 + 3 * n > 1100 then .infinite negative
    else ofQuotient negative (coefficient * Nat.pow 10 n) 1
  | .negSucc n =>
    if coefficient.log2 + 1100 < 3 * (n + 1) then signedZero negative
    else ofQuotient negative coefficient (Nat.pow 10 (n + 1))

theorem roundQuotient_within_half {num den : Nat} (h : 0 < den) :
    2 * (roundQuotient num den * den) ≤ 2 * num + den ∧
      2 * num ≤ 2 * (roundQuotient num den * den) + den := by
  have hdiv : den * (num / den) + num % den = num := Nat.div_add_mod ..
  have hrem : num % den < den := Nat.mod_lt _ h
  unfold roundQuotient
  dsimp only
  split
  · rename_i hup
    have : 2 * (num % den) ≥ den := by
      simp only [Bool.or_eq_true, Bool.and_eq_true, decide_eq_true_eq, beq_iff_eq] at hup
      omega
    rw [Nat.add_mul, Nat.mul_comm (num / den) den]
    omega
  · rename_i hdown
    have : 2 * (num % den) ≤ den := by
      simp only [Bool.or_eq_true, decide_eq_true_eq, not_or] at hdown
      omega
    rw [Nat.mul_comm (num / den) den]
    omega

/-! ## Comparison -/

/-- The magnitude of a finite number as a quotient of natural numbers. -/
def magnitude (m : Nat) : Int → Nat × Nat
  | .ofNat e => (m * Nat.pow 2 e, 1)
  | .negSucc e => (m, Nat.pow 2 (e + 1))

/-- The integer that a number is, if it is one. -/
def integer? : Binary64 → Option Int
  | .finite negative m e =>
    let (num, den) := magnitude m e
    let n : Int := (num / den : Nat)
    if num % den = 0 then some (if negative then -n else n) else none
  | _ => none

/-- The fraction that a finite number is. -/
def fraction? : Binary64 → Option Rat
  | .finite negative m e =>
    let (num, den) := magnitude m e
    some (mkRat (if negative then -(num : Int) else num) den)
  | _ => none

/-- A number equals an integer. -/
def equalsInt : Binary64 → Int → Bool
  | .finite negative m e, n =>
    let (num, den) := magnitude m e
    (if negative then -(num : Int) else num) == n * den
  | _, _ => false

/-- Equality of numbers: zeros of both signs are equal, and what is no number
equals nothing. -/
def equals : Binary64 → Binary64 → Bool
  | .finite s m e, .finite s' m' e' =>
    let (num, den) := magnitude m e
    let (num', den') := magnitude m' e'
    (m == 0 && m' == 0) || (s == s' && num * den' == num' * den)
  | .infinite s, .infinite s' => s == s'
  | _, _ => false

/-- Two numbers are equal or the same thing: the shared one that is no number
coincides with itself. -/
def coincides : Binary64 → Binary64 → Bool
  | .nan shared, .nan shared' => shared && shared'
  | a, b => a.equals b

example : ofDecimal false 1 0 = .finite false (2 ^ 52) (-52) := by decide
example : ofDecimal true 15 (-1) = .finite true (3 * 2 ^ 51) (-52) := by decide
example : ofDecimal false 1 400 = .infinite false := by decide
example : integer? (.finite true (3 * 2 ^ 51) (-51)) = some (-3) := by decide
example : integer? (.finite true (3 * 2 ^ 51) (-52)) = none := by decide

end Binary64

end Formulary
