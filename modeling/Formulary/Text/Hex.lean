/-!
# Hexadecimal digits

Fixed-width hexadecimal, as row identifiers and character escapes use it, and
the value of one hexadecimal digit.

Main statements: `length_hexDigits`, and `hexDigits_inj`, by which two numbers
that fit the width have different digits.
-/

namespace Formulary.Text

/-- The lower-case hexadecimal digit of a value below sixteen. -/
def hexChar (d : Nat) : Char :=
  Char.ofNat (if d < 10 then 0x30 + d else 0x57 + d)

/-- The value of a hexadecimal digit of either case. -/
def hexValue? (c : Char) : Option Nat :=
  let n := c.toNat
  if 0x30 ≤ n ∧ n ≤ 0x39 then some (n - 0x30)
  else if 0x41 ≤ n ∧ n ≤ 0x46 then some (n - 0x37)
  else if 0x61 ≤ n ∧ n ≤ 0x66 then some (n - 0x57)
  else none

/-- The last `width` hexadecimal digits of a number, most significant first. -/
def hexDigits : (width n : Nat) → List Char
  | 0, _ => []
  | width + 1, n => hexDigits width (n / 16) ++ [hexChar (n % 16)]

theorem hexValue?_hexChar : ∀ d < 16, hexValue? (hexChar d) = some d := by
  decide

@[simp] theorem length_hexDigits (width n : Nat) : (hexDigits width n).length = width := by
  induction width generalizing n with
  | zero => rfl
  | succ width ih => simp [hexDigits, ih]

theorem hexDigits_inj {width m n : Nat} (hm : m < Nat.pow 16 width) (hn : n < Nat.pow 16 width)
    (h : hexDigits width m = hexDigits width n) : m = n := by
  induction width generalizing m n with
  | zero =>
    have hone : Nat.pow 16 0 = 1 := rfl
    omega
  | succ width ih =>
    obtain ⟨hinit, hlast⟩ := List.append_inj h (by simp)
    have hpow : Nat.pow 16 (width + 1) = Nat.pow 16 width * 16 := rfl
    have hquot : m / 16 = n / 16 := ih (by omega) (by omega) hinit
    have hrem : m % 16 = n % 16 := by
      have := congrArg hexValue? (List.singleton_inj.1 hlast)
      rwa [hexValue?_hexChar _ (Nat.mod_lt _ (by omega)),
        hexValue?_hexChar _ (Nat.mod_lt _ (by omega)), Option.some.injEq] at this
    omega

end Formulary.Text
