import Formulary.Number.Binary64

/-!
# Shortest decimals

The decimal with the fewest digits that rounds back to a given double and, among
those, the one nearest to it.

A double `m * 2 ^ e` is what every real number in an interval around it rounds
to; the ends lie half-way to its neighbours and belong to it when `m` is even.
The grids of multiples of `10 ^ p` are tried from coarse to fine, and on each
grid the two points next to the double are tested.
-/

namespace Formulary

/-- A positive decimal: `coefficient * 10 ^ exponent`. -/
structure Decimal where
  coefficient : Nat
  exponent : Int
deriving DecidableEq, Inhabited, Repr

namespace Binary64

/-- The reals that round to a double, as multiples of a quarter of its unit: the
double itself, the ends of the interval, and whether the ends belong to it. -/
structure Rounding where
  value : Nat
  lower : Nat
  upper : Nat
  closed : Bool

/-- The interval of the double `m * 2 ^ e`.  Below a power of two the
neighbouring doubles are twice as dense, unless they are at the least
exponent. -/
def rounding (m : Nat) (e : Int) : Rounding where
  value := 4 * m
  lower := if m = Nat.pow 2 52 ∧ e ≠ minExponent then 4 * m - 1 else 4 * m - 2
  upper := 4 * m + 2
  closed := m % 2 == 0

/-- A point `c * grid` lies in the interval, where `unit` is a quarter of the
double's unit and `grid` the distance of two grid points, both over one
denominator. -/
def Rounding.contains (r : Rounding) (unit grid c : Nat) : Bool :=
  if r.closed then r.lower * unit ≤ c * grid && c * grid ≤ r.upper * unit
  else r.lower * unit < c * grid && c * grid < r.upper * unit

/-- The nearest grid point in the interval, if there is one; of two points at
the same distance, the even one. -/
def Rounding.gridPoint? (r : Rounding) (unit grid : Nat) : Option Nat :=
  let below := r.value * unit / grid
  let rest := r.value * unit % grid
  let nearer := if 2 * rest < grid || (2 * rest == grid && below % 2 == 0) then below else below + 1
  let farther := if nearer == below then below + 1 else below
  [nearer, farther].find? fun c => c != 0 && r.contains unit grid c

/-- The quarter unit `2 ^ (e - 2)` and the grid distance `10 ^ p` over one
denominator. -/
def unitAndGrid (e p : Int) : Nat × Nat :=
  let (twos, halves) := match e - 2 with
    | .ofNat n => (Nat.pow 2 n, 1)
    | .negSucc n => (1, Nat.pow 2 (n + 1))
  let (tens, tenths) := match p with
    | .ofNat n => (Nat.pow 10 n, 1)
    | .negSucc n => (1, Nat.pow 10 (n + 1))
  (twos * tenths, tens * halves)

/-- The first grid with a point in the interval, over `count` grids from `10 ^ p`
to finer ones. -/
def findGrid (m : Nat) (e : Int) : (count : Nat) → (p : Int) → Option Decimal
  | 0, _ => none
  | count + 1, p =>
    let (unit, grid) := unitAndGrid e p
    match (rounding m e).gridPoint? unit grid with
    | some c => some ⟨c, p⟩
    | none => findGrid m e count (p - 1)

/-- The shortest decimal that rounds to `m * 2 ^ e`.  The first grid is coarser
than the double is large, since `30103 / 100000` is above the logarithm of two,
and a grid with seventeen digits always has a point. -/
def shortest (m : Nat) (e : Int) : Decimal :=
  let bound : Int := ((m.log2 : Int) + 1 + e) * 30103 / 100000 + 1
  (findGrid m e 22 bound).getD ⟨m, e⟩

end Binary64

end Formulary
