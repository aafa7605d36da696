import PaginationLint.Decimal.Double

/-!
The shortest decimal of a double.

Every real between the midpoints to a double's neighbours reads as that double. Of the decimals
there, `Magnitude.shortest` takes one with the fewest digits, and among those the nearest.
-/

namespace PaginationLint

/-- The number `digits · 10 ^ exponent`. -/
structure Decimal where
  digits : Nat
  exponent : Int
  deriving DecidableEq, Repr, Inhabited

namespace Decimal

/-- The same number without zeros at the end of its digits. -/
def trim (d : Decimal) : Decimal :=
  if d.digits = 0 then ⟨0, 0⟩
  else if d.digits % 10 = 0 then trim ⟨d.digits / 10, d.exponent + 1⟩
  else d
termination_by d.digits
decreasing_by omega

end Decimal

namespace Magnitude

/-- `floor (log10 (num / den))`, for a positive fraction. -/
def floorLog10 (num den : Nat) : Int :=
  if den ≤ num then ((num / den).repr.length : Int) - 1
  else -(((den - 1) / num).repr.length : Int)

/-- The fraction `c · 10 ^ p` as a numerator and a denominator. -/
def onGrid (c : Nat) (p : Int) : Nat × Nat :=
  if 0 ≤ p then (c * tenTo p.toNat, 1) else (c, tenTo (-p).toNat)

/-- Four times the double and the two midpoints beside it, over one power of two: the lower
midpoint is nearer where the mantissas of the next smaller doubles start over. -/
def midpoints (m : Magnitude) : Nat × Nat × Nat :=
  let low := if m.mantissa = twoTo 52 ∧ minExponent < m.exponent then 1 else 2
  (4 * m.mantissa - low, 4 * m.mantissa, 4 * m.mantissa + 2)

/-- Does `c · 10 ^ p` read as `m`? The midpoints themselves go to an even mantissa. -/
def readsAs (m : Magnitude) (c : Nat) (p : Int) : Bool :=
  let (lo, _, hi) := m.midpoints
  let (n, d) := onGrid c p
  let (loN, loD) := scaled lo 1 (m.exponent - 2)
  let (hiN, hiD) := scaled hi 1 (m.exponent - 2)
  if m.mantissa % 2 = 0 then loN * d ≤ n * loD && n * hiD ≤ hiN * d
  else loN * d < n * loD && n * hiD < hiN * d

/-- The neighbour of `m` on the grid of multiples of `10 ^ p` that reads as `m`; of two such the
nearer, of two equally near the even one. -/
def onGrid? (m : Magnitude) (p : Int) : Option Decimal :=
  let (n, d) := scaled m.mantissa 1 m.exponent
  let (gn, gd) := onGrid 1 p
  let c := n * gd / (d * gn)
  match m.readsAs c p, m.readsAs (c + 1) p with
  | true, false => some ⟨c, p⟩
  | false, true => some ⟨c + 1, p⟩
  | true, true => some ⟨roundHalfEven (n * gd) (d * gn), p⟩
  | false, false => none

/-- A decimal with the fewest digits that reads as `m`. Seventeen digits always suffice. -/
def shortest (m : Magnitude) : Decimal :=
  if m.mantissa = 0 then ⟨0, 0⟩
  else
    let (n, d) := scaled m.mantissa 1 m.exponent
    let top := floorLog10 n d
    let found := (List.range 17).findSome? fun (k : Nat) => m.onGrid? (top - k)
    (found.getD ⟨0, 0⟩).trim

end Magnitude

end PaginationLint
