/-!
Double-precision numbers in exact arithmetic.

A finite double is `± mantissa · 2 ^ exponent` with a mantissa below `2 ^ 53` and an exponent from
`-1074` to `971`. `Magnitude.nearest` rounds a rational to the nearest one, a tie to the even
mantissa; a product and a quotient are the rounded exact ones.
-/

namespace PaginationLint

/-- The size of a finite double: `mantissa · 2 ^ exponent`. -/
structure Magnitude where
  mantissa : Nat
  exponent : Int
  deriving DecidableEq, Repr, Inhabited

/-- A finite double. Zero has both signs. -/
structure Double where
  negative : Bool
  magnitude : Magnitude
  deriving DecidableEq, Repr, Inhabited

namespace Magnitude

/-- Least exponent of a double; numbers below its grid lose digits. -/
def minExponent : Int := -1074

/-- Greatest exponent of a double. -/
def maxExponent : Int := 971

def zero : Magnitude := ⟨0, 0⟩

/-- A power of two. -/
def twoTo (k : Nat) : Nat := Nat.pow 2 k

/-- A power of ten. -/
def tenTo (k : Nat) : Nat := Nat.pow 10 k

/-- `num / den` to the nearest natural number, a half to the even neighbour. -/
def roundHalfEven (num den : Nat) : Nat :=
  let q := num / den
  let r := num % den
  if 2 * r < den then q else if den < 2 * r then q + 1 else q + q % 2

/-- The fraction `num / den · 2 ^ e` as a numerator and a denominator. -/
def scaled (num den : Nat) (e : Int) : Nat × Nat :=
  if 0 ≤ e then (num * twoTo e.toNat, den) else (num, den * twoTo (-e).toNat)

/-- The double nearest to `num / den`; `none` if that is beyond the greatest one. -/
def nearest (num den : Nat) : Option Magnitude :=
  if num = 0 then some zero
  else
    let low : Int := (num.log2 : Int) - den.log2 - 53
    let (n, d) := scaled num den (-low)
    let e := max (if n < d * twoTo 53 then low else low + 1) minExponent
    let (n, d) := scaled num den (-e)
    let m := roundHalfEven n d
    let (m, e) := if m = twoTo 53 then (twoTo 52, e + 1) else (m, e)
    if e ≤ maxExponent then some ⟨m, e⟩ else none

def ofNat (n : Nat) : Option Magnitude := nearest n 1

/-- The rounded product. -/
def mul (a b : Magnitude) : Option Magnitude :=
  let (n, d) := scaled (a.mantissa * b.mantissa) 1 (a.exponent + b.exponent)
  nearest n d

/-- The rounded quotient; a quotient by zero is `none`. -/
def div (a b : Magnitude) : Option Magnitude :=
  if b.mantissa = 0 then none
  else
    let (n, d) := scaled a.mantissa b.mantissa (a.exponent - b.exponent)
    nearest n d

/-- The double nearest to `10 ^ k`. -/
def powerOfTen (k : Nat) : Option Magnitude := nearest (tenTo k) 1

/-- Greatest power of ten that is a double. -/
def maxPowerOfTen : Nat := 308

/-- `size / 10 ^ k`, rounded after each division by at most `10 ^ 308`. -/
def divPowerOfTen (size : Magnitude) (k : Nat) : Option Magnitude :=
  if size.mantissa = 0 then some size
  else if k ≤ maxPowerOfTen then powerOfTen k >>= size.div
  else do
    let p ← powerOfTen maxPowerOfTen
    let rest ← size.div p
    divPowerOfTen rest (k - maxPowerOfTen)
termination_by k
decreasing_by simp only [maxPowerOfTen] at *; omega

/-- The double read for `significand · 10 ^ exponent`: the rounded significand times, or divided
by, the rounded power of ten. `none` if it is beyond the greatest double. -/
def ofScientific (significand : Nat) (exponent : Int) : Option Magnitude := do
  let size ← ofNat significand
  if 0 ≤ exponent then
    if size.mantissa = 0 then some size
    else if exponent ≤ maxPowerOfTen then powerOfTen exponent.toNat >>= size.mul
    else none
  else divPowerOfTen size (-exponent).toNat

end Magnitude

end PaginationLint
