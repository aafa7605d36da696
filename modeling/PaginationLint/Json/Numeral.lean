import PaginationLint.Json.Basic
import PaginationLint.Json.Fault

/-!
JSON numerals and the numbers they stand for.

`Numeral.scan` takes the longest numeral at the start of a text. `Numeral.value?` gives its number:
an integer if it has neither fraction nor exponent and fits 64 bits, else a double. The significand
of a double keeps as many leading digits as fit 64 bits.
-/

namespace PaginationLint

/-- A numeral taken apart. A numeral without a fraction has no fraction digits. -/
structure Numeral where
  negative : Bool
  whole : List Nat
  fraction : List Nat
  exponent : Option (Bool × List Nat)
  deriving DecidableEq, Repr, Inhabited

namespace Numeral

/-- The digits at the start of a text. -/
def digits (cs : List Char) : List Nat := (cs.takeWhile Char.isDigit).map fun c => c.toNat - 48

/-- What follows the digits at the start of a text. -/
def afterDigits (cs : List Char) : List Char := cs.dropWhile Char.isDigit

/-- The value of a list of digits. -/
def ofDigits (ds : List Nat) : Nat := ds.foldl (fun n d => n * 10 + d) 0

/-- Fault at a place where a digit has to stand. -/
def digitFault : List Char → Fault
  | [] => .cutShort
  | _ => .malformed

/-- The sign at the start of a text: is it a minus, and what follows it. -/
def minus : List Char → Bool × List Char
  | '-' :: rest => (true, rest)
  | rest => (false, rest)

/-- The sign of an exponent: a plus may be written. -/
def exponentSign : List Char → Bool × List Char
  | '+' :: rest => (false, rest)
  | rest => minus rest

/-- The exponent part at the start of a text, if there is one. -/
def scanExponent (cs : List Char) : Except Fault (Option (Bool × List Nat) × List Char) :=
  match cs with
  | c :: rest =>
    if c = 'e' ∨ c = 'E' then
      match digits (exponentSign rest).2 with
      | [] => .error (digitFault (exponentSign rest).2)
      | ds => .ok (some ((exponentSign rest).1, ds), afterDigits (exponentSign rest).2)
    else .ok (none, cs)
  | [] => .ok (none, [])

/-- The fraction part at the start of a text, if there is one. -/
def scanFraction (cs : List Char) : Except Fault (List Nat × List Char) :=
  match cs with
  | '.' :: rest =>
    match digits rest with
    | [] => .error (digitFault rest)
    | ds => .ok (ds, afterDigits rest)
  | _ => .ok ([], cs)

/-- The digits before the point: a single zero, or digits that start with no zero. -/
def scanWhole (cs : List Char) : Except Fault (List Nat × List Char) :=
  match digits cs with
  | [] => .error (digitFault cs)
  | [0] => .ok ([0], afterDigits cs)
  | 0 :: _ => .error .malformed
  | ds => .ok (ds, afterDigits cs)

/-- The numeral at the start of a text and what follows it. -/
def scan (cs : List Char) : Except Fault (Numeral × List Char) := do
  let (whole, rest) ← scanWhole (minus cs).2
  let (fraction, rest) ← scanFraction rest
  let (exponent, rest) ← scanExponent rest
  return (⟨(minus cs).1, whole, fraction, exponent⟩, rest)

/-- Bound of the significand: it fits 64 bits. -/
def significandBound : Nat := 0x1_0000_0000_0000_0000

/-- Bound of a written exponent; beyond it the number is zero or too large. -/
def exponentBound : Nat := 0x8000_0000

/-- Appends digits while the significand stays in bounds; also the digits left over. -/
def extend (significand : Nat) : List Nat → Nat × List Nat
  | [] => (significand, [])
  | d :: ds =>
    if significand * 10 + d < significandBound then extend (significand * 10 + d) ds
    else (significand, d :: ds)

/-- The size of a numeral read as a double; `none` if it is too large for one. -/
def size? (n : Numeral) : Option Magnitude :=
  let (significand, dropped) := extend 0 n.whole
  let (significand, ignored) := extend significand n.fraction
  let shift : Int := (dropped.length : Int) - ((n.fraction.length : Int) - ignored.length)
  match n.exponent with
  | none => Magnitude.ofScientific significand shift
  | some (negative, ds) =>
    let e := ofDigits ds
    if exponentBound ≤ e then
      if significand = 0 ∨ negative then some .zero else none
    else Magnitude.ofScientific significand (if negative then shift - e else shift + e)

/-- The number of a numeral; `none` if it is too large for a double. -/
def value? (n : Numeral) : Option Number :=
  let real := n.size?.map fun size => Number.real ⟨n.negative, size⟩
  if n.fraction.isEmpty ∧ n.exponent.isNone then
    let m := ofDigits n.whole
    if n.negative then
      if 0 < m ∧ 2 * m ≤ significandBound then some (.int (-(m : Int))) else real
    else if m < significandBound then some (.int m)
    else real
  else real

/-! ### What a scan leaves -/

theorem length_digits_add (cs : List Char) :
    (digits cs).length + (afterDigits cs).length = cs.length := by
  rw [digits, List.length_map, afterDigits, ← List.length_append, List.takeWhile_append_dropWhile]

theorem length_minus_le (cs : List Char) : (minus cs).2.length ≤ cs.length := by
  unfold minus
  split <;> simp

theorem length_exponentSign_le (cs : List Char) : (exponentSign cs).2.length ≤ cs.length := by
  unfold exponentSign
  split <;> simp [length_minus_le]

theorem length_le_of_scanExponent {cs rest : List Char} {e : Option (Bool × List Nat)}
    (h : scanExponent cs = .ok (e, rest)) : rest.length ≤ cs.length := by
  unfold scanExponent at h
  grind [length_digits_add, length_exponentSign_le]

theorem length_le_of_scanFraction {cs rest : List Char} {ds : List Nat}
    (h : scanFraction cs = .ok (ds, rest)) : rest.length ≤ cs.length := by
  unfold scanFraction at h
  grind [length_digits_add]

theorem length_lt_of_scanWhole {cs rest : List Char} {ds : List Nat}
    (h : scanWhole cs = .ok (ds, rest)) : rest.length < cs.length := by
  have := length_digits_add cs
  have := List.length_pos_iff (l := digits cs)
  unfold scanWhole at h
  grind

/-- A numeral has at least one digit. -/
theorem length_lt_of_scan {cs rest : List Char} {n : Numeral}
    (h : scan cs = .ok (n, rest)) : rest.length < cs.length := by
  simp only [scan, bind, Except.bind, pure, Except.pure] at h
  split at h
  · cases h
  · next _ hw =>
    split at h
    · cases h
    · next _ hf =>
      split at h
      · cases h
      · next _ he =>
        cases h
        have := length_minus_le cs
        have := length_lt_of_scanWhole hw
        have := length_le_of_scanFraction hf
        have := length_le_of_scanExponent he
        omega

end Numeral

end PaginationLint
