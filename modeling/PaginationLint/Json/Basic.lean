import PaginationLint.Decimal.Shortest

/-!
JSON values.

A number is an integer of at most 64 bits or a double; every numeral with a fraction or an exponent
is a double, and so is `-0`. An object lists its members in order.
-/

namespace PaginationLint

/-- A JSON number. -/
inductive Number where
  | int (n : Int)
  | real (x : Double)
  deriving DecidableEq, Repr, Inhabited

/-- A JSON value. -/
inductive Json where
  | null
  | bool (b : Bool)
  | number (n : Number)
  | string (s : String)
  | array (items : List Json)
  | object (members : List (String × Json))
  deriving Repr, Inhabited

namespace Double

/-- Greatest number of digits before the decimal point in positional form. -/
def maxWholeDigits : Int := 16

/-- Greatest number of zeros after the decimal point in positional form, plus one. -/
def maxLeadingZeros : Int := 5

/-- Text of a double: its shortest digits, positional if the decimal point stands near them, else
with an exponent. A positional form always has a point. -/
def render (x : Double) : String :=
  let d := x.magnitude.shortest
  let digits := (toString d.digits).toList
  let point := (digits.length : Int) + d.exponent
  let body : List Char :=
    if d.digits = 0 then ['0', '.', '0']
    else if 0 ≤ d.exponent ∧ point ≤ maxWholeDigits then
      digits ++ List.replicate d.exponent.toNat '0' ++ ['.', '0']
    else if 0 < point ∧ point ≤ maxWholeDigits then
      digits.take point.toNat ++ '.' :: digits.drop point.toNat
    else if -maxLeadingZeros < point ∧ point ≤ 0 then
      ['0', '.'] ++ List.replicate (-point).toNat '0' ++ digits
    else
      let e := point - 1
      let mark := if 0 ≤ e then ['e', '+'] else ['e', '-']
      let lead := match digits with
        | [] => []
        | [c] => [c]
        | c :: cs => c :: '.' :: cs
      lead ++ mark ++ (toString e.natAbs).toList
  String.ofList (if x.negative then '-' :: body else body)

end Double

namespace Number

/-- Text of a number. -/
def render : Number → String
  | .int n => toString n
  | .real x => x.render

end Number

namespace Json

/-- The integer `n` as a JSON value. -/
def ofNat (n : Nat) : Json := .number (.int n)

/-- The value of the first member called `key`, if this is an object that has one. -/
def get? (key : String) : Json → Option Json
  | .object members => members.lookup key
  | _ => none

end Json

end PaginationLint
