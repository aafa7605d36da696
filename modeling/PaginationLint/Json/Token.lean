import PaginationLint.Json.Draft
import PaginationLint.Json.Numeral
import PaginationLint.Json.Quoted

/-!
The tokens of a JSON text.

`Token.scan` cuts a text into tokens. A token that cannot even be passed over is the last one.
-/

namespace PaginationLint

/-- A token of a JSON text. -/
inductive Token where
  | openArray
  | closeArray
  | openObject
  | closeObject
  | comma
  | colon
  /-- A string literal. `passing` is its fault for who passes over it. -/
  | text (content : Except Fault String) (passing : Option Fault)
  /-- Any other scalar. -/
  | scalar (d : Draft)
  /-- A character that starts no token. -/
  | stray
  deriving Repr

namespace Token

/-- The four blank characters of JSON. -/
def isBlank (c : Char) : Bool := c == ' ' || c == '\n' || c == '\t' || c == '\r'

/-- Takes a given word from the start of a text. -/
def takeWord : List Char → List Char → Except Fault (List Char)
  | [], rest => .ok rest
  | _ :: _, [] => .error .cutShort
  | w :: ws, c :: cs => if w = c then takeWord ws cs else .error .malformed

/-- The string literal after an opening quote, and what follows it. Nothing follows a literal that
cannot be passed over. -/
def scanText (cs : List Char) : Token × List Char :=
  match Quoted.scan true [] cs with
  | .ok (s, rest) => (.text (.ok (String.ofList s)) none, rest)
  | .error reading =>
    match Quoted.scan false [] cs with
    | .ok (_, rest) => (.text (.error reading) none, rest)
    | .error passing => (.text (.error reading) (some passing), [])

/-- The number at the start of a text, and what follows it. A numeral that is cut short is
malformed for who passes over it. -/
def scanNumber (cs : List Char) : Token × List Char :=
  match Numeral.scan cs with
  | .ok (n, rest) =>
    match n.value? with
    | some x => (.scalar (.number x), rest)
    | none => (.scalar (.unreadable .malformed none), rest)
  | .error reading => (.scalar (.unreadable reading (some .malformed)), [])

/-- One of the words `null`, `true` and `false`, and what follows it. -/
def scanWord (word : List Char) (d : Draft) (cs : List Char) : Token × List Char :=
  match takeWord word cs with
  | .ok rest => (.scalar d, rest)
  | .error f => (.scalar (.unreadable f (some f)), [])

/-- The token that starts with `c`, and what follows it. -/
def scanOne (c : Char) (rest : List Char) : Token × List Char :=
  match c with
  | '[' => (.openArray, rest)
  | ']' => (.closeArray, rest)
  | '\x7b' => (.openObject, rest)
  | '\x7d' => (.closeObject, rest)
  | ',' => (.comma, rest)
  | ':' => (.colon, rest)
  | '"' => scanText rest
  | 'n' => scanWord ['u', 'l', 'l'] .null rest
  | 't' => scanWord ['r', 'u', 'e'] (.bool true) rest
  | 'f' => scanWord ['a', 'l', 's', 'e'] (.bool false) rest
  | c => if c = '-' ∨ c.isDigit then scanNumber (c :: rest) else (.stray, [])

theorem length_le_of_takeWord {word cs rest : List Char} (h : takeWord word cs = .ok rest) :
    rest.length ≤ cs.length := by
  fun_induction takeWord word cs <;> grind

theorem length_scanText_le (cs : List Char) : (scanText cs).2.length ≤ cs.length := by
  unfold scanText
  split
  · next h => exact Nat.le_of_lt (Quoted.length_lt_of_scan h)
  · split
    · next h => exact Nat.le_of_lt (Quoted.length_lt_of_scan h)
    · exact Nat.zero_le _

theorem length_scanNumber_le (c : Char) (cs : List Char) :
    (scanNumber (c :: cs)).2.length ≤ cs.length := by
  unfold scanNumber
  split
  · next h =>
    have := Nat.le_of_lt_succ (Numeral.length_lt_of_scan h)
    split <;> exact this
  · exact Nat.zero_le _

theorem length_scanWord_le (word : List Char) (d : Draft) (cs : List Char) :
    (scanWord word d cs).2.length ≤ cs.length := by
  unfold scanWord
  split
  · next h => exact length_le_of_takeWord h
  · exact Nat.zero_le _

/-- A token takes at least its first character. -/
theorem length_scanOne_le (c : Char) (rest : List Char) :
    (scanOne c rest).2.length ≤ rest.length := by
  unfold scanOne
  split <;> try exact Nat.le_refl _
  · exact length_scanText_le rest
  · exact length_scanWord_le _ _ rest
  · exact length_scanWord_le _ _ rest
  · exact length_scanWord_le _ _ rest
  · split
    · exact length_scanNumber_le _ rest
    · exact Nat.zero_le _

/-- The tokens of a text. -/
def scan : List Char → List Token
  | [] => []
  | c :: rest =>
    if isBlank c then scan rest
    else (scanOne c rest).1 :: scan (scanOne c rest).2
termination_by cs => cs.length
decreasing_by
  · simp
  · exact Nat.lt_succ_of_le (length_scanOne_le c rest)

end Token

end PaginationLint
