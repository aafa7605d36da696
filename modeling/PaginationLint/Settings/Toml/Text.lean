import PaginationLint.Json.Quoted

/-!
Strings of TOML, in their four kinds.
-/

namespace PaginationLint.Toml

/-! ### Characters -/

/-- A space or a tab. -/
def isBlank (c : Char) : Bool := c == ' ' || c == '\t'

/-- A character that may stand in a comment or a string: a tab, or no control character. -/
def isPlain (c : Char) : Bool := c == '\t' || (32 ≤ c.toNat && c.toNat != 127)

/-- A character of a key without quotes. -/
def isBare (c : Char) : Bool := c.isAlphanum || c == '_' || c == '-'

/-- What follows a line break at the start of a text. -/
def afterBreak? : List Char → Option (List Char)
  | '\n' :: rest => some rest
  | '\r' :: '\n' :: rest => some rest
  | _ => none

/-- A text without a line break at its start. -/
def dropBreak (cs : List Char) : List Char := (afterBreak? cs).getD cs

/-- The character that a one-letter escape stands for. -/
def escaped? (c : Char) : Option Char :=
  if c = 'b' then some '\x08'
  else if c = 't' then some '\t'
  else if c = 'n' then some '\n'
  else if c = 'f' then some '\x0c'
  else if c = 'r' then some '\r'
  else if c = '"' then some '"'
  else if c = '\\' then some '\\'
  else none

/-- The character with a given number, if there is one. -/
def scalar? (n : Nat) : Option Char := if n.isValidChar then some (Char.ofNat n) else none

/-! ### Strings

Each reader starts behind the opening quotes and gives the characters up to the closing ones and
what follows those. -/

/-- A string between single quotes. -/
def literal (acc : List Char) : List Char → Option (List Char × List Char)
  | [] => none
  | c :: rest =>
    if c = '\x27' then some (acc.reverse, rest)
    else if isPlain c then literal (c :: acc) rest
    else none

/-- A string between double quotes. -/
def basic (acc : List Char) : List Char → Option (List Char × List Char)
  | [] => none
  | '"' :: rest => some (acc.reverse, rest)
  | '\\' :: 'u' :: a :: b :: c :: d :: rest =>
    match Quoted.hex4? a b c d >>= scalar? with
    | some x => basic (x :: acc) rest
    | none => none
  | '\\' :: 'U' :: a :: b :: c :: d :: e :: f :: g :: h :: rest =>
    match (do scalar? ((← Quoted.hex4? a b c d) * 65536 + (← Quoted.hex4? e f g h))) with
    | some x => basic (x :: acc) rest
    | none => none
  | '\\' :: e :: rest =>
    match escaped? e with
    | some x => basic (x :: acc) rest
    | none => none
  | c :: rest => if c != '\\' && isPlain c then basic (c :: acc) rest else none

/-- A string of several lines between triple single quotes. Up to two more quotes at its end belong
to it, and a line break is written as a newline. -/
def multiLiteral (acc : List Char) : List Char → Option (List Char × List Char)
  | [] => none
  | '\x27' :: '\x27' :: '\x27' :: '\x27' :: '\x27' :: rest =>
    some (('\x27' :: '\x27' :: acc).reverse, rest)
  | '\x27' :: '\x27' :: '\x27' :: '\x27' :: rest => some (('\x27' :: acc).reverse, rest)
  | '\x27' :: '\x27' :: '\x27' :: rest => some (acc.reverse, rest)
  | '\r' :: '\n' :: rest => multiLiteral ('\n' :: acc) rest
  | c :: rest => if c == '\n' || isPlain c then multiLiteral (c :: acc) rest else none

/-- A string of several lines between triple double quotes. A backslash at the end of a line joins
it with the next one that is not blank: `joining` is on until that one is found. -/
def multiBasic (joining : Bool) (acc : List Char) : List Char → Option (List Char × List Char)
  | [] => none
  | '"' :: '"' :: '"' :: '"' :: '"' :: rest => some (('"' :: '"' :: acc).reverse, rest)
  | '"' :: '"' :: '"' :: '"' :: rest => some (('"' :: acc).reverse, rest)
  | '"' :: '"' :: '"' :: rest => some (acc.reverse, rest)
  | '\r' :: '\n' :: rest => multiBasic joining (if joining then acc else '\n' :: acc) rest
  | '\\' :: 'u' :: a :: b :: c :: d :: rest =>
    match Quoted.hex4? a b c d >>= scalar? with
    | some x => multiBasic false (x :: acc) rest
    | none => none
  | '\\' :: 'U' :: a :: b :: c :: d :: e :: f :: g :: h :: rest =>
    match (do scalar? ((← Quoted.hex4? a b c d) * 65536 + (← Quoted.hex4? e f g h))) with
    | some x => multiBasic false (x :: acc) rest
    | none => none
  | '\\' :: e :: rest =>
    match escaped? e with
    | some x => multiBasic false (x :: acc) rest
    | none =>
      if (afterBreak? ((e :: rest).dropWhile isBlank)).isSome then multiBasic true acc rest
      else none
  | c :: rest =>
    if joining && (isBlank c || c == '\n') then multiBasic true acc rest
    else if c == '\n' || (c != '\\' && isPlain c) then multiBasic false (c :: acc) rest
    else none

/-! ### What a reader leaves -/

theorem length_lt_of_literal {acc cs s rest : List Char} (h : literal acc cs = some (s, rest)) :
    rest.length < cs.length := by
  fun_induction literal acc cs <;> simp only [List.length_cons, List.length_nil] <;> grind

theorem length_lt_of_basic {acc cs s rest : List Char} (h : basic acc cs = some (s, rest)) :
    rest.length < cs.length := by
  fun_induction basic acc cs <;> simp only [List.length_cons, List.length_nil] <;> grind

theorem length_lt_of_multiLiteral {acc cs s rest : List Char}
    (h : multiLiteral acc cs = some (s, rest)) : rest.length < cs.length := by
  fun_induction multiLiteral acc cs <;> simp only [List.length_cons, List.length_nil] <;> grind

theorem length_lt_of_multiBasic {joining : Bool} {acc cs s rest : List Char}
    (h : multiBasic joining acc cs = some (s, rest)) : rest.length < cs.length := by
  fun_induction multiBasic joining acc cs <;>
    simp only [List.length_cons, List.length_nil] <;> grind

theorem length_dropBreak_le (cs : List Char) : (dropBreak cs).length ≤ cs.length := by
  unfold dropBreak afterBreak?
  split <;> simp only [Option.getD, List.length_cons] <;> omega

theorem length_dropWhile_le (p : Char → Bool) (cs : List Char) :
    (cs.dropWhile p).length ≤ cs.length :=
  (List.dropWhile_suffix p).length_le

end PaginationLint.Toml
