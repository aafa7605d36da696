import PaginationLint.Json.Fault
import PaginationLint.Text.Bytes

/-!
JSON string literals.

`Quoted.encode` writes the characters between the quotes; `Quoted.scan` reads them back up to the
closing quote. Reading comes in two strengths: `strict` refuses an escaped surrogate without its
partner, while a literal that is only passed over may hold one.
-/

namespace PaginationLint.Quoted

/-- The hexadecimal digit of a number below sixteen. -/
def hexDigit (n : Nat) : Char := if n < 10 then Char.ofNat (48 + n) else Char.ofNat (87 + n)

/-- How a character is written inside a literal. -/
def encodeChar (c : Char) : List Char :=
  if c = '"' then ['\\', '"']
  else if c = '\\' then ['\\', '\\']
  else if c = '\n' then ['\\', 'n']
  else if c = '\r' then ['\\', 'r']
  else if c = '\t' then ['\\', 't']
  else if c = '\x08' then ['\\', 'b']
  else if c = '\x0c' then ['\\', 'f']
  else if c.toNat < 32 then
    ['\\', 'u', '0', '0', hexDigit (c.toNat / 16), hexDigit (c.toNat % 16)]
  else [c]

/-- The characters of a literal, without the quotes around them. -/
def encode (s : List Char) : List Char := s.flatMap encodeChar

/-- The literal of a text. -/
def literal (s : String) : List Char := '"' :: encode s.toList ++ ['"']

/-- The value of a hexadecimal digit, in either case. -/
def hexValue? (c : Char) : Option Nat :=
  if '0' ≤ c ∧ c ≤ '9' then some (c.toNat - 48)
  else if 'a' ≤ c ∧ c ≤ 'f' then some (c.toNat - 87)
  else if 'A' ≤ c ∧ c ≤ 'F' then some (c.toNat - 55)
  else none

/-- The value of four hexadecimal digits. -/
def hex4? (a b c d : Char) : Option Nat := do
  let a ← hexValue? a
  let b ← hexValue? b
  let c ← hexValue? c
  let d ← hexValue? d
  return ((a * 16 + b) * 16 + c) * 16 + d

/-- The character that a one-letter escape stands for. -/
def escaped? (c : Char) : Option Char :=
  if c = '"' then some '"'
  else if c = '\\' then some '\\'
  else if c = '/' then some '/'
  else if c = 'b' then some '\x08'
  else if c = 'f' then some '\x0c'
  else if c = 'n' then some '\n'
  else if c = 'r' then some '\r'
  else if c = 't' then some '\t'
  else none

/-- First half of a surrogate pair. -/
def isHigh (n : Nat) : Bool := 0xD800 ≤ n && n ≤ 0xDBFF

/-- Second half of a surrogate pair. -/
def isLow (n : Nat) : Bool := 0xDC00 ≤ n && n ≤ 0xDFFF

/-- The character of a surrogate pair. -/
def ofPair (high low : Nat) : Char := Char.ofNat (0x10000 + (high - 0xD800) * 1024 + (low - 0xDC00))

/-- Fault of a four-digit escape that is none: the text is cut short if fewer than four bytes are
left. -/
def escapeFault (rest : List Char) : Fault :=
  if byteLength rest < 4 then .cutShort else .malformed

/-- Reads a literal whose opening quote is already read: its characters, put before those of
`acc` reversed, and what follows the closing quote. -/
def scan (strict : Bool) (acc : List Char) : List Char → Except Fault (List Char × List Char)
  | [] => .error .cutShort
  | c :: rest =>
    if c = '"' then .ok (acc.reverse, rest)
    else if c = '\\' then
      match rest with
      | [] => .error .cutShort
      | e :: rest =>
        if e = 'u' then
          match rest with
          | h₁ :: h₂ :: h₃ :: h₄ :: rest =>
            match hex4? h₁ h₂ h₃ h₄ with
            | none => .error .malformed
            | some n =>
              if !strict then scan strict ('�' :: acc) rest
              else if isLow n then .error .malformed
              else if isHigh n then
                match rest with
                | [] => .error .cutShort
                | ['\\'] => .error .cutShort
                | '\\' :: 'u' :: l₁ :: l₂ :: l₃ :: l₄ :: rest =>
                  match hex4? l₁ l₂ l₃ l₄ with
                  | none => .error .malformed
                  | some m =>
                    if isLow m then scan strict (ofPair n m :: acc) rest else .error .malformed
                | '\\' :: 'u' :: short => .error (escapeFault short)
                | _ => .error .malformed
              else scan strict (Char.ofNat n :: acc) rest
          | short => .error (escapeFault short)
        else
          match escaped? e with
          | some x => scan strict (x :: acc) rest
          | none => .error .malformed
    else if c.toNat < 32 then .error .malformed
    else scan strict (c :: acc) rest

/-- Reading a literal takes at least its closing quote. -/
theorem length_lt_of_scan {strict : Bool} {acc cs s rest : List Char}
    (h : scan strict acc cs = .ok (s, rest)) : rest.length < cs.length := by
  fun_induction scan strict acc cs <;>
    simp only [List.length_cons, List.length_nil] <;> grind

end PaginationLint.Quoted
