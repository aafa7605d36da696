import PaginationLint.Settings.Toml.Text

/-!
Tokens of TOML, as far as settings need them: keys without dots, strings, lists and flags.
-/

namespace PaginationLint.Toml

/-- A token of a document. -/
inductive Token where
  | newline
  | equals
  | openList
  | closeList
  | comma
  /-- A key without quotes, or a flag. -/
  | word (s : String)
  /-- A string; only one between single quotation marks can be a key. -/
  | text (s : String) (multi : Bool)
  deriving DecidableEq, Repr

/-- A string as a token. -/
def textToken (multi : Bool) : Option (List Char × List Char) → Option (Token × List Char)
  | some (s, rest) => some (.text (String.ofList s) multi, rest)
  | none => none

/-- The token that starts with `c`, and what follows it. -/
def scanOne (c : Char) (rest : List Char) : Option (Token × List Char) :=
  match c, rest with
  | '=', _ => some (.equals, rest)
  | '[', _ => some (.openList, rest)
  | ']', _ => some (.closeList, rest)
  | ',', _ => some (.comma, rest)
  | '\n', _ => some (.newline, rest)
  | '\r', '\n' :: rest => some (.newline, rest)
  | '"', '"' :: '"' :: rest => textToken true (multiBasic false [] (dropBreak rest))
  | '"', _ => textToken false (basic [] rest)
  | '\x27', '\x27' :: '\x27' :: rest => textToken true (multiLiteral [] (dropBreak rest))
  | '\x27', _ => textToken false (literal [] rest)
  | c, _ =>
    if isBare c then
      some (.word (String.ofList (c :: rest.takeWhile isBare)), rest.dropWhile isBare)
    else none

/-- What follows a comment: nothing or a line break. -/
def afterComment? (cs : List Char) : Option (List Char) :=
  let rest := cs.dropWhile isPlain
  if rest.isEmpty || (afterBreak? rest).isSome then some rest else none

/-! ### What a scan leaves -/

theorem textToken_eq_some {multi : Bool} {r : Option (List Char × List Char)} {token : Token}
    {rest : List Char} (h : textToken multi r = some (token, rest)) : ∃ s, r = some (s, rest) := by
  unfold textToken at h
  split at h
  · next s _ => exact ⟨s, by cases h; rfl⟩
  · cases h

/-- A token takes at least its first character. -/
theorem length_le_of_scanOne {c : Char} {cs rest : List Char} {token : Token}
    (h : scanOne c cs = some (token, rest)) : rest.length ≤ cs.length := by
  unfold scanOne at h
  split at h
  · cases h; exact Nat.le_refl _
  · cases h; exact Nat.le_refl _
  · cases h; exact Nat.le_refl _
  · cases h; exact Nat.le_refl _
  · cases h; exact Nat.le_refl _
  · cases h; exact Nat.le_succ _
  · next tail =>
    obtain ⟨_, h⟩ := textToken_eq_some h
    have := length_lt_of_multiBasic h
    have := length_dropBreak_le tail
    simp only [List.length_cons]
    omega
  · obtain ⟨_, h⟩ := textToken_eq_some h
    exact Nat.le_of_lt (length_lt_of_basic h)
  · next tail =>
    obtain ⟨_, h⟩ := textToken_eq_some h
    have := length_lt_of_multiLiteral h
    have := length_dropBreak_le tail
    simp only [List.length_cons]
    omega
  · obtain ⟨_, h⟩ := textToken_eq_some h
    exact Nat.le_of_lt (length_lt_of_literal h)
  · split at h
    · cases h
      exact length_dropWhile_le _ _
    · cases h

theorem length_le_of_afterComment? {cs rest : List Char} (h : afterComment? cs = some rest) :
    rest.length ≤ cs.length := by
  unfold afterComment? at h
  have := length_dropWhile_le isPlain cs
  grind

/-- The tokens of a document, without blanks and comments. -/
def scan? (cs : List Char) : Option (List Token) :=
  match cs with
  | [] => some []
  | c :: rest =>
    if isBlank c then scan? rest
    else if c = '#' then
      match _ : afterComment? rest with
      | some rest => scan? rest
      | none => none
    else
      match _ : scanOne c rest with
      | some (token, rest) => (scan? rest).map (token :: ·)
      | none => none
termination_by cs.length
decreasing_by
  · exact Nat.lt_succ_self _
  · next h => exact Nat.lt_succ_of_le (length_le_of_afterComment? h)
  · next h => exact Nat.lt_succ_of_le (length_le_of_scanOne h)

end PaginationLint.Toml
