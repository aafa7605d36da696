import Mathlib.Data.List.Basic
import PaginationLint.Source.Headline

/-!
The two parts of a message.

The headline and the advice are found in different ways: the one drops a carriage return in front of
the newline, the other knows newlines only. Still nothing of a message is lost between them and
nothing is told twice: a message is its headline, the end of a line and its advice, or the headline
alone.
-/

namespace PaginationLint

/-- A message of one line is its headline, and in every other the end of a line stands between
headline and advice. A carriage return in front of a newline belongs to the end of the line. -/
inductive Parted : String → String → Option String → Prop
  | line {message : String} (single : '\n' ∉ message.toList) : Parted message message none
  | newline {headline advice : String} (single : '\n' ∉ headline.toList)
    (bare : headline.toList.getLast? ≠ some '\r') :
    Parted (headline ++ "\n" ++ advice) headline (some advice)
  | returned {headline advice : String} (single : '\n' ∉ headline.toList) :
    Parted (headline ++ "\r\n" ++ advice) headline (some advice)

theorem splitLine_of_notMem {cs : List Char} (single : '\n' ∉ cs) : splitLine cs = (cs, none) := by
  induction cs with
  | nil => rfl
  | cons c cs ih =>
    rw [List.mem_cons, not_or] at single
    rw [splitLine, if_neg (Ne.symm single.1), ih single.2]

theorem splitLine_append {line : List Char} (single : '\n' ∉ line) (rest : List Char) :
    splitLine (line ++ '\n' :: rest) = (line, some rest) := by
  induction line with
  | nil => rfl
  | cons c line ih =>
    rw [List.mem_cons, not_or] at single
    rw [List.cons_append, splitLine, if_neg (Ne.symm single.1), ih single.2]

theorem dropReturn_cons {cs : List Char} (more : cs ≠ []) (c : Char) :
    dropReturn (c :: cs) = c :: dropReturn cs := by
  simp [dropReturn, more]

theorem dropReturn_append_return (line : List Char) : dropReturn (line ++ ['\r']) = line := by
  induction line with
  | nil => rfl
  | cons c line ih => rw [List.cons_append, dropReturn_cons (by simp), ih]

theorem dropReturn_of_bare {line : List Char} (bare : line.getLast? ≠ some '\r') :
    dropReturn line = line := by
  induction line with
  | nil => rfl
  | cons c line ih =>
    cases line with
    | nil =>
      have other : c ≠ '\r' := by simpa using bare
      simp [dropReturn, other]
    | cons d line =>
      rw [List.getLast?_cons_cons] at bare
      rw [dropReturn_cons (List.cons_ne_nil d line), ih bare]

/-! ### Messages by their lines -/

theorem headline_of_single {message : String} (single : '\n' ∉ message.toList) :
    headline message = message := by
  rw [headline, splitLine_of_notMem single]
  exact String.ofList_toList

theorem advice_of_single {message : String} (single : '\n' ∉ message.toList) :
    advice message = none := by
  rw [advice, splitLine_of_notMem single]
  rfl

theorem toList_lines (line rest : String) :
    (line ++ "\n" ++ rest).toList = line.toList ++ '\n' :: rest.toList := by
  simp

theorem headline_append {line : String} (single : '\n' ∉ line.toList) (rest : String) :
    headline (line ++ "\n" ++ rest) = String.ofList (dropReturn line.toList) := by
  rw [headline, toList_lines, splitLine_append single]

theorem advice_append {line : String} (single : '\n' ∉ line.toList) (rest : String) :
    advice (line ++ "\n" ++ rest) = some rest := by
  rw [advice, toList_lines, splitLine_append single, Option.map_some, String.ofList_toList]

/-- A message with a newline starts with a line that has none. -/
theorem exists_lines {message : String} (newline : '\n' ∈ message.toList) :
    ∃ line rest : String, message = line ++ "\n" ++ rest ∧ '\n' ∉ line.toList := by
  obtain ⟨line, rest, chars, single⟩ := List.eq_append_cons_of_mem newline
  refine ⟨String.ofList line, String.ofList rest, ?_, by rwa [String.toList_ofList]⟩
  rw [← String.toList_inj, toList_lines, String.toList_ofList, String.toList_ofList, chars]

/-- Headline and advice are the parts of a message. -/
theorem parted (message : String) : Parted message (headline message) (advice message) := by
  by_cases newline : '\n' ∈ message.toList
  · obtain ⟨line, rest, rfl, single⟩ := exists_lines newline
    rw [headline_append single, advice_append single]
    by_cases returned : line.toList.getLast? = some '\r'
    · obtain ⟨chars, ends⟩ := List.getLast?_eq_some_iff.mp returned
      rw [ends, dropReturn_append_return]
      have whole : line ++ "\n" ++ rest = String.ofList chars ++ "\r\n" ++ rest := by
        rw [← String.toList_inj, toList_lines, ends]
        simp
      rw [whole]
      refine .returned ?_
      rw [ends, List.mem_append, not_or] at single
      rw [String.toList_ofList]
      exact single.1
    · rw [dropReturn_of_bare returned, String.ofList_toList]
      exact .newline single returned
  · rw [headline_of_single newline, advice_of_single newline]
    exact .line newline

end PaginationLint
