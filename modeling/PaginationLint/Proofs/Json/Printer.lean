import Mathlib.Data.List.Basic
import PaginationLint.Json.Printer

/-!
Compact texts of JSON values are single lines: a newline is written as an escape, and nothing else
that is written holds one.
-/

namespace PaginationLint

/-! ### Numbers -/

theorem newline_notMem_digits (n : Nat) : '\n' ∉ (toString n).toList := by
  intro mem
  rw [show toString n = n.repr from rfl, Nat.toList_repr] at mem
  have digit := Nat.isDigit_of_mem_toDigits (by decide) (by decide) mem
  exact absurd digit (by decide)

theorem newline_notMem_int (n : Int) : '\n' ∉ (toString n).toList := by
  cases n with
  | ofNat n => exact newline_notMem_digits n
  | negSucc n =>
    rw [show toString (Int.negSucc n) = "-" ++ toString (n + 1) from rfl, String.toList_append]
    simpa using newline_notMem_digits (n + 1)

theorem Double.newline_notMem_render (x : Double) : '\n' ∉ x.render.toList := by
  have digits := newline_notMem_digits x.magnitude.shortest.digits
  have zeros (n : Nat) : '\n' ∉ List.replicate n '0' := by simp [List.mem_replicate]
  have signed {cs : List Char} (h : '\n' ∉ cs) : '\n' ∉ if x.negative then '-' :: cs else cs := by
    split <;> simp [h]
  rw [render, String.toList_ofList]
  refine signed ?_
  dsimp only
  generalize (toString x.magnitude.shortest.digits).toList = ds at digits ⊢
  -- the forms of a number, one after another; the last one has an exponent
  split
  · simp
  split
  · simp [digits, zeros]
  split
  · simp [mt List.mem_of_mem_take digits, mt List.mem_of_mem_drop digits]
  split
  · simp [digits, zeros]
  · rw [List.mem_append, List.mem_append, not_or, not_or]
    refine ⟨⟨?_, ?_⟩, newline_notMem_digits _⟩
    · split <;> simp_all
    · split <;> simp

/-! ### Texts -/

namespace Quoted

theorem newline_notMem_encodeChar (c : Char) : '\n' ∉ encodeChar c := by
  have hex : ∀ n < 16, '\n' ≠ hexDigit n := by decide
  unfold encodeChar
  split_ifs with h₁ h₂ newline h₄ h₅ h₆ h₇ control <;> simp
  · exact ⟨hex _ (by omega), hex _ (by omega)⟩
  · exact Ne.symm newline

theorem newline_notMem_literal (s : String) : '\n' ∉ literal s := by
  simp [literal, encode, newline_notMem_encodeChar]

end Quoted

/-! ### Values -/

namespace Json

mutual

theorem newline_notMem_print : ∀ v : Json, '\n' ∉ v.print
  | .null | .bool true | .bool false => by simp [print]
  | .number (.int n) => newline_notMem_int n
  | .number (.real x) => x.newline_notMem_render
  | .string s => Quoted.newline_notMem_literal s
  | .array items => by simp [print, newline_notMem_printItems items]
  | .object members => by simp [print, newline_notMem_printMembers members]

theorem newline_notMem_printItems : ∀ items : List Json, '\n' ∉ printItems items
  | [] => by simp [printItems]
  | [v] => newline_notMem_print v
  | v :: w :: vs => by
    simp [printItems, newline_notMem_print v, newline_notMem_printItems (w :: vs)]

theorem newline_notMem_printMembers : ∀ members : List (String × Json),
    '\n' ∉ printMembers members
  | [] => by simp [printMembers]
  | [(k, v)] => by simp [printMembers, Quoted.newline_notMem_literal, newline_notMem_print v]
  | (k, v) :: m :: ms => by
    simp [printMembers, Quoted.newline_notMem_literal, newline_notMem_print v,
      newline_notMem_printMembers (m :: ms)]

end

/-- A compact text is one line. -/
theorem newline_notMem_compact (v : Json) : '\n' ∉ v.compact.toList := by
  rw [compact, String.toList_ofList]
  exact v.newline_notMem_print

end Json

end PaginationLint
