import Mathlib.Data.UInt
import PaginationLint.Proofs.Source.Lines
import PaginationLint.Source.Position

/-!
Lines and columns are exact.

The index of a text holds where its lines start, and halving finds the line that starts at a place
or else the next one. Main statement: the line counts the newlines before the place, the column
counts from behind the last of them, both together grow with the place, and on the way no index is
out of range and no word wraps. For the last part the computation is repeated with checks.
-/

namespace PaginationLint

variable {bytes : List UInt8}

namespace LineIndex

/-! ### The index of a text -/

/-- The index is that of a text with the given bytes. -/
structure Indexes (index : LineIndex) (bytes : List UInt8) : Prop where
  length_eq : index.length.toNat = bytes.length
  starts_eq : index.starts.toList.map UInt32.toNat = lineStarts bytes

theorem toNat_add_one {n : Nat} (small : n + 1 < UInt32.size) :
    (UInt32.ofNat n + 1).toNat = n + 1 := by
  rw [UInt32.toNat_add, UInt32.toNat_ofNat_of_lt' (Nat.lt_of_succ_lt small)]
  exact Nat.mod_eq_of_lt small

theorem toNat_startsAfter {cs : List Char} {offset : Nat}
    (small : offset + (cs.flatMap String.utf8EncodeChar).length < UInt32.size) :
    (startsAfter offset cs).map UInt32.toNat =
      newlineEnds offset (cs.flatMap String.utf8EncodeChar) := by
  induction cs generalizing offset with
  | nil => rfl
  | cons c cs ih =>
    rw [List.flatMap_cons, List.length_append, String.length_utf8EncodeChar] at small
    rw [startsAfter, List.flatMap_cons, newlineEnds_append, String.length_utf8EncodeChar]
    by_cases h : c = '\n'
    · have one : '\n'.utf8Size = 1 := rfl
      rw [h, one] at small
      have here : newlineEnds offset (String.utf8EncodeChar '\n') = [offset + 1] := rfl
      rw [if_pos h, h, one, here, List.map_cons, ih (by omega), toNat_add_one (by omega)]
      rfl
    · rw [if_neg h, ih (by omega), newlineEnds_eq_nil (newlineByte_notMem_utf8EncodeChar h)]
      rfl

theorem indexes_ofText {text : String} (small : text.utf8ByteSize < UInt32.size) :
    (ofText text).Indexes (utf8Bytes text) := by
  refine ⟨UInt32.toNat_ofNat_of_lt' small, ?_⟩
  rw [← length_utf8Bytes, utf8Bytes_eq_flatMap] at small
  rw [ofText, List.toList_toArray, List.map_cons, toNat_startsAfter (by omega), lineStarts,
    utf8Bytes_eq_flatMap]
  rfl

/-! ### The line of a place -/

variable {index : LineIndex}

/-- A line that is found starts at the place, whatever the order of the others. -/
theorem search_eq_exact {offset : UInt32} {lo hi i : Nat}
    (found : index.search offset lo hi = .exact i) :
    i < hi ∧ index.starts.getD i 0 = offset := by
  fun_induction search index offset lo hi with
  | case1 lo hi range mid start same =>
    rw [← Hit.exact.inj found]
    exact ⟨by omega, same⟩
  | case2 lo hi range mid start other less ih => exact ih found
  | case3 lo hi range mid start other greater ih =>
    obtain ⟨inside, same⟩ := ih found
    exact ⟨by omega, same⟩
  | case4 lo hi range => cases found

/-- If none is found, halving ends behind the lines that start up to the place. -/
theorem search_eq_next {offset : UInt32} {n lo hi i : Nat}
    (splits : ∀ i < index.starts.size, index.starts.getD i 0 ≤ offset ↔ i < n)
    (low : lo ≤ n) (high : n ≤ hi) (inside : hi ≤ index.starts.size)
    (missed : index.search offset lo hi = .next i) : i = n := by
  -- their number stays between the two bounds
  fun_induction search index offset lo hi with
  | case1 lo hi range mid start same => cases missed
  | case2 lo hi range mid start other less ih =>
    have := (splits mid (by omega)).mp (UInt32.le_of_lt less)
    exact ih (by omega) high inside missed
  | case3 lo hi range mid start other greater ih =>
    have beyond : ¬ start ≤ offset := fun least => greater (UInt32.lt_of_le_of_ne least other)
    have := mt (splits mid (by omega)).mpr beyond
    exact ih low (by omega) (by omega) missed
  | case4 lo hi range =>
    obtain ⟨⟩ := missed
    omega

namespace Indexes

variable (indexes : index.Indexes bytes)

include indexes

theorem size_eq : index.starts.size = (lineStarts bytes).length := by
  rw [← indexes.starts_eq, List.length_map, Array.length_toList]

theorem toNat_getD (i : Nat) :
    (index.starts.getD i 0).toNat = (lineStarts bytes).getD i 0 := by
  rw [← indexes.starts_eq, Array.getD_eq_getD_getElem?, List.getD_eq_getElem?_getD,
    List.getElem?_map, Array.getElem?_toList]
  cases index.starts[i]? <;> rfl

/-- The line that starts at a place is the one behind all lines that end before it. -/
theorem eq_of_search_eq_exact {offset : UInt32} {i : Nat}
    (found : index.search offset 0 index.starts.size = .exact i) :
    i = linesBefore bytes offset.toNat := by
  obtain ⟨inside, same⟩ := search_eq_exact found
  rw [indexes.size_eq] at inside
  rw [← same, indexes.toNat_getD, linesBefore_lineStarts_getD inside]

/-- The next line is one further. -/
theorem eq_of_search_eq_next {offset : UInt32} {i : Nat}
    (missed : index.search offset 0 index.starts.size = .next i) :
    i = linesBefore bytes offset.toNat + 1 := by
  have inside := linesBefore_lt_length bytes offset.toNat
  rw [← indexes.size_eq] at inside
  refine search_eq_next (fun i hi => ?_) (Nat.zero_le _) inside (Nat.le_refl _) missed
  rw [UInt32.le_iff_toNat_le, indexes.toNat_getD, lineStarts_getD_le_iff (indexes.size_eq ▸ hi),
    Nat.lt_succ_iff]

end Indexes

/-! ### Line and column -/

namespace Indexes

variable (indexes : index.Indexes bytes) (small : bytes.length + 2 ≤ UInt32.size)

include indexes

theorem toNat_place (offset : UInt32) :
    (min offset index.length).toNat = min offset.toNat bytes.length := by
  rw [UInt32.toNat_min, indexes.length_eq]

theorem line_eq (offset : UInt32) :
    index.line (min offset index.length) =
      linesBefore bytes (min offset.toNat bytes.length) := by
  rw [← indexes.toNat_place, line]
  split
  next i found => exact indexes.eq_of_search_eq_exact found
  next i missed => rw [indexes.eq_of_search_eq_next missed, Nat.add_sub_cancel]

theorem toNat_start (offset : UInt32) :
    (index.starts.getD (index.line (min offset index.length)) 0).toNat =
      lineStart bytes (min offset.toNat bytes.length) := by
  rw [indexes.line_eq, indexes.toNat_getD, lineStart]

theorem start_le (offset : UInt32) :
    index.starts.getD (index.line (min offset index.length)) 0 ≤ min offset index.length := by
  rw [UInt32.le_iff_toNat_le, indexes.toNat_start, indexes.toNat_place]
  exact lineStart_le bytes _

include small

theorem toNat_line (offset : UInt32) :
    (index.position offset).line.toNat =
      linesBefore bytes (min offset.toNat bytes.length) + 1 := by
  have bound := linesBefore_le_length bytes (min offset.toNat bytes.length)
  rw [position, indexes.line_eq]
  exact toNat_add_one (by omega)

theorem toNat_column (offset : UInt32) :
    (index.position offset).column.toNat =
      min offset.toNat bytes.length - lineStart bytes (min offset.toNat bytes.length) + 1 := by
  have difference := UInt32.toNat_sub_of_le _ _ (indexes.start_le offset)
  rw [indexes.toNat_start, indexes.toNat_place] at difference
  rw [position, UInt32.toNat_add, difference]
  exact Nat.mod_eq_of_lt (show _ + 1 < UInt32.size by omega)

/-- The line gives where it starts, and the column how far from there the place is. -/
theorem place_eq_of_position_eq {a b : UInt32} (same : index.position a = index.position b) :
    min a.toNat bytes.length = min b.toNat bytes.length := by
  have line := indexes.toNat_line small a
  have column := indexes.toNat_column small a
  rw [same, indexes.toNat_line small, Nat.add_right_cancel_iff] at line
  rw [same, indexes.toNat_column small] at column
  have start := lineStart_congr line
  have start_le := lineStart_le bytes (min a.toNat bytes.length)
  have start_le' := lineStart_le bytes (min b.toNat bytes.length)
  omega

/-- A later place is in a later line, or in the same line and a later column. -/
theorem position_lt {a b : UInt32} (h : min a.toNat bytes.length < min b.toNat bytes.length) :
    Prod.Lex (· < ·) (· < ·) ((index.position a).line, (index.position a).column)
      ((index.position b).line, (index.position b).column) := by
  rw [Prod.lex_def, UInt32.lt_iff_toNat_lt, UInt32.lt_iff_toNat_lt, ← UInt32.toNat_inj,
    indexes.toNat_line small, indexes.toNat_line small, indexes.toNat_column small,
    indexes.toNat_column small]
  rcases Nat.lt_or_eq_of_le (linesBefore_le bytes (Nat.le_of_lt h)) with less | same
  · exact .inl (by omega)
  · have start := lineStart_congr same
    have start_le := lineStart_le bytes (min a.toNat bytes.length)
    exact .inr ⟨by omega, by omega⟩

end Indexes

/-! ### The same computation with checks -/

/-- A number as a word, if it is one. -/
def word? (n : Nat) : Option UInt32 := if n < UInt32.size then some (UInt32.ofNat n) else none

/-- The sum of two words, if it does not wrap. -/
def plus? (a b : UInt32) : Option UInt32 :=
  if a.toNat + b.toNat < UInt32.size then some (a + b) else none

/-- The difference of two words, if it does not wrap. -/
def minus? (a b : UInt32) : Option UInt32 := if b ≤ a then some (a - b) else none

/-- The line starts behind `offset`, if none of them wraps. -/
def startsAfter? (offset : Nat) : List Char → Option (List UInt32)
  | [] => some []
  | c :: cs =>
    if c = '\n' then do
      let start ← plus? (← word? offset) 1
      return start :: (← startsAfter? (offset + 1) cs)
    else startsAfter? (offset + c.utf8Size) cs

/-- The index of a text, if no line start and no length wraps. -/
def ofText? (text : String) : Option LineIndex := do
  let starts ← startsAfter? 0 text.toList
  return { starts := (0 :: starts).toArray, length := ← word? text.utf8ByteSize }

/-- Where a search ends, if only line starts of the index are looked at. -/
def search? (index : LineIndex) (offset : UInt32) (lo hi : Nat) : Option Hit :=
  if lo < hi then do
    let start ← index.starts[(lo + hi) / 2]?
    if start = offset then some (.exact ((lo + hi) / 2))
    else if start < offset then search? index offset ((lo + hi) / 2 + 1) hi
    else search? index offset lo ((lo + hi) / 2)
  else some (.next lo)
termination_by hi - lo
decreasing_by all_goals omega

/-- The line in which a search ends, if there is one in front of the next. -/
def Hit.line? : Hit → Option Nat
  | .exact line => some line
  | .next 0 => none
  | .next (line + 1) => some line

/-- The place of a byte offset, if some line start is not beyond it and nothing wraps. -/
def position? (index : LineIndex) (offset : UInt32) : Option Position := do
  let offset := min offset index.length
  let line ← (← index.search? offset 0 index.starts.size).line?
  let start ← index.starts[line]?
  return ⟨← plus? (← word? line) 1, ← plus? (← minus? offset start) 1⟩

theorem word?_eq_some {n : Nat} (small : n < UInt32.size) : word? n = some (UInt32.ofNat n) :=
  if_pos small

theorem plus?_one_eq_some {a : UInt32} (small : a.toNat + 1 < UInt32.size) :
    plus? a 1 = some (a + 1) :=
  if_pos small

theorem plus?_ofNat_one_eq_some {n : Nat} (small : n + 1 < UInt32.size) :
    plus? (UInt32.ofNat n) 1 = some (UInt32.ofNat n + 1) := by
  refine plus?_one_eq_some ?_
  rwa [UInt32.toNat_ofNat_of_lt' (Nat.lt_of_succ_lt small)]

theorem minus?_eq_some {a b : UInt32} (h : b ≤ a) : minus? a b = some (a - b) := if_pos h

theorem startsAfter?_eq_some {cs : List Char} {offset : Nat}
    (small : offset + (cs.flatMap String.utf8EncodeChar).length < UInt32.size) :
    startsAfter? offset cs = some (startsAfter offset cs) := by
  induction cs generalizing offset with
  | nil => rfl
  | cons c cs ih =>
    rw [List.flatMap_cons, List.length_append, String.length_utf8EncodeChar] at small
    rw [startsAfter?, startsAfter]
    by_cases h : c = '\n'
    · have one : '\n'.utf8Size = 1 := rfl
      rw [h, one] at small
      have start := plus?_ofNat_one_eq_some (show offset + 1 < UInt32.size by omega)
      rw [if_pos h, if_pos h, word?_eq_some (by omega), ih (by omega)]
      simp [start]
    · rw [if_neg h, if_neg h, ih (by omega)]

theorem ofText?_eq_some {text : String} (small : text.utf8ByteSize < UInt32.size) :
    ofText? text = some (ofText text) := by
  have bound : 0 + (text.toList.flatMap String.utf8EncodeChar).length < UInt32.size := by
    rw [← utf8Bytes_eq_flatMap, length_utf8Bytes, Nat.zero_add]
    exact small
  rw [ofText?, startsAfter?_eq_some bound, word?_eq_some small]
  rfl

theorem getElem?_starts {i : Nat} (inside : i < index.starts.size) :
    index.starts[i]? = some (index.starts.getD i 0) := by
  rw [Array.getD_eq_getD_getElem?, Array.getElem?_eq_getElem inside, Option.getD_some]

theorem search?_eq_some {offset : UInt32} {lo hi : Nat} (inside : hi ≤ index.starts.size) :
    index.search? offset lo hi = some (index.search offset lo hi) := by
  fun_induction search index offset lo hi with
  | case1 lo hi range mid start same =>
    rw [search?, if_pos range, getElem?_starts (by omega)]
    exact if_pos same
  | case2 lo hi range mid start other less ih =>
    rw [search?, if_pos range, getElem?_starts (by omega)]
    exact (if_neg other).trans ((if_pos less).trans (ih inside))
  | case3 lo hi range mid start other greater ih =>
    rw [search?, if_pos range, getElem?_starts (by omega)]
    exact (if_neg other).trans ((if_neg greater).trans (ih (by omega)))
  | case4 lo hi range => rw [search?, if_neg range]

/-- The checks are passed if the search ends in a line of the index that starts up to the place, and
line and place have successors among the words. -/
theorem position?_of_line {offset : UInt32}
    (ends : (index.search (min offset index.length) 0 index.starts.size).line? =
      some (index.line (min offset index.length)))
    (inside : index.line (min offset index.length) < index.starts.size)
    (start_le : index.starts.getD (index.line (min offset index.length)) 0 ≤
      min offset index.length)
    (line_lt : index.line (min offset index.length) + 1 < UInt32.size)
    (place_lt : (min offset index.length).toNat + 1 < UInt32.size) :
    index.position? offset = some (index.position offset) := by
  simp only [position?, position, search?_eq_some (Nat.le_refl _), Option.bind_eq_bind,
    Option.bind_some, ends]
  generalize index.line (min offset index.length) = line at *
  generalize min offset index.length = place at *
  have column_lt : (place - index.starts.getD line 0).toNat + 1 < UInt32.size := by
    rw [UInt32.toNat_sub_of_le _ _ start_le]
    omega
  simp only [Option.bind_some, getElem?_starts inside, word?_eq_some (Nat.lt_of_succ_lt line_lt),
    plus?_ofNat_one_eq_some line_lt, minus?_eq_some start_le, plus?_one_eq_some column_lt]
  rfl

theorem Indexes.line?_search (indexes : index.Indexes bytes) (offset : UInt32) :
    (index.search offset 0 index.starts.size).line? = some (index.line offset) := by
  rw [line]
  cases ends : index.search offset 0 index.starts.size with
  | exact i => rfl
  | next i =>
    rw [indexes.eq_of_search_eq_next ends]
    rfl

theorem Indexes.position?_eq_some (indexes : index.Indexes bytes)
    (small : bytes.length + 2 ≤ UInt32.size) (offset : UInt32) :
    index.position? offset = some (index.position offset) := by
  have lines := linesBefore_le_length bytes (min offset.toNat bytes.length)
  have inside := linesBefore_lt_length bytes (min offset.toNat bytes.length)
  rw [← indexes.line_eq] at lines inside
  rw [← indexes.size_eq] at inside
  have place := indexes.toNat_place offset
  exact position?_of_line (indexes.line?_search _) inside (indexes.start_le offset) (by omega)
    (by omega)

/-- The index of a text that leaves room for one more byte finds lines and columns exactly: the line
of a place is one more than the number of newlines before it, and the column counts from where that
line starts. Later places have later lines and columns, so these determine the place. The checked
computation gives the same, so no index was out of range and no word wrapped. -/
theorem position_exact (text : String) (small : text.utf8ByteSize ≤ UInt32.size - 2) :
    let index := ofText text
    let place := fun offset : UInt32 => min offset.toNat text.utf8ByteSize
    ofText? text = some index ∧
    (∀ offset, index.position? offset = some (index.position offset)) ∧
    (∀ offset,
      (index.position offset).line.toNat =
        1 + ((utf8Bytes text).take (place offset)).count newlineByte ∧
      ∃ start, StartsLine (utf8Bytes text) (place offset) start ∧
        (index.position offset).column.toNat = place offset - start + 1) ∧
    (∀ a b, place a < place b →
      Prod.Lex (· < ·) (· < ·) ((index.position a).line, (index.position a).column)
        ((index.position b).line, (index.position b).column)) ∧
    ∀ a b, index.position a = index.position b → place a = place b := by
  have room : (utf8Bytes text).length + 2 ≤ UInt32.size := by
    rw [length_utf8Bytes]
    have : 2 ≤ UInt32.size := by decide
    omega
  have fits : text.utf8ByteSize < UInt32.size := by
    rw [length_utf8Bytes] at room
    omega
  have indexes := indexes_ofText fits
  refine ⟨ofText?_eq_some fits, indexes.position?_eq_some room, fun offset => ⟨?_, ?_⟩,
    fun _ _ => indexes.position_lt room, fun _ _ => indexes.place_eq_of_position_eq room⟩
  · rw [indexes.toNat_line room, Nat.add_comm]
    rfl
  · exact ⟨_, startsLine_lineStart _ _, indexes.toNat_column room offset⟩

/-- A text with a character of two bytes and an empty line, and an offset beyond its end. -/
theorem position_exact_mixed :
    let index := ofText "é\nab\n\nz"
    (index.position 5).line.toNat = 2 ∧ (index.position 99).line.toNat = 4 ∧
      index.position? 99 = some (index.position 99) ∧
      Prod.Lex (· < ·) (· < ·) ((index.position 2).line, (index.position 2).column)
        ((index.position 3).line, (index.position 3).column) := by
  obtain ⟨-, checked, placed, increasing, -⟩ := position_exact "é\nab\n\nz" (by decide)
  exact ⟨(placed 5).1.trans (by decide), (placed 99).1.trans (by decide), checked 99,
    increasing 2 3 (by decide)⟩

end LineIndex

end PaginationLint
