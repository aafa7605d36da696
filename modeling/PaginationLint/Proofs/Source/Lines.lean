import Mathlib.Data.List.GetD

/-!
Lines of a text by its bytes.

Lines start at zero and one past each newline byte. Main statement: of these places, which increase,
as many are not beyond a given one as there are newlines before it and one more, and the last of
them is where its line starts. No byte of another character is a newline.
-/

namespace PaginationLint

/-- The bytes of a text. -/
def utf8Bytes (text : String) : List UInt8 := text.toUTF8.data.toList

/-- The byte that ends a line. -/
def newlineByte : UInt8 := 10

/-- The line of the place `place` starts at `start`: one past the last newline before the place, or at
zero if there is none. -/
structure StartsLine (bytes : List UInt8) (place start : Nat) : Prop where
  start_le : start ≤ place
  behind_newline : start ≠ 0 → bytes[start - 1]? = some newlineByte
  none_between : ∀ i, start ≤ i → i < place → bytes[i]? ≠ some newlineByte

/-! ### Newlines among bytes and characters -/

theorem length_utf8Bytes (text : String) : (utf8Bytes text).length = text.utf8ByteSize := rfl

theorem utf8Bytes_eq_flatMap (text : String) :
    utf8Bytes text = text.toList.flatMap String.utf8EncodeChar := by
  have encoded : text.toUTF8 = text.toList.utf8Encode := by
    rw [String.toUTF8_eq_toByteArray, ← String.toByteArray_ofList, String.ofList_toList]
  rw [utf8Bytes, encoded]
  exact List.toList_data_toByteArray

/-- Bytes of a character of several bytes are beyond those of the characters of one. -/
theorem newlineByte_notMem_utf8EncodeChar {c : Char} (h : c ≠ '\n') :
    newlineByte ∉ String.utf8EncodeChar c := by
  have other : c.val.toNat ≠ 10 := fun same => h (Char.ext (UInt32.toNat_inj.mp same))
  have low : ∀ n : Nat, newlineByte = UInt8.ofNat n → n % 256 = 10 := by
    intro n same
    simpa [newlineByte] using (congrArg UInt8.toNat same).symm
  intro mem
  simp only [String.utf8EncodeChar] at mem
  split at mem
  · have := low _ (List.mem_singleton.mp mem)
    omega
  split at mem
  · simp only [List.mem_cons, List.not_mem_nil, or_false] at mem
    rcases mem with mem | mem <;> have := low _ mem <;> omega
  split at mem
  · simp only [List.mem_cons, List.not_mem_nil, or_false] at mem
    rcases mem with mem | mem | mem <;> have := low _ mem <;> omega
  · simp only [List.mem_cons, List.not_mem_nil, or_false] at mem
    rcases mem with mem | mem | mem | mem <;> have := low _ mem <;> omega

/-- One past each newline of some bytes, the first of which stands at `offset`. -/
def newlineEnds (offset : Nat) : List UInt8 → List Nat
  | [] => []
  | b :: bs =>
    if b = newlineByte then (offset + 1) :: newlineEnds (offset + 1) bs
    else newlineEnds (offset + 1) bs

theorem newlineEnds_append (offset : Nat) (bs bs' : List UInt8) :
    newlineEnds offset (bs ++ bs') =
      newlineEnds offset bs ++ newlineEnds (offset + bs.length) bs' := by
  induction bs generalizing offset with
  | nil => rfl
  | cons b bs ih =>
    have shift : offset + 1 + bs.length = offset + (b :: bs).length := by
      rw [List.length_cons]
      omega
    rw [List.cons_append, newlineEnds, newlineEnds, ih, shift]
    split <;> rfl

theorem newlineEnds_eq_nil {offset : Nat} {bs : List UInt8} (h : newlineByte ∉ bs) :
    newlineEnds offset bs = [] := by
  induction bs generalizing offset with
  | nil => rfl
  | cons b bs ih =>
    rw [List.mem_cons, not_or] at h
    rw [newlineEnds, if_neg (Ne.symm h.1), ih h.2]

theorem mem_newlineEnds_iff {offset s : Nat} {bs : List UInt8} :
    s ∈ newlineEnds offset bs ↔ ∃ i, bs[i]? = some newlineByte ∧ s = offset + i + 1 := by
  induction bs generalizing offset with
  | nil => simp [newlineEnds]
  | cons b bs ih =>
    have shifted : (∃ i, (b :: bs)[i]? = some newlineByte ∧ s = offset + i + 1) ↔
        b = newlineByte ∧ s = offset + 1 ∨ s ∈ newlineEnds (offset + 1) bs := by
      rw [ih]
      constructor
      · rintro ⟨i, found, rfl⟩
        cases i with
        | zero => exact .inl ⟨by simpa using found, rfl⟩
        | succ i => exact .inr ⟨i, by simpa using found, by omega⟩
      · rintro (⟨rfl, rfl⟩ | ⟨i, found, rfl⟩)
        · exact ⟨0, rfl, rfl⟩
        · exact ⟨i + 1, by simpa using found, by omega⟩
    rw [shifted, newlineEnds]
    split
    · next h => simp [h]
    · next h => simp [h]

theorem pairwise_newlineEnds (offset : Nat) (bs : List UInt8) :
    (offset :: newlineEnds offset bs).Pairwise (· < ·) := by
  induction bs generalizing offset with
  | nil => exact List.pairwise_singleton _ _
  | cons b bs ih =>
    obtain ⟨above, increasing⟩ := List.pairwise_cons.mp (ih (offset + 1))
    rw [newlineEnds]
    split
    · refine List.pairwise_cons.mpr ⟨fun s hs => ?_, ih (offset + 1)⟩
      rcases List.mem_cons.mp hs with rfl | hs
      · exact Nat.lt_succ_self offset
      · exact Nat.lt_of_succ_lt (above s hs)
    · exact List.pairwise_cons.mpr ⟨fun s hs => Nat.lt_of_succ_lt (above s hs), increasing⟩

/-- As many lines start within the bytes up to a place as there are newlines before it. -/
theorem countP_newlineEnds (offset place : Nat) (bs : List UInt8) :
    (newlineEnds offset bs).countP (· ≤ place) =
      (bs.take (place - offset)).count newlineByte := by
  induction bs generalizing offset with
  | nil => simp [newlineEnds]
  | cons b bs ih =>
    rcases Nat.lt_or_ge offset place with inside | outside
    · have step : place - offset = place - (offset + 1) + 1 := by omega
      rw [newlineEnds, step, List.take_succ_cons, List.count_cons, ← ih]
      split
      · next h => simp [h, Nat.succ_le_of_lt inside]
      · next h => simp [h]
    · have before : place - offset = 0 := by omega
      rw [before, List.take_zero, List.count_nil, List.countP_eq_zero]
      intro s hs
      obtain ⟨i, -, rfl⟩ := mem_newlineEnds_iff.mp hs
      simp only [decide_eq_true_eq]
      omega

/-! ### Starts of lines -/

/-- The places at which the lines of a text start. -/
def lineStarts (bytes : List UInt8) : List Nat := 0 :: newlineEnds 0 bytes

/-- The number of lines that end before a place. -/
def linesBefore (bytes : List UInt8) (place : Nat) : Nat := (bytes.take place).count newlineByte

/-- The start of the line that holds a place. -/
def lineStart (bytes : List UInt8) (place : Nat) : Nat :=
  (lineStarts bytes).getD (linesBefore bytes place) 0

variable {bytes : List UInt8} {place place' : Nat}

theorem pairwise_lineStarts (bytes : List UInt8) : (lineStarts bytes).Pairwise (· < ·) :=
  pairwise_newlineEnds 0 bytes

theorem countP_lineStarts (bytes : List UInt8) (place : Nat) :
    (lineStarts bytes).countP (· ≤ place) = linesBefore bytes place + 1 := by
  rw [lineStarts, List.countP_cons, countP_newlineEnds, Nat.sub_zero, linesBefore]
  simp

/-- Of increasing numbers, those up to a bound come first. -/
theorem getD_le_iff_lt_countP {ns : List Nat} (increasing : ns.Pairwise (· < ·)) {i : Nat}
    (h : i < ns.length) : ns.getD i 0 ≤ place ↔ i < ns.countP (· ≤ place) := by
  induction ns generalizing i with
  | nil => cases h
  | cons n ns ih =>
    obtain ⟨above, increasing⟩ := List.pairwise_cons.mp increasing
    by_cases small : n ≤ place
    · cases i with
      | zero => simp [small]
      | succ i => simpa [small] using ih increasing (Nat.lt_of_succ_lt_succ h)
    · have none : ns.countP (· ≤ place) = 0 := by
        rw [List.countP_eq_zero]
        intro m hm
        have := above m hm
        simp only [decide_eq_true_eq]
        omega
      cases i with
      | zero => simp [small, none]
      | succ i =>
        have beyond := ih increasing (Nat.lt_of_succ_lt_succ h)
        rw [none] at beyond
        simpa [small, none] using beyond

theorem linesBefore_lt_length (bytes : List UInt8) (place : Nat) :
    linesBefore bytes place < (lineStarts bytes).length := by
  have bound : (lineStarts bytes).countP (· ≤ place) ≤ (lineStarts bytes).length :=
    List.countP_le_length
  rw [countP_lineStarts] at bound
  omega

theorem lineStarts_getD_le_iff {i : Nat} (h : i < (lineStarts bytes).length) :
    (lineStarts bytes).getD i 0 ≤ place ↔ i ≤ linesBefore bytes place := by
  rw [getD_le_iff_lt_countP (pairwise_lineStarts bytes) h, countP_lineStarts, Nat.lt_succ_iff]

theorem lineStart_congr (h : linesBefore bytes place = linesBefore bytes place') :
    lineStart bytes place = lineStart bytes place' := by
  rw [lineStart, h, lineStart]

theorem lineStart_le (bytes : List UInt8) (place : Nat) : lineStart bytes place ≤ place :=
  (lineStarts_getD_le_iff (linesBefore_lt_length bytes place)).mpr (Nat.le_refl _)

theorem lineStart_mem (bytes : List UInt8) (place : Nat) :
    lineStart bytes place ∈ lineStarts bytes := by
  rw [lineStart, List.getD_eq_getElem _ _ (linesBefore_lt_length bytes place)]
  exact List.getElem_mem _

/-- Of the lines that start up to a place, the one that holds it starts last. -/
theorem le_lineStart {start : Nat} (mem : start ∈ lineStarts bytes) (h : start ≤ place) :
    start ≤ lineStart bytes place := by
  obtain ⟨j, hj, rfl⟩ := List.getElem_of_mem mem
  rw [← List.getD_eq_getElem _ 0 hj, lineStarts_getD_le_iff hj] at h
  rw [lineStart, List.getD_eq_getElem _ _ (linesBefore_lt_length bytes place)]
  rcases Nat.lt_or_eq_of_le h with before | rfl
  · exact Nat.le_of_lt (List.pairwise_iff_getElem.mp (pairwise_lineStarts bytes) _ _ _ _ before)
  · exact Nat.le_refl _

/-- As many lines end before the start of a line as there are lines in front of it. -/
theorem linesBefore_lineStarts_getD {i : Nat} (h : i < (lineStarts bytes).length) :
    linesBefore bytes ((lineStarts bytes).getD i 0) = i := by
  rw [List.getD_eq_getElem _ _ h]
  have least : i ≤ linesBefore bytes (lineStarts bytes)[i] :=
    (lineStarts_getD_le_iff h).mp (Nat.le_of_eq (List.getD_eq_getElem _ _ h))
  refine Nat.le_antisymm (Nat.le_of_not_lt fun more => ?_) least
  -- a later line would start in front of this one
  have inside := linesBefore_lt_length bytes (lineStarts bytes)[i]
  have start_le := lineStart_le bytes (lineStarts bytes)[i]
  rw [lineStart, List.getD_eq_getElem _ _ inside] at start_le
  have := List.pairwise_iff_getElem.mp (pairwise_lineStarts bytes) _ _ h inside more
  omega

theorem startsLine_lineStart (bytes : List UInt8) (place : Nat) :
    StartsLine bytes place (lineStart bytes place) := by
  refine ⟨lineStart_le bytes place, fun nonzero => ?_, fun i behind before found => ?_⟩
  · have mem := List.mem_of_ne_of_mem nonzero (lineStart_mem bytes place)
    obtain ⟨i, found, same⟩ := mem_newlineEnds_iff.mp mem
    rw [same, Nat.zero_add, Nat.add_sub_cancel]
    exact found
  · -- one past such a newline another line would start, not beyond the place
    have mem : i + 1 ∈ lineStarts bytes :=
      List.mem_cons_of_mem _ (mem_newlineEnds_iff.mpr ⟨i, found, by omega⟩)
    have := le_lineStart mem (Nat.succ_le_of_lt before)
    omega

theorem linesBefore_le (bytes : List UInt8) (h : place ≤ place') :
    linesBefore bytes place ≤ linesBefore bytes place' :=
  (List.take_prefix_take_left h).sublist.count_le _

theorem linesBefore_le_length (bytes : List UInt8) (place : Nat) :
    linesBefore bytes place ≤ bytes.length :=
  Nat.le_trans List.count_le_length (List.length_take_le' ..)

end PaginationLint
