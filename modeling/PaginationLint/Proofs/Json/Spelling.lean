import Mathlib.Data.List.Basic
import PaginationLint.Json.Token

/-!
How literals and numerals may be spelled.

A character in a literal stands for itself or is written as an escape; a numeral may have a sign, a
fraction and an exponent. The main statements say that each spelling is scanned to its end, and that
the printer's own literals and numbers are such spellings.
-/

namespace PaginationLint

variable {s cs ds rest : List Char}

/-! ### Literals -/

namespace Quoted

/-- Characters, and a text that stands for them between quotes. -/
inductive Spelled : List Char → List Char → Prop
  | nil : Spelled [] []
  | plain {c : Char} {s cs : List Char} (quote : c ≠ '"') (backslash : c ≠ '\\')
    (control : ¬ c.toNat < 32) (spelled : Spelled s cs) : Spelled (c :: s) (c :: cs)
  | letter {e x : Char} {s cs : List Char} (known : escaped? e = some x)
    (spelled : Spelled s cs) : Spelled (x :: s) ('\\' :: e :: cs)
  | code {a b c d : Char} {n : Nat} {s cs : List Char} (digits : hex4? a b c d = some n)
    (high : isHigh n = false) (low : isLow n = false) (spelled : Spelled s cs) :
    Spelled (Char.ofNat n :: s) ('\\' :: 'u' :: a :: b :: c :: d :: cs)
  | pair {a b c d a' b' c' d' : Char} {n m : Nat} {s cs : List Char}
    (first : hex4? a b c d = some n) (high : isHigh n) (second : hex4? a' b' c' d' = some m)
    (low : isLow m) (spelled : Spelled s cs) :
    Spelled (ofPair n m :: s)
      ('\\' :: 'u' :: a :: b :: c :: d :: '\\' :: 'u' :: a' :: b' :: c' :: d' :: cs)

theorem isLow_of_isHigh {n : Nat} (h : isHigh n) : isLow n = false := by
  simp only [isHigh, isLow, Bool.and_eq_true, decide_eq_true_eq] at h ⊢
  simp only [Bool.and_eq_false_iff, decide_eq_false_iff_not]
  omega

/-- A literal is read up to its closing quote. -/
theorem Spelled.scan_eq (h : Spelled s cs) (acc : List Char) :
    Quoted.scan true acc (cs ++ '"' :: rest) = .ok (acc.reverse ++ s, rest) := by
  induction h generalizing acc with
  | nil =>
    rw [List.nil_append, Quoted.scan.eq_def]
    simp
  | plain quote backslash control _ ih =>
    rw [List.cons_append, Quoted.scan.eq_def]
    simp [quote, backslash, control, ih]
  | @letter e x _ _ known _ ih =>
    have other : e ≠ 'u' := by
      rintro rfl
      cases known
    rw [List.cons_append, Quoted.scan.eq_def]
    simp [other, known, ih]
  | code digits high low _ ih =>
    rw [List.cons_append, Quoted.scan.eq_def]
    simp [digits, high, low, ih]
  | pair first high second low _ ih =>
    rw [List.cons_append, Quoted.scan.eq_def]
    simp [first, high, isLow_of_isHigh high, second, low, ih]

theorem spelled_encodeChar (c : Char) (h : Spelled s cs) :
    Spelled (c :: s) (encodeChar c ++ cs) := by
  have letter {x : Char} (e : Char) (known : escaped? e = some x) (same : c = x) :
      Spelled (c :: s) ('\\' :: e :: cs) := same ▸ .letter known h
  have code : ∀ n < 32, hex4? '0' '0' (hexDigit (n / 16)) (hexDigit (n % 16)) = some n := by decide
  have apart : ∀ n < 32, isHigh n = false ∧ isLow n = false := by decide
  unfold encodeChar
  split_ifs with quote backslash newline ret tab back feed control
  · exact letter '"' rfl quote
  · exact letter '\\' rfl backslash
  · exact letter 'n' rfl newline
  · exact letter 'r' rfl ret
  · exact letter 't' rfl tab
  · exact letter 'b' rfl back
  · exact letter 'f' rfl feed
  · have spelled := Spelled.code (code _ control) (apart _ control).1 (apart _ control).2 h
    rwa [Char.ofNat_toNat] at spelled
  · exact .plain quote backslash control h

theorem spelled_encode (s : List Char) : Spelled s (encode s) := by
  induction s with
  | nil => exact .nil
  | cons c s ih => exact spelled_encodeChar c ih

end Quoted

/-! ### Numerals -/

namespace Numeral

/-- At least one digit, and nothing else. -/
structure IsDigits (ds : List Char) : Prop where
  nonempty : ds ≠ []
  all : ∀ c ∈ ds, c.isDigit

/-- Digits before a point: a single zero, or digits that start with no zero. -/
structure IsWhole (ds : List Char) : Prop extends IsDigits ds where
  leading : ds.head? = some '0' → ds = ['0']

/-- A fraction, or none. -/
inductive IsFraction : List Char → Prop
  | none : IsFraction []
  | digits {ds : List Char} (digits : IsDigits ds) : IsFraction ('.' :: ds)

/-- An exponent, or none. -/
inductive IsExponent : List Char → Prop
  | none : IsExponent []
  | digits {mark : Char} {sign ds : List Char} (marked : mark = 'e' ∨ mark = 'E')
    (signed : sign = [] ∨ sign = ['+'] ∨ sign = ['-']) (digits : IsDigits ds) :
    IsExponent (mark :: (sign ++ ds))

/-- A numeral without a sign. -/
inductive Unsigned : List Char → Prop
  | mk {whole fraction exponent : List Char} (hw : IsWhole whole) (hf : IsFraction fraction)
    (he : IsExponent exponent) : Unsigned (whole ++ (fraction ++ exponent))

/-- A numeral. -/
inductive Spelled : List Char → Prop
  | positive {cs : List Char} (unsigned : Unsigned cs) : Spelled cs
  | negative {cs : List Char} (unsigned : Unsigned cs) : Spelled ('-' :: cs)

/-- What follows a row of digits and does not go on with it. -/
def NoDigit (rest : List Char) : Prop := ∀ c ∈ rest.head?, c.isDigit = false

/-- What follows a numeral and does not go on with it. -/
def Ends (rest : List Char) : Prop :=
  ∀ c ∈ rest.head?, c.isDigit = false ∧ c ≠ '.' ∧ c ≠ 'e' ∧ c ≠ 'E'

theorem Ends.noDigit (h : Ends rest) : NoDigit rest := fun c hc => (h c hc).1

theorem IsDigits.exists_cons (h : IsDigits ds) : ∃ c cs, ds = c :: cs ∧ c.isDigit := by
  obtain ⟨c, cs, rfl⟩ := List.exists_cons_of_ne_nil h.nonempty
  exact ⟨c, cs, rfl, h.all c List.mem_cons_self⟩

theorem afterDigits_append (h : IsDigits ds) (stop : NoDigit rest) :
    afterDigits (ds ++ rest) = rest := by
  rw [afterDigits, List.dropWhile_append_of_pos h.all]
  cases rest with
  | nil => rfl
  | cons c cs => simp [stop c rfl]

theorem digits_append (h : IsDigits ds) (stop : NoDigit rest) :
    digits (ds ++ rest) = ds.map fun c => c.toNat - 48 := by
  rw [digits, List.takeWhile_append_of_pos h.all]
  cases rest with
  | nil => simp
  | cons c cs => simp [stop c rfl]

/-- A digit is a zero only if it is written as one. -/
theorem eq_zero_of_value_eq_zero {c : Char} (digit : c.isDigit) (h : c.toNat - 48 = 0) :
    c = '0' := by
  have bounds : 48 ≤ c.toNat := by
    simp only [Char.isDigit, Bool.and_eq_true, decide_eq_true_eq] at digit
    exact digit.1
  exact Char.toNat_inj.mp (by rw [show c.toNat = 48 by omega]; rfl)

theorem IsWhole.scanWhole_eq (h : IsWhole ds) (stop : NoDigit rest) :
    ∃ whole, scanWhole (ds ++ rest) = .ok (whole, rest) := by
  obtain ⟨c, cs, rfl, digit⟩ := h.exists_cons
  rw [scanWhole, digits_append h.toIsDigits stop, afterDigits_append h.toIsDigits stop,
    List.map_cons]
  split
  next heq => cases heq
  · exact ⟨_, rfl⟩
  next more leading heq =>
    obtain ⟨zero, rest⟩ := List.cons.inj heq
    obtain rfl := eq_zero_of_value_eq_zero digit zero
    obtain ⟨-, rfl⟩ := List.cons.inj (h.leading rfl)
    exact absurd rest.symm leading
  · exact ⟨_, rfl⟩

theorem IsFraction.scanFraction_eq (h : IsFraction cs) (stop : NoDigit rest)
    (point : rest.head? ≠ some '.') :
    ∃ fraction, scanFraction (cs ++ rest) = .ok (fraction, rest) := by
  cases h with
  | none =>
    refine ⟨[], ?_⟩
    rw [List.nil_append, scanFraction]
    rintro _ rfl
    exact point rfl
  | @digits ds digits =>
    obtain ⟨c, cs, rfl, -⟩ := digits.exists_cons
    have found := digits_append digits stop
    rw [List.cons_append, scanFraction, found, afterDigits_append digits stop]
    exact ⟨_, rfl⟩

theorem exponentSign_append {sign : List Char} (signed : sign = [] ∨ sign = ['+'] ∨ sign = ['-'])
    (h : IsDigits ds) : (exponentSign (sign ++ (ds ++ rest))).2 = ds ++ rest := by
  obtain ⟨c, cs, rfl, digit⟩ := h.exists_cons
  rcases signed with rfl | rfl | rfl
  · have plus : c ≠ '+' := by
      rintro rfl
      cases digit
    have minus : c ≠ '-' := by
      rintro rfl
      cases digit
    simp [exponentSign, Numeral.minus, plus, minus]
  · rfl
  · rfl

theorem IsExponent.scanExponent_eq (h : IsExponent cs) (stop : Ends rest) :
    ∃ exponent, scanExponent (cs ++ rest) = .ok (exponent, rest) := by
  cases h with
  | none =>
    cases rest with
    | nil => exact ⟨.none, rfl⟩
    | cons c cs =>
      obtain ⟨-, -, lower, upper⟩ := stop c rfl
      exact ⟨.none, by simp [scanExponent, lower, upper]⟩
  | @digits mark sign ds marked signed digits =>
    have found := digits_append digits stop.noDigit
    obtain ⟨c, cs, rfl, -⟩ := digits.exists_cons
    rw [List.cons_append, List.append_assoc, scanExponent, if_pos marked,
      exponentSign_append signed digits, found, afterDigits_append digits stop.noDigit]
    exact ⟨_, rfl⟩

theorem head?_exponent (h : IsExponent cs) (stop : Ends rest) :
    NoDigit (cs ++ rest) ∧ (cs ++ rest).head? ≠ some '.' := by
  cases h with
  | none => exact ⟨stop.noDigit, fun point => (stop _ point).2.1 rfl⟩
  | digits marked => rcases marked with rfl | rfl <;> simp [NoDigit]

theorem noDigit_fraction (h : IsFraction cs) (stop : NoDigit rest) : NoDigit (cs ++ rest) := by
  cases h with
  | none => exact stop
  | digits => simp [NoDigit]

theorem Unsigned.exists_cons (h : Unsigned cs) : ∃ c rest, cs = c :: rest ∧ c.isDigit := by
  obtain ⟨hw, -, -⟩ := h
  obtain ⟨c, cs, rfl, digit⟩ := hw.exists_cons
  exact ⟨c, _, rfl, digit⟩

/-- A numeral starts with a minus or a digit. -/
theorem Spelled.exists_cons (h : Spelled cs) :
    ∃ c rest, cs = c :: rest ∧ (c = '-' ∨ c.isDigit) := by
  cases h with
  | positive unsigned =>
    obtain ⟨c, rest, rfl, digit⟩ := unsigned.exists_cons
    exact ⟨c, rest, rfl, .inr digit⟩
  | negative => exact ⟨'-', _, rfl, .inl rfl⟩

theorem Spelled.exists_unsigned (h : Spelled cs) (rest : List Char) :
    ∃ us, Unsigned us ∧ (minus (cs ++ rest)).2 = us ++ rest := by
  cases h with
  | positive unsigned =>
    refine ⟨cs, unsigned, ?_⟩
    obtain ⟨c, _, rfl, digit⟩ := unsigned.exists_cons
    have sign : c ≠ '-' := by
      rintro rfl
      cases digit
    simp [minus, sign]
  | negative unsigned => exact ⟨_, unsigned, rfl⟩

/-- A numeral is read up to what does not go on with it. -/
theorem Spelled.scan_eq (h : Spelled cs) (stop : Ends rest) :
    ∃ n, Numeral.scan (cs ++ rest) = .ok (n, rest) := by
  obtain ⟨us, ⟨hw, hf, he⟩, sign⟩ := h.exists_unsigned rest
  obtain ⟨next, point⟩ := head?_exponent he stop
  obtain ⟨w, whole⟩ := hw.scanWhole_eq (noDigit_fraction hf next)
  obtain ⟨f, fraction⟩ := hf.scanFraction_eq next point
  obtain ⟨e, exponent⟩ := he.scanExponent_eq stop
  simp only [Numeral.scan, sign, List.append_assoc, whole, fraction, exponent, bind, Except.bind,
    pure, Except.pure]
  exact ⟨_, rfl⟩

end Numeral

/-! ### Numbers as they are printed -/

open Numeral

theorem head?_toDigits_ne {n : Nat} (h : 0 < n) : (Nat.toDigits 10 n).head? ≠ some '0' := by
  induction n using Nat.strongRecOn with
  | ind n ih =>
    rw [Nat.toDigits_eq_if (by decide)]
    split
    next small =>
      have each : ∀ m < 10, 0 < m → m.digitChar ≠ '0' := by decide
      simpa using each n small h
    next large =>
      have shorter := ih (n / 10) (by omega) (by omega)
      rwa [List.head?_append_of_ne_nil _ Nat.toDigits_ne_nil]

theorem isWhole_toString (n : Nat) : IsWhole (toString n).toList := by
  rw [show toString n = n.repr from rfl, Nat.toList_repr]
  refine ⟨⟨Nat.toDigits_ne_nil, fun c => Nat.isDigit_of_mem_toDigits (by decide) (by decide)⟩, ?_⟩
  intro leading
  rcases Nat.eq_zero_or_pos n with rfl | positive
  · rfl
  · exact absurd leading (head?_toDigits_ne positive)

theorem spelled_int (n : Int) : Spelled (toString n).toList := by
  have unsigned (n : Nat) : Unsigned (toString n).toList := by
    simpa using Unsigned.mk (isWhole_toString n) .none .none
  cases n with
  | ofNat n => exact .positive (unsigned n)
  | negSucc n =>
    rw [show toString (Int.negSucc n) = "-" ++ toString (n + 1) from rfl, String.toList_append]
    exact .negative (unsigned (n + 1))

theorem isDigits_zero : IsDigits ['0'] := ⟨by simp, by simp⟩

theorem isWhole_zero : IsWhole ['0'] := ⟨isDigits_zero, fun _ => rfl⟩

theorem all_isDigit_zeros (n : Nat) : ∀ c ∈ List.replicate n '0', c.isDigit := by
  intro c hc
  rw [List.eq_of_mem_replicate hc]
  rfl

/-! The forms of a number with a fraction or an exponent, by its digits. -/

theorem unsigned_zeros (h : IsDigits ds) (leading : ds.head? ≠ some '0') (n : Nat) :
    Unsigned (ds ++ List.replicate n '0' ++ ['.', '0']) := by
  have whole : IsWhole (ds ++ List.replicate n '0') := by
    refine ⟨⟨by simp [h.nonempty], ?_⟩, fun zero => ?_⟩
    · exact List.forall_mem_append.mpr ⟨h.all, all_isDigit_zeros n⟩
    · rw [List.head?_append_of_ne_nil _ h.nonempty] at zero
      exact absurd zero leading
  exact .mk whole (.digits isDigits_zero) .none

theorem unsigned_inside (h : IsDigits ds) (leading : ds.head? ≠ some '0') {k : Nat} (some : 0 < k)
    (less : k < ds.length) : Unsigned (ds.take k ++ '.' :: ds.drop k) := by
  have before : IsWhole (ds.take k) := by
    refine ⟨⟨by simp [h.nonempty]; omega, fun c hc => h.all c (List.mem_of_mem_take hc)⟩, ?_⟩
    intro zero
    rw [List.head?_take, if_neg (by omega)] at zero
    exact absurd zero leading
  have after : IsDigits (ds.drop k) :=
    ⟨by simpa using less, fun c hc => h.all c (List.mem_of_mem_drop hc)⟩
  simpa using Unsigned.mk before (.digits after) .none

theorem unsigned_below (h : IsDigits ds) (n : Nat) :
    Unsigned (['0', '.'] ++ List.replicate n '0' ++ ds) := by
  have fraction : IsDigits (List.replicate n '0' ++ ds) :=
    ⟨by simp [h.nonempty], List.forall_mem_append.mpr ⟨all_isDigit_zeros n, h.all⟩⟩
  simpa using Unsigned.mk isWhole_zero (.digits fraction) .none

theorem unsigned_scientific (h : IsDigits ds) {lead exponent : List Char}
    (hl : ∀ c cs, ds = c :: cs → lead = c :: if cs = [] then [] else '.' :: cs)
    (he : IsExponent exponent) : Unsigned (lead ++ exponent) := by
  obtain ⟨c, cs, rfl, digit⟩ := h.exists_cons
  have whole : IsWhole [c] := ⟨⟨by simp, by simpa using digit⟩, by simp⟩
  have fraction : IsFraction (if cs = [] then [] else '.' :: cs) := by
    split
    · exact .none
    next more => exact .digits ⟨more, fun c hc => h.all c (List.mem_cons_of_mem _ hc)⟩
  rw [hl c cs rfl]
  exact .mk whole fraction he

theorem Double.spelled_render (x : Double) : Spelled x.render.toList := by
  have signed {cs : List Char} (h : Unsigned cs) :
      Spelled (if x.negative then '-' :: cs else cs) := by
    split
    · exact .negative h
    · exact .positive h
  rw [render, String.toList_ofList]
  refine signed ?_
  dsimp only
  have whole := isWhole_toString x.magnitude.shortest.digits
  -- the forms of a number, in the order in which `render` tries them
  split
  · exact .mk isWhole_zero (.digits isDigits_zero) .none
  next nonzero =>
  have leading : (toString x.magnitude.shortest.digits).toList.head? ≠ some '0' := by
    rw [show toString x.magnitude.shortest.digits = Nat.repr _ from rfl, Nat.toList_repr]
    exact head?_toDigits_ne (Nat.pos_of_ne_zero nonzero)
  generalize (toString x.magnitude.shortest.digits).toList = ds at whole leading ⊢
  split
  · exact unsigned_zeros whole.toIsDigits leading _
  split
  · exact unsigned_inside whole.toIsDigits leading (by omega) (by omega)
  split
  · exact unsigned_below whole.toIsDigits _
  · rw [List.append_assoc]
    refine unsigned_scientific whole.toIsDigits ?_ ?_
    · rintro c (_ | ⟨c', cs⟩) rfl <;> rfl
    · have power (e : Int) : IsDigits (toString e.natAbs).toList := (isWhole_toString _).toIsDigits
      split
      · exact @IsExponent.digits 'e' ['+'] _ (.inl rfl) (.inr (.inl rfl)) (power _)
      · exact @IsExponent.digits 'e' ['-'] _ (.inl rfl) (.inr (.inr rfl)) (power _)

theorem Number.spelled_render (n : Number) : Spelled n.render.toList := by
  cases n with
  | int n => exact spelled_int n
  | real x => exact x.spelled_render

end PaginationLint
