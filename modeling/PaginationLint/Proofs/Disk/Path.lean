import Mathlib.Data.String.Basic
import PaginationLint.Disk.Path

/-!
Names, extensions and the order of paths.

A name that is joined to a path is the last name of the result, behind all names of the path. The
order `precedes` is the lexicographic order of the names, so a list that is sorted by it depends only
on what it holds.
-/

namespace PaginationLint.Path

/-! ### Names of joined paths -/

/-- What can stand as a name in a directory. -/
structure IsName (name : String) : Prop where
  nonempty : name ≠ ""
  not_here : name ≠ "."
  not_above : name ≠ ".."
  no_slash : '/' ∉ name.toList

instance (name : String) : Decidable (IsName name) :=
  decidable_of_iff (name ≠ "" ∧ name ≠ "." ∧ name ≠ ".." ∧ '/' ∉ name.toList)
    ⟨fun ⟨nonempty, here, above, slash⟩ => ⟨nonempty, here, above, slash⟩,
      fun h => ⟨h.nonempty, h.not_here, h.not_above, h.no_slash⟩⟩

theorem segments_ne_nil (cs : List Char) : segments cs ≠ [] := by
  cases cs with
  | nil => simp [segments]
  | cons c cs =>
    rw [segments]
    split
    · simp
    · split <;> simp

theorem segments_append_slash (bs : List Char) : ∀ as : List Char,
    segments (as ++ '/' :: bs) = segments as ++ segments bs
  | [] => rfl
  | a :: as => by
    obtain ⟨s, ss, h⟩ := List.exists_cons_of_ne_nil (segments_ne_nil as)
    rw [List.cons_append, segments, segments, segments_append_slash bs as, h]
    split <;> rfl

theorem segments_of_no_slash : ∀ {cs : List Char}, '/' ∉ cs → segments cs = [cs]
  | [], _ => rfl
  | c :: cs, h => by
    obtain ⟨hc, hcs⟩ := List.ne_and_not_mem_of_not_mem_cons h
    rw [segments, if_neg (Ne.symm hc), segments_of_no_slash hcs]

/-- Does a part of a path lead somewhere? -/
def isStep (part : String) : Bool := part != "" && part != "."

theorem names_eq (path : String) :
    names path = ((segments path.toList).map String.ofList).filter isStep := rfl

theorem IsName.filter_isStep {name : String} (h : IsName name) : [name].filter isStep = [name] := by
  simp [isStep, h.nonempty, h.not_here]

theorem names_join {name : String} (h : IsName name) (path : String) :
    names (join path name) = names path ++ [name] := by
  have last : segments name.toList = [name.toList] := segments_of_no_slash h.no_slash
  have single : ([name.toList].map String.ofList).filter isStep = [name] := by
    rw [List.map_singleton, String.ofList_toList, h.filter_isStep]
  unfold join
  split
  next slash =>
    -- the slash that is there already ends the path in an empty part
    obtain ⟨before, ends⟩ := List.getLast?_eq_some_iff.mp (beq_iff_eq.mp slash)
    rw [names_eq, names_eq, String.toList_append, ends, List.append_assoc, List.singleton_append,
      segments_append_slash, segments_append_slash, last, List.map_append, List.map_append,
      List.filter_append, List.filter_append, single]
    simp [segments, isStep]
  next =>
    have text : (path ++ "/" ++ name).toList = path.toList ++ '/' :: name.toList := by
      simp [String.toList_append]
    rw [names_eq, names_eq, text, segments_append_slash, last, List.map_append,
      List.filter_append, single]

theorem names_below : ∀ {below : List String}, (∀ name ∈ below, IsName name) → ∀ path : String,
    names (Path.below path below) = names path ++ below
  | [], _, path => (List.append_nil _).symm
  | name :: rest, h, path => by
    have ih := names_below (fun n hn => h n (List.mem_cons_of_mem _ hn)) (join path name)
    rw [names_join (h name List.mem_cons_self), List.append_assoc] at ih
    exact ih

/-! ### Extensions -/

/-- An extension stands behind the last dot, and something stands in front of that dot. -/
theorem extensionOf?_eq_some_iff {name extension : List Char} :
    extensionOf? name = some extension ↔
      '.' ∉ extension ∧ ∃ stem, stem ≠ [] ∧ name = stem ++ '.' :: extension := by
  have split := List.takeWhile_append_dropWhile (p := (· != '.')) (l := name.reverse)
  constructor
  · intro h
    simp only [extensionOf?, List.isEmpty_iff] at h
    split at h
    · cases h
    next stem =>
    have dots : '.' ∉ name.reverse.takeWhile (· != '.') := by
      intro mem
      simpa using List.all_eq_true.mp List.all_takeWhile _ mem
    obtain rfl := Option.some.inj h
    cases rest : name.reverse.dropWhile (· != '.') with
    | nil => simp [rest] at stem
    | cons c cs =>
      have dot : c = '.' := by
        have := List.head_dropWhile_not (p := (· != '.')) (l := name.reverse) (by simp [rest])
        simpa [rest] using this
      rw [rest, List.drop_one, List.tail_cons] at stem
      rw [rest, dot] at split
      refine ⟨fun mem => dots (List.mem_reverse.mp mem), cs.reverse, by simpa using stem, ?_⟩
      have := congrArg List.reverse split
      simpa using this.symm
  · rintro ⟨dots, stem, nonempty, rfl⟩
    have plain : ∀ c ∈ extension.reverse, (c != '.') = true := by
      intro c hc
      rw [bne_iff_ne]
      rintro rfl
      exact dots (List.mem_reverse.mp hc)
    have text : (stem ++ '.' :: extension).reverse = extension.reverse ++ '.' :: stem.reverse := by
      simp
    rw [extensionOf?, text]
    simp only [List.takeWhile_append_of_pos plain, List.dropWhile_append_of_pos plain]
    simp [nonempty]

theorem extension?_of_names {path : String} {above : List String} {name : String}
    (h : names path = above ++ [name]) (not_above : name ≠ "..") :
    extension? path = (extensionOf? name.toList).map String.ofList := by
  have last : name? path = some name := by simp [name?, h, not_above]
  rw [extension?, last, Option.map_eq_bind]
  rfl

/-! ### Order -/

/-- One path stands before another one: name by name, each name by its characters. -/
def Before (p q : String) : Prop := List.Lex (· < ·) (names p) (names q)

instance : Std.Irrefl Before := ⟨fun p => lt_irrefl (names p)⟩

instance : Std.Antisymm Before := ⟨fun p q before after =>
  absurd (show names q < names p from after) (lt_asymm (show names p < names q from before))⟩

theorem precedes_iff : ∀ {as bs : List String},
    precedes as bs = true ↔ as = bs ∨ List.Lex (· < ·) as bs
  | [], [] => by simp [precedes]
  | [], _ :: _ => by simp [precedes]
  | _ :: _, [] => by simp [precedes]
  | a :: as, b :: bs => by
    have ih : precedes as bs = true ↔ as = bs ∨ List.Lex (· < ·) as bs := precedes_iff
    simp only [precedes, Bool.or_eq_true, Bool.and_eq_true, decide_eq_true_eq, ih,
      List.cons.injEq, List.cons_lex_cons_iff]
    tauto

theorem precedes_iff_le {as bs : List String} : precedes as bs = true ↔ as ≤ bs :=
  precedes_iff.trans le_iff_eq_or_lt.symm

theorem pairwise_mergeSort_precedes (paths : List (List String)) :
    (paths.mergeSort precedes).Pairwise (precedes · ·) := by
  refine List.pairwise_mergeSort (fun a b c hab hbc => ?_) (fun a b => ?_) paths
  · rw [precedes_iff_le] at *
    exact hab.trans hbc
  · rw [Bool.or_eq_true, precedes_iff_le, precedes_iff_le]
    exact le_total a b

/-- What is sorted by `precedes` does not depend on the order it had. -/
theorem mergeSort_precedes_eq_of_perm {paths paths' : List (List String)} (h : paths.Perm paths') :
    paths.mergeSort precedes = paths'.mergeSort precedes := by
  refine List.Perm.eq_of_pairwise (fun a b _ _ hab hba => ?_) (pairwise_mergeSort_precedes paths)
    (pairwise_mergeSort_precedes paths') ?_
  · exact le_antisymm (precedes_iff_le.mp hab) (precedes_iff_le.mp hba)
  · exact ((List.mergeSort_perm _ _).trans h).trans (List.mergeSort_perm _ _).symm

/-- A list without repetition is sorted strictly. -/
theorem pairwise_lex_mergeSort {paths : List (List String)} (h : paths.Nodup) :
    (paths.mergeSort precedes).Pairwise (List.Lex (· < ·)) := by
  have distinct : (paths.mergeSort precedes).Pairwise (· ≠ ·) :=
    (List.mergeSort_perm _ _).nodup_iff.mpr h
  refine ((pairwise_mergeSort_precedes paths).and distinct).imp ?_
  rintro a b ⟨hab, hne⟩
  exact (precedes_iff.mp hab).resolve_left hne

end PaginationLint.Path
