import PaginationLint.Proofs.Lint.Growth

/-!
Which token names matter.

A search tries the names in their order at every struct it meets, and what it finds there decides
where it goes next. Still, a name that no struct of the table has is never found, and a name that
stands in the list again has been tried by then. The main statement is that two settings with the
same names, once these are left out, give the same findings.
-/

namespace PaginationLint

/-! ### The first match in a list -/

/-- A filter that keeps all matches does not change which one comes first. -/
theorem find?_filter_of_keeps {α : Type} {p q : α → Bool} (keeps : ∀ a, q a = true → p a = true)
    (xs : List α) : (xs.filter p).find? q = xs.find? q := by
  rw [List.find?_filter]
  congr 1
  funext a
  cases matched : q a with
  | false => simp
  | true => simp [keeps a matched]

/-- Neither do repetitions: by the time one is met, it has been tried. -/
theorem find?_eraseDups {α : Type} [BEq α] [LawfulBEq α] (q : α → Bool) : ∀ xs : List α,
    xs.eraseDups.find? q = xs.find? q
  | [] => rfl
  | x :: xs => by
    rw [List.eraseDups_cons, List.find?_cons, List.find?_cons]
    cases matched : q x with
    | true => rfl
    | false =>
      dsimp only
      rw [find?_eraseDups q (xs.filter fun y => !y == x)]
      refine find?_filter_of_keeps (fun y hy => ?_) xs
      have other : y ≠ x := by
        rintro rfl
        rw [matched] at hy
        cases hy
      simpa using other
termination_by xs => xs.length
decreasing_by exact Nat.lt_succ_of_le (List.length_filter_le _ _)

/-! ### Names that the table knows -/

/-- The names of the fields of a struct. -/
def Ty.fieldNames : Ty → List String
  | .struct fields => fields.map Field.name
  | _ => []

namespace TypeTable

/-- The names of the fields of all structs. -/
def fieldNames (t : TypeTable) : List String := t.types.toList.flatMap Ty.fieldNames

/-- Those of the names that a struct has a field of, each where it comes first. -/
def known (t : TypeTable) (names : List String) : List String :=
  (names.filter (· ∈ t.fieldNames)).eraseDups

variable {t : TypeTable} {d : TypeId} {fields : List Field} {name : String}

theorem mem_fieldNames_of_declares (struct : t.structFields? d = some fields)
    (declared : declares fields name = true) : name ∈ t.fieldNames := by
  obtain ⟨f, hf, called⟩ := List.any_eq_true.mp declared
  obtain ⟨later, last, -, found⟩ := structFields?_eq_some_iff.mp struct
  have inTable : Ty.struct fields ∈ t.types.toList :=
    Array.mem_toList_iff.mpr (Array.mem_of_getElem? found)
  refine List.mem_flatMap.mpr ⟨.struct fields, inTable, ?_⟩
  exact List.mem_map.mpr ⟨f, hf, beq_iff_eq.mp called⟩

theorem directField?_known (t : TypeTable) (names : List String) (d : TypeId) :
    t.directField? (t.known names) d = t.directField? names d := by
  unfold directField?
  cases struct : t.structFields? d with
  | none => rfl
  | some fields =>
    dsimp only
    rw [known, find?_eraseDups]
    refine find?_filter_of_keeps (fun name declared => ?_) names
    exact decide_eq_true (mem_fieldNames_of_declares struct declared)

/-- Every struct on the way answers alike, so the search takes the same way. -/
theorem tokenField?_known (t : TypeTable) (id : TypeId) (names : List String) :
    t.tokenField? id (t.known names) = t.tokenField? id names := by
  rw [tokenField?, tokenField?, funext (t.directField?_known names)]

/-- Names that stand in front already, or that no struct has, may be put in between. -/
theorem known_insert (before added after : List String)
    (idle : ∀ name ∈ added, name ∈ before ∨ name ∉ t.fieldNames) :
    t.known (before ++ added ++ after) = t.known (before ++ after) := by
  have removed : (added.filter (· ∈ t.fieldNames)).removeAll
      (before.filter (· ∈ t.fieldNames)) = [] := by
    refine List.filter_eq_nil_iff.mpr fun name hname => ?_
    obtain ⟨hname, isKnown⟩ := List.mem_filter.mp hname
    rcases idle name hname with earlier | unknown
    · simp [earlier, of_decide_eq_true isKnown]
    · exact absurd (of_decide_eq_true isKnown) unknown
  have split (xs ys zs : List String) :
      (xs ++ ys).removeAll zs = xs.removeAll zs ++ ys.removeAll zs := List.filter_append ..
  rw [known, known, List.append_assoc, List.filter_append, List.filter_append, List.filter_append,
    List.eraseDups_append, List.eraseDups_append, split, removed, List.nil_append]

end TypeTable

/-! ### Findings -/

namespace Lint

variable {types : TypeTable} {names names' : List String} {file function : String} {body : Block}

theorem judge_of_tokenField?
    (same : ∀ id, types.tokenField? id names' = types.tokenField? id names) (target value : Expr) :
    judge ⟨types, names', file, function, body⟩ target value =
      judge ⟨types, names, file, function, body⟩ target value := by
  have applied (id : TypeId) (service : Option String) :
      types.applicableTokenFields id service names' =
        types.applicableTokenFields id service names := by
    rw [TypeTable.applicableTokenFields, TypeTable.applicableTokenFields, same]
  cases value with
  | call callee args type span =>
    rw [judge, judge]
    simp only [applied]
  | _ => rfl

/-- Of the token names nothing matters but what the searches find with them. -/
theorem lint_of_tokenField? {u : ProgramUnit} {config config' : Config}
    (tests : config'.includeTests = config.includeTests)
    (same : ∀ id, u.types.tokenField? id config'.tokenFields =
      u.types.tokenField? id config.tokenFields) : lint u config' = lint u config :=
  lint_congr tests fun _ _ _ _ => observeDecl_congr fun _ _ _ _ target value _ =>
    judge_of_tokenField? same target value

theorem lint_of_known {u : ProgramUnit} {config config' : Config}
    (tests : config'.includeTests = config.includeTests)
    (same : u.types.known config'.tokenFields = u.types.known config.tokenFields) :
    lint u config' = lint u config := by
  refine lint_of_tokenField? tests fun id => ?_
  calc u.types.tokenField? id config'.tokenFields
      = u.types.tokenField? id (u.types.known config'.tokenFields) :=
        (u.types.tokenField?_known id _).symm
    _ = u.types.tokenField? id (u.types.known config.tokenFields) := by rw [same]
    _ = u.types.tokenField? id config.tokenFields := u.types.tokenField?_known id _

/-- Only the names that exist matter, and each of them once: settings that agree on these give the
same findings. So custom names may be added that are defaults, that stand in front already, or that
no struct has. -/
theorem lint_eq_of_known_eq (u : ProgramUnit) :
    (∀ config config' : Config, config'.includeTests = config.includeTests →
      u.types.known config'.tokenFields = u.types.known config.tokenFields →
        lint u config' = lint u config) ∧
    (∀ (before added after : List String) (tests : Bool),
      (∀ name ∈ added, name ∈ defaultTokenFields ++ before ∨ name ∉ u.types.fieldNames) →
        lint u ⟨before ++ added ++ after, tests⟩ = lint u ⟨before ++ after, tests⟩) := by
  refine ⟨fun config config' tests same => lint_of_known tests same, ?_⟩
  intro before added after tests idle
  refine lint_of_known rfl ?_
  have inserted := TypeTable.known_insert (defaultTokenFields ++ before) added after idle
  simpa only [Config.tokenFields, List.append_assoc] using inserted

/-- A default, an empty name and a name that no struct has, between custom names that are in use. -/
theorem lint_eq_of_known_eq_listingUnit :
    lint listingUnit ⟨["Unheard", "NextContinuationToken", "", "Cursor"], false⟩ =
        lint listingUnit ⟨["NextContinuationToken"], false⟩ ∧
      lint listingUnit ⟨["NextContinuationToken"] ++ ["NextToken", ""] ++ ["Cursor"], true⟩ =
        lint listingUnit ⟨["NextContinuationToken"] ++ ["Cursor"], true⟩ :=
  ⟨(lint_eq_of_known_eq listingUnit).1 _ _ rfl (by decide),
    (lint_eq_of_known_eq listingUnit).2 _ _ _ _ (by decide)⟩

end Lint

end PaginationLint
