import PaginationLint.Proofs.Lint.Simulation
import PaginationLint.Proofs.Syntax.Preorder
import PaginationLint.Proofs.Types.Outline

/-!
Growing the type table.

Judgements in tables that look alike are the same. A table that grows looks like the old one in two
cases: everywhere, if the new types are such that nothing is seen of them; and inside the old table,
if no type leads out of it. The main statement is that in both cases no finding changes.
-/

namespace PaginationLint

/-! ### Ids in the syntax -/

/-- The type ids of a node itself. -/
def Node.typeIds : Node → List TypeId
  | .expr (.call _ _ type _) | .expr (.composite type _ _) | .expr (.typeAssert _ type _)
  | .stmt (.var _ type _ _) => type.toList
  | _ => []

/-- The type ids in a declaration. -/
def Decl.typeIds : Decl → List TypeId
  | .func f => (f.body.toList.flatMap Block.inner).flatMap Node.typeIds
  | .var _ values _ => (exprsInner values).flatMap Node.typeIds

/-- The type ids in a unit: those in its types and those in its syntax. -/
def ProgramUnit.typeIds (u : ProgramUnit) : List TypeId :=
  u.types.types.toList.flatMap Ty.ids ++
    u.files.flatMap fun file => file.decls.flatMap Decl.typeIds

/-! ### Judgements in tables that look alike -/

namespace Lint

variable {t t' : TypeTable} {ids : Set TypeId} {names : List String} {file function : String}
  {body : Block}

theorem judge_alike (alike : t.LooksAlike t' ids) (target : Expr) {value : Expr}
    (inside : ∀ id ∈ (Node.expr value).typeIds, id ∈ ids) :
    judge ⟨t', names, file, function, body⟩ target value =
      judge ⟨t, names, file, function, body⟩ target value := by
  cases value with
  | call callee args type span =>
    refine judge_call_eq alike.simulation (fun _ _ => rfl) rfl (fun _ _ => rfl) ?_ ?_ span
    · cases type with
      | none => rfl
      | some type =>
        have h : type ∈ ids := inside type (List.mem_singleton_self _)
        simp [alike.resultType?_eq h]
    · intro result found
      obtain ⟨type, rfl, found⟩ := Option.bind_eq_some_iff.mp found
      exact alike.resultType?_mem (inside type (List.mem_singleton_self _)) found
  | _ => rfl

theorem observeDecl_alike (alike : t.LooksAlike t' ids) {decl : Decl}
    (inside : ∀ id ∈ decl.typeIds, id ∈ ids) :
    observeDecl t' names file decl = observeDecl t names file decl := by
  refine observeDecl_congr fun f body isFunc hasBody target value hvalue => ?_
  refine judge_alike alike target fun id hid => inside id ?_
  rw [isFunc, Decl.typeIds, hasBody]
  simpa using ⟨.expr value, hvalue, hid⟩

/-- A unit has the same findings with a table that looks alike on the ids in its syntax. -/
theorem lint_alike {u : ProgramUnit} (alike : u.types.LooksAlike t' ids)
    (inside : ∀ file ∈ u.files, ∀ decl ∈ file.decls, ∀ id ∈ decl.typeIds, id ∈ ids)
    (config : Config) : lint { u with types := t' } config = lint u config :=
  lint_congr rfl fun file hfile decl hdecl => observeDecl_alike alike (inside file hfile decl hdecl)

end Lint

/-! ### Larger tables -/

/-- Is this a type of which nothing is seen? -/
def Ty.isPlain : Ty → Bool
  | .slice _ | .map _ _ | .interface _ | .basic _ => true
  | .pointer _ | .named _ _ _ | .struct _ | .tuple _ => false

/-- The table with more types behind those it has. -/
def TypeTable.append (t : TypeTable) (new : List Ty) : TypeTable := ⟨t.types ++ new.toArray⟩

/-- The unit with more types behind those it has. -/
def ProgramUnit.withTypes (u : ProgramUnit) (new : List Ty) : ProgramUnit :=
  { u with types := u.types.append new }

theorem Ty.outline_of_isPlain {type : Ty} (h : type.isPlain = true) : type.outline = .basic "" := by
  cases type <;> first | rfl | cases h

namespace TypeTable

variable {t : TypeTable} {new : List Ty} {id : TypeId}

theorem get?_append_of_lt (inside : id.index.toNat < t.size) :
    (t.append new).get? id = t.get? id :=
  Array.getElem?_append_left inside

theorem get?_append_of_le (outside : t.size ≤ id.index.toNat) :
    (t.append new).get? id = new[id.index.toNat - t.size]? := by
  rw [get?, append, Array.getElem?_append_right outside, List.getElem?_toArray]
  rfl

/-- New types of which nothing is seen stand where nothing was. -/
theorem looksAlike_append_of_isPlain (plain : ∀ type ∈ new, type.isPlain = true) :
    t.LooksAlike (t.append new) Set.univ where
  outline id _ := by
    rcases Nat.lt_or_ge id.index.toNat t.size with inside | outside
    · rw [outline, outline, get?_append_of_lt inside]
    · rw [outline, outline, get?_append_of_le outside, get?_eq_none_of_size_le outside]
      cases found : new[id.index.toNat - t.size]? with
      | none => rfl
      | some type => exact Ty.outline_of_isPlain (plain type (List.mem_of_getElem? found))
  closed _ _ _ _ := Set.mem_univ _

/-- Inside the old table nothing changes, and nothing leads out of it. -/
theorem looksAlike_append_of_closed
    (closed : ∀ type ∈ t.types.toList, ∀ id ∈ type.ids, id.index.toNat < t.size) :
    t.LooksAlike (t.append new) { id | id.index.toNat < t.size } where
  outline id inside := by rw [outline, outline, get?_append_of_lt inside]
  closed id inside x hx := by
    obtain ⟨type, found⟩ : ∃ type, t.get? id = some type := ⟨_, Array.getElem?_eq_getElem inside⟩
    rw [outline, found] at hx
    have mem : type ∈ t.types.toList := Array.mem_toList_iff.mpr (Array.mem_of_getElem? found)
    exact closed type mem x (Ty.mem_ids_of_outline hx)

end TypeTable

/-- Types may be added if nothing is seen of them, and any types may be added if all ids of the unit
are inside its table. -/
theorem Lint.lint_withTypes (u : ProgramUnit) (config : Config) (new : List Ty) :
    ((∀ type ∈ new, type.isPlain = true) → lint (u.withTypes new) config = lint u config) ∧
      ((∀ id ∈ u.typeIds, id.index.toNat < u.types.size) →
        lint (u.withTypes new) config = lint u config) := by
  constructor
  · intro plain
    exact lint_alike (TypeTable.looksAlike_append_of_isPlain plain)
      (fun _ _ _ _ _ _ => Set.mem_univ _) config
  · intro inside
    refine lint_alike (TypeTable.looksAlike_append_of_closed fun type htype id hid => ?_)
      (fun file hfile decl hdecl id hid => ?_) config
    · exact inside id (List.mem_append_left _ (List.mem_flatMap.mpr ⟨type, htype, hid⟩))
    · refine inside id (List.mem_append_right _ (List.mem_flatMap.mpr ⟨file, hfile, ?_⟩))
      exact List.mem_flatMap.mpr ⟨decl, hdecl, hid⟩

/-- A listing whose token has a type outside the table. -/
def listingUnit : ProgramUnit where
  types := ⟨#[.named "ListObjectsV2Output" (some "github.com/aws/aws-sdk-go-v2/service/s3") ⟨1⟩,
    .struct [⟨"NextContinuationToken", ⟨2⟩, false⟩]]⟩
  files := [{ path := "a.go", decls := [.func { name := { name := "list" }, body := some (.mk
    [.assign [.ident "out" {}] [.call (.ident "fetch" {}) [] (some ⟨0⟩) {}] true {}] {}) }] }]

/-- The type of the token is added, and then a pointer to the result. -/
theorem Lint.lint_withTypes_listingUnit :
    lint (listingUnit.withTypes [.basic "string"]) {} = lint listingUnit {} ∧
      lint ((listingUnit.withTypes [.basic "string"]).withTypes [.pointer ⟨0⟩]) {} =
        lint (listingUnit.withTypes [.basic "string"]) {} :=
  ⟨(lint_withTypes _ {} _).1 (by decide), (lint_withTypes _ {} _).2 (by decide)⟩

end PaginationLint
