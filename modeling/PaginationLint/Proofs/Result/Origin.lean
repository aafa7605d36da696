import Mathlib.Data.List.Infix
import PaginationLint.Proofs.Types.Chain
import PaginationLint.Proofs.Types.Reachability
import PaginationLint.Result.Origin

/-!
Which results are trusted.

A result is trusted iff fields, of whatever kind, lead from its type to a type that is declared in a
package with the SDK's marker somewhere in its path. Fields are the only way: what a slice, a map, a
tuple or a pointer to a pointer is made of does not count, and neither do the names that are passed
over on the way from a name to its struct.
-/

namespace PaginationLint

/-- Something follows the first occurrence of a pattern iff the pattern occurs. -/
theorem isSome_afterFirst_iff (pattern : List Char) : ∀ text : List Char,
    (afterFirst pattern text).isSome ↔ pattern <:+: text
  | [] => by
    unfold afterFirst
    split
    · next h => simp [List.isEmpty_iff.mp h]
    · next h => simpa [List.isEmpty_iff] using h
  | c :: cs => by
    rw [afterFirst, List.infix_cons_iff, ← isSome_afterFirst_iff pattern cs,
      ← List.isPrefixOf_iff_prefix]
    split
    · next h => simp [h]
    · next h => simp [h]

theorem isSdkPackage_iff (package : String) :
    isSdkPackage package = true ↔ sdkMarker.toList <:+: package.toList :=
  isSome_afterFirst_iff _ _

namespace TypeTable

open Relation (ReflTransGen)

/-- A field of the struct `d`, or of the struct that `d` is a name for, has the type `e`, one
pointer stripped. -/
def FieldLeads (t : TypeTable) (d e : TypeId) : Prop :=
  ∃ fields, t.structFields? d = some fields ∧ ∃ f ∈ fields, t.deref f.type = e

/-- The type is declared in a package with the SDK's marker in its path. -/
def DeclaredInSdk (t : TypeTable) (d : TypeId) : Prop :=
  ∃ name package underlying, t.get? d = some (.named name (some package) underlying) ∧
    sdkMarker.toList <:+: package.toList

theorem isSdkType_iff {t : TypeTable} {d : TypeId} : t.isSdkType d = true ↔ t.DeclaredInSdk d := by
  unfold isSdkType named? DeclaredInSdk
  cases t.get? d with
  | none => simp
  | some type =>
    cases type with
    | named name package underlying => cases package <;> simp [isSdkPackage_iff]
    | _ => simp

/-- A result is trusted iff fields lead from its type to one that the SDK declares. -/
theorem isTrusted_iff {t : TypeTable} {id : TypeId} :
    t.isTrusted id = true ↔ ∃ d, ReflTransGen t.FieldLeads (t.deref id) d ∧ t.DeclaredInSdk d := by
  have steps : t.Step List.reverse = t.FieldLeads := by
    funext d e
    simp only [step_iff, FieldLeads, List.mem_reverse]
  rw [isTrusted, isSome_search_iff, steps]
  refine exists_congr fun d => and_congr_right fun _ => ?_
  rw [← isSdkType_iff]
  cases t.isSdkType d <;> simp

/-! ### What counts -/

variable {t : TypeTable} {id : TypeId}

/-- What the SDK declares is trusted, and so is what has a field of a type that is trusted. -/
theorem isTrusted_iff_declared_or_field :
    t.isTrusted id = true ↔
      t.DeclaredInSdk (t.deref id) ∨
        ∃ fields, t.structFields? (t.deref id) = some fields ∧
          ∃ f ∈ fields, t.isTrusted f.type = true := by
  rw [isTrusted_iff]
  constructor
  · rintro ⟨d, reached, declared⟩
    rcases reached.cases_head with rfl | ⟨_, ⟨fields, struct, f, hf, rfl⟩, rest⟩
    · exact .inl declared
    · exact .inr ⟨fields, struct, f, hf, isTrusted_iff.mpr ⟨d, rest, declared⟩⟩
  · rintro (declared | ⟨fields, struct, f, hf, trusted⟩)
    · exact ⟨t.deref id, .refl, declared⟩
    · obtain ⟨d, rest, declared⟩ := isTrusted_iff.mp trusted
      exact ⟨d, rest.head ⟨fields, struct, f, hf, rfl⟩, declared⟩

/-- A type that is neither a name nor a struct is not trusted, whatever it is made of. -/
theorem isTrusted_eq_false_of_plain
    (unnamed : ∀ name package underlying,
      t.get? (t.deref id) ≠ some (.named name package underlying))
    (plain : ∀ fields, t.get? (t.deref id) ≠ some (.struct fields)) : t.isTrusted id = false := by
  refine Bool.eq_false_iff.mpr fun trusted => ?_
  rcases isTrusted_iff_declared_or_field.mp trusted with declared | ⟨fields, struct, -⟩
  · obtain ⟨name, package, underlying, found, -⟩ := declared
    exact unnamed name (some package) underlying found
  · have ends : t.next? (t.deref id) = none := next?_eq_none_iff.mpr
      fun ⟨underlying, name, package, found⟩ => unnamed name package underlying found
    exact plain fields ((structFields?_of_next?_eq_none ends).mp struct)

/-- A name is trusted for its own package or for the fields of the struct that its names lead to. -/
theorem isTrusted_named_iff {name : String} {package : Option String} {underlying : TypeId}
    (named : t.get? (t.deref id) = some (.named name package underlying)) :
    t.isTrusted id = true ↔
      t.DeclaredInSdk (t.deref id) ∨
        ∃ later last fields, t.NameChain underlying later last ∧
          t.get? last = some (.struct fields) ∧ ∃ f ∈ fields, t.isTrusted f.type = true := by
  have next : t.next? (t.deref id) = some underlying := by rw [next?, named]
  rw [isTrusted_iff_declared_or_field, structFields?_of_next? next]
  refine or_congr_right ?_
  constructor
  · rintro ⟨fields, struct, trusted⟩
    obtain ⟨later, last, chain, found⟩ := structFields?_eq_some_iff.mp struct
    exact ⟨later, last, fields, chain, found, trusted⟩
  · rintro ⟨later, last, fields, chain, found, trusted⟩
    exact ⟨fields, structFields?_eq_some_iff.mpr ⟨later, last, chain, found⟩, trusted⟩

/-- A result is trusted iff there is a path of ids, each with a field of the next type, to a type
that the SDK declares. Below a type that is neither a name nor a struct nothing counts, and of the
names in a chain the first one alone. -/
theorem isTrusted_iff_exists_isPath (t : TypeTable) (id : TypeId) :
    (t.isTrusted id = true ↔
      ∃ path d, IsPath t.FieldLeads path (t.deref id) d ∧ t.DeclaredInSdk d) ∧
    ((∀ name package underlying, t.get? (t.deref id) ≠ some (.named name package underlying)) →
      (∀ fields, t.get? (t.deref id) ≠ some (.struct fields)) → t.isTrusted id = false) ∧
    (∀ name package underlying, t.get? (t.deref id) = some (.named name package underlying) →
      (t.isTrusted id = true ↔
        t.DeclaredInSdk (t.deref id) ∨
          ∃ later last fields, t.NameChain underlying later last ∧
            t.get? last = some (.struct fields) ∧ ∃ f ∈ fields, t.isTrusted f.type = true)) := by
  refine ⟨?_, isTrusted_eq_false_of_plain, fun _ _ _ => isTrusted_named_iff⟩
  rw [isTrusted_iff, exists_isPath_and_iff]

/-- A name of the program's own for a name of the SDK's, and a struct that has no more than a slice
of the latter. -/
def aliasTable : TypeTable where
  types := #[.named "Page" (some "example.com/app") ⟨1⟩,
    .named "ListTasksOutput" (some "github.com/aws/aws-sdk-go-v2/service/ecs") ⟨2⟩,
    .struct [⟨"Pages", ⟨3⟩, false⟩], .slice ⟨1⟩]

theorem isTrusted_iff_exists_isPath_aliasTable :
    aliasTable.isTrusted ⟨0⟩ = false ∧ aliasTable.isTrusted ⟨1⟩ = true := by
  constructor
  · -- neither the name that is passed over counts nor the one below the slice
    have slice : aliasTable.isTrusted ⟨3⟩ = false :=
      (isTrusted_iff_exists_isPath aliasTable ⟨3⟩).2.1 nofun nofun
    have struct : aliasTable.structFields? ⟨1⟩ = some [⟨"Pages", ⟨3⟩, false⟩] := rfl
    refine Bool.eq_false_iff.mpr fun trusted => ?_
    rcases ((isTrusted_iff_exists_isPath aliasTable ⟨0⟩).2.2 _ _ _ rfl).mp trusted with
      declared | ⟨later, last, fields, chain, found, f, hf, below⟩
    · exact absurd (isSdkType_iff.mpr declared) (by decide)
    · have same := struct.symm.trans (structFields?_eq_some_iff.mpr ⟨later, last, chain, found⟩)
      obtain rfl := Option.some.inj same
      rw [List.mem_singleton.mp hf, slice] at below
      cases below
  · refine (isTrusted_iff_exists_isPath aliasTable ⟨1⟩).1.mpr ⟨[⟨1⟩], ⟨1⟩, ?_, ?_⟩
    · exact ⟨rfl, .singleton _, rfl⟩
    · exact ⟨_, _, _, rfl, by decide⟩

end TypeTable

end PaginationLint
