import Mathlib.Logic.Relation
import PaginationLint.Proofs.Types.Chain

/-!
The type behind a name.

`underlying` takes a number of steps that the size of the table bounds, and it also stops where the
next step would lead back to its start. The main statement is that it never stops too early: where
the names from an id on lead to a type that is no name, or out of the table, there it arrives. Where
they go on from name to name for ever it arrives at one of them, and no fields are found.
-/

namespace PaginationLint.TypeTable

open Relation (ReflTransGen)

variable {t : TypeTable} {id last : TypeId}

/-- Where names lead to a type that is no name, they form a chain that ends there. -/
theorem nameChain_of_reaches (reached : ReflTransGen t.NameLeads id last)
    (ends : ¬ t.IsNamed last) : ∃ later, t.NameChain id later last := by
  induction reached using ReflTransGen.head_induction_on with
  | refl => exact ⟨[], .stop (next?_eq_none_iff.mpr ends)⟩
  | @head d e named _ ih =>
    obtain ⟨later, rest⟩ := ih
    exact ⟨e :: later, .step (next?_eq_some_iff.mpr named) rest⟩

/-- Following names, one never leaves the ids that they lead to. -/
theorem reaches_follow (start : TypeId) : ∀ (steps : Nat) (id : TypeId),
    ReflTransGen t.NameLeads id (t.follow start steps id)
  | 0, _ => .refl
  | steps + 1, id => by
    rw [follow]
    split
    · next next named =>
      split
      · exact .refl
      · exact (reaches_follow start steps next).head (next?_eq_some_iff.mp named)
    · exact .refl

/-- Fields are found where `underlying` arrives, and a name itself has none. -/
theorem structFields?_eq_none_of_isNamed (named : t.IsNamed (t.underlying id)) :
    t.structFields? id = none := by
  obtain ⟨e, name, package, found⟩ := named
  rw [structFields?, found]

/-- The names from an id on either lead to a type that is no name, which is then the one behind them,
or they go on for ever; then what stands for it is one of the names, and there are no fields. -/
theorem underlying_arrives (t : TypeTable) (id : TypeId) :
    (∀ last, ReflTransGen t.NameLeads id last → ¬ t.IsNamed last → t.underlying id = last) ∧
    ((∀ d, ReflTransGen t.NameLeads id d → t.IsNamed d) →
      ReflTransGen t.NameLeads id (t.underlying id) ∧ t.IsNamed (t.underlying id) ∧
        t.structFields? id = none) := by
  constructor
  · intro last reached ends
    obtain ⟨later, chain⟩ := nameChain_of_reaches reached ends
    exact chain.underlying_eq
  · intro endless
    have reached : ReflTransGen t.NameLeads id (t.underlying id) := reaches_follow id _ id
    have named := endless _ reached
    exact ⟨reached, named, structFields?_eq_none_of_isNamed named⟩

/-- Two names, the second of a type outside the table, and a name that leads into a circle of two
others. -/
def winding : TypeTable where
  types := #[.named "Outer" none ⟨1⟩, .named "Inner" none ⟨9⟩, .named "Tail" none ⟨3⟩,
    .named "There" none ⟨4⟩, .named "Back" none ⟨3⟩]

theorem underlying_arrives_winding :
    winding.underlying ⟨0⟩ = ⟨9⟩ ∧ winding.IsNamed (winding.underlying ⟨2⟩) ∧
      winding.structFields? ⟨2⟩ = none := by
  constructor
  · refine (underlying_arrives winding ⟨0⟩).1 ⟨9⟩ ?_ ?_
    · exact .tail (.single ⟨_, _, rfl⟩) ⟨_, _, rfl⟩
    · rintro ⟨e, name, package, found⟩
      cases found
  · refine ((underlying_arrives winding ⟨2⟩).2 fun d reached => ?_).2
    have inside : d = ⟨2⟩ ∨ d = ⟨3⟩ ∨ d = ⟨4⟩ := by
      induction reached with
      | refl => exact .inl rfl
      | tail _ step ih =>
        obtain ⟨name, package, found⟩ := step
        rcases ih with rfl | rfl | rfl
        · cases found
          exact .inr (.inl rfl)
        · cases found
          exact .inr (.inr rfl)
        · cases found
          exact .inr (.inl rfl)
    rcases inside with rfl | rfl | rfl <;> exact ⟨_, _, _, rfl⟩

end PaginationLint.TypeTable
