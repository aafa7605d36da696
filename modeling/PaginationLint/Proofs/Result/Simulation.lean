import Mathlib.Data.Set.Function
import PaginationLint.Result.CallSite
import PaginationLint.Result.Origin
import PaginationLint.Result.TokenField

/-!
Tables that answer alike.

A `Simulation` relates the ids of one table, as far as they belong to a set that no field leads out
of, to the ids of another table. The two tables then agree on what a result is judged by: its
service, its token fields and its origin. A search in the one takes the same steps as a search in
the other, since it never looks at an id except to compare it with another one.
-/

namespace PaginationLint

/-- The same field with its type under another id. -/
def Field.rename (f : TypeId → TypeId) (x : Field) : Field := { x with type := f x.type }

theorem Field.rename_id (fields : List Field) : fields.map (Field.rename fun id => id) = fields :=
  List.map_id fields

theorem declares_rename (f : TypeId → TypeId) (fields : List Field) :
    declares (fields.map (Field.rename f)) = declares fields := by
  funext name
  simp [declares, Field.rename, Function.comp_def]

theorem embeddedFields_rename (f : TypeId → TypeId) (fields : List Field) :
    embeddedFields (fields.map (Field.rename f)) = (embeddedFields fields).map (Field.rename f) := by
  rw [embeddedFields, List.filter_map]
  rfl

namespace TypeTable

/-- Where a type comes from depends on its package alone. -/
theorem isSdkType_eq_any (t : TypeTable) (d : TypeId) :
    t.isSdkType d = ((t.named? d).map Prod.snd).join.any isSdkPackage := by
  rw [isSdkType]
  cases t.named? d with
  | none => rfl
  | some declared =>
    obtain ⟨name, package⟩ := declared
    cases package <;> rfl

theorem service_eq_bind (t : TypeTable) (callee : Expr) (id : TypeId) :
    (CallSite.of t callee id).service =
      ((t.named? (t.deref id)).map Prod.snd).join.bind serviceName := by
  unfold CallSite.of
  cases t.named? (t.deref id) with
  | none => rfl
  | some declared =>
    obtain ⟨name, package⟩ := declared
    cases package <;> rfl

/-- What `t'` says about `f id` is what `t` says about `id`, for all `id` in `ids`. -/
structure Simulation (t t' : TypeTable) (f : TypeId → TypeId) (ids : Set TypeId) : Prop where
  injOn : Set.InjOn f ids
  deref_mem : ∀ id ∈ ids, t.deref id ∈ ids
  field_mem : ∀ id ∈ ids, ∀ fields, t.structFields? id = some fields → ∀ x ∈ fields, x.type ∈ ids
  deref : ∀ id ∈ ids, t'.deref (f id) = f (t.deref id)
  structFields? : ∀ id ∈ ids,
    t'.structFields? (f id) = (t.structFields? id).map (List.map (Field.rename f))
  package : ∀ id ∈ ids, (t'.named? (f id)).map Prod.snd = (t.named? id).map Prod.snd

/-- A choice of fields that depends neither on their types nor on anything but the fields given. -/
structure Uniform (follows : List Field → List Field) : Prop where
  subset : ∀ fields, ∀ x ∈ follows fields, x ∈ fields
  rename : ∀ f fields, follows (fields.map (Field.rename f)) = (follows fields).map (Field.rename f)

theorem uniform_embeddedFields : Uniform embeddedFields :=
  ⟨fun _ _ h => (List.mem_filter.mp h).1, embeddedFields_rename⟩

theorem uniform_reverse : Uniform List.reverse :=
  ⟨fun _ _ h => List.mem_reverse.mp h, fun _ _ => List.map_reverse.symm⟩

theorem Uniform.reverse {follows : List Field → List Field} (h : Uniform follows) :
    Uniform fun fields => (follows fields).reverse :=
  ⟨fun fields x hx => h.subset fields x (List.mem_reverse.mp hx), fun f fields => by
    rw [h.rename, List.map_reverse]⟩

namespace Simulation

variable {t t' : TypeTable} {f : TypeId → TypeId} {ids : Set TypeId}
variable (sim : Simulation t t' f ids) {follows : List Field → List Field} {id : TypeId}

include sim

theorem members_mem (uniform : Uniform follows) (h : id ∈ ids) :
    ∀ m ∈ t.members follows id, m ∈ ids := by
  intro m hm
  rw [members] at hm
  cases struct : t.structFields? id with
  | none => rw [struct] at hm; cases hm
  | some fields =>
    rw [struct] at hm
    obtain ⟨x, hx, rfl⟩ := List.mem_map.mp hm
    exact sim.field_mem id h fields struct x (uniform.subset fields x hx)

theorem members_eq (uniform : Uniform follows) (h : id ∈ ids) :
    t'.members follows (f id) = (t.members follows id).map f := by
  rw [members, members, sim.structFields? id h]
  cases t.structFields? id with
  | none => rfl
  | some fields => simp [uniform.rename, Field.rename, Function.comp_def]

/-- Two searches go hand in hand: what one has seen is what the other has seen, under `f`. -/
theorem searchFrom_eq {α : Type} (uniform : Uniform follows) {answer answer' : TypeId → Option α}
    (same : ∀ id ∈ ids, answer' (f id) = answer id) {seen seen' : Std.HashSet TypeId}
    {stack : List TypeId} (hseen : ∀ id ∈ ids, f id ∈ seen' ↔ id ∈ seen)
    (hstack : ∀ id ∈ stack, id ∈ ids) :
    t'.searchFrom follows answer' seen' (stack.map f) = t.searchFrom follows answer seen stack := by
  fun_induction searchFrom t follows answer seen stack generalizing seen' with
  | case1 => rw [List.map_nil, searchFrom]
  | case2 seen top rest known ih =>
    have htop := hstack top List.mem_cons_self
    have hd := sim.deref_mem top htop
    rw [List.map_cons, searchFrom, sim.deref top htop, if_pos ((hseen _ hd).mpr known)]
    exact ih hseen fun id hid => hstack id (List.mem_cons_of_mem _ hid)
  | case3 seen top rest fresh a found =>
    have htop := hstack top List.mem_cons_self
    have hd := sim.deref_mem top htop
    rw [List.map_cons, searchFrom, sim.deref top htop, if_neg (mt (hseen _ hd).mp fresh),
      same _ hd, found]
  | case4 seen top rest fresh silent ih =>
    have htop := hstack top List.mem_cons_self
    have hd := sim.deref_mem top htop
    rw [List.map_cons, searchFrom, sim.deref top htop, if_neg (mt (hseen _ hd).mp fresh),
      same _ hd, silent, sim.members_eq uniform hd]
    dsimp only
    rw [← List.map_append]
    refine ih ?_ ?_
    · intro id hid
      simp only [Std.HashSet.mem_insert, beq_iff_eq, hseen id hid]
      exact or_congr_left ⟨fun h => sim.injOn hd hid h, congrArg f⟩
    · intro id hid
      rcases List.mem_append.mp hid with hid | hid
      · exact sim.members_mem uniform hd id hid
      · exact hstack id (List.mem_cons_of_mem _ hid)

theorem search_eq {α : Type} (uniform : Uniform follows) {answer answer' : TypeId → Option α}
    (same : ∀ id ∈ ids, answer' (f id) = answer id) (h : id ∈ ids) :
    t'.search follows answer' (f id) = t.search follows answer id := by
  have hstack : ∀ i ∈ [id], i ∈ ids := by simpa using h
  exact sim.searchFrom_eq uniform same (by simp) hstack

/-! ### What a result is judged by -/

theorem hasField_eq (h : id ∈ ids) : t'.hasField (f id) = t.hasField id := by
  funext name
  have same : ∀ d ∈ ids, t'.hasDirectField name (f d) = t.hasDirectField name d := by
    intro d hd
    rw [hasDirectField, hasDirectField, sim.structFields? d hd]
    cases t.structFields? d with
    | none => rfl
    | some fields => exact congrFun (declares_rename f fields) name
  refine congrArg Option.isSome (sim.search_eq uniform_embeddedFields.reverse (fun d hd => ?_) h)
  rw [same d hd]

theorem tokenField?_eq (names : List String) (h : id ∈ ids) :
    t'.tokenField? (f id) names = t.tokenField? id names := by
  refine sim.search_eq uniform_embeddedFields (fun d hd => ?_) h
  rw [directField?, directField?, sim.structFields? d hd]
  cases t.structFields? d with
  | none => rfl
  | some fields => exact congrArg (List.find? · names) (declares_rename f fields)

theorem applicableTokenFields_eq (service : Option String) (names : List String) (h : id ∈ ids) :
    t'.applicableTokenFields (f id) service names = t.applicableTokenFields id service names := by
  rw [applicableTokenFields, applicableTokenFields, ownTokenFields, ownTokenFields,
    sim.hasField_eq h, sim.tokenField?_eq names h]

theorem isTrusted_eq (h : id ∈ ids) : t'.isTrusted (f id) = t.isTrusted id := by
  refine congrArg Option.isSome (sim.search_eq uniform_reverse (fun d hd => ?_) h)
  rw [isSdkType_eq_any, isSdkType_eq_any, sim.package d hd]

theorem service_eq (callee callee' : Expr) (h : id ∈ ids) :
    (CallSite.of t' callee' (f id)).service = (CallSite.of t callee id).service := by
  rw [service_eq_bind, service_eq_bind, sim.deref id h, sim.package _ (sim.deref_mem id h)]

end Simulation

end TypeTable

end PaginationLint
