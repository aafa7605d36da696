import PaginationLint.Proofs.Types.Reachability
import PaginationLint.Result.TokenField

/-!
Which fields a type has.

A type has a field iff a path of embedded fields leads from it to a struct that declares one of that
name, whatever circles the types may form. Everything else about token fields is measured against
this: the best of several names is one that the type has, and is missing only if the type has none
of them. The token fields that apply to a result are therefore fields that it has. They are all
those of the service, if there is one, and otherwise no more than one of the defaults.
-/

namespace PaginationLint.TypeTable

open Relation (ReflTransGen)

variable {t : TypeTable} {id d : TypeId} {name : String} {names : List String}

/-- An embedded field of the struct `d`, or of the struct that `d` is a name for, has the type `e`,
one pointer stripped. -/
def EmbeddedLeads (t : TypeTable) (d e : TypeId) : Prop :=
  ∃ fields, t.structFields? d = some fields ∧ ∃ f ∈ fields, f.embedded = true ∧ t.deref f.type = e

/-- The struct `d`, or the struct that `d` is a name for, has a field called `name`. -/
def Declares (t : TypeTable) (d : TypeId) (name : String) : Prop :=
  ∃ fields, t.structFields? d = some fields ∧ ∃ f ∈ fields, f.name = name

/-! ### One name -/

theorem declares_iff (fields : List Field) (name : String) :
    declares fields name = true ↔ ∃ f ∈ fields, f.name = name := by
  simp [declares]

theorem hasDirectField_iff : t.hasDirectField name d = true ↔ t.Declares d name := by
  unfold hasDirectField Declares
  cases t.structFields? d with
  | none => simp
  | some fields => simp [declares_iff]

/-- Embedded fields lead to the same types in whatever order they are followed. -/
theorem step_eq_embeddedLeads {follows : List Field → List Field}
    (reordered : ∀ fields f, f ∈ follows fields ↔ f ∈ embeddedFields fields) :
    t.Step follows = t.EmbeddedLeads := by
  funext d e
  simp only [step_iff, EmbeddedLeads, reordered, embeddedFields, List.mem_filter, and_assoc]

/-- A type has a field iff embedded fields lead to a struct that declares it. -/
theorem hasField_iff :
    t.hasField id name = true ↔
      ∃ d, ReflTransGen t.EmbeddedLeads (t.deref id) d ∧ t.Declares d name := by
  rw [hasField, isSome_search_iff, step_eq_embeddedLeads fun _ _ => List.mem_reverse]
  refine exists_congr fun d => and_congr_right fun _ => ?_
  rw [← hasDirectField_iff]
  cases t.hasDirectField name d <;> simp

/-- A type has a field iff there is a path of ids, each with an embedded field of the next type, to
an id that declares the field. -/
theorem hasField_iff_exists_isPath (t : TypeTable) (id : TypeId) (name : String) :
    t.hasField id name = true ↔
      ∃ path d, IsPath t.EmbeddedLeads path (t.deref id) d ∧ t.Declares d name := by
  rw [hasField_iff, exists_isPath_and_iff]

/-- A type has the fields that it declares and those that its embedded fields have. -/
theorem hasField_iff_declared_or_embedded :
    t.hasField id name = true ↔
      ∃ fields, t.structFields? (t.deref id) = some fields ∧
        ((∃ f ∈ fields, f.name = name) ∨
          ∃ f ∈ fields, f.embedded = true ∧ t.hasField f.type name = true) := by
  rw [hasField_iff]
  constructor
  · rintro ⟨d, reached, declared⟩
    rcases reached.cases_head with rfl | ⟨_, ⟨fields, struct, f, hf, embedded, rfl⟩, rest⟩
    · obtain ⟨fields, struct, declared⟩ := declared
      exact ⟨fields, struct, .inl declared⟩
    · exact ⟨fields, struct, .inr ⟨f, hf, embedded, hasField_iff.mpr ⟨d, rest, declared⟩⟩⟩
  · rintro ⟨fields, struct, declared | ⟨f, hf, embedded, has⟩⟩
    · exact ⟨t.deref id, .refl, fields, struct, declared⟩
    · obtain ⟨d, rest, declared⟩ := hasField_iff.mp has
      exact ⟨d, rest.head ⟨fields, struct, f, hf, embedded, rfl⟩, declared⟩

/-- Without embedded fields a struct has the fields that it declares. -/
theorem hasField_eq_declares {fields : List Field}
    (struct : t.structFields? (t.deref id) = some fields) (flat : embeddedFields fields = [])
    (name : String) : t.hasField id name = declares fields name := by
  rw [hasField, search, searchFrom, if_neg (by simp)]
  simp only [hasDirectField, struct, members, flat, List.reverse_nil, List.map_nil,
    List.nil_append]
  cases declares fields name <;> simp [searchFrom]

/-! ### The best of several names -/

theorem directField?_eq_some (found : t.directField? names d = some name) :
    name ∈ names ∧ t.Declares d name := by
  unfold directField? at found
  split at found
  · next fields struct =>
    obtain ⟨f, hf, called⟩ := (declares_iff fields name).mp (List.find?_some found)
    exact ⟨List.mem_of_find?_eq_some found, fields, struct, f, hf, called⟩
  · cases found

theorem isSome_directField?_of_declares (wanted : name ∈ names) (declared : t.Declares d name) :
    (t.directField? names d).isSome := by
  obtain ⟨fields, struct, declared⟩ := declared
  simp only [directField?, struct]
  exact List.find?_isSome.mpr ⟨name, wanted, (declares_iff fields name).mpr declared⟩

/-- The best of the names is a field that the type has. -/
theorem hasField_of_tokenField? (found : t.tokenField? id names = some name) :
    name ∈ names ∧ t.hasField id name = true := by
  obtain ⟨i, hi, d, reached, answer⟩ := exists_of_searchFrom found
  rw [List.mem_singleton.mp hi, step_eq_embeddedLeads fun _ _ => Iff.rfl] at reached
  obtain ⟨wanted, declared⟩ := directField?_eq_some answer
  exact ⟨wanted, hasField_iff.mpr ⟨d, reached, declared⟩⟩

/-- There is a best of the names unless the type has none of them. -/
theorem tokenField?_eq_none_iff :
    t.tokenField? id names = none ↔ ∀ name ∈ names, t.hasField id name = false := by
  constructor
  · intro missing name wanted
    refine Bool.eq_false_iff.mpr fun has => ?_
    obtain ⟨d, reached, declared⟩ := hasField_iff.mp has
    have found : (t.tokenField? id names).isSome := by
      rw [tokenField?, isSome_search_iff, step_eq_embeddedLeads fun _ _ => Iff.rfl]
      exact ⟨d, reached, isSome_directField?_of_declares wanted declared⟩
    rw [missing] at found
    cases found
  · intro absent
    refine Option.eq_none_iff_forall_ne_some.mpr fun name found => ?_
    obtain ⟨wanted, has⟩ := hasField_of_tokenField? found
    cases has.symm.trans (absent name wanted)

/-! ### The token fields that apply -/

/-- The token fields that a service has of its own; none if it is not known. -/
def serviceFields : Option String → List String
  | some service => (serviceTokenFields service).getD []
  | none => []

theorem ownTokenFields_eq_filter (t : TypeTable) (id : TypeId) (service : Option String) :
    t.ownTokenFields id service = (serviceFields service).filter (t.hasField id) := by
  cases service <;> rfl

variable {service : Option String}

/-- A service's own fields come first. -/
theorem applicableTokenFields_of_own (defaults : List String)
    (own : ∃ f ∈ serviceFields service, t.hasField id f = true) :
    t.applicableTokenFields id service defaults =
      (serviceFields service).filter (t.hasField id) := by
  obtain ⟨f, hf, has⟩ := own
  rw [applicableTokenFields, ownTokenFields_eq_filter]
  split
  · next nothing => exact absurd has (List.filter_eq_nil_iff.mp nothing f hf)
  · rfl

/-- Without any of them the best default stands in. -/
theorem applicableTokenFields_of_not_own (defaults : List String)
    (own : ∀ f ∈ serviceFields service, t.hasField id f = false) :
    t.applicableTokenFields id service defaults = (t.tokenField? id defaults).toList := by
  have nothing : t.ownTokenFields id service = [] := by
    rw [ownTokenFields_eq_filter, List.filter_eq_nil_iff]
    exact fun f hf => Bool.eq_false_iff.mp (own f hf)
  rw [applicableTokenFields, nothing]

/-- The token fields that apply are those of the service that the type has; if it has none of them,
there is at most one, and it is a default. Whichever it is, all of them are fields of the type, and
there are none only if the type has neither a field of the service nor a default. -/
theorem applicableTokenFields_agree_hasField (t : TypeTable) (id : TypeId) (service : Option String)
    (defaults : List String) :
    ((∃ f ∈ serviceFields service, t.hasField id f = true) →
      t.applicableTokenFields id service defaults =
        (serviceFields service).filter (t.hasField id)) ∧
    ((∀ f ∈ serviceFields service, t.hasField id f = false) →
      (t.applicableTokenFields id service defaults).length ≤ 1 ∧
        ∀ f ∈ t.applicableTokenFields id service defaults, f ∈ defaults) ∧
    (∀ f ∈ t.applicableTokenFields id service defaults, t.hasField id f = true) ∧
    (t.applicableTokenFields id service defaults = [] ↔
      ∀ f ∈ serviceFields service ++ defaults, t.hasField id f = false) := by
  by_cases own : ∃ f ∈ serviceFields service, t.hasField id f = true
  · have applied := applicableTokenFields_of_own defaults own
    obtain ⟨f, hf, has⟩ := own
    have notAbsent : ¬ ∀ f ∈ serviceFields service, t.hasField id f = false := by
      intro absent
      cases has.symm.trans (absent f hf)
    refine ⟨fun _ => applied, fun absent => absurd absent notAbsent, ?_, ?_⟩
    · intro g hg
      rw [applied] at hg
      exact (List.mem_filter.mp hg).2
    · rw [applied, List.filter_eq_nil_iff, List.forall_mem_append]
      exact ⟨fun nothing => absurd has (nothing f hf), fun absent => absurd absent.1 notAbsent⟩
  · have absent : ∀ f ∈ serviceFields service, t.hasField id f = false := by simpa using own
    have applied := applicableTokenFields_of_not_own defaults absent
    have isDefault : ∀ f ∈ t.applicableTokenFields id service defaults,
        f ∈ defaults ∧ t.hasField id f = true := by
      intro f hf
      rw [applied, Option.mem_toList] at hf
      exact hasField_of_tokenField? hf
    refine ⟨fun has => absurd has own, fun _ => ⟨?_, fun f hf => (isDefault f hf).1⟩,
      fun f hf => (isDefault f hf).2, ?_⟩
    · rw [applied]
      cases t.tokenField? id defaults <;> simp
    · rw [applied, Option.toList_eq_nil_iff, tokenField?_eq_none_iff, List.forall_mem_append]
      exact ⟨fun missing => ⟨absent, missing⟩, And.right⟩

/-- A page with a token field of a service and a default one. -/
def recordTable : TypeTable where
  types := #[.struct [⟨"NextRecordType", ⟨1⟩, false⟩, ⟨"NextToken", ⟨1⟩, false⟩], .basic "string"]

theorem applicableTokenFields_agree_hasField_recordTable :
    recordTable.applicableTokenFields ⟨0⟩ (some "Route53") ["NextToken"] = ["NextRecordType"] ∧
      recordTable.applicableTokenFields ⟨0⟩ (some "ecs") ["Marker"] = [] := by
  have has : recordTable.hasField ⟨0⟩ =
      declares [⟨"NextRecordType", ⟨1⟩, false⟩, ⟨"NextToken", ⟨1⟩, false⟩] :=
    funext (hasField_eq_declares rfl rfl)
  constructor
  · have own : ∃ f ∈ serviceFields (some "Route53"), recordTable.hasField ⟨0⟩ f = true :=
      ⟨"NextRecordType", by decide, by rw [has]; decide⟩
    rw [(applicableTokenFields_agree_hasField recordTable ⟨0⟩ _ _).1 own, has]
    decide
  · rw [(applicableTokenFields_agree_hasField recordTable ⟨0⟩ _ _).2.2.2, has]
    decide

end PaginationLint.TypeTable
