import PaginationLint.Proofs.Result.Presence
import PaginationLint.Proofs.Result.Sharing
import PaginationLint.Proofs.Types.Extension

/-!
Towers of wrappers.

A tower is built over a type storey by storey: another name for the type below, or a declared struct
that embeds a pointer to it. The main statement is that a tower has the fields of the type it stands
on. It also has the same best field of several names, unless its lowest storey is another name and
the type embeds itself. The search then marks the name in place of the type; when it comes back to
the type it goes through its embedded fields before the rest of the branch it is in. So it finds
what these fields give one by one, each searched by itself.
-/

namespace PaginationLint

/-- A storey of a tower of types. -/
inductive Storey where
  /-- Another name for the type below. -/
  | synonym (name : String) (package : Option String)
  /-- A declared struct whose one field, `member`, embeds a pointer to the type below. -/
  | wrapper (member name : String) (package : Option String)

/-- The embedded field of a storey. -/
def Storey.member? : Storey → Option String
  | .synonym _ _ => none
  | .wrapper member _ _ => some member

/-- The embedded fields of a tower. -/
def embeddedNames (storeys : List Storey) : List String := storeys.filterMap Storey.member?

theorem mem_embeddedNames_cons {s : Storey} {above : List Storey} {name : String} :
    name ∈ embeddedNames (s :: above) ↔ name ∈ s.member? ∨ name ∈ embeddedNames above := by
  simp [embeddedNames, List.mem_filterMap]

/-- Is the lowest storey another name for what the tower stands on? -/
def startsWithSynonym : List Storey → Bool
  | .synonym _ _ :: _ => true
  | _ => false

namespace TypeTable

open Relation (ReflTransGen TransGen)

/-- Adds a storey on top of a type. -/
def addStorey (t : TypeTable) (id : TypeId) : Storey → TypeTable × TypeId
  | .synonym name package => t.add (.named name package id)
  | .wrapper member name package =>
    let (t, pointer) := t.add (.pointer id)
    let (t, struct) := t.add (.struct [⟨member, pointer, true⟩])
    t.add (.named name package struct)

/-- Adds storeys, the lowest first. -/
def tower (t : TypeTable) (id : TypeId) : List Storey → TypeTable × TypeId
  | [] => (t, id)
  | s :: above => (t.addStorey id s).1.tower (t.addStorey id s).2 above

/-- What a type gives if its embedded fields are searched one by one, each by itself. -/
def tokenFieldApart? (t : TypeTable) (names : List String) (d : TypeId) : Option String :=
  (t.directField? names d).or
    ((t.members embeddedFields d).findSome? fun m => t.tokenField? m names)

/-- A type that a tower can stand on: it is no pointer, and references do not lead out of the table
from it. -/
structure Ground (t : TypeTable) (id : TypeId) : Prop where
  plain : ∀ elem, t.get? id ≠ some (.pointer elem)
  enclosed : t.Enclosed id

variable {t t' : TypeTable} {id top d e : TypeId} {s : Storey} {names : List String} {name : String}

theorem Ground.deref_eq (ground : t.Ground id) : t.deref id = id := by
  unfold deref
  split
  · next elem found => exact absurd found (ground.plain elem)
  · rfl

/-! ### A storey -/

/-- How a storey on `id` looks from its top. -/
def Looks (t : TypeTable) (id top : TypeId) : Storey → Prop
  | .synonym _ _ => t.structFields? top = t.structFields? id
  | .wrapper member _ _ =>
    ∃ pointer, t.structFields? top = some [⟨member, pointer, true⟩] ∧ t.deref pointer = id

/-- The table `t'` extends `t` by a storey on `id`. -/
structure Raised (t t' : TypeTable) (id top : TypeId) (s : Storey) : Prop where
  grown : Extends t t'
  outside : t.size ≤ top.index.toNat
  ground : t'.Ground top
  looks : t'.Looks id top s

theorem raised_synonym (ground : t.Ground id) (name : String) (package : Option String)
    (room : t.size < UInt32.size) :
    Raised t (t.addStorey id (.synonym name package)).1 id (t.addStorey id (.synonym name package)).2
      (.synonym name package) := by
  have found := get?_add room (.named name package id) (.refl _)
  refine ⟨t.extends_add _, (index_add room _).ge, ⟨?_, ?_⟩, ?_⟩
  · intro elem pointer
    cases found.symm.trans pointer
  · exact ground.enclosed.add room fun e he => List.mem_singleton.mp he
  · refine structFields?_of_next? ?_
    rw [next?]
    exact found ▸ rfl

theorem raised_wrapper (ground : t.Ground id) (member name : String) (package : Option String)
    (room : t.size + 2 < UInt32.size) :
    Raised t (t.addStorey id (.wrapper member name package)).1 id
      (t.addStorey id (.wrapper member name package)).2 (.wrapper member name package) := by
  let pointed := t.add (.pointer id)
  let shaped := pointed.1.add (.struct [⟨member, pointed.2, true⟩])
  let declared := shaped.1.add (.named name package shaped.2)
  -- the three types, one above the other, have ids of their own
  have room₁ : t.size < UInt32.size := by omega
  have size₁ : pointed.1.size = t.size + 1 := size_add t _
  have room₂ : pointed.1.size < UInt32.size := by omega
  have size₂ : shaped.1.size = t.size + 2 := by rw [size_add, size₁]
  have room₃ : shaped.1.size < UInt32.size := by omega
  have grown₃ : Extends shaped.1 declared.1 := extends_add _ _
  have grown₂ : Extends pointed.1 declared.1 := (extends_add _ _).trans grown₃
  have found₁ : declared.1.get? pointed.2 = some (.pointer id) := get?_add room₁ _ grown₂
  have found₂ : declared.1.get? shaped.2 = some (.struct [⟨member, pointed.2, true⟩]) :=
    get?_add room₂ _ grown₃
  have found₃ : declared.1.get? declared.2 = some (.named name package shaped.2) :=
    get?_add room₃ _ (.refl _)
  have enclosed₁ : pointed.1.Enclosed pointed.2 :=
    ground.enclosed.add room₁ fun e he => List.mem_singleton.mp he
  have enclosed₂ : shaped.1.Enclosed shaped.2 :=
    enclosed₁.add room₂ fun e he => List.mem_singleton.mp he
  refine ⟨(extends_add t _).trans grown₂, ?_, ⟨?_, ?_⟩, pointed.2, ?_, ?_⟩
  · have index : declared.2.index.toNat = t.size + 2 := (index_add room₃ _).trans size₂
    exact index ▸ Nat.le_add_right _ _
  · intro elem pointer
    cases found₃.symm.trans pointer
  · exact enclosed₂.add room₃ fun e he => List.mem_singleton.mp he
  · have next₃ : declared.1.next? declared.2 = some shaped.2 := by rw [next?, found₃]
    exact (structFields?_of_next? next₃).trans
      ((structFields?_of_next?_eq_none (next?_struct found₂)).mpr found₂)
  · change declared.1.deref pointed.2 = id
    rw [deref, found₁]

/-- A storey is raised as long as there is an id for each of its types. -/
theorem raised_addStorey (ground : t.Ground id) (s : Storey)
    (room : (t.addStorey id s).1.size ≤ UInt32.size) :
    Raised t (t.addStorey id s).1 id (t.addStorey id s).2 s := by
  cases s with
  | synonym name package =>
    refine raised_synonym ground name package ?_
    rwa [addStorey, size_add] at room
  | wrapper member name package =>
    refine raised_wrapper ground member name package ?_
    simp only [addStorey, size_add] at room
    omega

/-! ### What a type gives that does not embed itself -/

/-- A search that does not come back to its type finds what the embedded fields give one by one. -/
theorem tokenField?_of_no_return
    (noReturn : ¬ TransGen t.EmbeddedLeads (t.deref id) (t.deref id)) :
    t.tokenField? id names = t.tokenFieldApart? names (t.deref id) := by
  have steps : t.Step embeddedFields = t.EmbeddedLeads := step_eq_embeddedLeads fun _ _ => Iff.rfl
  rw [← steps] at noReturn
  rw [tokenField?, search_of_no_return noReturn, searchFrom_eq_findSome?, tokenFieldApart?]

theorem reaches_of_embeddedLeads (leads : t.EmbeddedLeads d e) : e ∈ t.reach d := by
  obtain ⟨fields, struct, f, hf, -, rfl⟩ := leads
  exact (reaches_field struct hf).trans (t.reaches_deref f.type)

theorem mem_reach_of_reaches (leads : ReflTransGen t.EmbeddedLeads d e) : e ∈ t.reach d := by
  induction leads with
  | refl => exact ReflTransGen.refl
  | tail _ leads ih => exact ReflTransGen.trans ih (reaches_of_embeddedLeads leads)

/-! ### What is seen from the top of a storey -/

namespace Raised

/-- What embedded fields lead to from the top can be reached from below. -/
theorem mem_reach_of_embeddedLeads (raised : Raised t t' id top s)
    (leads : t'.EmbeddedLeads top e) : e ∈ t'.reach id := by
  have looks := raised.looks
  obtain ⟨fields, struct, f, hf, embedded, rfl⟩ := leads
  cases s with
  | synonym name package =>
    exact reaches_of_embeddedLeads ⟨fields, looks.symm.trans struct, f, hf, embedded, rfl⟩
  | wrapper member name package =>
    obtain ⟨pointer, single, points⟩ := looks
    obtain rfl := Option.some.inj (struct.symm.trans single)
    rw [List.mem_singleton.mp hf, points]
    exact ReflTransGen.refl

section Below

variable (ground : t.Ground id)

include ground

theorem deref_eq (raised : Raised t t' id top s) : t'.deref id = id := by
  have same := ground.enclosed.get?_eq raised.grown ReflTransGen.refl
  rw [deref, same, ← deref, ground.deref_eq]

/-- The top of a storey is out of reach from below. -/
theorem top_notMem_reach (raised : Raised t t' id top s) : top ∉ t'.reach id := by
  intro reached
  rw [ground.enclosed.reach_eq raised.grown] at reached
  exact Nat.not_lt.mpr raised.outside (ground.enclosed top reached)

/-- A storey does not embed itself. -/
theorem no_return (raised : Raised t t' id top s) : ¬ TransGen t'.EmbeddedLeads top top := by
  intro back
  obtain ⟨e, leads, rest⟩ := TransGen.head'_iff.mp back
  refine raised.top_notMem_reach ground ?_
  exact (raised.mem_reach_of_embeddedLeads leads).trans (mem_reach_of_reaches rest)

theorem tokenField?_eq_apart (raised : Raised t t' id top s) :
    t'.tokenField? top names = t'.tokenFieldApart? names top := by
  have same := raised.ground.deref_eq
  have noReturn := raised.no_return ground
  rw [← same] at noReturn
  rw [tokenField?_of_no_return noReturn, same]

/-- A storey has the fields of the type below, apart from the one it embeds. -/
theorem hasField_eq (raised : Raised t t' id top s) (other : name ∉ s.member?) :
    t'.hasField top name = t.hasField id name := by
  have below : t'.hasField id name = t.hasField id name :=
    congrFun ((ground.enclosed.simulation raised.grown).hasField_eq .refl) name
  have looks := raised.looks
  rw [← below, Bool.eq_iff_iff, hasField_iff_declared_or_embedded, raised.ground.deref_eq]
  cases s with
  | synonym => rw [hasField_iff_declared_or_embedded, raised.deref_eq ground, looks]
  | wrapper member =>
    obtain ⟨pointer, single, points⟩ := looks
    have differs : member ≠ name := by simpa [Storey.member?] using other
    have through : t'.hasField pointer name = t'.hasField id name := by
      rw [hasField, hasField, search_congr_deref (points.trans (raised.deref_eq ground).symm)]
    simp [single, differs, through]

/-- Another name gives what the embedded fields of the type below give one by one. -/
theorem tokenField?_synonym {name : String} {package : Option String}
    (raised : Raised t t' id top (.synonym name package)) :
    t'.tokenField? top names = t.tokenFieldApart? names id := by
  have simulation := ground.enclosed.simulation raised.grown
  have fields : t'.structFields? top = t.structFields? id :=
    raised.looks.trans ((ground.enclosed.links raised.grown).structFields?_eq .refl)
  have direct : t'.directField? names top = t.directField? names id := by
    rw [directField?, directField?, fields]
  have members : t'.members embeddedFields top = t.members embeddedFields id := by
    rw [TypeTable.members, TypeTable.members, fields]
  have below : ∀ m ∈ t.members embeddedFields id, t'.tokenField? m names = t.tokenField? m names :=
    fun m hm => simulation.tokenField?_eq names
      (simulation.members_mem uniform_embeddedFields .refl m hm)
  rw [raised.tokenField?_eq_apart ground, tokenFieldApart?, tokenFieldApart?, direct, members,
    ← List.head?_filterMap, ← List.head?_filterMap, List.filterMap_congr below]

/-- A wrapper gives what the type below gives, if its own field is not looked for. -/
theorem tokenField?_wrapper {member name : String} {package : Option String}
    (raised : Raised t t' id top (.wrapper member name package)) (unwanted : member ∉ names) :
    t'.tokenField? top names = t.tokenField? id names := by
  obtain ⟨pointer, single, points⟩ := raised.looks
  have direct : t'.directField? names top = none := by
    rw [directField?, single]
    refine List.find?_eq_none.mpr fun x hx declared => unwanted ?_
    have called : member = x := by simpa [declares] using declared
    exact called ▸ hx
  have members : t'.members embeddedFields top = [pointer] := by
    rw [TypeTable.members, single]
    rfl
  have through : t'.tokenField? pointer names = t'.tokenField? id names :=
    search_congr_deref (points.trans (raised.deref_eq ground).symm)
  have below := (ground.enclosed.simulation raised.grown).tokenField?_eq names .refl
  rw [raised.tokenField?_eq_apart ground, tokenFieldApart?, direct, members, Option.none_or,
    List.findSome?_singleton, through, below]

end Below

end Raised

/-! ### From the bottom to the top -/

theorem size_le_addStorey (t : TypeTable) (id : TypeId) (s : Storey) :
    t.size ≤ (t.addStorey id s).1.size := by
  cases s <;> simp only [addStorey, size_add] <;> omega

theorem size_le_tower (storeys : List Storey) : ∀ (t : TypeTable) (id : TypeId),
    t.size ≤ (t.tower id storeys).1.size := by
  induction storeys with
  | nil => exact fun _ _ => Nat.le_refl _
  | cons s above ih => exact fun t id => Nat.le_trans (t.size_le_addStorey id s) (ih _ _)

/-- The lowest storey of a tower that there is room for is raised. -/
theorem raised_of_tower {above : List Storey} (ground : t.Ground id)
    (room : (t.tower id (s :: above)).1.size ≤ UInt32.size) :
    Raised t (t.addStorey id s).1 id (t.addStorey id s).2 s :=
  raised_addStorey ground s (Nat.le_trans (size_le_tower above _ _) room)

/-- A tower has the fields of what it stands on, apart from those it embeds. -/
theorem hasField_tower {storeys : List Storey} (ground : t.Ground id)
    (room : (t.tower id storeys).1.size ≤ UInt32.size)
    (other : name ∉ embeddedNames storeys) :
    (t.tower id storeys).1.hasField (t.tower id storeys).2 name = t.hasField id name := by
  induction storeys generalizing t id with
  | nil => rfl
  | cons s above ih =>
    have raised := raised_of_tower ground room
    rw [mem_embeddedNames_cons, not_or] at other
    exact (ih raised.ground room other.2).trans (raised.hasField_eq ground other.1)

/-- A tower gives what its lowest storey gives, since no storey embeds itself. -/
theorem tokenField?_tower {storeys : List Storey} (ground : t.Ground id)
    (room : (t.tower id storeys).1.size ≤ UInt32.size)
    (unwanted : ∀ member ∈ embeddedNames storeys, member ∉ names) :
    (t.tower id storeys).1.tokenField? (t.tower id storeys).2 names =
      if startsWithSynonym storeys then t.tokenFieldApart? names id
      else t.tokenField? id names := by
  induction storeys generalizing t id with
  | nil => rfl
  | cons s above ih =>
    have raised := raised_of_tower ground room
    have higher := ih raised.ground room fun member h =>
      unwanted member (mem_embeddedNames_cons.mpr (.inr h))
    rw [← raised.tokenField?_eq_apart ground, ite_self] at higher
    rw [tower, higher]
    cases s with
    | synonym name package => exact raised.tokenField?_synonym ground
    | wrapper member name package =>
      exact raised.tokenField?_wrapper ground
        (unwanted member (mem_embeddedNames_cons.mpr (.inl rfl)))

/-- Towers are transparent, as long as there is an id for each of their types: they have the fields of
what they stand on, and the same best field of several names if the lowest storey is a wrapper or
the type does not embed itself. Where the lowest storey is another name, the best field is what the
embedded fields of the type give one by one. -/
theorem tower_transparent (t : TypeTable) (id : TypeId) (storeys : List Storey)
    (names : List String) (ground : t.Ground id)
    (room : (t.tower id storeys).1.size ≤ UInt32.size)
    (unwanted : ∀ member ∈ embeddedNames storeys, member ∉ names) :
    (∀ name ∉ embeddedNames storeys,
      (t.tower id storeys).1.hasField (t.tower id storeys).2 name = t.hasField id name) ∧
    ((startsWithSynonym storeys = true → ¬ TransGen t.EmbeddedLeads id id) →
      (t.tower id storeys).1.tokenField? (t.tower id storeys).2 names = t.tokenField? id names) ∧
    (startsWithSynonym storeys = true →
      (t.tower id storeys).1.tokenField? (t.tower id storeys).2 names =
        t.tokenFieldApart? names id) := by
  have found := tokenField?_tower ground room unwanted
  refine ⟨fun name other => hasField_tower ground room other, fun noReturn => ?_, fun starts => ?_⟩
  · rw [found]
    split
    · next starts =>
      have away := noReturn starts
      rw [← ground.deref_eq] at away
      rw [tokenField?_of_no_return away, ground.deref_eq]
    · rfl
  · rw [found, if_pos starts]

/-! ### A type that embeds itself -/

/-- A page whose first part embeds a pointer to the page. -/
def ringTable : TypeTable where
  types := #[.named "Page" none ⟨1⟩, .struct [⟨"First", ⟨2⟩, true⟩, ⟨"Second", ⟨4⟩, true⟩],
    .named "First" none ⟨3⟩, .struct [⟨"Page", ⟨8⟩, true⟩, ⟨"Third", ⟨6⟩, true⟩],
    .named "Second" none ⟨5⟩, .struct [⟨"NextToken", ⟨9⟩, false⟩],
    .named "Third" none ⟨7⟩, .struct [⟨"Marker", ⟨9⟩, false⟩], .pointer ⟨0⟩, .basic "string"]

theorem ground_ringTable : ringTable.Ground ⟨0⟩ :=
  ⟨nofun, enclosed_of_refs_lt (by decide) (by decide)⟩

/-- From the page the third part comes before the second; from the first part the page does, and
with it the second. -/
theorem tokenField?_ringTable :
    ringTable.tokenField? ⟨0⟩ ["NextToken", "Marker"] = some "Marker" ∧
      ringTable.tokenField? ⟨2⟩ ["NextToken", "Marker"] = some "NextToken" := by
  constructor <;>
    simp [tokenField?, search, searchFrom, directField?, members, structFields?, underlying, follow,
      next?, deref, get?, size, embeddedFields, declares, ringTable]

/-- A wrapper of the page, and another name for that, hide nothing of it. -/
theorem tower_transparent_ringTable :
    let built := ringTable.tower ⟨0⟩ [.wrapper "Base" "Outer" none, .synonym "Other" none]
    built.1.tokenField? built.2 ["NextToken", "Marker"] = some "Marker" ∧
      built.1.hasField built.2 "Third" = ringTable.hasField ⟨0⟩ "Third" := by
  have transparent := tower_transparent ringTable ⟨0⟩
    [.wrapper "Base" "Outer" none, .synonym "Other" none] ["NextToken", "Marker"] ground_ringTable
    (by decide) (by decide)
  exact ⟨(transparent.2.1 nofun).trans tokenField?_ringTable.1, transparent.1 "Third" (by decide)⟩

/-- Another name for the page itself gives a different field than the page. -/
theorem tower_not_transparent_ringTable :
    let built := ringTable.tower ⟨0⟩ [.synonym "Alias" none]
    ringTable.Ground ⟨0⟩ ∧ built.1.size ≤ UInt32.size ∧
      built.1.tokenField? built.2 ["NextToken", "Marker"] = some "NextToken" ∧
        ringTable.tokenField? ⟨0⟩ ["NextToken", "Marker"] = some "Marker" := by
  refine ⟨ground_ringTable, by decide, ?_, tokenField?_ringTable.1⟩
  rw [tokenField?_tower ground_ringTable (by decide) (by decide)]
  change (none : Option String).or ([⟨2⟩, ⟨4⟩].findSome? fun m => ringTable.tokenField? m _) = _
  rw [Option.none_or, List.findSome?_cons, tokenField?_ringTable.2]

end TypeTable

end PaginationLint
