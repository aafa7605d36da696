import Mathlib.Data.List.Forall2
import Mathlib.Data.List.Nodup
import PaginationLint.Wire.Decode

/-!
What is read from an object and from an array.

A record or a variant comes as an object or as an array of its fields. The main statements say when
such a value is read, and as what: an object, if every field has at most one member, and that member
is the value of the field; an array, if its items are the values of the first fields; fields that
are left out have their default. In an object nothing depends on the order of the members.
-/

namespace PaginationLint

/-! ### Values without faults -/

namespace Draft

mutual

theorem readingFault_ofJson : ∀ v : Json, (ofJson v).readingFault = none
  | .null | .bool _ | .number _ | .string _ => by simp [ofJson, readingFault]
  | .array items => by simp [ofJson, readingFault, readingFaultItems_ofJson items]
  | .object members => by simp [ofJson, readingFault, readingFaultMembers_ofJson members]

theorem readingFaultItems_ofJson (vs : List Json) : readingFaultItems (ofJsonItems vs) = none := by
  cases vs with
  | nil => rfl
  | cons v vs =>
    simp [ofJsonItems, readingFaultItems, readingFault_ofJson v, readingFaultItems_ofJson vs]

theorem readingFaultMembers_ofJson (ms : List (String × Json)) :
    readingFaultMembers (ofJsonMembers ms) = none := by
  cases ms with
  | nil => rfl
  | cons m ms =>
    obtain ⟨key, v⟩ := m
    simp [ofJsonMembers, readingFaultMembers, readingFault_ofJson v, readingFaultMembers_ofJson ms]

end

mutual

theorem passingFault_ofJson : ∀ v : Json, (ofJson v).passingFault = none
  | .null | .bool _ | .number _ | .string _ => by simp [ofJson, passingFault]
  | .array items => by simp [ofJson, passingFault, passingFaultItems_ofJson items]
  | .object members => by simp [ofJson, passingFault, passingFaultMembers_ofJson members]

theorem passingFaultItems_ofJson (vs : List Json) : passingFaultItems (ofJsonItems vs) = none := by
  cases vs with
  | nil => rfl
  | cons v vs =>
    simp [ofJsonItems, passingFaultItems, passingFault_ofJson v, passingFaultItems_ofJson vs]

theorem passingFaultMembers_ofJson (ms : List (String × Json)) :
    passingFaultMembers (ofJsonMembers ms) = none := by
  cases ms with
  | nil => rfl
  | cons m ms =>
    obtain ⟨key, v⟩ := m
    simp [ofJsonMembers, passingFaultMembers, passingFault_ofJson v, passingFaultMembers_ofJson ms]

end

end Draft

namespace Wire

open List (Forall₂)

theorem bind_eq_ok_iff {α β : Type} {x : Except DecodeError α} {f : α → Except DecodeError β}
    {b : β} : x >>= f = .ok b ↔ ∃ a, x = .ok a ∧ f a = .ok b := by
  cases x <;> simp [bind, Except.bind]

theorem map_eq_ok_iff {α β : Type} {x : Except DecodeError α} {f : α → β} {b : β} :
    x.map f = .ok b ↔ ∃ a, x = .ok a ∧ f a = b := by
  cases x <;> simp [Except.map]

theorem forall₂_imp_of_mem {α β : Type} {R S : α → β → Prop} {as : List α} {bs : List β}
    (h : ∀ a ∈ as, ∀ b, R a b → S a b) (hR : Forall₂ R as bs) : Forall₂ S as bs :=
  ((List.forall₂_and_left as bs).mpr ⟨fun _ ha => ha, hR⟩).imp fun a b hab => h a hab.1 b hab.2

theorem exists_of_forall₂ {α β : Type} {R : α → β → Prop} {as : List α} {bs : List β}
    (h : Forall₂ R as bs) {a : α} (ha : a ∈ as) : ∃ b, R a b := by
  induction h with
  | nil => cases ha
  | cons hab _ ih =>
    rcases List.mem_cons.mp ha with rfl | ha
    · exact ⟨_, hab⟩
    · exact ih ha

/-- Reads a value at a place of a given shape. -/
def read (reading : Reading) (shape : Shape) (v : Json) : Except DecodeError Datum :=
  decode reading shape (Draft.ofJson v)

namespace FieldSpec

/-- Reads the value of a field. -/
def read (reading : Reading) (f : FieldSpec) (v : Json) : Except DecodeError Datum :=
  if f.isNull (Draft.ofJson v) then .ok .absent else Wire.read reading f.shape v

/-- `null` stands for an optional field without a value, and every other value for itself. -/
theorem read_of_ne_null {reading : Reading} {f : FieldSpec} {v : Json} (h : v ≠ .null) :
    f.read reading v = Wire.read reading f.shape v := by
  have unlike : f.isNull (Draft.ofJson v) = false := by
    cases v with
    | null => exact absurd rfl h
    | _ => simp [isNull, Draft.ofJson]
  rw [FieldSpec.read, unlike]
  rfl

/-- The value of a field, where it was found or else its default. -/
def supplied? (found : List (String × Datum)) (f : FieldSpec) : Option Datum :=
  found.lookup f.key <|> f.default?

/-- The members of an object give a field its value: one of them is the value, or none has the key
of the field and the value is the default. -/
def Holds (reading : Reading) (ms : List (String × Json)) (f : FieldSpec) (x : Datum) : Prop :=
  (∃ v, (f.key, v) ∈ ms ∧ f.read reading v = .ok x) ∨
    f.key ∉ ms.map Prod.fst ∧ f.default? = some x

/-- A key that occurs once has one value. -/
theorem value_unique {ms : List (String × Json)} {key : String}
    (once : (ms.map Prod.fst).count key ≤ 1) {v w : Json} (hv : (key, v) ∈ ms)
    (hw : (key, w) ∈ ms) : v = w := by
  obtain ⟨before, after, rfl⟩ := List.mem_iff_append.mp hv
  rw [List.map_append, List.map_cons, List.count_append, List.count_cons_self] at once
  have none_before : key ∉ before.map Prod.fst := List.count_eq_zero.mp (by omega)
  have none_after : key ∉ after.map Prod.fst := List.count_eq_zero.mp (by omega)
  rcases List.mem_append.mp hw with hw | hw
  · exact absurd (List.mem_map_of_mem hw) none_before
  · rcases List.mem_cons.mp hw with same | hw
    · exact (congrArg Prod.snd same).symm
    · exact absurd (List.mem_map_of_mem hw) none_after

/-- Only members with the key of the field count. -/
theorem holds_congr {reading : Reading} {ms ms' : List (String × Json)} {f : FieldSpec}
    (same : ∀ v, (f.key, v) ∈ ms ↔ (f.key, v) ∈ ms') {x : Datum} :
    f.Holds reading ms x ↔ f.Holds reading ms' x := by
  simp only [Holds, List.mem_map, Prod.exists, exists_and_right, exists_eq_right, same]

theorem holds_cons_of_ne {reading : Reading} {ms : List (String × Json)} {f : FieldSpec}
    {key : String} {w : Json} (apart : f.key ≠ key) {x : Datum} :
    f.Holds reading ((key, w) :: ms) x ↔ f.Holds reading ms x :=
  holds_congr fun v => by simp [apart]

theorem Holds.read_eq {reading : Reading} {ms : List (String × Json)} {f : FieldSpec} {w : Json}
    {x : Datum} (holds : f.Holds reading ((f.key, w) :: ms) x)
    (once : (((f.key, w) :: ms).map Prod.fst).count f.key ≤ 1) : f.read reading w = .ok x := by
  rcases holds with ⟨v, hv, hx⟩ | ⟨absent, -⟩
  · exact value_unique once hv List.mem_cons_self ▸ hx
  · exact absurd List.mem_cons_self absent

end FieldSpec

/-- The members of an object give the fields of a record or of a variant their values. -/
structure MembersHold (reading : Reading) (closed : Bool) (fields : List FieldSpec)
    (ms : List (String × Json)) (xs : List Datum) : Prop where
  known : closed = true → ∀ m ∈ ms, ∃ f ∈ fields, f.key = m.1
  once : ∀ f ∈ fields, (ms.map Prod.fst).count f.key ≤ 1
  values : Forall₂ (FieldSpec.Holds reading ms) fields xs

/-- The items of an array give the fields of a record or of a variant their values. -/
def ItemsHold (reading : Reading) : List FieldSpec → List Json → List Datum → Prop
  | fs, [], xs => Forall₂ (fun f x => f.default? = some x) fs xs
  | f :: fs, v :: vs, x :: xs => f.read reading v = .ok x ∧ ItemsHold reading fs vs xs
  | _, _, _ => False

namespace MembersHold

variable {reading : Reading} {closed : Bool} {fields : List FieldSpec}
  {ms : List (String × Json)} {xs : List Datum}

/-- The order of the members does not matter. -/
theorem perm (hold : MembersHold reading closed fields ms xs) {ms' : List (String × Json)}
    (p : ms.Perm ms') : MembersHold reading closed fields ms' xs where
  known refused m hm := hold.known refused m (p.mem_iff.mpr hm)
  once f hf := (p.map Prod.fst).count_eq f.key ▸ hold.once f hf
  values := hold.values.imp fun _ _ => (FieldSpec.holds_congr fun _ => p.mem_iff).mp

/-- A member that is no field may be added where such members are passed over. -/
theorem cons_other (passed : closed = false) {key : String} {w : Json}
    (other : ∀ f ∈ fields, f.key ≠ key) (hold : MembersHold reading closed fields ms xs) :
    MembersHold reading closed fields ((key, w) :: ms) xs where
  known refused := by simp [passed] at refused
  once f hf := by
    rw [List.map_cons, List.count_cons_of_ne (other f hf).symm]
    exact hold.once f hf
  values := by
    refine forall₂_imp_of_mem (fun f hf x holds => ?_) hold.values
    exact (FieldSpec.holds_cons_of_ne (other f hf)).mpr holds

/-- A member that is no field may be taken away. -/
theorem tail_other {key : String} {w : Json} (other : ∀ f ∈ fields, f.key ≠ key)
    (hold : MembersHold reading closed fields ((key, w) :: ms) xs) :
    MembersHold reading closed fields ms xs where
  known refused m hm := hold.known refused m (List.mem_cons_of_mem _ hm)
  once f hf := Nat.le_trans List.count_le_count_cons (hold.once f hf)
  values := by
    refine forall₂_imp_of_mem (fun f hf x holds => ?_) hold.values
    exact (FieldSpec.holds_cons_of_ne (other f hf)).mp holds

/-- A field may be left out if its value is its default. -/
theorem drop (distinct : (fields.map FieldSpec.key).Nodup) {f : FieldSpec} (hf : f ∈ fields)
    {w : Json} {x : Datum} (filled : f.default? = some x) (value : f.read reading w = .ok x)
    (hold : MembersHold reading closed fields ((f.key, w) :: ms) xs) :
    MembersHold reading closed fields ms xs := by
  have count := hold.once f hf
  refine ⟨fun refused m hm => hold.known refused m (List.mem_cons_of_mem _ hm), fun g hg =>
    Nat.le_trans List.count_le_count_cons (hold.once g hg), ?_⟩
  rw [List.map_cons, List.count_cons_self] at count
  have missing : f.key ∉ ms.map Prod.fst := List.count_eq_zero.mp (by omega)
  refine forall₂_imp_of_mem (fun g hg y holds => ?_) hold.values
  by_cases same : g = f
  · subst same
    obtain rfl : x = y := Except.ok.inj (value.symm.trans (holds.read_eq (hold.once g hg)))
    exact .inr ⟨missing, filled⟩
  · have apart : g.key ≠ f.key := fun key => same (List.inj_on_of_nodup_map distinct hg hf key)
    exact (FieldSpec.holds_cons_of_ne apart).mp holds

/-- The value of a field may be exchanged for one that is read as the same. -/
theorem replace (distinct : (fields.map FieldSpec.key).Nodup) {f : FieldSpec} (hf : f ∈ fields)
    {w w' : Json} (keeps : ∀ x, f.read reading w = .ok x → f.read reading w' = .ok x)
    (hold : MembersHold reading closed fields ((f.key, w) :: ms) xs) :
    MembersHold reading closed fields ((f.key, w') :: ms) xs := by
  refine ⟨fun refused m hm => ?_, hold.once,
    forall₂_imp_of_mem (fun g hg y holds => ?_) hold.values⟩
  · rcases List.mem_cons.mp hm with rfl | hm
    · exact ⟨f, hf, rfl⟩
    · exact hold.known refused m (List.mem_cons_of_mem _ hm)
  · by_cases same : g = f
    · subst same
      exact .inl ⟨w', List.mem_cons_self, keeps y (holds.read_eq (hold.once g hg))⟩
    · have apart : g.key ≠ f.key := fun key => same (List.inj_on_of_nodup_map distinct hg hf key)
      exact (FieldSpec.holds_cons_of_ne apart).mpr ((FieldSpec.holds_cons_of_ne apart).mp holds)

/-- Every member that is a field can be read. -/
theorem readable (hold : MembersHold reading closed fields ms xs) :
    ∀ f ∈ fields, ∀ v, (f.key, v) ∈ ms → ∃ x, f.read reading v = .ok x := by
  intro f hf v hv
  obtain ⟨x, holds⟩ := exists_of_forall₂ hold.values hf
  rcases holds with ⟨w, hw, hx⟩ | ⟨missing, -⟩
  · exact ⟨x, FieldSpec.value_unique (hold.once f hf) hv hw ▸ hx⟩
  · exact absurd (List.mem_map_of_mem hv) missing

end MembersHold

/-! ### Keys of the schema -/

theorem nodup_recordKeys (kind : RecordKind) : (kind.fields.map FieldSpec.key).Nodup := by
  cases kind <;> decide

/-- The fields of a variant. -/
def Family.fields (family : Family) (index : Nat) : List FieldSpec :=
  (family.variants.getD index default).fields

/-- The fields of a variant have keys of their own, and the key of the tag is none of them. -/
theorem nodup_variantKeys (family : Family) (index : Nat) :
    (tagKey :: (family.fields index).map FieldSpec.key).Nodup := by
  have all : ∀ v ∈ family.variants, (tagKey :: v.fields.map FieldSpec.key).Nodup := by
    cases family <;> decide
  rw [Family.fields, List.getD_eq_getElem?_getD]
  cases found : family.variants[index]? with
  | none => exact List.nodup_singleton tagKey
  | some v => exact all v (List.mem_of_getElem? found)

/-- Variants are told apart by their tags. -/
theorem nodup_tags (family : Family) : (family.variants.map Variant.tag).Nodup := by
  cases family <;> decide

/-! ### Members of an object -/

section Members

variable {reading : Reading} {closed : Bool} {fields : List FieldSpec}
  {found : List (String × Datum)} {key : String} {v : Json} {ms : List (String × Json)}

theorem find?_key (distinct : (fields.map FieldSpec.key).Nodup) {f : FieldSpec} (h : f ∈ fields) :
    fields.find? (fun g => g.key == f.key) = some f := by
  induction fields with
  | nil => cases h
  | cons g gs ih =>
    rw [List.map_cons, List.nodup_cons] at distinct
    rcases List.mem_cons.mp h with rfl | h
    · simp
    · have apart : g.key ≠ f.key := fun same => distinct.1 (same ▸ List.mem_map_of_mem h)
      rw [List.find?_cons_of_neg (by simpa using apart)]
      exact ih distinct.2 h

theorem lookup_cons_of_ne {k : String} {x : Datum} (apart : k ≠ key) :
    ((key, x) :: found).lookup k = found.lookup k := by
  rw [List.lookup_cons, beq_false_of_ne apart]

theorem decodeMembers_other (other : ∀ f ∈ fields, f.key ≠ key) :
    decodeMembers reading closed fields found (Draft.ofJsonMembers ((key, v) :: ms)) =
      if closed then .error (.problem (.unknownField key (fields.map FieldSpec.key)))
      else decodeMembers reading closed fields found (Draft.ofJsonMembers ms) := by
  have missing : fields.find? (fun f => f.key == key) = none := by simpa using other
  rw [Draft.ofJsonMembers, decodeMembers, missing, Draft.passingFault_ofJson]
  rfl

theorem decodeMembers_field (distinct : (fields.map FieldSpec.key).Nodup) {f : FieldSpec}
    (h : f ∈ fields) :
    decodeMembers reading closed fields found (Draft.ofJsonMembers ((f.key, v) :: ms)) =
      if (found.lookup f.key).isSome then .error (.problem (.duplicateField f.key))
      else f.read reading v >>= fun x =>
        decodeMembers reading closed fields ((f.key, x) :: found) (Draft.ofJsonMembers ms) := by
  rw [Draft.ofJsonMembers, decodeMembers, find?_key distinct h]
  by_cases null : f.isNull (Draft.ofJson v) = true <;> simp [FieldSpec.read, Wire.read, null]

/-- What has been collected from members, on top of `found`. -/
structure Collected (reading : Reading) (closed : Bool) (fields : List FieldSpec)
    (found : List (String × Datum)) (ms : List (String × Json)) (found' : List (String × Datum)) :
    Prop where
  known : closed = true → ∀ m ∈ ms, ∃ f ∈ fields, f.key = m.1
  once : ∀ f ∈ fields, (ms.map Prod.fst).count f.key ≤ 1
  fresh : ∀ f ∈ fields, f.key ∈ ms.map Prod.fst → found.lookup f.key = none
  lookup_eq_some_iff : ∀ f ∈ fields, ∀ x, found'.lookup f.key = some x ↔
    found.lookup f.key = some x ∨ ∃ v, (f.key, v) ∈ ms ∧ f.read reading v = .ok x
  lookup_eq_none_iff : ∀ f ∈ fields, found'.lookup f.key = none ↔
    found.lookup f.key = none ∧ f.key ∉ ms.map Prod.fst

namespace Collected

variable {found' : List (String × Datum)}

theorem nil : Collected reading closed fields found [] found := by
  constructor <;> simp

/-- A member that is no field adds nothing. -/
theorem other (passed : closed = false) (unknown : ∀ f ∈ fields, f.key ≠ key)
    (rest : Collected reading closed fields found ms found') :
    Collected reading closed fields found ((key, v) :: ms) found' where
  known refused := by simp [passed] at refused
  once f hf := by
    rw [List.map_cons, List.count_cons_of_ne (unknown f hf).symm]
    exact rest.once f hf
  fresh f hf mem := by
    rcases List.mem_cons.mp mem with same | mem
    · exact absurd same (unknown f hf)
    · exact rest.fresh f hf mem
  lookup_eq_some_iff f hf x := by
    simp [rest.lookup_eq_some_iff f hf, unknown f hf]
  lookup_eq_none_iff f hf := by
    simp [rest.lookup_eq_none_iff f hf, unknown f hf]

/-- A member that is a field adds its value, and no other member is the same field. -/
theorem field (distinct : (fields.map FieldSpec.key).Nodup) {g : FieldSpec} (hg : g ∈ fields)
    {y : Datum} (unfound : found.lookup g.key = none) (hy : g.read reading v = .ok y)
    (rest : Collected reading closed fields ((g.key, y) :: found) ms found') :
    Collected reading closed fields found ((g.key, v) :: ms) found' := by
  have alone : g.key ∉ ms.map Prod.fst := fun mem => by
    have := rest.fresh g hg mem
    simp at this
  have others : ∀ f ∈ fields, f ≠ g → f.key ≠ g.key := fun f hf apart same =>
    apart (List.inj_on_of_nodup_map distinct hf hg same)
  refine ⟨fun refused m hm => ?_, fun f hf => ?_, fun f hf mem => ?_, fun f hf x => ?_,
    fun f hf => ?_⟩
  · rcases List.mem_cons.mp hm with rfl | hm
    · exact ⟨g, hg, rfl⟩
    · exact rest.known refused m hm
  all_goals by_cases same : f = g
  · simp [same, List.count_eq_zero_of_not_mem alone]
  · rw [List.map_cons, List.count_cons_of_ne (others f hf same).symm]
    exact rest.once f hf
  · exact same ▸ unfound
  · rcases List.mem_cons.mp mem with key | mem
    · exact absurd key (others f hf same)
    · exact lookup_cons_of_ne (others f hf same) ▸ rest.fresh f hf mem
  · subst same
    have others : ∀ w, (f.key, w) ∉ ms := fun w mem => alone (List.mem_map_of_mem mem)
    simp [rest.lookup_eq_some_iff f hf, unfound, others, hy]
  · simp [rest.lookup_eq_some_iff f hf, lookup_cons_of_ne (others f hf same), others f hf same]
  · subst same
    rw [rest.lookup_eq_none_iff f hf, List.lookup_cons_self]
    simp
  · simp [rest.lookup_eq_none_iff f hf, lookup_cons_of_ne (others f hf same), others f hf same]

end Collected

theorem collected_of_decodeMembers (distinct : (fields.map FieldSpec.key).Nodup)
    {found' : List (String × Datum)}
    (h : decodeMembers reading closed fields found (Draft.ofJsonMembers ms) = .ok found') :
    Collected reading closed fields found ms found' := by
  induction ms generalizing found with
  | nil =>
    obtain rfl : found = found' := by simpa [Draft.ofJsonMembers, decodeMembers] using h
    exact .nil
  | cons m ms ih =>
    obtain ⟨key, v⟩ := m
    by_cases field : ∃ f ∈ fields, f.key = key
    · obtain ⟨g, hg, rfl⟩ := field
      rw [decodeMembers_field distinct hg] at h
      split at h
      · cases h
      next unfound =>
        obtain ⟨y, hy, h⟩ := bind_eq_ok_iff.mp h
        exact .field distinct hg (Option.not_isSome_iff_eq_none.mp unfound) hy (ih h)
    · have unknown : ∀ f ∈ fields, f.key ≠ key := fun f hf same => field ⟨f, hf, same⟩
      rw [decodeMembers_other unknown] at h
      split at h
      · cases h
      next passed => exact .other (by simpa using passed) unknown (ih h)

/-- Members are collected if each is known where it has to be, and each field is met once and can be
read. -/
theorem exists_decodeMembers (distinct : (fields.map FieldSpec.key).Nodup)
    (found : List (String × Datum))
    (known : closed = true → ∀ m ∈ ms, ∃ f ∈ fields, f.key = m.1)
    (once : ∀ f ∈ fields, (ms.map Prod.fst).count f.key ≤ 1)
    (fresh : ∀ f ∈ fields, f.key ∈ ms.map Prod.fst → found.lookup f.key = none)
    (readable : ∀ f ∈ fields, ∀ v, (f.key, v) ∈ ms → ∃ x, f.read reading v = .ok x) :
    ∃ found', decodeMembers reading closed fields found (Draft.ofJsonMembers ms) = .ok found' := by
  induction ms generalizing found with
  | nil => exact ⟨found, rfl⟩
  | cons m ms ih =>
    obtain ⟨key, v⟩ := m
    have known' := fun refused m hm => known refused m (List.mem_cons_of_mem _ hm)
    have once' : ∀ f ∈ fields, (ms.map Prod.fst).count f.key ≤ 1 := fun f hf =>
      Nat.le_trans (List.count_le_count_cons) (once f hf)
    have readable' := fun f hf v hv => readable f hf v (List.mem_cons_of_mem _ hv)
    by_cases field : ∃ f ∈ fields, f.key = key
    · obtain ⟨g, hg, rfl⟩ := field
      obtain ⟨y, hy⟩ := readable g hg v List.mem_cons_self
      have unfound : found.lookup g.key = none := fresh g hg List.mem_cons_self
      have alone : g.key ∉ ms.map Prod.fst := by
        have := once g hg
        rw [List.map_cons, List.count_cons_self] at this
        exact List.count_eq_zero.mp (by omega)
      rw [decodeMembers_field distinct hg, unfound, hy]
      refine ih _ known' once' (fun f hf mem => ?_) readable'
      have apart : f.key ≠ g.key := fun same => alone (same ▸ mem)
      rw [lookup_cons_of_ne apart]
      exact fresh f hf (List.mem_cons_of_mem _ mem)
    · have unknown : ∀ f ∈ fields, f.key ≠ key := fun f hf same => field ⟨f, hf, same⟩
      have passed : closed = false := by
        rw [← Bool.not_eq_true]
        intro refused
        obtain ⟨f, hf, same⟩ := known refused _ List.mem_cons_self
        exact unknown f hf same
      rw [decodeMembers_other unknown, if_neg (by simp [passed])]
      exact ih found known' once' (fun f hf mem => fresh f hf (List.mem_cons_of_mem _ mem))
        readable'

theorem gather_eq_ok_iff {xs : List Datum} :
    gather found fields = .ok xs ↔ Forall₂ (fun f x => f.supplied? found = some x) fields xs := by
  induction fields generalizing xs with
  | nil => simp [gather, eq_comm]
  | cons f fs ih =>
    rw [gather, ← FieldSpec.supplied?]
    cases value : f.supplied? found with
    | none => cases xs <;> simp [value]
    | some x =>
      cases xs with
      | nil => simp [map_eq_ok_iff]
      | cons y ys => simp [map_eq_ok_iff, ih, value, and_comm]

theorem Collected.supplied?_eq_some_iff (collected : Collected reading closed fields [] ms found)
    {f : FieldSpec} (hf : f ∈ fields) {x : Datum} :
    f.supplied? found = some x ↔ f.Holds reading ms x := by
  have present := collected.lookup_eq_some_iff f hf x
  have missing := collected.lookup_eq_none_iff f hf
  simp only [List.lookup_nil, reduceCtorEq, false_or, true_and] at present missing
  rw [FieldSpec.supplied?, Option.orElse_eq_orElse, Option.orElse_eq_or, Option.or_eq_some_iff,
    present, missing]
  rfl

/-- What an object is read as. -/
theorem gather_decodeMembers_eq_ok_iff (distinct : (fields.map FieldSpec.key).Nodup)
    {xs : List Datum} :
    (∃ found, decodeMembers reading closed fields [] (Draft.ofJsonMembers ms) = .ok found ∧
        gather found fields = .ok xs) ↔
      MembersHold reading closed fields ms xs := by
  constructor
  · rintro ⟨found, collect, gathered⟩
    have collected := collected_of_decodeMembers distinct collect
    refine ⟨collected.known, collected.once, ?_⟩
    rw [gather_eq_ok_iff] at gathered
    exact forall₂_imp_of_mem (fun f hf x => (collected.supplied?_eq_some_iff hf).mp) gathered
  · intro hold
    obtain ⟨found, collect⟩ := exists_decodeMembers distinct [] hold.known hold.once
      (fun _ _ _ => rfl) hold.readable
    have collected := collected_of_decodeMembers distinct collect
    refine ⟨found, collect, gather_eq_ok_iff.mpr ?_⟩
    exact forall₂_imp_of_mem (fun f hf x => (collected.supplied?_eq_some_iff hf).mpr) hold.values

end Members

/-! ### Items of an array -/

theorem fillIn_eq_ok_iff {title : String} {count done : Nat} {fields : List FieldSpec}
    {xs : List Datum} :
    fillIn title count done fields = .ok xs ↔
      Forall₂ (fun f x => f.default? = some x) fields xs := by
  induction fields generalizing done xs with
  | nil => simp [fillIn, eq_comm]
  | cons f fs ih =>
    rw [fillIn]
    cases value : f.default? with
    | none => cases xs <;> simp [value]
    | some x =>
      cases xs with
      | nil => simp [map_eq_ok_iff]
      | cons y ys => simp [map_eq_ok_iff, ih, value, and_comm]

/-- What an array is read as. -/
theorem decodeFields_eq_ok_iff {reading : Reading} {title : String} {count done : Nat}
    {fields : List FieldSpec} {vs : List Json} {xs : List Datum} :
    decodeFields reading title count fields done (Draft.ofJsonItems vs) none = .ok xs ↔
      ItemsHold reading fields vs xs := by
  induction vs generalizing fields done xs with
  | nil =>
    cases fields <;> simp [Draft.ofJsonItems, decodeFields, check, ItemsHold, bind_eq_ok_iff,
      fillIn_eq_ok_iff]
  | cons v vs ih =>
    cases fields with
    | nil => simp [Draft.ofJsonItems, decodeFields, ItemsHold]
    | cons f fs =>
      have opened : decodeFields reading title count (f :: fs) done
          (Draft.ofJsonItems (v :: vs)) none =
            f.read reading v >>= fun x =>
              decodeFields reading title count fs (done + 1) (Draft.ofJsonItems vs) none >>=
                fun xs => .ok (x :: xs) := by
        rw [Draft.ofJsonItems, decodeFields]
        by_cases null : f.isNull (Draft.ofJson v) = true <;>
          simp [FieldSpec.read, Wire.read, null] <;> rfl
      rw [opened]
      cases xs with
      | nil => simp [bind_eq_ok_iff, ItemsHold]
      | cons x xs => simp [bind_eq_ok_iff, ih, ItemsHold]

end Wire

end PaginationLint
