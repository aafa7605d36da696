import Mathlib.Logic.Relation
import PaginationLint.Proofs.Wire.Reading
import PaginationLint.Wire.Codec

/-!
Freedom of layout.

The same unit can be laid out in many ways: members in any order, members that are no fields, fields
with their default left out, arrays in place of objects. `Change` is one such change of layout, at
any depth of a document. The main statement says that what is read stays the same through any number
of them.
-/

namespace PaginationLint.Wire

open List (Forall₂)

/-! ### Changes of layout -/

/-- A change of the members of an object. The keys in `reserved` are no fields, but they have a
meaning. -/
inductive MembersChange (reading : Reading) (closed : Bool) (reserved : List String)
    (fields : List FieldSpec) : List (String × Json) → List (String × Json) → Prop
  | permute {ms ms' : List (String × Json)} (p : ms.Perm ms') :
    MembersChange reading closed reserved fields ms ms'
  /-- A member without a meaning comes in. -/
  | insert {key : String} {w : Json} (before : List (String × Json)) {after : List (String × Json)}
    (passed : closed = false) (other : key ∉ reserved ++ fields.map FieldSpec.key) :
    MembersChange reading closed reserved fields (before ++ after) (before ++ (key, w) :: after)
  /-- A member without a meaning gets another value. -/
  | revise {key : String} {w w' : Json} (before : List (String × Json))
    {after : List (String × Json)} (other : key ∉ reserved ++ fields.map FieldSpec.key) :
    MembersChange reading closed reserved fields (before ++ (key, w) :: after)
      (before ++ (key, w') :: after)
  /-- A field whose value is its default is left out. -/
  | drop {f : FieldSpec} {w : Json} {x : Datum} (before : List (String × Json))
    {after : List (String × Json)} (hf : f ∈ fields) (filled : f.default? = some x)
    (value : f.read reading w = .ok x) :
    MembersChange reading closed reserved fields (before ++ (f.key, w) :: after) (before ++ after)

/-- The members of an object as an array, one item for each field in order. For a field that is
missing there is any value that is read as its default; at the end such fields can go without an
item. -/
inductive InOrder (reading : Reading) (ms : List (String × Json)) :
    List FieldSpec → List Json → Prop
  | rest {fields : List FieldSpec} (missing : ∀ f ∈ fields, f.key ∉ ms.map Prod.fst) :
    InOrder reading ms fields []
  | member {f : FieldSpec} {w : Json} {fields : List FieldSpec} {items : List Json}
    (mem : (f.key, w) ∈ ms) (rest : InOrder reading ms fields items) :
    InOrder reading ms (f :: fields) (w :: items)
  | default {f : FieldSpec} {w : Json} {x : Datum} {fields : List FieldSpec} {items : List Json}
    (missing : f.key ∉ ms.map Prod.fst) (filled : f.default? = some x)
    (value : f.read reading w = .ok x) (rest : InOrder reading ms fields items) :
    InOrder reading ms (f :: fields) (w :: items)

/-- One change of layout at some depth of a value of the given shape. -/
inductive Change : Reading → Shape → Json → Json → Prop
  | record {reading : Reading} {kind : RecordKind} {ms ms' : List (String × Json)}
    (change : MembersChange reading kind.isClosed [] kind.fields ms ms') :
    Change reading (.record kind) (.object ms) (.object ms')
  | recordInOrder {reading : Reading} {kind : RecordKind} {ms : List (String × Json)}
    {items : List Json} (inOrder : InOrder reading ms kind.fields items) :
    Change reading (.record kind) (.object ms) (.array items)
  | variant {reading : Reading} {family : Family} {tag : Json} {index : Nat}
    {ms ms' : List (String × Json)} (tagged : (tagKey, tag) ∈ ms) (names : family.Names tag index)
    (change : MembersChange .nested false [tagKey] (family.fields index) ms ms') :
    Change reading (.variant family) (.object ms) (.object ms')
  | variantInOrder {reading : Reading} {family : Family} {tag : Json} {index : Nat}
    {ms : List (String × Json)} {items : List Json} (tagged : (tagKey, tag) ∈ ms)
    (names : family.Names tag index) (inOrder : InOrder .nested ms (family.fields index) items) :
    Change reading (.variant family) (.object ms) (.array (tag :: items))
  -- The rest go one level down.
  | item {reading : Reading} {item : Shape} {w w' : Json} (before : List Json) {after : List Json}
    (change : Change reading item w w') :
    Change reading (.list item) (.array (before ++ w :: after)) (.array (before ++ w' :: after))
  | recordMember {reading : Reading} {kind : RecordKind} {f : FieldSpec} {w w' : Json}
    (before : List (String × Json)) {after : List (String × Json)} (hf : f ∈ kind.fields)
    (change : Change reading f.shape w w') :
    Change reading (.record kind) (.object (before ++ (f.key, w) :: after))
      (.object (before ++ (f.key, w') :: after))
  | recordItem {reading : Reading} {kind : RecordKind} {f : FieldSpec} {w w' : Json}
    (before : List Json) {after : List Json} (hf : kind.fields[before.length]? = some f)
    (change : Change reading f.shape w w') :
    Change reading (.record kind) (.array (before ++ w :: after)) (.array (before ++ w' :: after))
  | variantMember {reading : Reading} {family : Family} {tag : Json} {index : Nat} {f : FieldSpec}
    {w w' : Json} (before : List (String × Json)) {after : List (String × Json)}
    (tagged : (tagKey, tag) ∈ before ++ after) (names : family.Names tag index)
    (hf : f ∈ family.fields index) (change : Change .nested f.shape w w') :
    Change reading (.variant family) (.object (before ++ (f.key, w) :: after))
      (.object (before ++ (f.key, w') :: after))
  | variantItem {reading : Reading} {family : Family} {tag : Json} {index : Nat} {f : FieldSpec}
    {w w' : Json} (before : List Json) {after : List Json} (names : family.Names tag index)
    (hf : (family.fields index)[before.length]? = some f) (change : Change .nested f.shape w w') :
    Change reading (.variant family) (.array (tag :: (before ++ w :: after)))
      (.array (tag :: (before ++ w' :: after)))

/-! ### Members -/

namespace MembersChange

variable {reading : Reading} {closed : Bool} {reserved : List String} {fields : List FieldSpec}
  {ms ms' : List (String × Json)}

/-- The fields keep their values. -/
theorem membersHold (change : MembersChange reading closed reserved fields ms ms')
    (distinct : (fields.map FieldSpec.key).Nodup) {xs : List Datum}
    (hold : MembersHold reading closed fields ms xs) :
    MembersHold reading closed fields ms' xs := by
  have others : ∀ {key}, key ∉ reserved ++ fields.map FieldSpec.key → ∀ f ∈ fields, f.key ≠ key :=
    fun other f hf same => other (List.mem_append_right _ (same ▸ List.mem_map_of_mem hf))
  cases change with
  | permute p => exact hold.perm p
  | insert _ passed other =>
    exact (hold.cons_other passed (others other)).perm List.perm_middle.symm
  | @revise key w w' before after other =>
    -- where members are refused, `hold` already excludes this one
    have passed : closed = false := by
      rw [← Bool.not_eq_true]
      intro refused
      obtain ⟨f, hf, same⟩ := hold.known refused (key, w) (by simp)
      exact others other f hf same
    have rest := (hold.perm List.perm_middle).tail_other (others other)
    exact (rest.cons_other passed (others other)).perm List.perm_middle.symm
  | drop _ hf filled value => exact (hold.perm List.perm_middle).drop distinct hf filled value

/-- Members with a reserved key stay. -/
theorem filter_reserved (change : MembersChange reading closed reserved fields ms ms')
    {key : String} (hkey : key ∈ reserved) (apart : key ∉ fields.map FieldSpec.key) :
    (ms.filter (·.1 = key)).Perm (ms'.filter (·.1 = key)) := by
  have free : ∀ {k : String}, k ∉ reserved ++ fields.map FieldSpec.key → k ≠ key :=
    fun other same => other (List.mem_append_left _ (same ▸ hkey))
  cases change with
  | permute p => exact p.filter _
  | insert _ passed other => simp [free other]
  | revise _ other => simp [free other]
  | @drop f w x before after hf =>
    have : f.key ≠ key := fun same => apart (same ▸ List.mem_map_of_mem hf)
    simp [this]

end MembersChange

/-- A variant is found by its tag alone, so whatever keeps the tag and the values of the fields
keeps the variant. -/
theorem read_variant_object_congr {reading : Reading} {family : Family} {tag : Json} {index : Nat}
    {ms ms' : List (String × Json)} (tagged : (tagKey, tag) ∈ ms) (names : family.Names tag index)
    (tags : (ms.filter (·.1 = tagKey)).Perm (ms'.filter (·.1 = tagKey)))
    (fields : ∀ xs, MembersHold .nested false (family.fields index) ms xs →
      MembersHold .nested false (family.fields index) ms' xs) {x : Datum}
    (h : read reading (.variant family) (.object ms) = .ok x) :
    read reading (.variant family) (.object ms') = .ok x := by
  obtain ⟨tag', index', xs, once, mem, decoded, hold, same⟩ := read_variant_object_iff.mp h
  obtain rfl : tag' = tag := FieldSpec.value_unique once mem tagged
  obtain rfl : index' = index := (names_of_decodeTag decoded).unique names
  have count : ∀ l : List (String × Json),
      (l.map Prod.fst).count tagKey = (l.filter (·.1 = tagKey)).length := fun l => by
    rw [List.count_eq_length_filter, List.filter_map, List.length_map]
    rfl
  have once' : (ms'.map Prod.fst).count tagKey ≤ 1 := by
    rwa [count, ← tags.length_eq, ← count]
  have mem' : (tagKey, tag') ∈ ms' := by
    have := tags.mem_iff.mp (List.mem_filter.mpr ⟨mem, by simp⟩)
    exact (List.mem_filter.mp this).1
  exact read_variant_object_iff.mpr ⟨tag', index', xs, once', mem', decoded, fields xs hold, same⟩

/-! ### Items -/

/-- An item may be exchanged for one that is read as the same. -/
theorem forall₂_replace {α β : Type} {R : α → β → Prop} {w w' : α} (keeps : ∀ y, R w y → R w' y)
    {before after : List α} {xs : List β} (h : Forall₂ R (before ++ w :: after) xs) :
    Forall₂ R (before ++ w' :: after) xs := by
  induction before generalizing xs with
  | nil =>
    cases h with
    | cons value rest => exact .cons (keeps _ value) rest
  | cons v before ih =>
    cases h with
    | cons value rest => exact .cons value (ih rest)

theorem ItemsHold.replace {reading : Reading} {f : FieldSpec} {w w' : Json}
    (keeps : ∀ x, f.read reading w = .ok x → f.read reading w' = .ok x) {fields : List FieldSpec}
    {before after : List Json} (hf : fields[before.length]? = some f) {xs : List Datum}
    (hold : ItemsHold reading fields (before ++ w :: after) xs) :
    ItemsHold reading fields (before ++ w' :: after) xs := by
  induction before generalizing fields xs with
  | nil =>
    match fields, xs, hold with
    | g :: fs, x :: xs, ⟨value, rest⟩ =>
      obtain rfl : g = f := by simpa using hf
      exact ⟨keeps x value, rest⟩
  | cons v before ih =>
    match fields, xs, hold with
    | g :: fs, x :: xs, ⟨value, rest⟩ => exact ⟨value, ih (by simpa using hf) rest⟩

/-- An array has the values that the members have. -/
theorem InOrder.itemsHold {reading : Reading} {ms : List (String × Json)} {fields : List FieldSpec}
    {items : List Json} (inOrder : InOrder reading ms fields items)
    (once : ∀ f ∈ fields, (ms.map Prod.fst).count f.key ≤ 1) {xs : List Datum}
    (values : Forall₂ (FieldSpec.Holds reading ms) fields xs) :
    ItemsHold reading fields items xs := by
  induction inOrder generalizing xs with
  | rest missing =>
    rw [ItemsHold]
    refine forall₂_imp_of_mem (fun f hf x holds => ?_) values
    rcases holds with ⟨v, mem, -⟩ | ⟨-, filled⟩
    · exact absurd (List.mem_map_of_mem mem) (missing f hf)
    · exact filled
  | @member f w fields items mem rest ih =>
    cases values with
    | cons holds values =>
      refine ⟨?_, ih (fun g hg => once g (List.mem_cons_of_mem _ hg)) values⟩
      rcases holds with ⟨v, mem', value⟩ | ⟨missing, -⟩
      · exact FieldSpec.value_unique (once f List.mem_cons_self) mem mem' ▸ value
      · exact absurd (List.mem_map_of_mem mem) missing
  | default missing filled value rest ih =>
    cases values with
    | cons holds values =>
      refine ⟨?_, ih (fun g hg => once g (List.mem_cons_of_mem _ hg)) values⟩
      rcases holds with ⟨v, mem, -⟩ | ⟨-, filled'⟩
      · exact absurd (List.mem_map_of_mem mem) missing
      · rw [value, Option.some.inj (filled.symm.trans filled')]

/-! ### Documents -/

namespace Change

variable {reading : Reading} {shape : Shape} {v v' : Json}

theorem ne_null (change : Change reading shape v v') : v ≠ .null ∧ v' ≠ .null := by
  cases change <;> simp

/-- What holds of a place of a shape holds of a field of that shape. -/
theorem read_field {f : FieldSpec} {w w' : Json} (change : Change reading f.shape w w')
    (keeps : ∀ {x}, read reading f.shape w = .ok x → read reading f.shape w' = .ok x) (x : Datum)
    (h : f.read reading w = .ok x) : f.read reading w' = .ok x := by
  rw [FieldSpec.read_of_ne_null change.ne_null.1] at h
  rw [FieldSpec.read_of_ne_null change.ne_null.2]
  exact keeps h

/-- One change leaves what is read. -/
theorem read_eq (change : Change reading shape v v') {x : Datum}
    (h : read reading shape v = .ok x) : read reading shape v' = .ok x := by
  induction change generalizing x with
  | record change =>
    obtain ⟨xs, hold, same⟩ := read_record_object_iff.mp h
    exact read_record_object_iff.mpr ⟨xs, change.membersHold (nodup_recordKeys _) hold, same⟩
  | recordInOrder inOrder =>
    obtain ⟨xs, hold, same⟩ := read_record_object_iff.mp h
    exact read_record_array_iff.mpr ⟨xs, inOrder.itemsHold hold.once hold.values, same⟩
  | @variant _ family _ index _ _ tagged names change =>
    have distinct := List.nodup_cons.mp (nodup_variantKeys family index)
    exact read_variant_object_congr tagged names
      (change.filter_reserved List.mem_cons_self distinct.1)
      (fun xs => change.membersHold distinct.2) h
  | variantInOrder tagged names inOrder =>
    obtain ⟨tag, index, xs, once, mem, decoded, hold, same⟩ := read_variant_object_iff.mp h
    -- the variant that is read is the one that the change is about
    obtain rfl := FieldSpec.value_unique once mem tagged
    obtain rfl := (names_of_decodeTag decoded).unique names
    exact read_variant_array_iff.mpr
      ⟨tag, _, index, xs, rfl, decoded, inOrder.itemsHold hold.once hold.values, same⟩
  | item _ _ ih =>
    obtain ⟨vs, xs, shape, values, same⟩ := read_list_iff.mp h
    cases shape
    exact read_list_iff.mpr ⟨_, xs, rfl, forall₂_replace (fun y => ih) values, same⟩
  | recordMember _ hf change ih =>
    obtain ⟨xs, hold, same⟩ := read_record_object_iff.mp h
    -- the member goes to the front, is exchanged there, and goes back
    have hold := (hold.perm List.perm_middle).replace (nodup_recordKeys _) hf (change.read_field ih)
    exact read_record_object_iff.mpr ⟨xs, hold.perm List.perm_middle.symm, same⟩
  | recordItem _ hf change ih =>
    obtain ⟨xs, hold, same⟩ := read_record_array_iff.mp h
    exact read_record_array_iff.mpr ⟨xs, hold.replace (change.read_field ih) hf, same⟩
  | @variantMember _ family tag index f _ _ before after tagged names hf change ih =>
    have distinct := List.nodup_cons.mp (nodup_variantKeys family index)
    have apart : f.key ≠ tagKey := fun same => distinct.1 (same ▸ List.mem_map_of_mem hf)
    refine read_variant_object_congr (List.perm_middle.mem_iff.mpr (List.mem_cons_of_mem _ tagged))
      names (by simp [apart]) (fun xs hold => ?_) h
    exact ((hold.perm List.perm_middle).replace distinct.2 hf (change.read_field ih)).perm
      List.perm_middle.symm
  | variantItem _ names hf change ih =>
    obtain ⟨tag, items, index, xs, shape, decoded, hold, same⟩ := read_variant_array_iff.mp h
    obtain ⟨rfl, rfl⟩ := List.cons.inj shape
    obtain rfl := (names_of_decodeTag decoded).unique names
    exact read_variant_array_iff.mpr
      ⟨_, _, index, xs, rfl, decoded, hold.replace (change.read_field ih) hf, same⟩

end Change

/-- Any number of changes leave what is read. -/
theorem read_of_changes {reading : Reading} {shape : Shape} {v v' : Json}
    (changes : Relation.ReflTransGen (Change reading shape) v v') {x : Datum}
    (h : read reading shape v = .ok x) : read reading shape v' = .ok x := by
  induction changes with
  | refl => exact h
  | tail _ change ih => exact change.read_eq ih

/-- A unit is read from a value in whatever way the value is laid out. -/
theorem ofValue_of_changes {v v' : Json} {u : ProgramUnit} (h : ofValue v = .ok u)
    (changes : Relation.ReflTransGen (Change .value (.record .unit)) v v') :
    ofValue v' = .ok u := by
  obtain ⟨x, decoded, rfl⟩ := map_eq_ok_iff.mp h
  exact map_eq_ok_iff.mpr ⟨x, read_of_changes changes decoded, rfl⟩

/-- A unit with one file, which holds one declaration. -/
def unitWith (decl : Json) : Json :=
  .object [("files", .array [.object [("path", .string "a.go"), ("decls", .array [decl])]])]

theorem Change.unitWith {w w' : Json} (change : Change .value (.variant .decl) w w') :
    Change .value (.record .unit) (unitWith w) (unitWith w') :=
  .recordMember [] (f := listOf "files" (.record .file)) (by simp [RecordKind.fields])
    (.item [] (.recordMember [_] (f := listOf "decls" (.variant .decl))
      (by simp [RecordKind.fields]) (.item [] change)))

/-- Members of a declaration change places, one comes in, one is left out, and the name becomes an
array. -/
theorem ofValue_of_changes_func :
    ofValue (unitWith (.object [("kind", .string "func"),
        ("name", .object [("name", .string "f")]), ("receiver", .null)])) =
      .ok ({ files := [{ path := "a.go", decls := [.func { name := { name := "f" } }] }] } :
        ProgramUnit) ∧
    ofValue (unitWith (.object [("name", .array [.string "f"]), ("doc", .bool true),
        ("kind", .string "func")])) =
      .ok ({ files := [{ path := "a.go", decls := [.func { name := { name := "f" } }] }] } :
        ProgramUnit) := by
  have names : Family.decl.Names (.string "func") 0 := ⟨_, rfl, .inl rfl⟩
  have permuted : Change .value (.variant .decl)
      (.object [("kind", .string "func"), ("name", .object [("name", .string "f")]),
        ("receiver", .null)])
      (.object [("name", .object [("name", .string "f")]), ("receiver", .null),
        ("kind", .string "func")]) :=
    .variant (.head _) names (.permute (List.perm_append_singleton _ [_, _]).symm)
  have inserted : Change .value (.variant .decl)
      (.object [("name", .object [("name", .string "f")]), ("receiver", .null),
        ("kind", .string "func")])
      (.object [("name", .object [("name", .string "f")]), ("doc", .bool true), ("receiver", .null),
        ("kind", .string "func")]) :=
    .variant (.tail _ (.tail _ (.head _))) names (.insert [_] rfl (by decide))
  have dropped : Change .value (.variant .decl)
      (.object [("name", .object [("name", .string "f")]), ("doc", .bool true), ("receiver", .null),
        ("kind", .string "func")])
      (.object [("name", .object [("name", .string "f")]), ("doc", .bool true),
        ("kind", .string "func")]) :=
    .variant (.tail _ (.tail _ (.tail _ (.head _)))) names
      (.drop [_, _] (f := optional "receiver" .text) (.tail _ (.head _)) rfl rfl)
  have ordered : Change .value (.variant .decl)
      (.object [("name", .object [("name", .string "f")]), ("doc", .bool true),
        ("kind", .string "func")])
      (.object [("name", .array [.string "f"]), ("doc", .bool true), ("kind", .string "func")]) :=
    .variantMember [] (f := required "name" (.record .identifier)) (.tail _ (.head _)) names
      (.head _) (.recordInOrder (.member (.head _) (.rest (by decide))))
  exact ⟨rfl, ofValue_of_changes rfl
    (.tail (.tail (.tail (.single permuted.unitWith) inserted.unitWith) dropped.unitWith)
      ordered.unitWith)⟩

end PaginationLint.Wire
