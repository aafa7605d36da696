import PaginationLint.Proofs.Wire.Fields

/-!
What a value is read as.

For each shape but numbers there is one statement that says which values are read, and as what.
With these, `decode` need not be looked at again.
-/

namespace PaginationLint.Wire

open List (Forall₂)

variable {reading : Reading} {family : Family} {kind : RecordKind} {x : Datum} {tag : Json}
  {index : Nat} {ms : List (String × Json)} {vs : List Json}

/-! ### Tags -/

/-- A tag names a variant by its name or by its index. -/
def Family.Names (family : Family) (tag : Json) (index : Nat) : Prop :=
  ∃ v, family.variants[index]? = some v ∧ (tag = .string v.tag ∨ tag = .number (.int index))

theorem Family.Names.unique {i j : Nat} (hi : family.Names tag i) (hj : family.Names tag j) :
    i = j := by
  obtain ⟨v, hv, tagged⟩ := hi
  obtain ⟨w, hw, tagged'⟩ := hj
  rcases tagged with rfl | rfl
  · have same : v.tag = w.tag := by simpa using tagged'
    have left : (family.variants.map Variant.tag)[i]? = some v.tag := by simp [hv]
    have right : (family.variants.map Variant.tag)[j]? = some v.tag := by simp [hw, same]
    have inside := (List.getElem?_eq_some_iff.mp left).1
    exact (List.getElem?_inj inside (nodup_tags family)).mp (left.trans right.symm)
  · exact Int.ofNat_inj.mp (by simpa using tagged')

theorem names_of_decodeTag (h : decodeTag reading family (Draft.ofJson tag) = .ok index) :
    family.Names tag index := by
  cases tag with
  | string name =>
    rw [Draft.ofJson, decodeTag] at h
    split at h
    next i found =>
      obtain rfl : i = index := by simpa using h
      obtain ⟨inside, same, -⟩ := List.findIdx?_eq_some_iff_getElem.mp found
      exact ⟨_, List.getElem?_eq_getElem inside, .inl (congrArg _ (beq_iff_eq.mp same).symm)⟩
    · cases h
  | number n =>
    cases n with
    | real x => simp [Draft.ofJson, decodeTag] at h
    | int n =>
      cases reading with
      | nested =>
        rw [Draft.ofJson, decodeTag] at h
        split at h
        · cases h
        next nonneg =>
          split at h
          next inside =>
            obtain rfl : n.toNat = index := by simpa using h
            refine ⟨_, List.getElem?_eq_getElem inside, .inr ?_⟩
            rw [Int.toNat_of_nonneg (by omega)]
          · cases h
      | value => simp [Draft.ofJson, decodeTag] at h
      | text => simp [Draft.ofJson, decodeTag] at h
  | _ => simp [Draft.ofJson, decodeTag] at h

theorem decodeTag_name {v : Variant} (h : family.variants[index]? = some v) :
    decodeTag reading family (.string v.tag) = .ok index := by
  obtain ⟨i, hi⟩ : ∃ i, family.variants.findIdx? (fun w => w.tag == v.tag) = some i := by
    rw [← Option.isSome_iff_exists, List.findIdx?_isSome]
    exact List.any_eq_true.mpr ⟨v, List.mem_of_getElem? h, beq_self_eq_true _⟩
  have decoded : decodeTag reading family (.string v.tag) = .ok i := by simp [decodeTag, hi]
  have named : family.Names (.string v.tag) i := names_of_decodeTag decoded
  rw [decoded, named.unique ⟨v, h, .inl rfl⟩]

/-- Once the tag is found, no other member may be a tag. -/
theorem findTag_some_eq_ok_iff {result : Option Nat} :
    findTag reading family (some index) (Draft.ofJsonMembers ms) = .ok result ↔
      tagKey ∉ ms.map Prod.fst ∧ result = some index := by
  induction ms with
  | nil => simp [Draft.ofJsonMembers, findTag, eq_comm]
  | cons m ms ih =>
    obtain ⟨key, v⟩ := m
    rw [Draft.ofJsonMembers, findTag]
    by_cases same : key = tagKey
    · simp [same]
    · simp [same, Ne.symm same, Draft.readingFault_ofJson, check, bind_eq_ok_iff, ih]

/-- The tag of an object is its one member with the key of tags. -/
theorem findTag_eq_ok_iff :
    findTag reading family none (Draft.ofJsonMembers ms) = .ok (some index) ↔
      (ms.map Prod.fst).count tagKey ≤ 1 ∧
        ∃ tag, (tagKey, tag) ∈ ms ∧ decodeTag reading family (Draft.ofJson tag) = .ok index := by
  induction ms with
  | nil => simp [Draft.ofJsonMembers, findTag]
  | cons m ms ih =>
    obtain ⟨key, v⟩ := m
    rw [Draft.ofJsonMembers, findTag]
    by_cases same : key = tagKey
    · subst same
      have alone : (((tagKey, v) :: ms).map Prod.fst).count tagKey ≤ 1 ↔
          tagKey ∉ ms.map Prod.fst := by
        simp [List.count_eq_zero]
      simp only [if_true, Option.isSome_none, Bool.false_eq_true, if_false, bind_eq_ok_iff,
        findTag_some_eq_ok_iff, Option.some.injEq, alone]
      constructor
      · rintro ⟨i, decoded, alone, rfl⟩
        exact ⟨alone, v, List.mem_cons_self, decoded⟩
      · rintro ⟨alone, tag, mem, decoded⟩
        rcases List.mem_cons.mp mem with here | mem
        · cases here
          exact ⟨index, decoded, alone, rfl⟩
        · exact absurd (List.mem_map_of_mem mem) alone
    · simp [same, Ne.symm same, Draft.readingFault_ofJson, check, bind_eq_ok_iff, ih]

attribute [local simp] decode

/-! ### Shapes without parts -/

theorem read_text_iff {v : Json} :
    read reading .text v = .ok x ↔ ∃ s, v = .string s ∧ .text s = x := by
  cases v <;> simp [read, Draft.ofJson]

theorem read_flag_iff {v : Json} :
    read reading .flag v = .ok x ↔ ∃ b, v = .bool b ∧ .flag b = x := by
  cases v <;> simp [read, Draft.ofJson]

/-! ### Shapes with parts -/

theorem decodeItems_eq_ok_iff {item : Shape} {xs : List Datum} :
    decodeItems reading item (Draft.ofJsonItems vs) = .ok xs ↔
      Forall₂ (fun w y => read reading item w = .ok y) vs xs := by
  induction vs generalizing xs with
  | nil => simp [Draft.ofJsonItems, decodeItems, eq_comm]
  | cons v vs ih =>
    rw [Draft.ofJsonItems, decodeItems]
    cases xs with
    | nil => simp [bind_eq_ok_iff, pure, Except.pure]
    | cons y ys => simp [bind_eq_ok_iff, ih, read, pure, Except.pure]

theorem read_list_iff {item : Shape} {v : Json} :
    read reading (.list item) v = .ok x ↔
      ∃ vs xs, v = .array vs ∧ Forall₂ (fun w y => read reading item w = .ok y) vs xs ∧
        .list xs = x := by
  cases v with
  | array vs =>
    simp [read, Draft.ofJson, check, bind_eq_ok_iff, decodeItems_eq_ok_iff, pure, Except.pure]
  | _ => simp [read, Draft.ofJson]

theorem read_record_object_iff :
    read reading (.record kind) (.object ms) = .ok x ↔
      ∃ xs, MembersHold reading kind.isClosed kind.fields ms xs ∧ .record kind xs = x := by
  simp only [← gather_decodeMembers_eq_ok_iff (nodup_recordKeys kind), read, Draft.ofJson, decode,
    check, bind_eq_ok_iff, pure, Except.pure, Except.ok.injEq]
  constructor
  · rintro ⟨found, collect, -, -, xs, gathered, same⟩
    exact ⟨xs, ⟨found, collect, gathered⟩, same⟩
  · rintro ⟨xs, ⟨found, collect, gathered⟩, same⟩
    exact ⟨found, collect, ⟨⟩, trivial, xs, gathered, same⟩

theorem read_record_array_iff :
    read reading (.record kind) (.array vs) = .ok x ↔
      ∃ xs, ItemsHold reading kind.fields vs xs ∧ .record kind xs = x := by
  simp only [read, Draft.ofJson, decode, bind_eq_ok_iff, decodeFields_eq_ok_iff, pure, Except.pure,
    Except.ok.injEq]

theorem read_variant_object_iff :
    read reading (.variant family) (.object ms) = .ok x ↔
      ∃ tag index xs, (ms.map Prod.fst).count tagKey ≤ 1 ∧ (tagKey, tag) ∈ ms ∧
        decodeTag reading family (Draft.ofJson tag) = .ok index ∧
          MembersHold .nested false (family.fields index) ms xs ∧
            .variant family index xs = x := by
  have distinct : ∀ index, ((family.fields index).map FieldSpec.key).Nodup := fun index =>
    (nodup_variantKeys family index).of_cons
  simp only [read, Draft.ofJson, decode, check, bind_eq_ok_iff]
  constructor
  · rintro ⟨_ | index, tagged, -, -, h⟩
    · cases h
    obtain ⟨once, tag, mem, decoded⟩ := findTag_eq_ok_iff.mp tagged
    simp only [bind_eq_ok_iff, pure, Except.pure, Except.ok.injEq] at h
    obtain ⟨found, collect, xs, gathered, same⟩ := h
    have hold := (gather_decodeMembers_eq_ok_iff (distinct index)).mp ⟨found, collect, gathered⟩
    exact ⟨tag, index, xs, once, mem, decoded, hold, same⟩
  · rintro ⟨tag, index, xs, once, mem, decoded, hold, rfl⟩
    obtain ⟨found, collect, gathered⟩ := (gather_decodeMembers_eq_ok_iff (distinct index)).mpr hold
    refine ⟨some index, findTag_eq_ok_iff.mpr ⟨once, tag, mem, decoded⟩, ⟨⟩, trivial, ?_⟩
    simp only [bind_eq_ok_iff]
    exact ⟨found, collect, xs, gathered, rfl⟩

theorem read_variant_array_iff :
    read reading (.variant family) (.array vs) = .ok x ↔
      ∃ tag items index xs, vs = tag :: items ∧
        decodeTag reading family (Draft.ofJson tag) = .ok index ∧
          ItemsHold .nested (family.fields index) items xs ∧
            .variant family index xs = x := by
  cases vs with
  | nil => simp [read, Draft.ofJson, Draft.ofJsonItems, check, bind_eq_ok_iff]
  | cons tag items =>
    simp only [read, Draft.ofJson, Draft.ofJsonItems, decode, check, bind_eq_ok_iff, pure,
      Except.pure, decodeFields_eq_ok_iff, Draft.readingFaultItems_ofJson, Except.ok.injEq]
    constructor
    · rintro ⟨index, decoded, -, -, -, -, xs, hold, same⟩
      exact ⟨tag, items, index, xs, rfl, decoded, hold, same⟩
    · rintro ⟨_, _, index, xs, ⟨⟩, decoded, hold, same⟩
      exact ⟨index, decoded, ⟨⟩, trivial, ⟨⟩, trivial, xs, hold, same⟩

end PaginationLint.Wire
