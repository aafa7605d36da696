import PaginationLint.Proofs.Wire.Reading
import PaginationLint.Settings.Load

/-!
Which values are settings.

Settings are meant to be given as a mapping, or as `null` where a host has none. The main statement
says exactly which values are taken, and as what: those, and lists of one or two settings without
their keys. Every other value is refused, and so are a mapping with a key that is no setting and one
with a setting of the wrong kind.
-/

namespace PaginationLint.Settings

open List (Forall₂)
open Wire

variable {reading : Reading} {v : Json} {x : Datum} {s : Settings} {ms : List (String × Json)}
  {items : List Json}

/-! ### Values that hold settings -/

/-- Names as a value. -/
def nameList (names : List String) : Json := .array (names.map .string)

/-- The members of a mapping are settings: each key is one of the two and stands once. A setting
that is given has a value of its kind, and one that is missing has its default. -/
structure InMapping (ms : List (String × Json)) (s : Settings) : Prop where
  known : ∀ key ∈ ms.map Prod.fst, key = "custom-fields" ∨ key = "include-tests"
  once : (ms.map Prod.fst).Nodup
  customFields : ("custom-fields", nameList s.customFields) ∈ ms ∨
    "custom-fields" ∉ ms.map Prod.fst ∧ s.customFields = []
  includeTests : ("include-tests", .bool s.includeTests) ∈ ms ∨
    "include-tests" ∉ ms.map Prod.fst ∧ s.includeTests = false

/-- The items of a list are settings, in order and without their keys. -/
inductive InList : List Json → Settings → Prop
  | nothing : InList [] {}
  | names (names : List String) : InList [nameList names] ⟨names, false⟩
  | both (names : List String) (tests : Bool) : InList [nameList names, .bool tests] ⟨names, tests⟩

/-- The settings that a value is meant to stand for. -/
inductive Documented : Json → Settings → Prop
  | null : Documented .null {}
  | mapping {ms : List (String × Json)} {s : Settings} (held : InMapping ms s) :
    Documented (.object ms) s

/-- The settings that a value other than `null` is read as. -/
inductive Held : Json → Settings → Prop
  | mapping {ms : List (String × Json)} {s : Settings} (held : InMapping ms s) : Held (.object ms) s
  | list {items : List Json} {s : Settings} (held : InList items s) : Held (.array items) s

/-! ### The two settings -/

theorem forall₂_read_text_iff {vs : List Json} {xs : List Datum} :
    Forall₂ (fun v x => Wire.read reading .text v = .ok x) vs xs ↔
      ∃ names : List String, vs = names.map .string ∧ names.map .text = xs := by
  constructor
  · intro h
    induction h with
    | nil => exact ⟨[], rfl, rfl⟩
    | cons first _ ih =>
      obtain ⟨name, rfl, rfl⟩ := read_text_iff.mp first
      obtain ⟨names, rfl, rfl⟩ := ih
      exact ⟨name :: names, rfl, rfl⟩
  · rintro ⟨names, rfl, rfl⟩
    rw [List.forall₂_map_left_iff, List.forall₂_map_right_iff, List.forall₂_same]
    exact fun name _ => read_text_iff.mpr ⟨name, rfl, rfl⟩

theorem read_names_iff :
    Wire.read reading (.list .text) v = .ok x ↔
      ∃ names, v = nameList names ∧ .list (names.map .text) = x := by
  rw [read_list_iff]
  constructor
  · rintro ⟨vs, xs, rfl, each, rfl⟩
    obtain ⟨names, rfl, rfl⟩ := forall₂_read_text_iff.mp each
    exact ⟨names, rfl, rfl⟩
  · rintro ⟨names, rfl, rfl⟩
    exact ⟨_, _, rfl, forall₂_read_text_iff.mpr ⟨names, rfl, rfl⟩, rfl⟩

/-- The first setting, as a field of the record. -/
def namesField : FieldSpec := listOf "custom-fields" .text

/-- The second setting, as a field of the record. -/
def testsField : FieldSpec := flag "include-tests"

theorem fields_eq : RecordKind.settings.fields = [namesField, testsField] := rfl

theorem read_namesField_iff :
    namesField.read reading v = .ok x ↔
      ∃ names, v = nameList names ∧ .list (names.map .text) = x :=
  read_names_iff

theorem read_testsField_iff :
    testsField.read reading v = .ok x ↔ ∃ b, v = .bool b ∧ .flag b = x :=
  read_flag_iff

theorem holds_namesField_iff :
    namesField.Holds reading ms x ↔
      ∃ names, (("custom-fields", nameList names) ∈ ms ∨
        "custom-fields" ∉ ms.map Prod.fst ∧ names = []) ∧ .list (names.map .text) = x := by
  constructor
  · rintro (⟨v, mem, value⟩ | ⟨missing, filled⟩)
    · obtain ⟨names, rfl, rfl⟩ := read_namesField_iff.mp value
      exact ⟨names, .inl mem, rfl⟩
    · exact ⟨[], .inr ⟨missing, rfl⟩, Option.some.inj filled⟩
  · rintro ⟨names, mem | ⟨missing, rfl⟩, rfl⟩
    · exact .inl ⟨_, mem, read_namesField_iff.mpr ⟨names, rfl, rfl⟩⟩
    · exact .inr ⟨missing, rfl⟩

theorem holds_testsField_iff :
    testsField.Holds reading ms x ↔
      ∃ b, (("include-tests", .bool b) ∈ ms ∨
        "include-tests" ∉ ms.map Prod.fst ∧ b = false) ∧ .flag b = x := by
  constructor
  · rintro (⟨v, mem, value⟩ | ⟨missing, filled⟩)
    · obtain ⟨b, rfl, rfl⟩ := read_testsField_iff.mp value
      exact ⟨b, .inl mem, rfl⟩
    · exact ⟨false, .inr ⟨missing, rfl⟩, Option.some.inj filled⟩
  · rintro ⟨b, mem | ⟨missing, rfl⟩, rfl⟩
    · exact .inl ⟨_, mem, read_testsField_iff.mpr ⟨b, rfl, rfl⟩⟩
    · exact .inr ⟨missing, rfl⟩

/-! ### Mappings and lists -/

theorem membersHold_iff {xs : List Datum} :
    MembersHold reading true [namesField, testsField] ms xs ↔
      ∃ s, InMapping ms s ∧ .record .settings xs = s.toDatum := by
  constructor
  · rintro ⟨known, once, values⟩
    obtain ⟨_, _, first, rest, rfl⟩ := List.forall₂_cons_left_iff.mp values
    obtain ⟨_, _, second, none, rfl⟩ := List.forall₂_cons_left_iff.mp rest
    obtain rfl := List.forall₂_nil_left_iff.mp none
    obtain ⟨names, given, rfl⟩ := holds_namesField_iff.mp first
    obtain ⟨b, given', rfl⟩ := holds_testsField_iff.mp second
    have known : ∀ key ∈ ms.map Prod.fst, key = "custom-fields" ∨ key = "include-tests" := by
      intro key mem
      obtain ⟨m, hm, rfl⟩ := List.mem_map.mp mem
      obtain ⟨f, hf, same⟩ := known rfl m hm
      rw [← same]
      rcases List.mem_pair.mp hf with rfl | rfl
      · exact .inl rfl
      · exact .inr rfl
    refine ⟨⟨names, b⟩, ⟨known, List.nodup_iff_count_le_one.mpr fun key => ?_, given, given'⟩, rfl⟩
    by_cases mem : key ∈ ms.map Prod.fst
    · rcases known key mem with rfl | rfl
      · exact once namesField (by simp)
      · exact once testsField (by simp)
    · rw [List.count_eq_zero_of_not_mem mem]
      exact Nat.zero_le 1
  · rintro ⟨s, ⟨known, once, names, tests⟩, same⟩
    obtain ⟨-, rfl⟩ := Datum.record.inj same
    refine ⟨fun _ m hm => ?_, fun f _ => List.nodup_iff_count_le_one.mp once f.key, ?_⟩
    · rcases known m.1 (List.mem_map_of_mem hm) with key | key
      · exact ⟨namesField, by simp, key.symm⟩
      · exact ⟨testsField, by simp, key.symm⟩
    · exact .cons (holds_namesField_iff.mpr ⟨_, names, rfl⟩)
        (.cons (holds_testsField_iff.mpr ⟨_, tests, rfl⟩) .nil)

theorem itemsHold_iff {xs : List Datum} :
    ItemsHold reading [namesField, testsField] items xs ↔
      ∃ s, InList items s ∧ .record .settings xs = s.toDatum := by
  constructor
  · intro hold
    match items, xs, hold with
    | [], xs, hold =>
      obtain rfl : [Datum.list [], .flag false] = xs := by
        simpa [ItemsHold, List.forall₂_cons_left_iff, namesField, testsField, listOf, flag,
          FieldSpec.default?, eq_comm] using hold
      exact ⟨{}, .nothing, rfl⟩
    | [v], x :: xs, ⟨value, rest⟩ =>
      obtain ⟨names, rfl, rfl⟩ := read_namesField_iff.mp value
      obtain rfl : [Datum.flag false] = xs := by
        simpa [ItemsHold, List.forall₂_cons_left_iff, testsField, flag, FieldSpec.default?,
          eq_comm] using rest
      exact ⟨_, .names names, rfl⟩
    | [v, w], x :: y :: xs, ⟨first, second, rest⟩ =>
      obtain ⟨names, rfl, rfl⟩ := read_namesField_iff.mp first
      obtain ⟨b, rfl, rfl⟩ := read_testsField_iff.mp second
      obtain rfl : xs = [] := by simpa [ItemsHold] using rest
      exact ⟨_, .both names b, rfl⟩
    | _ :: _ :: _ :: _, _ :: _ :: _, ⟨_, _, rest⟩ => simp [ItemsHold] at rest
  · rintro ⟨s, held, same⟩
    obtain ⟨-, rfl⟩ := Datum.record.inj same
    cases held with
    | nothing => exact .cons rfl (.cons rfl .nil)
    | names names => exact ⟨read_namesField_iff.mpr ⟨names, rfl, rfl⟩, .cons rfl .nil⟩
    | both names b =>
      exact ⟨read_namesField_iff.mpr ⟨names, rfl, rfl⟩, read_testsField_iff.mpr ⟨b, rfl, rfl⟩, .nil⟩

/-- What a value is read as, whether at hand or in a text. -/
theorem read_settings_iff :
    Wire.read reading (.record .settings) v = .ok x ↔ ∃ s, Held v s ∧ s.toDatum = x := by
  cases v with
  | object ms =>
    rw [read_record_object_iff, fields_eq, RecordKind.isClosed]
    simp only [membersHold_iff]
    constructor
    · rintro ⟨xs, ⟨s, held, same⟩, rfl⟩
      exact ⟨s, .mapping held, same.symm⟩
    · rintro ⟨s, ⟨held⟩, rfl⟩
      exact ⟨_, ⟨s, held, rfl⟩, rfl⟩
  | array items =>
    rw [read_record_array_iff, fields_eq]
    simp only [itemsHold_iff]
    constructor
    · rintro ⟨xs, ⟨s, held, same⟩, rfl⟩
      exact ⟨s, .list held, same.symm⟩
    · rintro ⟨s, _ | ⟨held⟩, rfl⟩
      exact ⟨_, ⟨s, held, rfl⟩, rfl⟩
  | _ =>
    simp only [Wire.read, Draft.ofJson, Wire.decode]
    constructor
    · rintro ⟨⟩
    · rintro ⟨s, ⟨⟩, -⟩

theorem ofDatum_toDatum (s : Settings) : ofDatum s.toDatum = s := by
  simp [toDatum, ofDatum, Datum.toItems, Datum.toText, Datum.toFlag, Function.comp_def]

/-! ### Values at hand -/

theorem ofValue_eq_ok_iff : (ofValue v : Except DecodeError Settings) = .ok s ↔ Held v s := by
  rw [ofValue, map_eq_ok_iff]
  constructor
  · rintro ⟨x, decoded, rfl⟩
    obtain ⟨s, held, rfl⟩ := read_settings_iff.mp decoded
    have back : Codec.ofDatum s.toDatum = s := s.ofDatum_toDatum
    rwa [back]
  · intro held
    exact ⟨s.toDatum, read_settings_iff.mpr ⟨s, held, rfl⟩, s.ofDatum_toDatum⟩

theorem mapError_eq_ok_iff {r : Except DecodeError Settings} :
    r.mapError ConfigError.decode = .ok s ↔ r = .ok s := by
  cases r <;> simp [Except.mapError]

theorem decode_of_ne_null (h : v ≠ .null) : decode v = (ofValue v).mapError .decode := by
  cases v with
  | null => exact absurd rfl h
  | _ => rfl

/-- Every value but `null` is taken as what it is read as. -/
theorem decode_eq_ok_iff (h : v ≠ .null) : decode v = .ok s ↔ Held v s := by
  rw [decode_of_ne_null h, mapError_eq_ok_iff, ofValue_eq_ok_iff]

/-- A value that is refused is refused as not decodable. -/
theorem exists_eq_decode_of_error {e : ConfigError} (h : decode v = .error e) :
    ∃ d, e = .decode d := by
  have other : v ≠ .null := by
    rintro rfl
    cases h
  rw [decode_of_ne_null other] at h
  cases decoded : (ofValue v : Except DecodeError Settings) with
  | ok s =>
    rw [decoded] at h
    cases h
  | error d =>
    rw [decoded] at h
    exact ⟨d, (Except.error.inj h).symm⟩

/-- A value is taken as the settings that it is meant to stand for, or as those in a list, and
refused as not decodable if there are none. -/
theorem decode_exact (v : Json) :
    (∀ s, decode v = .ok s ↔ Documented v s ∨ ∃ items, v = .array items ∧ InList items s) ∧
      ((∃ s, Documented v s ∨ ∃ items, v = .array items ∧ InList items s) ∨
        ∃ d, decode v = .error (.decode d)) := by
  have exact : ∀ s, decode v = .ok s ↔
      Documented v s ∨ ∃ items, v = .array items ∧ InList items s := by
    intro s
    by_cases null : v = .null
    · subst null
      constructor
      · rintro ⟨⟩
        exact .inl .null
      · rintro (documented | ⟨items, ⟨⟩, -⟩)
        cases documented
        rfl
    · rw [decode_eq_ok_iff null]
      constructor
      · rintro (held | held)
        · exact .inl (.mapping held)
        · exact .inr ⟨_, rfl, held⟩
      · rintro ((_ | held) | ⟨items, rfl, held⟩)
        · exact absurd rfl null
        · exact .mapping held
        · exact .list held
  refine ⟨exact, ?_⟩
  cases decoded : decode v with
  | ok s => exact .inl ⟨s, (exact s).mp decoded⟩
  | error e =>
    obtain ⟨d, rfl⟩ := exists_eq_decode_of_error decoded
    exact .inr ⟨d, rfl⟩

/-- A list is no mapping, but its items are taken for settings. -/
theorem decode_undocumented_list :
    (∀ s, ¬ Documented (.array [.array [.string "MyToken"], .bool true]) s) ∧
      decode (.array [.array [.string "MyToken"], .bool true]) = .ok ⟨["MyToken"], true⟩ := by
  refine ⟨fun s documented => ?_, ?_⟩
  · cases documented
  · exact (decode_eq_ok_iff (by simp)).mpr (.list (.both ["MyToken"] true))

end PaginationLint.Settings
