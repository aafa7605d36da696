import Mathlib.Data.List.Basic
import PaginationLint.Settings.Config

/-!
Names of token fields from flags.

However the names are gathered from the values of flags, whether they are added to what is there or
read one by one and collected, they are those of the values joined with commas, empty values left
out, and rendering them gives the joined value back. This rests on what the names of a value always
are: free of commas, and not a single empty name. Such names are the same as flags and as settings.
-/

namespace PaginationLint.CustomFields

variable {value : String} {values names : List String} {fields : CustomFields}

/-- The values joined with commas, without the empty ones. -/
def joined (values : List String) : String := ",".intercalate (values.filter (· != ""))

/-- The names may be given as flags: none has a comma in it, and they are not one empty name. -/
structure Plain (names : List String) : Prop where
  no_comma : ∀ name ∈ names, ',' ∉ name.toList
  ne_blank : names ≠ [""]

/-- The fields have been gathered from the values of flags, in whatever way. -/
inductive Gathered : List String → CustomFields → Prop
  | none : Gathered [] {}
  | extend {values : List String} {fields : CustomFields} (before : Gathered values fields)
    (value : String) : Gathered (values ++ [value]) (fields.extend value)
  | parse (value : String) : Gathered [value] (.parse value)
  | collect {parts : List (List String × CustomFields)}
    (each : ∀ part ∈ parts, Gathered part.1 part.2) :
    Gathered (parts.flatMap Prod.fst) (.collect (parts.map Prod.snd))

/-! ### The names of one value -/

theorem splitCommas_eq_splitOn : ∀ cs : List Char, splitCommas cs = cs.splitOn ','
  | [] => rfl
  | c :: cs => by
    rw [splitCommas, splitCommas_eq_splitOn cs, List.splitOn_eq_splitOnP, List.splitOn_eq_splitOnP,
      List.splitOnP_cons_eq_if_modifyHead]
    by_cases comma : c = ','
    · simp [comma]
    · cases h : cs.splitOnP (· == ',') with
      | nil => exact absurd h (List.splitOnP_ne_nil _ _)
      | cons part parts => simp [comma]

theorem comma_notMem_of_mem_splitCommas {cs part : List Char} (h : part ∈ splitCommas cs) :
    ',' ∉ part := by
  induction cs generalizing part with
  | nil => simp [List.mem_singleton.mp h]
  | cons c cs ih =>
    rw [splitCommas] at h
    split at h
    · rcases List.mem_cons.mp h with rfl | h
      · exact List.not_mem_nil
      · exact ih h
    next other =>
      split at h
      next first parts split =>
        rw [split] at ih
        rcases List.mem_cons.mp h with rfl | h
        · rw [List.mem_cons, not_or]
          exact ⟨Ne.symm other, ih List.mem_cons_self⟩
        · exact ih (List.mem_cons_of_mem _ h)
      · simpa [List.mem_singleton.mp h] using Ne.symm other

theorem namesOf_empty : namesOf "" = [] := rfl

theorem namesOf_of_ne_empty (h : value ≠ "") :
    namesOf value = (value.toList.splitOn ',').map String.ofList := by
  rw [namesOf, if_neg h, splitCommas_eq_splitOn]

theorem namesOf_ne_nil (h : value ≠ "") : namesOf value ≠ [] := by
  rw [namesOf_of_ne_empty h]
  simp

/-- The names of a value, joined with commas, are the value. -/
theorem intercalate_namesOf (value : String) : ",".intercalate (namesOf value) = value := by
  by_cases h : value = ""
  · rw [h, namesOf_empty, String.intercalate_nil]
  · rw [namesOf_of_ne_empty h, ← String.toList_inj, String.toList_intercalate, List.map_map]
    simp only [Function.comp_def, String.toList_ofList, List.map_id']
    exact List.intercalate_splitOn ','

theorem plain_namesOf (value : String) : Plain (namesOf value) := by
  refine ⟨fun name hname => ?_, fun blank => ?_⟩
  · by_cases h : value = ""
    · rw [h, namesOf_empty] at hname
      cases hname
    · rw [namesOf, if_neg h] at hname
      obtain ⟨part, hpart, rfl⟩ := List.mem_map.mp hname
      rw [String.toList_ofList]
      exact comma_notMem_of_mem_splitCommas hpart
  · have empty := intercalate_namesOf value
    rw [blank, String.intercalate_singleton] at empty
    rw [← empty] at blank
    cases blank

/-- Names that may be given as flags are those of the value that they make. -/
theorem namesOf_intercalate (plain : Plain names) : namesOf (",".intercalate names) = names := by
  cases names with
  | nil => rfl
  | cons name rest =>
    have parts : (",".intercalate (name :: rest)).toList.splitOn ',' =
        (name :: rest).map String.toList := by
      rw [String.toList_intercalate]
      refine List.splitOn_intercalate ',' (fun part hpart => ?_) (List.cons_ne_nil _ _)
      obtain ⟨name, hname, rfl⟩ := List.mem_map.mp hpart
      exact plain.no_comma name hname
    have nonempty : ",".intercalate (name :: rest) ≠ "" := by
      intro empty
      -- an empty text has one part, the empty one
      rw [empty] at parts
      cases rest with
      | nil =>
        rw [String.intercalate_singleton] at empty
        exact plain.ne_blank (by rw [empty])
      | cons => simp at parts
    rw [namesOf_of_ne_empty nonempty, parts, List.map_map]
    simp [Function.comp_def]

/-! ### The names of several values -/

theorem flatMap_namesOf_filter (values : List String) :
    (values.filter (· != "")).flatMap namesOf = values.flatMap namesOf := by
  induction values with
  | nil => rfl
  | cons value values ih =>
    by_cases h : value = ""
    · simp [h, namesOf_empty, ih]
    · simp [h, ih]

/-- Values that are not empty may be joined before or after they are taken apart. -/
theorem intercalate_flatMap_namesOf (full : ∀ value ∈ values, value ≠ "") :
    ",".intercalate (values.flatMap namesOf) = ",".intercalate values := by
  induction values with
  | nil => rfl
  | cons value rest ih =>
    have later := ih fun v hv => full v (List.mem_cons_of_mem _ hv)
    have first := namesOf_ne_nil (full value List.mem_cons_self)
    cases rest with
    | nil => simp [intercalate_namesOf]
    | cons next rest =>
      have others : (next :: rest).flatMap namesOf ≠ [] := by
        simp [namesOf_ne_nil (full next (by simp))]
      rw [List.flatMap_cons, String.intercalate_append_of_ne_nil first others, intercalate_namesOf,
        later, String.intercalate_cons_cons]

theorem intercalate_flatMap_eq_joined (values : List String) :
    ",".intercalate (values.flatMap namesOf) = joined values := by
  rw [← flatMap_namesOf_filter, joined]
  refine intercalate_flatMap_namesOf fun value hvalue => ?_
  simpa using (List.mem_filter.mp hvalue).2

theorem plain_flatMap_namesOf (values : List String) : Plain (values.flatMap namesOf) := by
  refine ⟨fun name hname => ?_, fun blank => ?_⟩
  · obtain ⟨value, -, hname⟩ := List.mem_flatMap.mp hname
    exact (plain_namesOf value).no_comma name hname
  · -- one empty name would have to be all that some value gives
    induction values with
    | nil => cases blank
    | cons value values ih =>
      rw [List.flatMap_cons, List.append_eq_singleton_iff] at blank
      rcases blank with ⟨-, rest⟩ | ⟨first, -⟩
      · exact ih rest
      · exact (plain_namesOf value).ne_blank first

/-- The names of all values are those of the joined value. -/
theorem namesOf_joined (values : List String) : namesOf (joined values) = values.flatMap namesOf := by
  rw [← intercalate_flatMap_eq_joined]
  exact namesOf_intercalate (plain_flatMap_namesOf values)

/-! ### Gathering names -/

theorem parse_eq (value : String) : parse value = ⟨namesOf value⟩ := rfl

/-- However they are gathered, the names are those of the values, in their order. -/
theorem Gathered.names_eq (gathered : Gathered values fields) :
    fields.names = values.flatMap namesOf := by
  induction gathered with
  | none => rfl
  | extend before value ih => simp [CustomFields.extend, ih]
  | parse value => simp [parse_eq]
  | collect each ih =>
    rw [CustomFields.collect, List.flatMap_map, List.flatMap_assoc]
    exact List.flatMap_congr ih

theorem Gathered.plain (gathered : Gathered values fields) : Plain fields.names := by
  rw [gathered.names_eq]
  exact plain_flatMap_namesOf values

theorem render_parse (value : String) : (parse value).render = value := intercalate_namesOf value

theorem parse_render (plain : Plain fields.names) : parse fields.render = fields := by
  rw [parse_eq, render, namesOf_intercalate plain]

/-- Flags add up to one flag, their values joined with commas: that flag gives the same fields, and
the fields are rendered as that flag, whatever way they were gathered. What can be gathered are
exactly the names without a comma that are not one empty name, and such names make the same
configuration as a flag and as settings. -/
theorem flags_add_up :
    (∀ values fields, Gathered values fields →
      fields = parse (joined values) ∧ fields.render = joined values ∧
        parse fields.render = fields) ∧
    (∀ fields, (∃ values, Gathered values fields) ↔ Plain fields.names) ∧
    ∀ names, Plain names → ∀ includeTests,
      Config.ofFlags (parse (",".intercalate names)) includeTests =
        Config.ofSettings { customFields := names, includeTests := includeTests } := by
  refine ⟨fun values fields gathered => ?_, fun fields => ⟨?_, ?_⟩, ?_⟩
  · have same : fields = parse (joined values) := by
      rw [parse_eq, namesOf_joined, ← gathered.names_eq]
    exact ⟨same, by rw [same, render_parse], parse_render gathered.plain⟩
  · rintro ⟨values, gathered⟩
    exact gathered.plain
  · intro plain
    have gathered := Gathered.parse fields.render
    rw [parse_render plain] at gathered
    exact ⟨_, gathered⟩
  · intro names plain includeTests
    rw [Config.ofFlags, Config.ofSettings, parse_eq, namesOf_intercalate plain]

/-- An empty flag between two others, one of them with empty names, and names from both sources. -/
theorem flags_add_up_mixed :
    (collect [parse "MyToken,,Cursor", (parse "").extend ","]).render = "MyToken,,Cursor,," ∧
      Config.ofFlags (parse "MyToken,,Cursor") true =
        Config.ofSettings { customFields := ["MyToken", "", "Cursor"], includeTests := true } := by
  have each : ∀ part ∈ [(["MyToken,,Cursor"], parse "MyToken,,Cursor"),
      (["", ","], (parse "").extend ",")], Gathered part.1 part.2 := by
    intro part hpart
    rcases List.mem_pair.mp hpart with rfl | rfl
    · exact .parse _
    · exact .extend (.parse _) _
  refine ⟨(flags_add_up.1 _ _ (.collect each)).2.1.trans (by decide), ?_⟩
  exact flags_add_up.2.2 ["MyToken", "", "Cursor"] ⟨by decide, by decide⟩ true

end PaginationLint.CustomFields
