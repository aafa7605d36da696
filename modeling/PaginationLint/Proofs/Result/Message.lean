import Mathlib.Data.List.Basic
import PaginationLint.Lint.Diagnostic
import PaginationLint.Proofs.Source.Headline
import PaginationLint.Result.Message

/-!
The two lines of a finding.

A message is built as a notice, which becomes the headline, and a remedy, which becomes the advice.
The notice knows of the token fields only, and its words give them back, however many there are.
-/

namespace PaginationLint

namespace Message

variable {fields : List String} {holder : Option String} {site : CallSite}

/-- The line that names the token fields. -/
def notice (fields : List String) : String := problem ++ fieldsPhrase fields

/-- The line that says what to do. -/
def remedy (fields : List String) (holder : Option String) (site : CallSite) : String :=
  impact ++ " Use " ++ paginatorPhrase site ++ " or loop with " ++ holderPhrase holder ++
    tokenPhrase fields

/-- The names in a message have no newline. -/
structure Unbroken (fields : List String) (holder : Option String) (site : CallSite) : Prop where
  fields : ∀ name ∈ fields, '\n' ∉ name.toList
  holder : ∀ name ∈ holder, '\n' ∉ name.toList
  method : ∀ name ∈ site.method, '\n' ∉ name.toList

theorem build_eq (fields : List String) (holder : Option String) (site : CallSite) :
    build fields holder site = notice fields ++ "\n" ++ remedy fields holder site := by
  simp only [build, notice, remedy, String.append_assoc]

/-! ### Lines -/

theorem newline_notMem_series (unbroken : ∀ name ∈ fields, '\n' ∉ name.toList) :
    '\n' ∉ (series fields).toList := by
  fun_induction series fields with
  | case1 => simp
  | case2 name => simpa using unbroken
  | case3 name names more ih =>
    rw [List.forall_mem_cons] at unbroken
    simpa [unbroken.1] using ih unbroken.2

theorem newline_notMem_notice (unbroken : ∀ name ∈ fields, '\n' ∉ name.toList) :
    '\n' ∉ (notice fields).toList := by
  have names := newline_notMem_series unbroken
  rw [notice, String.toList_append, List.mem_append, not_or]
  refine ⟨by decide, ?_⟩
  unfold fieldsPhrase
  split
  · simp
  · simpa using unbroken
  · simpa using names

theorem newline_notMem_remedy (unbroken : Unbroken fields holder site) :
    '\n' ∉ (remedy fields holder site).toList := by
  have paginator : '\n' ∉ (paginatorPhrase site).toList := by
    unfold paginatorPhrase
    split
    · next method _ known _ => simpa using unbroken.method method known
    · decide
  have result : '\n' ∉ (holderPhrase holder).toList := by
    unfold holderPhrase
    split
    · next name => simpa using unbroken.holder name rfl
    · decide
  have token : '\n' ∉ (tokenPhrase fields).toList := by
    unfold tokenPhrase
    split
    · decide
    · next name => simpa using unbroken.fields name List.mem_cons_self
    · next name _ _ => simpa using unbroken.fields name List.mem_cons_self
  simp only [remedy, String.toList_append, List.mem_append, not_or]
  exact ⟨⟨⟨⟨⟨by decide, by decide⟩, paginator⟩, by decide⟩, result⟩, token⟩

theorem notice_bare (fields : List String) : (notice fields).toList.getLast? ≠ some '\r' := by
  rw [notice, String.toList_append, List.getLast?_append]
  unfold fieldsPhrase
  split
  · decide
  · rw [String.toList_append, List.getLast?_append]
    simp
  · rw [String.toList_append, List.getLast?_append]
    simp

theorem headline_build (unbroken : ∀ name ∈ fields, '\n' ∉ name.toList) (holder : Option String)
    (site : CallSite) : headline (build fields holder site) = notice fields := by
  rw [build_eq, headline_append (newline_notMem_notice unbroken),
    dropReturn_of_bare (notice_bare fields), String.ofList_toList]

theorem advice_build (unbroken : ∀ name ∈ fields, '\n' ∉ name.toList) (holder : Option String)
    (site : CallSite) :
    advice (build fields holder site) = some (remedy fields holder site) := by
  rw [build_eq, advice_append (newline_notMem_notice unbroken)]

/-! ### Words -/

/-- The words of a text. -/
def words (text : String) : List String := (text.toList.splitOn ' ').map String.ofList

def problemWords : List String :=
  ["missing", "pagination", "handling", "for", "AWS", "SDK", "List", "API", "call"]

/-- Names in a row, word by word. -/
def seriesWords : List String → List String
  | [] => []
  | [name] => ["and", name]
  | name :: name' :: rest => (name ++ ",") :: seriesWords (name' :: rest)

/-- The line that names the token fields, word by word. -/
def noticeWords : List String → List String
  | [] => problemWords
  | [name] => problemWords ++ ["(result", "has", name, "field)"]
  | name :: name' :: rest =>
    problemWords ++ (["(result", "has"] ++ (seriesWords (name :: name' :: rest) ++ ["fields)"]))

/-- The names among some words: a single word, or names in a row. -/
def listed : List String → List String
  | [] => []
  | [name] => [name]
  | [_, name] => [name]
  | word :: next :: later :: rest =>
    String.ofList word.toList.dropLast :: listed (next :: later :: rest)

/-- The token fields that a headline names, between the words that it has in any case. -/
def fieldsIn (headline : String) : List String := listed ((words headline).drop 11).dropLast

/-- A text made of words without spaces has these words. -/
theorem words_intercalate {parts : List String} (spaceless : ∀ part ∈ parts, ' ' ∉ part.toList)
    (nonempty : parts ≠ []) : words (" ".intercalate parts) = parts := by
  have split : (" ".intercalate parts).toList.splitOn ' ' = parts.map String.toList := by
    rw [String.toList_intercalate]
    refine List.splitOn_intercalate ' ' (fun chars mem => ?_) (by simpa using nonempty)
    obtain ⟨part, hpart, rfl⟩ := List.mem_map.mp mem
    exact spaceless part hpart
  rw [words, split, List.map_map]
  simp [Function.comp_def]

theorem problem_eq : problem = " ".intercalate problemWords := by decide

/-- A row has at least two words. -/
theorem exists_seriesWords (name : String) (rest : List String) :
    ∃ word next later, seriesWords (name :: rest) = word :: next :: later := by
  induction rest generalizing name with
  | nil => exact ⟨"and", name, [], rfl⟩
  | cons name' rest ih =>
    obtain ⟨word, next, later, row⟩ := ih name'
    exact ⟨name ++ ",", word, next :: later, by rw [seriesWords, row]⟩

theorem series_eq : ∀ fields : List String, series fields = " ".intercalate (seriesWords fields)
  | [] => rfl
  | [name] => rfl
  | name :: name' :: rest => by
    have first : series (name :: name' :: rest) = name ++ ", " ++ series (name' :: rest) := rfl
    obtain ⟨word, next, later, row⟩ := exists_seriesWords name' rest
    rw [first, series_eq (name' :: rest), seriesWords, row, String.intercalate_cons_cons,
      ← String.toList_inj]
    simp

theorem notice_eq : ∀ fields : List String, notice fields = " ".intercalate (noticeWords fields)
  | [] => by rw [notice, fieldsPhrase, noticeWords, ← problem_eq, String.append_empty]
  | [name] => by
    rw [notice, fieldsPhrase, noticeWords,
      String.intercalate_append_of_ne_nil (by decide) (by simp), ← problem_eq, ← String.toList_inj]
    simp [String.intercalate_cons_cons]
  | name :: name' :: rest => by
    have phrase : fieldsPhrase (name :: name' :: rest) =
        " (result has " ++ series (name :: name' :: rest) ++ " fields)" := rfl
    rw [notice, phrase, noticeWords,
      String.intercalate_append_of_ne_nil (by decide) (by simp), ← problem_eq,
      String.intercalate_append_of_ne_nil (by simp) (by simp),
      String.intercalate_append_of_ne_nil (by simp [seriesWords]) (by simp), ← series_eq,
      ← String.toList_inj]
    simp [String.intercalate_cons_cons]

theorem space_notMem_of_mem_seriesWords (spaceless : ∀ name ∈ fields, ' ' ∉ name.toList) :
    ∀ word ∈ seriesWords fields, ' ' ∉ word.toList := by
  fun_induction seriesWords fields with
  | case1 => simp
  | case2 name => simpa using spaceless
  | case3 name name' rest ih =>
    rw [List.forall_mem_cons] at spaceless ⊢
    exact ⟨by simpa using spaceless.1, ih spaceless.2⟩

theorem space_notMem_of_mem_noticeWords (spaceless : ∀ name ∈ fields, ' ' ∉ name.toList) :
    ∀ word ∈ noticeWords fields, ' ' ∉ word.toList := by
  have problem : ∀ word ∈ problemWords, ' ' ∉ word.toList := by decide
  have row := space_notMem_of_mem_seriesWords spaceless
  unfold noticeWords
  split
  · exact problem
  · next name =>
    have only := spaceless name List.mem_cons_self
    simpa [or_imp, forall_and] using ⟨problem, only⟩
  · simpa [or_imp, forall_and] using ⟨problem, row⟩

/-- The names come back from the words of a row. -/
theorem listed_seriesWords (name : String) (rest : List String) :
    listed (seriesWords (name :: rest)) = name :: rest := by
  induction rest generalizing name with
  | nil => rfl
  | cons name' rest ih =>
    obtain ⟨word, next, later, row⟩ := exists_seriesWords name' rest
    have first : (name ++ ",").toList.dropLast = name.toList := by simp
    rw [seriesWords, row, listed, ← row, ih, first, String.ofList_toList]

theorem fieldsIn_notice (spaceless : ∀ name ∈ fields, ' ' ∉ name.toList) :
    fieldsIn (notice fields) = fields := by
  have nonempty : noticeWords fields ≠ [] := by
    unfold noticeWords
    split <;> simp [problemWords]
  rw [fieldsIn, notice_eq, words_intercalate (space_notMem_of_mem_noticeWords spaceless) nonempty]
  match fields with
  | [] => rfl
  | [name] => rfl
  | name :: name' :: rest =>
    have row : ((noticeWords (name :: name' :: rest)).drop 11).dropLast =
        seriesWords (name :: name' :: rest) := by
      simp [noticeWords, problemWords]
    rw [row, listed_seriesWords]

end Message

/-! ### Headline and advice -/

open Message

/-- Every message is its headline, the end of a line and its advice, or its headline alone. One that
is built for a finding has two lines, the first of which is made of the token fields and gives them
back. -/
theorem headline_and_advice :
    (∀ d : Diagnostic, (d.advice = none ↔ '\n' ∉ d.message.toList) ∧
      (d.advice = none → d.headline = d.message) ∧
      ∀ rest, d.advice = some rest → '\n' ∉ d.headline.toList ∧
        ∃ ending ∈ ["\n", "\r\n"], d.message = d.headline ++ ending ++ rest) ∧
    (∀ fields holder site, Unbroken fields holder site →
      ∃ rest, advice (build fields holder site) = some rest ∧
        build fields holder site = headline (build fields holder site) ++ "\n" ++ rest ∧
        '\n' ∉ (headline (build fields holder site)).toList ∧ '\n' ∉ rest.toList ∧ rest ≠ "") ∧
    ∀ fields fields' : List String, (∀ name ∈ fields ++ fields', '\n' ∉ name.toList) →
      ∀ holder holder' site site',
        (fields = fields' →
          headline (build fields holder site) = headline (build fields' holder' site')) ∧
        ((∀ name ∈ fields ++ fields', ' ' ∉ name.toList) →
          fieldsIn (headline (build fields holder site)) = fields ∧
            (headline (build fields holder site) = headline (build fields' holder' site') →
              fields = fields')) := by
  refine ⟨fun d => ?_, fun fields holder site unbroken => ?_, ?_⟩
  · have parts : Parted d.message d.headline d.advice := parted d.message
    generalize d.message = message, d.headline = line, d.advice = rest at parts
    cases parts with
    | line single => exact ⟨by simpa using single, fun _ => rfl, nofun⟩
    | newline single bare =>
      refine ⟨by simp, nofun, ?_⟩
      rintro _ ⟨⟩
      exact ⟨single, "\n", by simp, rfl⟩
    | returned single =>
      refine ⟨by simp, nofun, ?_⟩
      rintro _ ⟨⟩
      exact ⟨single, "\r\n", by simp, rfl⟩
  · rw [headline_build unbroken.fields]
    refine ⟨_, advice_build unbroken.fields holder site, build_eq fields holder site,
      newline_notMem_notice unbroken.fields, newline_notMem_remedy unbroken, ?_⟩
    rw [← String.toList_inj.ne]
    simp [remedy, impact]
  · intro fields fields' unbroken holder holder' site site'
    rw [List.forall_mem_append] at unbroken
    rw [headline_build unbroken.1, headline_build unbroken.2]
    refine ⟨congrArg notice, fun spaceless => ?_⟩
    rw [List.forall_mem_append] at spaceless
    refine ⟨fieldsIn_notice spaceless.1, fun same => ?_⟩
    calc fields = fieldsIn (notice fields) := (fieldsIn_notice spaceless.1).symm
      _ = fieldsIn (notice fields') := by rw [same]
      _ = fields' := fieldsIn_notice spaceless.2

/-- Two fields that are read from a variable, and one whose call is not known. -/
theorem headline_and_advice_records :
    Unbroken ["IsTruncated", "NextRecordName"] (some "out") { method := some "ListRecords" } ∧
    (∃ ending ∈ ["\n", "\r\n"],
      "a\r\nb" = (⟨"", "", ⟨0, 0⟩, "a\r\nb"⟩ : Diagnostic).headline ++ ending ++ "b") ∧
    (∃ rest, advice (build ["IsTruncated", "NextRecordName"] (some "out")
      { method := some "ListRecords" }) = some rest ∧ '\n' ∉ rest.toList) ∧
    fieldsIn (headline (build ["IsTruncated", "NextRecordName"] (some "out")
      { method := some "ListRecords" })) = ["IsTruncated", "NextRecordName"] ∧
    headline (build ["IsTruncated", "NextRecordName"] (some "out")
      { method := some "ListRecords" }) ≠ headline (build ["Marker"] none {}) := by
  have records : Unbroken ["IsTruncated", "NextRecordName"] (some "out")
      { method := some "ListRecords" } := ⟨by decide, by simp, by simp⟩
  obtain ⟨every, built, named⟩ := headline_and_advice
  obtain ⟨-, -, parts⟩ := every ⟨"", "", ⟨0, 0⟩, "a\r\nb"⟩
  obtain ⟨rest, advised, -, -, single, -⟩ := built _ _ _ records
  obtain ⟨back, apart⟩ := (named ["IsTruncated", "NextRecordName"] ["Marker"] (by decide)
    (some "out") none { method := some "ListRecords" } {}).2 (by decide)
  exact ⟨records, (parts "b" rfl).2, ⟨rest, advised, single⟩, back,
    fun same => by simpa using apart same⟩

end PaginationLint
