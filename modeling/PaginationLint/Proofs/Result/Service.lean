import Mathlib.Data.List.TakeWhile
import PaginationLint.Proofs.Result.Origin
import PaginationLint.Proofs.Result.Simulation
import PaginationLint.Result.Message

/-!
Services and trust.

The service of a package is the segment of its path behind the first marker of the SDK, so a package
that has a service belongs to the SDK. The main statement says so for every path, with the markers
that no service follows, and concludes that a call whose service is known has a result that is
trusted: a paginator is named for no other.
-/

namespace PaginationLint

/-- The first occurrence of a pattern in a text stands between `before` and `rest`. -/
structure FirstIn (pattern text before rest : List Char) : Prop where
  split : text = before ++ pattern ++ rest
  first : ∀ before' rest', text = before' ++ pattern ++ rest' → before.length ≤ before'.length

/-- Nothing follows in this segment of a path. -/
def AtSegmentEnd (rest : List Char) : Prop := rest = [] ∨ ∃ later, rest = '/' :: later

/-! ### The first occurrence -/

variable {pattern text before rest : List Char} {c : Char}

theorem FirstIn.of_prefix (occurs : pattern <+: text) :
    FirstIn pattern text before rest ↔ before = [] ∧ text = pattern ++ rest := by
  constructor
  · intro found
    obtain ⟨later, whole⟩ := occurs
    have empty := List.length_eq_zero_iff.mp (Nat.le_zero.mp (found.first [] later whole.symm))
    exact ⟨empty, by simpa [empty] using found.split⟩
  · rintro ⟨rfl, whole⟩
    exact ⟨whole, fun _ _ _ => Nat.zero_le _⟩

/-- A pattern that a text does not begin with occurs first where it does behind the first
character. -/
theorem FirstIn.cons_iff (absent : ¬ pattern <+: c :: text) :
    FirstIn pattern (c :: text) before rest ↔
      ∃ before', before = c :: before' ∧ FirstIn pattern text before' rest := by
  -- an occurrence cannot stand at the beginning
  have tail : ∀ {before rest}, c :: text = before ++ pattern ++ rest →
      ∃ before', before = c :: before' ∧ text = before' ++ pattern ++ rest := by
    intro before rest whole
    cases before with
    | nil => exact absurd ⟨rest, whole.symm⟩ absent
    | cons d before' =>
      rw [List.cons_append, List.cons_append, List.cons.injEq] at whole
      obtain ⟨rfl, whole⟩ := whole
      exact ⟨before', rfl, whole⟩
  constructor
  · intro found
    obtain ⟨before', rfl, whole⟩ := tail found.split
    refine ⟨before', rfl, whole, fun other later whole' => ?_⟩
    have shorter := found.first (c :: other) later (by rw [whole']; rfl)
    simpa using shorter
  · rintro ⟨before', rfl, found⟩
    refine ⟨by rw [found.split]; rfl, fun other later whole => ?_⟩
    obtain ⟨other', rfl, whole'⟩ := tail whole
    simpa using found.first other' later whole'

theorem afterFirst_eq_some_iff :
    afterFirst pattern text = some rest ↔ ∃ before, FirstIn pattern text before rest := by
  induction text with
  | nil =>
    rw [afterFirst]
    cases pattern with
    | nil => simp [FirstIn.of_prefix, eq_comm]
    | cons c pattern =>
      simp only [List.isEmpty_cons, Bool.false_eq_true, if_false, reduceCtorEq, false_iff]
      rintro ⟨before, found⟩
      simpa using found.split
  | cons c text ih =>
    rw [afterFirst]
    by_cases occurs : pattern <+: c :: text
    · rw [if_pos (by simpa using occurs)]
      simp only [FirstIn.of_prefix occurs, exists_eq_left]
      obtain ⟨later, whole⟩ := occurs
      simp [← whole]
    · rw [if_neg (by simpa using occurs), ih]
      simp [FirstIn.cons_iff occurs]

/-! ### The segment behind the marker -/

theorem takeWhile_eq_iff {segment : List Char} :
    rest.takeWhile (· != '/') = segment ↔
      ∃ later, rest = segment ++ later ∧ '/' ∉ segment ∧ AtSegmentEnd later := by
  constructor
  · rintro rfl
    refine ⟨rest.dropWhile (· != '/'), List.takeWhile_append_dropWhile.symm, fun slash => ?_, ?_⟩
    · simpa using List.mem_takeWhile_imp slash
    · cases ends : rest.dropWhile (· != '/') with
      | nil => exact .inl rfl
      | cons c later =>
        have stop := List.head?_dropWhile_not (· != '/') rest
        rw [ends] at stop
        have slash : c = '/' := by simpa using stop
        exact .inr ⟨later, by rw [slash]⟩
  · rintro ⟨later, rfl, clean, ends⟩
    have inside : ∀ c ∈ segment, (c != '/') = true := by
      intro c hc
      rw [bne_iff_ne]
      rintro rfl
      exact clean hc
    rw [List.takeWhile_append_of_pos inside]
    rcases ends with rfl | ⟨later, rfl⟩
    · simp
    · simp

theorem serviceName_eq_some_iff_takeWhile {package service : String} :
    serviceName package = some service ↔
      ∃ rest, afterFirst sdkMarker.toList package.toList = some rest ∧
        rest.takeWhile (· != '/') = service.toList ∧ service ≠ "" := by
  unfold serviceName
  cases afterFirst sdkMarker.toList package.toList with
  | none => simp
  | some rest =>
    simp only [Option.bind_eq_bind, Option.bind_some, Option.some.injEq, exists_eq_left']
    generalize rest.takeWhile (· != '/') = segment
    cases segment with
    | nil =>
      simp only [List.isEmpty_nil, if_true, reduceCtorEq, false_iff, not_and, not_not]
      exact fun empty => String.toList_eq_nil_iff.mp empty.symm
    | cons c segment =>
      rw [List.isEmpty_cons, if_neg Bool.false_ne_true, Option.some.injEq, ← String.toList_inj,
        String.toList_ofList]
      refine ⟨fun same => ⟨same, ?_⟩, And.left⟩
      rintro rfl
      cases same

theorem serviceName_eq_some_iff {package service : String} :
    serviceName package = some service ↔
      ∃ before rest, FirstIn sdkMarker.toList package.toList before (service.toList ++ rest) ∧
        service ≠ "" ∧ '/' ∉ service.toList ∧ AtSegmentEnd rest := by
  rw [serviceName_eq_some_iff_takeWhile]
  simp only [afterFirst_eq_some_iff, takeWhile_eq_iff]
  constructor
  · rintro ⟨_, ⟨before, found⟩, ⟨rest, rfl, clean, ends⟩, nonempty⟩
    exact ⟨before, rest, found, nonempty, clean, ends⟩
  · rintro ⟨before, rest, found, nonempty, clean, ends⟩
    exact ⟨_, ⟨before, found⟩, ⟨rest, rfl, clean, ends⟩, nonempty⟩

/-- A package of the SDK has no service iff no segment begins behind its first marker. -/
theorem serviceName_eq_none_iff {package : String} (sdk : isSdkPackage package = true) :
    serviceName package = none ↔
      ∃ before rest, FirstIn sdkMarker.toList package.toList before rest ∧ AtSegmentEnd rest := by
  obtain ⟨rest, marked⟩ := Option.isSome_iff_exists.mp sdk
  have segment : serviceName package = none ↔ rest.takeWhile (· != '/') = [] := by
    simp [serviceName, marked]
  rw [segment, takeWhile_eq_iff]
  constructor
  · rintro ⟨later, whole, -, ends⟩
    obtain ⟨before, found⟩ := afterFirst_eq_some_iff.mp marked
    exact ⟨before, rest, found, by rwa [whole]⟩
  · rintro ⟨before, later, found, ends⟩
    have same := marked.symm.trans (afterFirst_eq_some_iff.mpr ⟨before, found⟩)
    exact ⟨later, Option.some.inj same, List.not_mem_nil, ends⟩

theorem isSdkPackage_of_serviceName {package service : String}
    (found : serviceName package = some service) : isSdkPackage package = true := by
  obtain ⟨rest, marked, -⟩ := serviceName_eq_some_iff_takeWhile.mp found
  rw [isSdkPackage, marked, Option.isSome_some]

/-! ### Calls of known services -/

namespace TypeTable

variable {t : TypeTable} {callee : Expr} {result : TypeId}

/-- A call whose service is known has a result that the SDK declares, or a pointer to one. -/
theorem declaredInSdk_of_service {service : String}
    (known : (CallSite.of t callee result).service = some service) :
    t.DeclaredInSdk (t.deref result) := by
  rw [service_eq_bind, Option.bind_eq_some_iff] at known
  obtain ⟨package, declared, found⟩ := known
  rw [Option.join_eq_some_iff, Option.map_eq_some_iff] at declared
  obtain ⟨⟨name, _⟩, named, rfl⟩ := declared
  refine isSdkType_iff.mp ?_
  rw [isSdkType, named]
  exact isSdkPackage_of_serviceName found

theorem isTrusted_of_service {service : String}
    (known : (CallSite.of t callee result).service = some service) : t.isTrusted result = true :=
  isTrusted_iff_declared_or_field.mpr (.inl (declaredInSdk_of_service known))

end TypeTable

theorem Message.paginatorPhrase_of_service_none {site : CallSite} (unknown : site.service = none) :
    paginatorPhrase site = "a paginator" := by
  rw [paginatorPhrase, unknown]
  cases site.method <;> rfl

/-- The service of a package is the segment behind the first marker of the SDK. So a package with a
service belongs to the SDK, and one of the SDK has a service unless that marker ends the path or a
slash follows it. The result of a call whose service is known is trusted, and for a result that is
not trusted no paginator is named. -/
theorem service_agrees_with_trust :
    (∀ package service, serviceName package = some service ↔
      ∃ before rest, FirstIn sdkMarker.toList package.toList before (service.toList ++ rest) ∧
        service ≠ "" ∧ '/' ∉ service.toList ∧ AtSegmentEnd rest) ∧
    (∀ package,
      (isSdkPackage package = true ↔ sdkMarker.toList <:+: package.toList) ∧
      (∀ service, serviceName package = some service → isSdkPackage package = true) ∧
      (isSdkPackage package = true →
        (serviceName package = none ↔
          ∃ before rest, FirstIn sdkMarker.toList package.toList before rest ∧
            AtSegmentEnd rest))) ∧
    ∀ (t : TypeTable) (callee : Expr) (result : TypeId),
      (∀ service, (CallSite.of t callee result).service = some service →
        t.isTrusted result = true) ∧
      (t.isTrusted result = false →
        Message.paginatorPhrase (CallSite.of t callee result) = "a paginator") := by
  refine ⟨fun package service => serviceName_eq_some_iff, fun package => ?_,
    fun t callee result => ⟨fun service => TypeTable.isTrusted_of_service, fun foreign => ?_⟩⟩
  · exact ⟨isSdkPackage_iff package, fun service => isSdkPackage_of_serviceName,
      serviceName_eq_none_iff⟩
  · refine Message.paginatorPhrase_of_service_none (Option.eq_none_iff_forall_ne_some.mpr ?_)
    intro service known
    rw [TypeTable.isTrusted_of_service known] at foreign
    cases foreign

/-- A package below that of a service, a marker that no service follows before one that a service
does, a call that returns a type of the SDK's, and one that returns a slice of them. -/
theorem service_agrees_with_trust_aliasTable :
    isSdkPackage "github.com/aws/aws-sdk-go-v2/service/dynamodb/types" = true ∧
      (∃ before rest, FirstIn sdkMarker.toList
        "aws-sdk-go-v2/service//aws-sdk-go-v2/service/ecs".toList before rest ∧
          AtSegmentEnd rest) ∧
      TypeTable.aliasTable.isTrusted ⟨1⟩ = true ∧
      Message.paginatorPhrase
        (CallSite.of .aliasTable (.selector (.ident "client" {}) { name := "List" } {}) ⟨3⟩) =
          "a paginator" := by
  obtain ⟨-, packages, calls⟩ := service_agrees_with_trust
  refine ⟨(packages _).2.1 "dynamodb" (by decide), ?_, ?_, ?_⟩
  · exact ((packages _).2.2 (by decide)).mp (by decide)
  · exact (calls .aliasTable (.ident "list" {}) ⟨1⟩).1 "ecs" (by decide)
  · exact (calls _ _ _).2 (TypeTable.isTrusted_eq_false_of_plain nofun nofun)

end PaginationLint
