import PaginationLint.Proofs.Result.TokenField

/-!
The search for a token field without a memory.

`resolveAlong` knows only the types on the way down to where it is. That is enough for it to end,
but it looks at a type that several embedded fields share as often as it gets there. The main
statement is that `tokenField?`, which looks at every type once, finds the same name on every table.

While the search with a memory is under way, a type it has seen is either on the way down or it has
been left again. Those that were left declare none of the names, and their embedded fields lead to
types seen. So looking at one of them again leads from one such type to another, until the way comes
back to itself: it ends without a name, and passing over the type at once changes nothing.
-/

namespace PaginationLint.TypeTable

/-! ### The search that knows its path -/

/-- The ids of a table that are not on a path. -/
def idsOff (t : TypeTable) (path : List TypeId) : List TypeId := t.ids.filter (· ∉ path)

theorem length_idsOff_cons_lt {t : TypeTable} {path : List TypeId} {d : TypeId}
    (inside : d.index.toNat < t.size) (away : d ∉ path) :
    (t.idsOff (d :: path)).length < (t.idsOff path).length := by
  have fewer : t.idsOff (d :: path) = (t.idsOff path).filter (· ≠ d) := by
    rw [idsOff, idsOff, List.filter_filter]
    refine List.filter_congr fun id _ => ?_
    simp [not_or]
  rw [fewer]
  refine List.length_filter_lt_length_iff_exists.mpr ⟨d, ?_, by simp⟩
  exact List.mem_filter.mpr ⟨mem_ids inside, by simpa using away⟩

/-- The best of the names at the type, or else the first success among its embedded fields, with the
type added to the path. A type on the path has none. -/
def resolveAlong (t : TypeTable) (names : List String) (path : List TypeId) (id : TypeId) :
    Option String :=
  if _back : t.deref id ∈ path then none
  else
    match _struct : t.structFields? (t.deref id) with
    | none => none
    | some fields =>
      (names.find? (declares fields)).or
        ((fields.filter Field.embedded).findSome? fun f =>
          resolveAlong t names (t.deref id :: path) f.type)
termination_by (t.idsOff path).length
decreasing_by exact length_idsOff_cons_lt (lt_size_of_structFields? _struct) _back

variable {t : TypeTable} {names : List String} {path : List TypeId}
  {seen later : Std.HashSet TypeId} {d id : TypeId} {fields : List Field}

theorem resolveAlong_of_mem (back : t.deref id ∈ path) : t.resolveAlong names path id = none := by
  rw [resolveAlong, dif_pos back]

theorem resolveAlong_of_plain (plain : t.structFields? (t.deref id) = none) :
    t.resolveAlong names path id = none := by
  rw [resolveAlong]
  split
  · rfl
  · split
    · rfl
    · next struct => cases plain.symm.trans struct

theorem resolveAlong_of_struct (away : t.deref id ∉ path)
    (struct : t.structFields? (t.deref id) = some fields) :
    t.resolveAlong names path id =
      (names.find? (declares fields)).or
        ((fields.filter Field.embedded).findSome? fun f =>
          t.resolveAlong names (t.deref id :: path) f.type) := by
  rw [resolveAlong, dif_neg away]
  split
  · next plain => cases plain.symm.trans struct
  · next struct' => rw [Option.some.inj (struct'.symm.trans struct)]

/-! ### Types that have been left -/

/-- Nothing new is to be had from `d`: it declares none of the names, and its embedded fields lead
to types seen. -/
def Spent (t : TypeTable) (names : List String) (seen : Std.HashSet TypeId) (d : TypeId) : Prop :=
  ∀ fields, t.structFields? d = some fields →
    names.find? (declares fields) = none ∧
      ∀ f ∈ fields.filter Field.embedded, t.deref f.type ∈ seen

theorem Spent.mono (spent : t.Spent names seen d) (grows : ∀ id ∈ seen, id ∈ later) :
    t.Spent names later d := by
  intro fields struct
  obtain ⟨undeclared, closed⟩ := spent fields struct
  exact ⟨undeclared, fun f hf => grows _ (closed f hf)⟩

/-- What holds at the end of a path: its types have been seen, and the other types seen are
spent. -/
structure Settled (t : TypeTable) (names : List String) (path : List TypeId)
    (seen : Std.HashSet TypeId) : Prop where
  path_seen : ∀ d ∈ path, d ∈ seen
  spent : ∀ d ∈ seen, d ∉ path → t.Spent names seen d

namespace Settled

theorem initial (t : TypeTable) (names : List String) : t.Settled names [] ∅ :=
  ⟨by simp, by simp⟩

/-- A step down adds a type to the path and to the types seen. -/
theorem enter (settled : t.Settled names path seen) (d : TypeId) :
    t.Settled names (d :: path) (seen.insert d) := by
  refine ⟨?_, ?_⟩
  · intro x hx
    rcases List.mem_cons.mp hx with rfl | hx
    · exact Std.HashSet.mem_insert_self
    · exact mem_insert_of_mem d x (settled.path_seen x hx)
  · intro x hx off
    rw [List.mem_cons, not_or] at off
    rcases Std.HashSet.mem_insert.mp hx with hx | hx
    · exact absurd (beq_iff_eq.mp hx).symm off.1
    · exact (settled.spent x hx off.2).mono (mem_insert_of_mem d)

/-- A type that is spent can be left. -/
theorem leave (settled : t.Settled names (d :: path) seen) (spent : t.Spent names seen d) :
    t.Settled names path seen := by
  refine ⟨fun x hx => settled.path_seen x (List.mem_cons_of_mem d hx), ?_⟩
  intro x hx off
  by_cases same : x = d
  · exact same ▸ spent
  · exact settled.spent x hx (by simp [same, off])

end Settled

/-- Looking again at a type seen gives nothing. -/
theorem resolveAlong_eq_none (spent : ∀ d ∈ seen, d ∉ path → t.Spent names seen d)
    (known : t.deref id ∈ seen) : t.resolveAlong names path id = none := by
  fun_induction resolveAlong t names path id with
  | case1 => rfl
  | case2 => rfl
  | case3 path id away fields struct ih =>
    obtain ⟨undeclared, closed⟩ := spent _ known away fields struct
    rw [undeclared, Option.none_or, List.findSome?_eq_none_iff]
    intro f hf
    -- a longer path leaves fewer types to be spent
    refine ih f (fun d hd off => spent d hd ?_) (closed f hf)
    exact fun on => off (List.mem_cons_of_mem _ on)

/-! ### Both searches at once -/

mutual

/-- With and without a memory the search finds the same name. If it finds none, the type has been
seen by then, and what has been seen is settled again. -/
theorem resolve_eq_resolveAlong {path : List TypeId} {seen : Std.HashSet TypeId}
    (settled : t.Settled names path seen) (id : TypeId) :
    (t.resolve names seen id).1 = t.resolveAlong names path id ∧
      ((t.resolve names seen id).1 = none →
        t.Settled names path (t.resolve names seen id).2.1 ∧
          t.deref id ∈ (t.resolve names seen id).2.1) := by
  by_cases known : t.deref id ∈ seen
  · obtain ⟨nothing, same⟩ := resolve_of_mem names known
    rw [nothing, same, resolveAlong_eq_none settled.spent known]
    exact ⟨rfl, fun _ => ⟨settled, known⟩⟩
  · have away : t.deref id ∉ path := mt (settled.path_seen _) known
    have entered := settled.enter (t.deref id)
    cases struct : t.structFields? (t.deref id) with
    | none =>
      obtain ⟨nothing, later⟩ := resolve_of_plain names known struct
      rw [nothing, later, resolveAlong_of_plain struct]
      refine ⟨rfl, fun _ => ⟨entered.leave ?_, Std.HashSet.mem_insert_self⟩⟩
      intro fields struct'
      cases struct.symm.trans struct'
    | some fields =>
      rw [resolveAlong_of_struct away struct]
      cases declared : names.find? (declares fields) with
      | some name =>
        rw [resolve_of_declared known struct declared]
        exact ⟨rfl, nofun⟩
      | none =>
        obtain ⟨found, later⟩ := resolve_of_undeclared known struct declared
        obtain ⟨same, after⟩ :=
          resolveFirst_eq_findSome? entered (fields.filter Field.embedded)
        rw [found, later, Option.none_or]
        refine ⟨same, fun nothing => ?_⟩
        obtain ⟨settled', closed⟩ := after nothing
        refine ⟨settled'.leave ?_, settled'.path_seen _ List.mem_cons_self⟩
        intro fields' struct'
        obtain rfl := Option.some.inj (struct.symm.trans struct')
        exact ⟨declared, closed⟩
termination_by ((t.unseen seen).length, 0)
decreasing_by
  exact Prod.Lex.left _ _ (length_unseen_insert_lt (lt_size_of_structFields? struct) known)

/-- The same of the types of several fields, one after another. -/
theorem resolveFirst_eq_findSome? {path : List TypeId} {seen : Std.HashSet TypeId}
    (settled : t.Settled names path seen) (fields : List Field) :
    (t.resolveFirst names seen fields).1 =
        (fields.findSome? fun f => t.resolveAlong names path f.type) ∧
      ((t.resolveFirst names seen fields).1 = none →
        t.Settled names path (t.resolveFirst names seen fields).2.1 ∧
          ∀ f ∈ fields, t.deref f.type ∈ (t.resolveFirst names seen fields).2.1) := by
  cases fields with
  | nil =>
    obtain ⟨nothing, same⟩ := resolveFirst_nil t names seen
    rw [nothing, same]
    exact ⟨rfl, fun _ => ⟨settled, nofun⟩⟩
  | cons f fs =>
    obtain ⟨first, after⟩ := resolve_eq_resolveAlong settled f.type
    rw [List.findSome?_cons, ← first]
    cases found : (t.resolve names seen f.type).1 with
    | some name =>
      rw [resolveFirst_cons_of_some found]
      exact ⟨rfl, nofun⟩
    | none =>
      obtain ⟨settled', known⟩ := after found
      obtain ⟨rest, last⟩ := resolveFirst_cons_of_none fs found
      obtain ⟨same, after'⟩ := resolveFirst_eq_findSome? settled' fs
      rw [rest, last]
      refine ⟨same, fun nothing => ?_⟩
      obtain ⟨settled'', closed⟩ := after' nothing
      refine ⟨settled'', fun g hg => ?_⟩
      rcases List.mem_cons.mp hg with rfl | hg
      · exact (t.resolveFirst names _ fs).2.2 _ known
      · exact closed g hg
termination_by ((t.unseen seen).length, fields.length)
decreasing_by
  · exact Prod.Lex.right _ (Nat.succ_pos _)
  · exact lex_unseen t (t.resolve names seen f.type).2.2 (Nat.lt_succ_self _)

end

/-- A stack of types gives what the first of them gives that gives any name, each by itself. -/
theorem searchFrom_eq_findSome? (t : TypeTable) (names : List String) (stack : List TypeId) :
    t.searchFrom embeddedFields (t.directField? names) ∅ stack =
      stack.findSome? fun id => t.tokenField? id names := by
  have along (stack : List TypeId) : t.searchFrom embeddedFields (t.directField? names) ∅ stack =
      stack.findSome? fun id => t.resolveAlong names [] id := by
    let fields : List Field := stack.map fun id => { name := "", type := id }
    have types : fields.map Field.type = stack := by simp [fields, Function.comp_def]
    have split : t.searchFrom embeddedFields (t.directField? names) ∅ (fields.map Field.type ++ []) =
        _ := searchFrom_append_eq ∅ fields []
    rw [List.append_nil, types, searchFrom, Option.or_none,
      (resolveFirst_eq_findSome? (Settled.initial t names) fields).1, List.findSome?_map] at split
    exact split
  rw [along]
  congr 1
  funext id
  rw [tokenField?, search, along]
  simp

/-- Looking at every type once neither hides a name nor changes which one is found. -/
theorem tokenField?_eq_resolveAlong (t : TypeTable) (id : TypeId) (names : List String) :
    t.tokenField? id names = t.resolveAlong names [] id := by
  rw [tokenField?, search, searchFrom_cons_eq, searchFrom, Option.or_none]
  exact (resolve_eq_resolveAlong (Settled.initial t names) id).1

end PaginationLint.TypeTable
