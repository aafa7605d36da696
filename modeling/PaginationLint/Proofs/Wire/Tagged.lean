import Mathlib.Data.List.Basic
import PaginationLint.Proofs.Syntax.Preorder
import PaginationLint.Wire.Codec

/-!
The walk through a block against its encoding.

On the wire, statements and expressions are the objects with a key `kind`. The main statement is that
the nodes met on the walk through a block, encoded one by one, are the objects with that key at any
depth of the encoded block, and that each node is followed at once by the nodes inside it. Walk and
encoding are two traversals that have only the grammar in common.
-/

namespace PaginationLint

/-! ### The values inside a value -/

namespace Json

/-- Is this an object with a key `kind`? -/
def isTagged : Json → Bool
  | .object members => (members.map Prod.fst).contains "kind"
  | _ => false

mutual

/-- The values inside a value, at any depth, each in front of those inside it. -/
def inner : Json → List Json
  | .array items => itemsInner items
  | .object members => membersInner members
  | _ => []

def itemsInner : List Json → List Json
  | [] => []
  | v :: vs => v :: v.inner ++ itemsInner vs

def membersInner : List (String × Json) → List Json
  | [] => []
  | (_, v) :: ms => v :: v.inner ++ membersInner ms

end

/-- A value and the values inside it. -/
def values (v : Json) : List Json := v :: v.inner

/-- The objects with a key `kind`, at any depth of a value. -/
def tagged (v : Json) : List Json := v.values.filter isTagged

theorem tagged_eq_inner {v : Json} (h : v.isTagged = false) : v.tagged = v.inner.filter isTagged :=
  List.filter_cons_of_neg (by simp [h])

theorem tagged_eq_cons {v : Json} (h : v.isTagged = true) :
    v.tagged = v :: v.inner.filter isTagged :=
  List.filter_cons_of_pos h

theorem filter_itemsInner : ∀ vs : List Json, (itemsInner vs).filter isTagged = vs.flatMap tagged
  | [] => rfl
  | v :: vs => by
    rw [itemsInner, List.filter_append, filter_itemsInner vs, List.flatMap_cons]
    rfl

theorem filter_membersInner : ∀ ms : List (String × Json),
    (membersInner ms).filter isTagged = (ms.map Prod.snd).flatMap tagged
  | [] => rfl
  | (k, v) :: ms => by
    rw [membersInner, List.filter_append, filter_membersInner ms, List.map_cons, List.flatMap_cons]
    rfl

end Json

/-! ### Tagged objects of documents -/

namespace Wire.Datum

open Json (tagged isTagged)

/-- The objects with a key `kind` in the encoding of a datum. -/
def tags (x : Datum) : List Json := x.toJson.tagged

theorem toJsonItems_eq : ∀ xs : List Datum, toJsonItems xs = xs.map toJson
  | [] => rfl
  | x :: xs => by rw [toJsonItems, toJsonItems_eq xs, List.map_cons]

theorem snd_toJsonMembers : ∀ (specs : List FieldSpec) (xs : List Datum),
    xs.length ≤ specs.length → (toJsonMembers specs xs).map Prod.snd = xs.map toJson
  | _, [], _ => by simp [toJsonMembers]
  | [], _ :: _, h => by simp at h
  | f :: fs, x :: xs, h => by
    rw [toJsonMembers, List.map_cons, List.map_cons, snd_toJsonMembers fs xs (by simpa using h)]

theorem fst_toJsonMembers_subset : ∀ (specs : List FieldSpec) (xs : List Datum),
    (toJsonMembers specs xs).map Prod.fst ⊆ specs.map FieldSpec.key
  | [], _ => by simp [toJsonMembers]
  | _ :: _, [] => by simp [toJsonMembers]
  | f :: fs, x :: xs => by
    rw [toJsonMembers, List.map_cons, List.map_cons]
    exact List.cons_subset_cons _ (fst_toJsonMembers_subset fs xs)

theorem flatMap_tagged_members {specs : List FieldSpec} {xs : List Datum}
    (h : xs.length ≤ specs.length) :
    ((toJsonMembers specs xs).map Prod.snd).flatMap tagged = xs.flatMap tags := by
  rw [snd_toJsonMembers specs xs h, List.flatMap_map]
  rfl

@[simp] theorem tags_list (xs : List Datum) : (Datum.list xs).tags = xs.flatMap tags := by
  rw [tags, toJson, Json.tagged_eq_inner rfl, Json.inner, Json.filter_itemsInner, toJsonItems_eq,
    List.flatMap_map]
  rfl

/-- No record has a field called `kind`. -/
theorem kind_notMem_fields (kind : RecordKind) : "kind" ∉ kind.fields.map FieldSpec.key := by
  cases kind <;> decide

/-- The tagged objects of a record are those of its fields. -/
theorem tags_record {kind : RecordKind} {xs : List Datum} (h : xs.length ≤ kind.fields.length) :
    (Datum.record kind xs).tags = xs.flatMap tags := by
  have untagged : isTagged (.object (toJsonMembers kind.fields xs)) = false := by
    rw [isTagged, ← Bool.not_eq_true, List.contains_iff_mem]
    exact fun mem => kind_notMem_fields kind (fst_toJsonMembers_subset _ _ mem)
  rw [tags, toJson, Json.tagged_eq_inner untagged, Json.inner, Json.filter_membersInner,
    flatMap_tagged_members h]

/-- A variant is a tagged object, in front of those of its fields. -/
theorem tags_variant {family : Family} {index : Nat} {xs : List Datum}
    (h : xs.length ≤ (family.variants.getD index default).fields.length) :
    (Datum.variant family index xs).tags =
      (Datum.variant family index xs).toJson :: xs.flatMap tags := by
  have hastag : isTagged (Datum.variant family index xs).toJson = true := by
    simp [toJson, isTagged, tagKey]
  rw [tags, Json.tagged_eq_cons hastag, toJson]
  simp only [Json.inner, Json.filter_membersInner, List.map_cons, List.flatMap_cons,
    flatMap_tagged_members h]
  rfl

@[simp] theorem tags_text (s : String) : (Datum.text s).tags = [] := rfl

@[simp] theorem tags_flag (b : Bool) : (Datum.flag b).tags = [] := rfl

theorem tags_ofOptional {α : Type} {write : α → Datum} (h : ∀ a, (write a).tags = [])
    (a : Option α) : (Datum.ofOptional write a).tags = [] := by
  cases a with
  | none => rfl
  | some a => exact h a

@[simp] theorem tags_optionalText (s : Option String) : (Datum.ofOptional .text s).tags = [] :=
  tags_ofOptional tags_text s

end Wire.Datum

open Wire (Datum)
open Wire.Datum

/-! ### Tagged objects of syntax trees -/

@[simp] theorem Span.tags_toDatum (s : Span) : s.toDatum.tags = [] := by
  rw [Span.toDatum, tags_record (Nat.le_refl _)]
  rfl

@[simp] theorem Identifier.tags_toDatum (i : Identifier) : i.toDatum.tags = [] := by
  rw [Identifier.toDatum, tags_record (Nat.le_refl _)]
  simp

@[simp] theorem tags_names (names : List Identifier) :
    (names.map Identifier.toDatum).flatMap tags = [] := by
  rw [List.flatMap_map]
  exact List.flatMap_eq_nil_iff.mpr fun i _ => i.tags_toDatum

@[simp] theorem tags_optionalType (type : Option TypeId) :
    (Datum.ofOptional TypeId.toDatum type).tags = [] :=
  tags_ofOptional (fun _ => rfl) type

/-- The datum of a node. -/
def Node.toDatum : Node → Datum
  | .stmt s => s.toDatum
  | .expr e => e.toDatum

/-- A node on the wire. -/
def Node.encode : Node → Json
  | .stmt s => Wire.encode s
  | .expr e => Wire.encode e

/-- The tagged objects of a node. -/
def Node.tags (n : Node) : List Json := n.toDatum.tags

@[simp] theorem Node.tags_expr (e : Expr) : (Node.expr e).tags = e.toDatum.tags := rfl

@[simp] theorem Node.tags_stmt (s : Stmt) : (Node.stmt s).tags = s.toDatum.tags := rfl

@[simp] theorem flatMap_tags_exprs : ∀ es : List Expr,
    (exprsToData es).flatMap tags = (es.map Node.expr).flatMap Node.tags
  | [] => rfl
  | e :: es => by
    rw [exprsToData, List.flatMap_cons, flatMap_tags_exprs es]
    rfl

@[simp] theorem flatMap_tags_stmts : ∀ ss : List Stmt,
    (stmtsToData ss).flatMap tags = (ss.map Node.stmt).flatMap Node.tags
  | [] => rfl
  | s :: ss => by
    rw [stmtsToData, List.flatMap_cons, flatMap_tags_stmts ss]
    rfl

@[simp] theorem tags_optionalExpr (e : Option Expr) :
    (optionalExprToDatum e).tags = (e.toList.map Node.expr).flatMap Node.tags := by
  cases e with
  | none => rfl
  | some e => exact (List.append_nil _).symm

@[simp] theorem tags_optionalStmt (s : Option Stmt) :
    (optionalStmtToDatum s).tags = (s.toList.map Node.stmt).flatMap Node.tags := by
  cases s with
  | none => rfl
  | some s => exact (List.append_nil _).symm

@[simp] theorem Block.tags_toDatum (b : Block) : b.toDatum.tags = b.children.flatMap Node.tags := by
  obtain ⟨stmts, span⟩ := b
  rw [Block.toDatum, tags_record (Nat.le_refl _)]
  simp [Block.children, Block.stmts]

theorem CaseClause.tags_toDatum (c : CaseClause) :
    c.toDatum.tags = c.children.flatMap Node.tags := by
  obtain ⟨exprs, body, span⟩ := c
  rw [CaseClause.toDatum, tags_record (Nat.le_refl _)]
  simp [CaseClause.children]

theorem CommClause.tags_toDatum (c : CommClause) :
    c.toDatum.tags = c.children.flatMap Node.tags := by
  obtain ⟨comm, body, span⟩ := c
  rw [CommClause.toDatum, tags_record (Nat.le_refl _)]
  simp [CommClause.children]

@[simp] theorem flatMap_tags_caseClauses : ∀ cs : List CaseClause,
    (caseClausesToData cs).flatMap tags = (cs.flatMap CaseClause.children).flatMap Node.tags
  | [] => rfl
  | c :: cs => by
    rw [caseClausesToData, List.flatMap_cons, flatMap_tags_caseClauses cs, c.tags_toDatum,
      List.flatMap_cons, List.flatMap_append]

@[simp] theorem flatMap_tags_commClauses : ∀ cs : List CommClause,
    (commClausesToData cs).flatMap tags = (cs.flatMap CommClause.children).flatMap Node.tags
  | [] => rfl
  | c :: cs => by
    rw [commClausesToData, List.flatMap_cons, flatMap_tags_commClauses cs, c.tags_toDatum,
      List.flatMap_cons, List.flatMap_append]

namespace Node

/-- The tagged objects of a node are its own encoding, in front of those of its children: one case
for each constructor, on both sides of the wire. -/
theorem tags_eq_cons (n : Node) : n.tags = n.encode :: n.children.flatMap tags := by
  cases n with
  | expr e =>
    have own : e.toDatum.tags = e.toDatum.toJson :: e.children.flatMap tags := by
      cases e <;>
        (rw [Expr.toDatum, tags_variant (Nat.le_refl _)]
         simp [Expr.children])
    exact own
  | stmt s =>
    have own : s.toDatum.tags = s.toDatum.toJson :: s.children.flatMap tags := by
      cases s <;>
        (rw [Stmt.toDatum, tags_variant (Nat.le_refl _)]
         simp [Stmt.children])
    exact own

theorem tags_eq_map_nodes (n : Node) : n.tags = n.nodes.map encode :=
  eq_map_nodes tags_eq_cons n

theorem tags_eq_tagged (n : Node) : n.tags = n.encode.tagged := by
  cases n <;> rfl

/-- What lies inside a node is, encoded, what is tagged inside its encoding. -/
theorem map_encode_inner (n : Node) : n.inner.map encode = n.encode.inner.filter Json.isTagged := by
  have listed : n.encode.tagged = n.encode :: n.inner.map encode := by
    rw [← tags_eq_tagged, tags_eq_map_nodes, nodes_eq_preorder, preorder, List.map_cons]
  have hastag : n.encode.isTagged = true := by
    have front : n.encode ∈ n.encode.tagged := listed ▸ List.mem_cons_self
    exact (List.mem_filter.mp front).2
  rw [Json.tagged_eq_cons hastag] at listed
  exact (List.cons.inj listed).2.symm

end Node

/-! ### The walk -/

/-- Each node is followed at once by the nodes inside it. -/
def Contiguous : List Node → Prop
  | [] => True
  | n :: ns => n.inner <+: ns ∧ Contiguous ns

theorem Contiguous.append {ms : List Node} : ∀ {ns : List Node},
    Contiguous ns → Contiguous ms → Contiguous (ns ++ ms)
  | [], _, hms => hms
  | _ :: _, ⟨front, rest⟩, hms =>
    ⟨front.trans (List.prefix_append _ _), rest.append hms⟩

theorem contiguous_flatMap : ∀ {ns : List Node}, (∀ n ∈ ns, Contiguous n.nodes) →
    Contiguous (ns.flatMap Node.nodes)
  | [], _ => trivial
  | n :: ns, h => by
    rw [List.flatMap_cons]
    exact (h n List.mem_cons_self).append
      (contiguous_flatMap fun m hm => h m (List.mem_cons_of_mem _ hm))

theorem Node.contiguous_nodes (n : Node) : Contiguous n.nodes := by
  induction n using induction_on_children with
  | step n ih =>
    have front : n.inner = n.children.flatMap nodes := by
      rw [inner_eq]
      exact List.flatMap_congr fun m _ => m.nodes_eq_preorder.symm
    rw [nodes_eq]
    exact ⟨front ▸ List.prefix_rfl, contiguous_flatMap ih⟩

/-- The walk through a block meets every tagged object of its encoding once and nothing else, in the
order of the encoding; each node is followed at once by the nodes inside it, and these are the tagged
objects inside the encoding of the node. -/
theorem Block.nodes_match_encoding (b : Block) :
    b.nodes.map Node.encode = (Wire.encode b).values.filter Json.isTagged ∧ Contiguous b.nodes ∧
      ∀ n : Node, n.inner.map Node.encode = n.encode.inner.filter Json.isTagged := by
  refine ⟨?_, contiguous_flatMap fun n _ => n.contiguous_nodes, Node.map_encode_inner⟩
  have tags : (Wire.encode b).values.filter Json.isTagged = b.children.flatMap Node.tags :=
    b.tags_toDatum
  rw [tags, Block.nodes, List.map_flatMap]
  exact List.flatMap_congr fun n _ => n.tags_eq_map_nodes.symm

end PaginationLint
