import PaginationLint.Proofs.Wire.NormalForm
import PaginationLint.Proofs.Wire.Reading
import PaginationLint.Proofs.Wire.Tagged

/-!
What is written can be read back.

A datum `Returns` if what is written for it is read as that datum again, wherever it stands. Data
return if their parts do, and the normal form of a value gives back the value; the main statement
joins the two for everything that has a place in the wire format.
-/

namespace PaginationLint

namespace Wire

open List (Forall₂)

/-! ### Data -/

/-- What is written for the datum is read as the datum, at every place of the shape. -/
def Returns (shape : Shape) (x : Datum) : Prop :=
  ∀ reading, read reading shape x.toJson = .ok x

/-- What is written for the datum is read as the datum where it is the value of the field. -/
def FieldSpec.Returns (f : FieldSpec) (x : Datum) : Prop :=
  ∀ reading, f.read reading x.toJson = .ok x

theorem read_null_ne_ok {reading : Reading} {shape : Shape} {x : Datum} :
    read reading shape .null ≠ .ok x := by
  cases shape <;> simp [read, Draft.ofJson, decode]

theorem FieldSpec.read_eq {reading : Reading} {f : FieldSpec} {v : Json} {x : Datum}
    (h : Wire.read reading f.shape v = .ok x) : f.read reading v = .ok x := by
  have value : v ≠ .null := fun null => read_null_ne_ok (null ▸ h)
  rw [read_of_ne_null value, h]

@[simp] theorem FieldSpec.returns_of_shape {f : FieldSpec} {x : Datum}
    (h : Wire.Returns f.shape x) : f.Returns x :=
  fun reading => read_eq (h reading)

@[simp] theorem returns_word (n : UInt32) : Returns .word (.word n) := by
  intro reading
  have bound : (n.toNat : Int) < wordBound := by
    have := n.toNat_lt
    simp only [wordBound]
    omega
  simp [read, Datum.toJson, Json.ofNat, Draft.ofJson, decode, decodeWord, bound]

@[simp] theorem returns_text (s : String) : Returns .text (.text s) := fun _ => rfl

@[simp] theorem returns_flag (b : Bool) : Returns .flag (.flag b) := fun _ => rfl

@[simp] theorem returns_list {item : Shape} {xs : List Datum} (h : ∀ x ∈ xs, Returns item x) :
    Returns (.list item) (.list xs) := by
  intro reading
  refine read_list_iff.mpr ⟨xs.map Datum.toJson, xs, ?_, ?_, rfl⟩
  · rw [Datum.toJson, Datum.toJsonItems_eq]
  · rw [List.forall₂_map_left_iff, List.forall₂_same]
    exact fun x hx => h x hx reading

theorem keys_toJsonMembers : ∀ {fields : List FieldSpec} {xs : List Datum},
    fields.length = xs.length →
      (Datum.toJsonMembers fields xs).map Prod.fst = fields.map FieldSpec.key
  | [], [], _ => rfl
  | f :: fs, x :: xs, h => by
    rw [Datum.toJsonMembers, List.map_cons, List.map_cons, keys_toJsonMembers (by simpa using h)]
  | [], _ :: _, h => by simp at h
  | _ :: _, [], h => by simp at h

theorem mem_toJsonMembers {fields : List FieldSpec} {xs : List Datum}
    (h : Forall₂ FieldSpec.Returns fields xs) :
    Forall₂ (fun f x => (f.key, x.toJson) ∈ Datum.toJsonMembers fields xs ∧ f.Returns x)
      fields xs := by
  induction h with
  | nil => exact .nil
  | cons returns _ ih =>
    rw [Datum.toJsonMembers]
    exact .cons ⟨List.mem_cons_self, returns⟩ (ih.imp fun _ _ => .imp_left (List.mem_cons_of_mem _))

theorem membersHold_toJsonMembers {reading : Reading} {closed : Bool} {fields : List FieldSpec}
    {xs : List Datum} (distinct : (fields.map FieldSpec.key).Nodup)
    (h : Forall₂ FieldSpec.Returns fields xs) :
    MembersHold reading closed fields (Datum.toJsonMembers fields xs) xs := by
  have keys := keys_toJsonMembers h.length_eq
  refine ⟨fun _ m hm => ?_, fun f hf => ?_, (mem_toJsonMembers h).imp fun f x hx => ?_⟩
  · have key := List.mem_map_of_mem (f := Prod.fst) hm
    rw [keys] at key
    exact List.mem_map.mp key
  · rw [keys]
    exact List.nodup_iff_count_le_one.mp distinct f.key
  · exact .inl ⟨x.toJson, hx.1, hx.2 reading⟩

theorem returns_record {kind : RecordKind} {xs : List Datum}
    (h : Forall₂ FieldSpec.Returns kind.fields xs) : Returns (.record kind) (.record kind xs) := by
  intro reading
  exact read_record_object_iff.mpr ⟨xs, membersHold_toJsonMembers (nodup_recordKeys kind) h, rfl⟩

theorem returns_variant {family : Family} {index : Nat} {xs : List Datum}
    (inside : index < family.variants.length)
    (h : Forall₂ FieldSpec.Returns (family.fields index) xs) :
    Returns (.variant family) (.variant family index xs) := by
  intro reading
  obtain ⟨v, hv⟩ : ∃ v, family.variants[index]? = some v := ⟨_, List.getElem?_eq_getElem inside⟩
  have fields : family.fields index = v.fields := by
    rw [Family.fields, List.getD_eq_getElem?_getD, hv, Option.getD_some]
  have written : (Datum.variant family index xs).toJson =
      .object ((tagKey, .string v.tag) :: Datum.toJsonMembers (family.fields index) xs) := by
    rw [Datum.toJson, List.getD_eq_getElem?_getD, hv, fields]
    rfl
  obtain ⟨untagged, distinct⟩ := List.nodup_cons.mp (nodup_variantKeys family index)
  have hold : MembersHold .nested false (family.fields index)
      ((tagKey, .string v.tag) :: Datum.toJsonMembers (family.fields index) xs) xs :=
    (membersHold_toJsonMembers distinct h).cons_other rfl
      fun f hf same => untagged (same ▸ List.mem_map_of_mem hf)
  rw [written]
  refine read_variant_object_iff.mpr ⟨.string v.tag, index, xs, ?_, List.mem_cons_self,
    decodeTag_name hv, hold, rfl⟩
  rw [List.map_cons, keys_toJsonMembers h.length_eq]
  exact List.nodup_iff_count_le_one.mp (nodup_variantKeys family index) tagKey

/-- An optional field returns, with a value and without. -/
theorem returns_optional {α : Type} {write : α → Datum} {key : String} {shape : Shape}
    {a : Option α} (h : ∀ b ∈ a, Returns shape (write b)) :
    (optional key shape).Returns (Datum.ofOptional write a) := by
  cases a with
  | none => exact fun _ => rfl
  | some b => exact FieldSpec.returns_of_shape (h b rfl)

end Wire

open Wire

/-! ### Spans and types -/

@[simp] theorem Span.returns (s : Span) : Returns (.record .span) s.toDatum :=
  returns_record (by simp [RecordKind.fields, required])

@[simp] theorem TypeId.returns (id : TypeId) : Returns .word id.toDatum := returns_word id.index

@[simp] theorem Field.returns (f : Field) : Returns (.record .field) f.toDatum :=
  returns_record (by simp [RecordKind.fields, required, flag])

theorem Ty.returns (t : Ty) : Returns (.variant .type) t.toDatum := by
  cases t <;>
    (refine returns_variant (by decide) ?_
     simp [Family.fields, Family.variants, typeVariants, required, listOf, returns_optional])

/-! ### Syntax -/

@[simp] theorem Identifier.returns (i : Identifier) : Returns (.record .identifier) i.toDatum :=
  returns_record (by simp [RecordKind.fields, required, spanField])

/-- What is written for a node is read back. -/
def Node.Returns : Node → Prop
  | .expr e => Wire.Returns exprShape e.toDatum
  | .stmt s => Wire.Returns stmtShape s.toDatum

theorem exprs_return {es : List Expr} (h : (es.map Node.expr).Forall Node.Returns) :
    Returns (.list exprShape) (.list (exprsToData es)) := by
  rw [List.forall_map_iff, List.forall_iff_forall_mem] at h
  rw [exprsToData_eq]
  exact returns_list (List.forall_mem_map.mpr h)

theorem stmts_return {ss : List Stmt} (h : (ss.map Node.stmt).Forall Node.Returns) :
    Returns (.list stmtShape) (.list (stmtsToData ss)) := by
  rw [List.forall_map_iff, List.forall_iff_forall_mem] at h
  rw [stmtsToData_eq]
  exact returns_list (List.forall_mem_map.mpr h)

theorem optionalExpr_returns {key : String} {e : Option Expr}
    (h : (e.toList.map Node.expr).Forall Node.Returns) :
    (optional key exprShape).Returns (optionalExprToDatum e) := by
  cases e with
  | none => exact fun _ => rfl
  | some e => exact FieldSpec.returns_of_shape h

theorem optionalStmt_returns {key : String} {s : Option Stmt}
    (h : (s.toList.map Node.stmt).Forall Node.Returns) :
    (optional key stmtShape).Returns (optionalStmtToDatum s) := by
  cases s with
  | none => exact fun _ => rfl
  | some s => exact FieldSpec.returns_of_shape h

theorem Block.returns_of_children {b : Block} (h : b.children.Forall Node.Returns) :
    Returns blockShape b.toDatum := by
  obtain ⟨stmts, span⟩ := b
  have body : Returns (.list stmtShape) (.list (stmtsToData stmts)) := stmts_return h
  exact returns_record (by simp [RecordKind.fields, listOf, spanField, body])

theorem CaseClause.returns_of_children {c : CaseClause} (h : c.children.Forall Node.Returns) :
    Returns (.record .caseClause) c.toDatum := by
  obtain ⟨exprs, body, span⟩ := c
  rw [CaseClause.children, List.forall_append] at h
  exact returns_record
    (by simp [RecordKind.fields, listOf, spanField, exprs_return h.1, stmts_return h.2])

theorem CommClause.returns_of_children {c : CommClause} (h : c.children.Forall Node.Returns) :
    Returns (.record .commClause) c.toDatum := by
  obtain ⟨comm, body, span⟩ := c
  rw [CommClause.children, List.forall_append] at h
  exact returns_record
    (by simp [RecordKind.fields, listOf, spanField, optionalStmt_returns h.1, stmts_return h.2])

theorem caseClauses_return {cs : List CaseClause}
    (h : (cs.flatMap CaseClause.children).Forall Node.Returns) :
    Returns (.list (.record .caseClause)) (.list (caseClausesToData cs)) := by
  simp only [List.forall_iff_forall_mem, List.forall_mem_flatMap] at h
  rw [caseClausesToData_eq]
  exact returns_list (List.forall_mem_map.mpr fun c hc =>
    c.returns_of_children (List.forall_iff_forall_mem.mpr (h c hc)))

theorem commClauses_return {cs : List CommClause}
    (h : (cs.flatMap CommClause.children).Forall Node.Returns) :
    Returns (.list (.record .commClause)) (.list (commClausesToData cs)) := by
  simp only [List.forall_iff_forall_mem, List.forall_mem_flatMap] at h
  rw [commClausesToData_eq]
  exact returns_list (List.forall_mem_map.mpr fun c hc =>
    c.returns_of_children (List.forall_iff_forall_mem.mpr (h c hc)))

theorem Expr.returns_of_children {e : Expr} (h : e.children.Forall Node.Returns) :
    Returns exprShape e.toDatum := by
  cases e <;>
    simp only [Expr.children, List.forall_cons, Node.Returns] at h <;>
    (refine returns_variant (by decide) ?_
     simp [Family.fields, Family.variants, exprVariants, required, listOf, spanField,
      returns_optional, exprs_return, Block.returns_of_children, h])

theorem Stmt.returns_of_children {s : Stmt} (h : s.children.Forall Node.Returns) :
    Returns stmtShape s.toDatum := by
  cases s <;>
    simp only [Stmt.children, List.forall_append, List.forall_cons, Node.Returns] at h <;>
    (refine returns_variant (by decide) ?_
     simp [Family.fields, Family.variants, stmtVariants, required, listOf, flag, spanField,
      returns_optional, exprs_return, optionalExpr_returns, optionalStmt_returns,
      caseClauses_return, commClauses_return, Block.returns_of_children, h])

/-- Every node returns, however deep it is. -/
theorem Node.returns (n : Node) : n.Returns := by
  induction n using induction_on_children with
  | step n ih =>
    have children := List.forall_iff_forall_mem.mpr ih
    cases n with
    | expr e => exact e.returns_of_children children
    | stmt s => exact s.returns_of_children children

theorem Block.returns (b : Block) : Returns blockShape b.toDatum :=
  b.returns_of_children (List.forall_iff_forall_mem.mpr fun n _ => n.returns)

/-! ### Declarations, files and units -/

theorem Decl.returns (d : Decl) : Returns (.variant .decl) d.toDatum := by
  cases d with
  | func f =>
    refine returns_variant (by decide) ?_
    simp [Family.fields, Family.variants, declVariants, RecordKind.fields, FuncDecl.toData,
      required, spanField, returns_optional, Block.returns]
  | var names values span =>
    have values : Returns (.list exprShape) (.list (exprsToData values)) :=
      exprs_return (List.forall_iff_forall_mem.mpr fun n _ => n.returns)
    refine returns_variant (by decide) ?_
    simp [Family.fields, Family.variants, declVariants, listOf, spanField, values]

theorem SourceFile.returns (f : SourceFile) : Returns (.record .file) f.toDatum :=
  returns_record (by simp [RecordKind.fields, required, listOf, returns_optional, Decl.returns])

theorem TypeTable.returns (t : TypeTable) : Returns (.list (.variant .type)) t.toDatum :=
  returns_list (List.forall_mem_map.mpr fun type _ => type.returns)

theorem ProgramUnit.returns (u : ProgramUnit) : Returns (.record .unit) u.toDatum :=
  returns_record (by simp [RecordKind.fields, listOf, TypeTable.returns, SourceFile.returns])

/-- A value comes back if its normal form does, and the normal form gives back the value. -/
theorem Wire.ofValue_encode_of {α : Type} [Codec α] {a : α}
    (returns : Returns (Codec.shape α) (Codec.toDatum a))
    (back : Codec.ofDatum (Codec.toDatum a) = a) : ofValue (encode a) = .ok a := by
  have decoded : decodeValue (Codec.shape α) (encode a) = .ok (Codec.toDatum a) := returns .value
  rw [ofValue, decoded, Except.map, back]

/-- Reading undoes writing, for everything that has a place in the wire format. -/
theorem Wire.ofValue_encode :
    (∀ u : ProgramUnit, ofValue (encode u) = .ok u) ∧
      (∀ f : SourceFile, ofValue (encode f) = .ok f) ∧
        (∀ d : Decl, ofValue (encode d) = .ok d) ∧
          (∀ b : Block, ofValue (encode b) = .ok b) ∧
            (∀ s : Stmt, ofValue (encode s) = .ok s) ∧
              (∀ e : Expr, ofValue (encode e) = .ok e) ∧
                (∀ t : TypeTable, ofValue (encode t) = .ok t) ∧
                  (∀ t : Ty, ofValue (encode t) = .ok t) ∧
                    ∀ s : Span, ofValue (encode s) = .ok s :=
  ⟨fun u => ofValue_encode_of u.returns u.ofDatum_toDatum,
    fun f => ofValue_encode_of f.returns f.ofDatum_toDatum,
    fun d => ofValue_encode_of d.returns d.ofDatum_toDatum,
    fun b => ofValue_encode_of b.returns b.ofDatum_toDatum,
    fun s => ofValue_encode_of (Node.stmt s).returns s.ofDatum_toDatum,
    fun e => ofValue_encode_of (Node.expr e).returns e.ofDatum_toDatum,
    fun t => ofValue_encode_of t.returns t.ofDatum_toDatum,
    fun t => ofValue_encode_of t.returns t.ofDatum_toDatum,
    fun s => ofValue_encode_of s.returns s.ofDatum_toDatum⟩

end PaginationLint
