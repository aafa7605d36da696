import PaginationLint.Proofs.Lint.Growth
import PaginationLint.Proofs.Lint.Insertion
import PaginationLint.Proofs.Syntax.Erasure

/-!
What the lint does not look at.

The erasure of a unit keeps its files with their paths, the erased bodies of its functions, and the
outlines of its types. Nothing is left of its package, of source texts, of the names, receivers and
spans of functions, and of what package-level variables hold. Two units differ only in what is
erased iff they have the same erasure; the main statement is that they then have the same findings.
-/

namespace PaginationLint

/-! ### Erased units -/

/-- The table with the outlines of its types. -/
def TypeTable.outlines (t : TypeTable) : TypeTable := ⟨t.types.map Ty.outline⟩

def Decl.erase : Decl → Decl
  | .func f => .func { name := { name := "" }, body := f.body.map Block.erase }
  | .var _ _ _ => .var [] [] {}

def SourceFile.erase (file : SourceFile) : SourceFile :=
  { path := file.path, decls := file.decls.map Decl.erase }

/-- The unit without what the lint does not look at. -/
def ProgramUnit.erase (u : ProgramUnit) : ProgramUnit :=
  { types := u.types.outlines, files := u.files.map SourceFile.erase }

theorem Ty.outline_outline (type : Ty) : type.outline.outline = type.outline := by
  cases type <;> rfl

/-- A table looks like its outlines. -/
theorem TypeTable.looksAlike_outlines (t : TypeTable) : t.LooksAlike t.outlines Set.univ where
  outline id _ := by
    have found : t.outlines.get? id = (t.get? id).map Ty.outline := Array.getElem?_map
    rw [outline, outline, found, Option.map_map]
    exact congrArg (Option.getD · _) (Option.map_congr fun type _ => type.outline_outline)
  closed _ _ _ _ := Set.mem_univ _

namespace Lint

variable {types : TypeTable} {names : List String} {file : String}

/-! ### Findings of erased bodies -/

/-- Bodies that show the same have the same findings. -/
theorem findings_body_eq_of_views {b b' : Block}
    (same : b'.nodes.map Node.view = b.nodes.map Node.view) :
    (bodyCandidates file b').filterMap (report types names) =
      (bodyCandidates file b).filterMap (report types names) := by
  have faces : (bodyPairs b').map (Prod.map Expr.face Expr.face) =
      (bodyPairs b).map (Prod.map Expr.face Expr.face) := by
    rw [map_face_bodyPairs, map_face_bodyPairs, same]
  have handles (holder : String) (fields : List String) :
      b'.handles holder fields = b.handles holder fields := by
    rw [Block.handles_eq_views, Block.handles_eq_views, same]
  refine List.Sublist.antisymm ?_ ?_
  · exact findings_sublist_of_faces faces fun holder fields => (handles holder fields).trans
  · exact findings_sublist_of_faces faces.symm fun holder fields =>
      (handles holder fields).symm.trans

theorem findings_decl_erase (decl : Decl) :
    (observeDecl types names file decl.erase).filterMap Observation.finding? =
      (observeDecl types names file decl).filterMap Observation.finding? := by
  rw [findings_decl, findings_decl]
  cases decl with
  | var => rfl
  | func f =>
    obtain ⟨name, receiver, body, span⟩ := f
    cases body with
    | none => rfl
    | some body =>
      simpa [Decl.erase, declBody?] using findings_body_eq_of_views body.map_view_nodes_erase

theorem findings_file_erase (config : Config) (file : SourceFile) :
    (observeFile types config file.erase).filterMap Observation.finding? =
      (observeFile types config file).filterMap Observation.finding? := by
  change (if (!config.includeTests && isTestFile file.path) = true then [.skippedTest file.path]
    else (file.decls.map Decl.erase).flatMap
      (observeDecl types config.tokenFields file.path)).filterMap Observation.finding? = _
  rw [observeFile]
  split
  · rfl
  · rw [List.flatMap_map, List.filterMap_flatMap, List.filterMap_flatMap]
    exact List.flatMap_congr fun decl _ => findings_decl_erase decl

/-- The findings of a unit are those of its erasure: the types may be outlined, and then the syntax
erased. -/
theorem lint_erase (u : ProgramUnit) (config : Config) : lint u.erase config = lint u config := by
  calc lint u.erase config
      = lint { types := u.types, files := u.files.map SourceFile.erase } config :=
        lint_alike (u := ⟨"", u.types, _⟩) u.types.looksAlike_outlines
          (fun _ _ _ _ _ _ => Set.mem_univ _) config
    _ = lint u config := by
        rw [lint, lint, observe, observe, List.flatMap_map, List.filterMap_flatMap,
          List.filterMap_flatMap]
        exact List.flatMap_congr fun file _ => findings_file_erase config file

/-- Units that differ only in what is erased have the same findings. -/
theorem lint_eq_of_erase_eq (u u' : ProgramUnit) (same : u'.erase = u.erase) (config : Config) :
    lint u' config = lint u config := by
  rw [← lint_erase u', same, lint_erase]

/-- A listing with a plain assignment, where nothing but its result is recorded. -/
def bareListing : ProgramUnit where
  types := ⟨#[.named "" (some "github.com/aws/aws-sdk-go-v2/service/s3") ⟨1⟩,
    .struct [⟨"NextContinuationToken", ⟨2⟩, false⟩], .basic "string"]⟩
  files := [{ path := "a.go", decls := [.var [] [] {},
    .func { name := { name := "" }, body := some (.mk
    [.labeled { name := "" } (.assign [.ident "out" {}, .ident "_" {}]
      [.call (.ident "fetch" {}) [.unary "" (.literal "" {}) {}, .composite none [] {}] (some ⟨0⟩)
        ⟨9, 14⟩] false {}) {}, .jump "" none {}] {}) }] }]

/-- The same listing with a definition, and with all that may stand around it. -/
def fullListing : ProgramUnit where
  package := "main"
  types := ⟨#[.named "ListObjectsV2Output" (some "github.com/aws/aws-sdk-go-v2/service/s3") ⟨1⟩,
    .struct [⟨"NextContinuationToken", ⟨2⟩, false⟩], .slice ⟨0⟩]⟩
  files := [{ path := "a.go", source := some "out := fetch(-1, T{})", decls := [
    .var [⟨"limit", ⟨4, 9⟩⟩] [.literal "10" ⟨12, 14⟩] ⟨0, 14⟩,
    .func { name := ⟨"list", ⟨1, 5⟩⟩, receiver := some "*Store", span := ⟨0, 40⟩, body := some (.mk
      [.labeled ⟨"again", ⟨2, 7⟩⟩ (.assign [.ident "out" ⟨8, 11⟩, .ident "_" ⟨13, 14⟩]
        [.call (.ident "fetch" ⟨9, 14⟩) [.unary "-" (.literal "1" ⟨16, 17⟩) ⟨15, 17⟩,
          .composite (some ⟨2⟩) [] ⟨19, 22⟩] (some ⟨0⟩) ⟨9, 14⟩] true ⟨8, 30⟩) ⟨2, 30⟩,
        .jump "goto" (some "again") ⟨31, 40⟩] ⟨1, 41⟩) }] }]

/-- A plain assignment is judged like a definition. -/
theorem lint_eq_of_erase_eq_fullListing : lint fullListing {} = lint bareListing {} :=
  lint_eq_of_erase_eq bareListing fullListing (by
    simp [bareListing, fullListing, ProgramUnit.erase, TypeTable.outlines, Ty.outline,
      SourceFile.erase, Decl.erase, Block.erase, eraseStmts, Stmt.erase, eraseExprs, Expr.erase]) {}

end Lint

end PaginationLint
