import Mathlib.Data.List.Nodup
import Mathlib.Data.List.Sort
import PaginationLint.Command.Units
import PaginationLint.Proofs.Disk.Path

/-!
The unit files below a directory.

`HasUnit` says which files are units: regular files with the right extension that are reached
through directories alone. A walk finds exactly these and passes over all else, and the order in
which the directories list their entries shows neither in what it finds nor, once that is sorted,
in its result.
-/

namespace PaginationLint

theorem isUnitPath_iff {path : String} :
    isUnitPath path = true ↔ Path.extension? path = some "json" := beq_iff_eq

namespace Listing

/-! ### Trees of files -/

/-- The names lead to a regular file through directories, with no link on the way. -/
inductive HasFile : Listing → List String → Prop
  | file : HasFile .file []
  | directory {entries : List (String × Listing)} {name : String} {listing : Listing}
      {names : List String} (mem : (name, listing) ∈ entries) (rest : HasFile listing names) :
      HasFile (.directory entries) (name :: names)

/-- The names lead to a regular file whose own name has something in front of `.json`. -/
def HasUnit (listing : Listing) (names : List String) : Prop :=
  listing.HasFile names ∧ ∃ above stem, stem ≠ "" ∧ names = above ++ [stem ++ ".json"]

/-- Every directory can be read and has names that can stand in a directory, no two alike. -/
inductive Proper : Listing → Prop
  | file : Proper .file
  | link : Proper .link
  | special : Proper .special
  | directory {entries : List (String × Listing)} (isName : ∀ e ∈ entries, Path.IsName e.1)
      (distinct : (entries.map Prod.fst).Nodup) (inside : ∀ e ∈ entries, Proper e.2) :
      Proper (.directory entries)

/-- The paths of the files below `path` that have the extension of units, each standing before those
behind it. -/
structure UnitsBelow (path : String) (listing : Listing) (paths : List String) : Prop where
  mem_iff : ∀ p, p ∈ paths ↔
    ∃ names, listing.HasFile names ∧ p = Path.below path names ∧ Path.extension? p = some "json"
  sorted : paths.Pairwise Path.Before

/-- The same tree, where directories at any depth may list their entries in another order. -/
inductive Reordered : Listing → Listing → Prop
  | refl (listing : Listing) : Reordered listing listing
  | entries {entries entries' : List (String × Listing)} (perm : entries.Perm entries') :
      Reordered (.directory entries) (.directory entries')
  | inside {before after : List (String × Listing)} {name : String} {listing listing' : Listing}
      (h : Reordered listing listing') :
      Reordered (.directory (before ++ (name, listing) :: after))
        (.directory (before ++ (name, listing') :: after))
  | trans {first second third : Listing} (h : Reordered first second)
      (h' : Reordered second third) : Reordered first third

theorem hasFile_directory_iff {entries : List (String × Listing)} {names : List String} :
    (Listing.directory entries).HasFile names ↔
      ∃ name listing rest, (name, listing) ∈ entries ∧ listing.HasFile rest ∧
        names = name :: rest := by
  constructor
  · intro h
    cases h with
    | directory mem rest => exact ⟨_, _, _, mem, rest, rfl⟩
  · rintro ⟨name, listing, rest, mem, h, rfl⟩
    exact .directory mem h

theorem HasFile.isName {listing : Listing} {names : List String} (h : listing.HasFile names)
    (proper : listing.Proper) : ∀ name ∈ names, Path.IsName name := by
  induction h with
  | file => simp
  | directory mem _ ih =>
    cases proper with
    | directory isName _ inside =>
      intro name hname
      rcases List.mem_cons.mp hname with rfl | hname
      · exact isName _ mem
      · exact ih (inside _ mem) name hname

/-! ### One entry -/

theorem unitFilesIn_cons_eq_ok_iff {path name : String} {listing : Listing}
    {rest : List (String × Listing)} {files : List (List String)} :
    unitFilesIn path ((name, listing) :: rest) = .ok files ↔
      ∃ here others, unitFiles (Path.join path name) listing = .ok here ∧
        unitFilesIn path rest = .ok others ∧ files = here.map (name :: ·) ++ others := by
  rw [unitFilesIn]
  cases unitFiles (Path.join path name) listing with
  | error e => simp [bind, Except.bind]
  | ok here =>
    cases unitFilesIn path rest with
    | error e => simp [bind, Except.bind]
    | ok others => simp [bind, Except.bind, pure, Except.pure, eq_comm]

/-! ### Other orders -/

section Reordering

variable {path : String} {files : List (List String)}

theorem unitFilesIn_perm {entries entries' : List (String × Listing)}
    (perm : entries.Perm entries') : ∀ {files : List (List String)},
    unitFilesIn path entries = .ok files →
      ∃ files', unitFilesIn path entries' = .ok files' ∧ files.Perm files' := by
  induction perm with
  | nil => exact fun h => ⟨_, h, .refl _⟩
  | cons entry _ ih =>
    intro files h
    obtain ⟨here, others, hhere, hothers, rfl⟩ := unitFilesIn_cons_eq_ok_iff.mp h
    obtain ⟨others', hothers', perm⟩ := ih hothers
    exact ⟨_, unitFilesIn_cons_eq_ok_iff.mpr ⟨here, others', hhere, hothers', rfl⟩,
      perm.append_left _⟩
  | swap first second rest =>
    intro files h
    obtain ⟨here, others, hhere, hothers, rfl⟩ := unitFilesIn_cons_eq_ok_iff.mp h
    obtain ⟨next, last, hnext, hlast, rfl⟩ := unitFilesIn_cons_eq_ok_iff.mp hothers
    have swapped := unitFilesIn_cons_eq_ok_iff.mpr ⟨here, last, hhere, hlast, rfl⟩
    refine ⟨_, unitFilesIn_cons_eq_ok_iff.mpr ⟨next, _, hnext, swapped, rfl⟩, ?_⟩
    rw [← List.append_assoc, ← List.append_assoc]
    exact List.perm_append_comm.append_right _
  | trans _ _ ih ih' =>
    intro files h
    obtain ⟨middle, hmiddle, perm⟩ := ih h
    obtain ⟨files', hfiles', perm'⟩ := ih' hmiddle
    exact ⟨files', hfiles', perm.trans perm'⟩

theorem unitFilesIn_inside {after : List (String × Listing)} {name : String}
    {listing listing' : Listing}
    (same : ∀ {path files}, unitFiles path listing = .ok files →
      ∃ files', unitFiles path listing' = .ok files' ∧ files.Perm files') :
    ∀ {before : List (String × Listing)} {files : List (List String)},
      unitFilesIn path (before ++ (name, listing) :: after) = .ok files →
        ∃ files', unitFilesIn path (before ++ (name, listing') :: after) = .ok files' ∧
          files.Perm files' := by
  intro before
  induction before with
  | nil =>
    intro files h
    obtain ⟨here, others, hhere, hothers, rfl⟩ := unitFilesIn_cons_eq_ok_iff.mp h
    obtain ⟨here', hhere', perm⟩ := same hhere
    exact ⟨_, unitFilesIn_cons_eq_ok_iff.mpr ⟨here', others, hhere', hothers, rfl⟩,
      (perm.map _).append_right _⟩
  | cons entry before ih =>
    intro files h
    obtain ⟨here, others, hhere, hothers, rfl⟩ := unitFilesIn_cons_eq_ok_iff.mp h
    obtain ⟨others', hothers', perm⟩ := ih hothers
    exact ⟨_, unitFilesIn_cons_eq_ok_iff.mpr ⟨here, others', hhere, hothers', rfl⟩,
      perm.append_left _⟩

/-- A walk that comes to its end finds the same files in whatever order it meets them. -/
theorem Reordered.unitFiles_perm {listing listing' : Listing} (h : Reordered listing listing') :
    ∀ {path files}, unitFiles path listing = .ok files →
      ∃ files', unitFiles path listing' = .ok files' ∧ files.Perm files' := by
  induction h with
  | refl listing => exact fun h => ⟨_, h, .refl _⟩
  | entries perm =>
    intro path files h
    rw [unitFiles] at h ⊢
    exact unitFilesIn_perm perm h
  | inside _ ih =>
    intro path files h
    rw [unitFiles] at h ⊢
    exact unitFilesIn_inside ih h
  | trans _ _ ih ih' =>
    intro path files h
    obtain ⟨middle, hmiddle, perm⟩ := ih h
    obtain ⟨files', hfiles', perm'⟩ := ih' hmiddle
    exact ⟨files', hfiles', perm.trans perm'⟩

/-- The walk ends with what it finds, in order. -/
theorem unitPaths_of_perm {listing : Listing} {sorted : List (List String)}
    (found : unitFiles path listing = .ok files) (perm : files.Perm sorted)
    (order : sorted.Pairwise (Path.precedes · ·)) :
    listing.unitPaths path = .ok (sorted.map (Path.below path)) := by
  rw [unitPaths, found]
  simp only [bind, Except.bind, Path.mergeSort_precedes_eq_of_perm perm,
    List.mergeSort_of_pairwise order]
  rfl

/-- Once they are sorted, the order in which they were met does not show. -/
theorem Reordered.unitPaths_eq {listing listing' : Listing} (h : Reordered listing listing')
    {paths : List String} (walked : listing.unitPaths path = .ok paths) :
    listing'.unitPaths path = .ok paths := by
  cases found : unitFiles path listing with
  | error e => rw [unitPaths, found] at walked; cases walked
  | ok files =>
    obtain ⟨files', found', perm⟩ := h.unitFiles_perm found
    rw [unitPaths, found] at walked
    rw [unitPaths, found', ← walked]
    simp only [bind, Except.bind, Path.mergeSort_precedes_eq_of_perm perm]

end Reordering

/-! ### What a walk finds -/

/-- The walk comes to its end and finds each file with a unit's path once, and nothing else. -/
def Found (path : String) (listing : Listing) : Prop :=
  ∃ files, unitFiles path listing = .ok files ∧ files.Nodup ∧
    ∀ names, names ∈ files ↔
      listing.HasFile names ∧ isUnitPath (Path.below path names) = true

theorem found_file (path : String) : Found path .file := by
  refine ⟨_, rfl, ?_, fun names => ?_⟩
  · split <;> simp
  · constructor
    · intro mem
      split at mem
      next unit =>
        obtain rfl := List.mem_singleton.mp mem
        exact ⟨.file, unit⟩
      · cases mem
    · rintro ⟨⟨⟩, unit⟩
      rw [if_pos (show isUnitPath path = true from unit)]
      exact List.mem_singleton_self _

/-- What the walk passes over holds no file. -/
theorem found_nothing {path : String} {listing : Listing}
    (passed : unitFiles path listing = .ok []) (empty : ∀ names, ¬ listing.HasFile names) :
    Found path listing :=
  ⟨[], passed, .nil, fun names => ⟨nofun, fun h => absurd h.1 (empty names)⟩⟩

theorem unitFilesIn_exact {path : String} : ∀ {entries : List (String × Listing)},
    (∀ e ∈ entries, Found (Path.join path e.1) e.2) → (entries.map Prod.fst).Nodup →
      ∃ files, unitFilesIn path entries = .ok files ∧ files.Nodup ∧ ∀ names, names ∈ files ↔
        (Listing.directory entries).HasFile names ∧ isUnitPath (Path.below path names) = true
  | [], _, _ => by
    refine ⟨[], rfl, .nil, fun names => ?_⟩
    simp [hasFile_directory_iff]
  | (name, listing) :: rest, found, distinct => by
    obtain ⟨fresh, distinct⟩ := List.nodup_cons.mp distinct
    obtain ⟨here, hhere, hereNodup, hereMem⟩ := found _ List.mem_cons_self
    obtain ⟨others, hothers, othersNodup, othersMem⟩ :=
      unitFilesIn_exact (fun e he => found e (List.mem_cons_of_mem _ he)) distinct
    refine ⟨_, unitFilesIn_cons_eq_ok_iff.mpr ⟨here, others, hhere, hothers, rfl⟩, ?_, ?_⟩
    · refine (hereNodup.map List.cons_injective).append othersNodup ?_
      -- what is found in the other entries starts with another name
      intro names inHere inOthers
      obtain ⟨tail, _, rfl⟩ := List.mem_map.mp inHere
      obtain ⟨_, _, _, mem, _, same⟩ := hasFile_directory_iff.mp ((othersMem _).mp inOthers).1
      obtain ⟨rfl, -⟩ := List.cons.inj same
      exact fresh (List.mem_map.mpr ⟨_, mem, rfl⟩)
    · intro names
      rw [List.mem_append, List.mem_map, othersMem, hasFile_directory_iff, hasFile_directory_iff]
      constructor
      · rintro (⟨tail, mem, rfl⟩ | ⟨⟨other, inner, tail, mem, h, rfl⟩, unit⟩)
        · obtain ⟨h, unit⟩ := (hereMem tail).mp mem
          exact ⟨⟨name, listing, tail, List.mem_cons_self, h, rfl⟩, unit⟩
        · exact ⟨⟨other, inner, tail, List.mem_cons_of_mem _ mem, h, rfl⟩, unit⟩
      · rintro ⟨⟨other, inner, tail, mem, h, rfl⟩, unit⟩
        rcases List.mem_cons.mp mem with same | mem
        · obtain ⟨rfl, rfl⟩ := Prod.mk.inj same
          exact .inl ⟨tail, (hereMem tail).mpr ⟨h, unit⟩, rfl⟩
        · exact .inr ⟨⟨other, inner, tail, mem, h, rfl⟩, unit⟩

theorem Proper.found {listing : Listing} (h : listing.Proper) : ∀ path, Found path listing := by
  induction h with
  | file => exact found_file
  | link => exact fun _ => found_nothing rfl nofun
  | special => exact fun _ => found_nothing rfl nofun
  | directory _ distinct _ ih =>
    intro path
    rw [Found, unitFiles]
    exact unitFilesIn_exact (fun e he => ih e he _) distinct

/-! ### Units -/

section Units

variable {path : String} {listing : Listing} {paths paths' : List String}

theorem UnitsBelow.unique (h : listing.UnitsBelow path paths)
    (h' : listing.UnitsBelow path paths') : paths = paths' :=
  h.sorted.eq_of_mem_iff h'.sorted fun p => (h.mem_iff p).trans (h'.mem_iff p).symm

theorem Proper.exists_unitsBelow (proper : listing.Proper) (path : String) :
    ∃ paths, listing.unitPaths path = .ok paths ∧ listing.UnitsBelow path paths := by
  obtain ⟨files, walked, nodup, exact⟩ := proper.found path
  have isName : ∀ names ∈ files.mergeSort Path.precedes, ∀ name ∈ names, Path.IsName name :=
    fun names mem => ((exact names).mp (List.mem_mergeSort.mp mem)).1.isName proper
  refine ⟨(files.mergeSort Path.precedes).map (Path.below path), ?_, fun p => ?_, ?_⟩
  · rw [unitPaths, walked]
    rfl
  · rw [List.mem_map]
    refine exists_congr fun names => ?_
    rw [List.mem_mergeSort, exact, isUnitPath_iff, eq_comm (a := p), and_assoc]
    exact and_congr_right fun _ => ⟨fun ⟨unit, same⟩ => ⟨same, same ▸ unit⟩,
      fun ⟨same, unit⟩ => ⟨same ▸ unit, same⟩⟩
  · rw [List.pairwise_map]
    refine (Path.pairwise_lex_mergeSort nodup).imp_of_mem fun ha hb before => ?_
    rw [Path.Before, Path.names_below (isName _ ha), Path.names_below (isName _ hb)]
    exact List.Lex.append_left _ before _

/-- The walk through a proper tree ends with exactly its units, sorted. -/
theorem Proper.unitPaths_eq_ok_iff (proper : listing.Proper) :
    listing.unitPaths path = .ok paths ↔ listing.UnitsBelow path paths := by
  obtain ⟨found, walked, units⟩ := proper.exists_unitsBelow path
  rw [walked, Except.ok.injEq]
  exact ⟨fun same => same ▸ units, units.unique⟩

theorem extension?_below_iff (path : String) {names : List String}
    (isName : ∀ name ∈ names, Path.IsName name) (nonempty : names ≠ []) :
    Path.extension? (Path.below path names) = some "json" ↔
      ∃ above stem, stem ≠ "" ∧ names = above ++ [stem ++ ".json"] := by
  obtain ⟨above, name, rfl⟩ := (List.eq_nil_or_concat' names).resolve_left nonempty
  have hname : Path.IsName name := isName name (by simp)
  have last :
      Path.names (Path.below path (above ++ [name])) = Path.names path ++ above ++ [name] := by
    rw [Path.names_below isName, List.append_assoc]
  have extension : Path.extension? (Path.below path (above ++ [name])) = some "json" ↔
      Path.extensionOf? name.toList = some "json".toList := by
    rw [Path.extension?_of_names last hname.not_above, Option.map_eq_some_iff]
    constructor
    · rintro ⟨cs, h, same⟩
      rw [h, ← same, String.toList_ofList]
    · intro h
      exact ⟨_, h, String.ofList_toList⟩
  rw [extension, Path.extensionOf?_eq_some_iff]
  constructor
  · rintro ⟨-, stem, hstem, split⟩
    have text : name = String.ofList stem ++ ".json" := by
      rw [← String.toList_inj, split]
      simp
    exact ⟨above, String.ofList stem, by simpa using hstem, by rw [text]⟩
  · rintro ⟨above', stem, hstem, same⟩
    obtain ⟨-, last⟩ := List.append_inj' same rfl
    obtain rfl := List.singleton_inj.mp last
    exact ⟨by decide, stem.toList, by simpa using hstem, by simp [String.toList_append]⟩

theorem HasFile.ne_nil {entries : List (String × Listing)} {names : List String}
    (h : (Listing.directory entries).HasFile names) : names ≠ [] := by
  obtain ⟨_, _, _, -, -, rfl⟩ := hasFile_directory_iff.mp h
  exact List.cons_ne_nil _ _

end Units

/-- What a directory gives does not depend on the order in which anything is listed: the paths of
exactly the units below it, each standing before those behind it, and a failure iff there is
none. -/
theorem unitPaths_directory (path : String) (entries : List (String × Listing))
    (proper : (Listing.directory entries).Proper) :
    ∃ paths : List String,
      (∀ p, p ∈ paths ↔
        ∃ names, (Listing.directory entries).HasUnit names ∧ p = Path.below path names) ∧
      paths.Pairwise Path.Before ∧
      ∀ listing, Reordered (.directory entries) listing →
        (Look.directory listing).unitPaths path =
          if paths = [] then .error { message := s!"No .json program units found in '{path}'" }
          else .ok paths := by
  obtain ⟨paths, walked, units⟩ := proper.exists_unitsBelow path
  refine ⟨paths, fun p => (units.mem_iff p).trans (exists_congr fun names => ?_), units.sorted, ?_⟩
  · rw [HasUnit, and_assoc]
    refine and_congr_right fun h => ?_
    rw [← extension?_below_iff path (h.isName proper) h.ne_nil, and_comm]
    exact and_congr_left fun same => by rw [same]
  · intro listing reordered
    simp only [Look.unitPaths, reordered.unitPaths_eq walked, bind, Except.bind, List.isEmpty_iff]

/-- A directory with two units, one of them in a directory that is named like a unit, a link and a
pipe that are named like one, and a file that is none. -/
def mixedEntries : List (String × Listing) :=
  [("b.json", .file), ("a.json", .directory [("link.json", .link), ("z.json", .file)]),
    ("pipe.json", .special), ("notes.txt", .file)]

/-- The units are the same two in whatever order they are met. -/
theorem unitPaths_directory_mixed :
    let paths := ["d/a.json/z.json", "d/b.json"]
    (Listing.directory mixedEntries).Proper ∧
      (∀ p, p ∈ paths ↔
        ∃ names, (Listing.directory mixedEntries).HasUnit names ∧ p = Path.below "d" names) ∧
      paths.Pairwise Path.Before ∧
      ∀ listing, Reordered (.directory mixedEntries) listing →
        (Look.directory listing).unitPaths "d" = .ok paths := by
  intro paths
  have proper : (Listing.directory mixedEntries).Proper := by
    refine .directory (by decide) (by decide) ?_
    simp only [mixedEntries, List.forall_mem_cons, List.not_mem_nil, false_implies,
      implies_true, and_true]
    exact ⟨.file, .directory (by decide) (by decide) (by simp [Proper.link, Proper.file]), .special,
      .file⟩
  have files : unitFiles "d" (.directory mixedEntries) =
    .ok [["b.json"], ["a.json", "z.json"]] := by decide +kernel
  have walked : (Look.directory (.directory mixedEntries)).unitPaths "d" = .ok paths := by
    rw [Look.unitPaths, unitPaths_of_perm files (.swap ["a.json", "z.json"] _ _) (by decide)]
    rfl
  obtain ⟨found, exact, sorted, ends⟩ := unitPaths_directory "d" mixedEntries proper
  obtain rfl : found = paths := by
    rw [ends _ (.refl _)] at walked
    split at walked
    · cases walked
    · exact Except.ok.inj walked
  exact ⟨proper, exact, sorted, ends⟩

end Listing

end PaginationLint
