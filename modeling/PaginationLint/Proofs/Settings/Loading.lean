import PaginationLint.Proofs.Command.Program
import PaginationLint.Proofs.Settings.Decoding
import PaginationLint.Proofs.Wire.Texts

/-!
Settings in files.

A host gives its settings as a value or names a file with a text of it. The main statement compares
the two: whichever text of a value a `.json` file holds, it is taken if the value is, and as the
same settings. Only `null` is told apart: as a value it stands for the defaults, in a file it is
refused.
-/

namespace PaginationLint.Settings

open Wire

variable {ρ : Type} [MonadDisk (ReaderM ρ)] (disk : ρ) {path text : String} {v : Json}
  {s : Settings}

/-- The settings of the file at a path. -/
def loadAt (path : String) : Except ConfigError Settings :=
  (load path : ReaderM ρ (Except ConfigError Settings)).run disk

variable {disk}

theorem loadAt_json (readable : readAt disk path = .ok text)
    (json : Path.extension? path = some "json") :
    loadAt disk path = (ofText text).mapError .decode := by
  have answer : (MonadDisk.read path : ReaderM ρ (Except ReadError String)).run disk = .ok text :=
    readable
  rw [loadAt, load, run_bind, answer]
  simp only [ofFile, json]
  rfl

/-- Settings hold no numbers, so a text of them is taken as they are. -/
theorem readsAlike_settings : (Codec.shape Settings).ReadsAlike := by
  refine readsAlike_record rfl fun f hf => ?_
  rcases List.mem_pair.mp hf with rfl | rfl
  · exact readsAlike_list readsAlike_text
  · exact readsAlike_flag

theorem loadAt_eq_ok_iff (readable : readAt disk path = .ok text)
    (json : Path.extension? path = some "json") (written : v.Written text.toList)
    (nested : v.depth ≤ maxDepth) :
    loadAt disk path = .ok s ↔ (ofValue v : Except DecodeError Settings) = .ok s := by
  rw [loadAt_json readable json, mapError_eq_ok_iff,
    ofText_eq_ok_iff readsAlike_settings written nested]

/-- A file with a text of `null` is refused. -/
theorem loadAt_null (readable : readAt disk path = .ok text)
    (json : Path.extension? path = some "json") (written : Json.null.Written text.toList) :
    loadAt disk path = .error (.decode (.problem (.wrongType .null (.record .settings)))) := by
  obtain ⟨d, shows, whole⟩ := Document.ofText_of_written written (Nat.zero_le _)
  cases shows
  rw [loadAt_json readable json, ofText, decodeText, whole]
  rfl

/-- Every value has a text, and whichever of its texts a `.json` file holds, the file is taken if the
value is, and as the same settings. A text of `null` is refused, though the value is not. -/
theorem loadAt_ok_iff_decode (nested : v.depth ≤ maxDepth) :
    v.Written v.compact.toList ∧
      ∀ (disk : ρ) (path text : String), readAt disk path = .ok text →
        Path.extension? path = some "json" → v.Written text.toList →
          (v ≠ .null → ∀ s, loadAt disk path = .ok s ↔ decode v = .ok s) ∧
            (v = .null → decode v = .ok {} ∧ loadAt disk path =
              .error (.decode (.problem (.wrongType .null (.record .settings))))) := by
  refine ⟨v.written_compact, fun disk path text readable json written => ⟨?_, ?_⟩⟩
  · intro other s
    rw [loadAt_eq_ok_iff readable json written nested, ofValue_eq_ok_iff, decode_eq_ok_iff other]
  · rintro rfl
    exact ⟨rfl, loadAt_null readable json written⟩

/-! ### Two files -/

/-- Settings with both keys. -/
def bothSettings : Json :=
  .object [("custom-fields", nameList ["MyToken"]), ("include-tests", .bool true)]

/-- A text of these settings with blanks and an escape, the second setting first. -/
def looseText : String :=
  "\x7b \"include-tests\": true,\n \"custom-fields\": [\"My\\u0054oken\"]\x7d"

theorem written_looseText : bothSettings.Written looseText.toList := by
  have blank : Json.IsBlank [' '] := by simp [Json.IsBlank, Token.isBlank]
  have newline : Json.IsBlank ['\n', ' '] := by simp [Json.IsBlank, Token.isBlank]
  have name : Quoted.Spelled "MyToken".toList "My\\u0054oken".toList :=
    .plain (by decide) (by decide) (by decide) (.plain (by decide) (by decide) (by decide)
      (.code (n := 0x54) rfl rfl rfl (Quoted.spelled_encode "oken".toList)))
  have tests : Json.WrittenKey "include-tests" " \"include-tests\"".toList :=
    .mk blank (Quoted.spelled_encode _) Json.isBlank_nil
  have fields : Json.WrittenKey "custom-fields" "\n \"custom-fields\"".toList :=
    .mk newline (Quoted.spelled_encode _) Json.isBlank_nil
  have given : (Json.bool true).Written " true".toList := .padded blank .yes Json.isBlank_nil
  have names : (nameList ["MyToken"]).Written " [\"My\\u0054oken\"]".toList :=
    .padded blank (.array (.one (.string name))) Json.isBlank_nil
  exact .object (.swap _ _ _) (.more tests given (.one fields names))

/-- A tree with these settings and with a text of `null`. -/
def settingsFiles : FileTree :=
  .directory [("loose.json", .file looseText.toUTF8), ("null.json", .file "null".toUTF8)]

theorem readAt_loose : readAt settingsFiles "loose.json" = .ok looseText :=
  readAt_of_find (FileTree.find_of_get? ["loose.json"] (by decide) rfl nofun)

theorem readAt_null : readAt settingsFiles "null.json" = .ok "null" :=
  readAt_of_find (FileTree.find_of_get? ["null.json"] (by decide) rfl nofun)

theorem loadAt_ok_iff_decode_loose :
    bothSettings.depth ≤ maxDepth ∧ readAt settingsFiles "loose.json" = .ok looseText ∧
      Path.extension? "loose.json" = some "json" ∧ bothSettings.Written looseText.toList ∧
        loadAt settingsFiles "loose.json" = .ok ⟨["MyToken"], true⟩ := by
  have nested : bothSettings.depth ≤ maxDepth := by decide
  have json : Path.extension? "loose.json" = some "json" := by decide
  have taken : decode bothSettings = .ok ⟨["MyToken"], true⟩ := by decide
  refine ⟨nested, readAt_loose, json, written_looseText, ?_⟩
  have agree := ((loadAt_ok_iff_decode nested).2 _ _ _ readAt_loose json written_looseText).1
  exact (agree (by simp [bothSettings]) _).mpr taken

/-- `null` is taken as a value, but not from a file. -/
theorem loadAt_null_refused :
    decode .null = .ok {} ∧ Json.null.compact = "null" ∧
      loadAt settingsFiles "null.json" =
        .error (.decode (.problem (.wrongType .null (.record .settings)))) :=
  ⟨rfl, rfl, loadAt_null readAt_null (by decide) .null⟩

end PaginationLint.Settings
