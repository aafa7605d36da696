import PaginationLint.Proofs.Json.Written
import PaginationLint.Proofs.Wire.Reading
import PaginationLint.Wire.Codec

/-!
Values and their texts.

A value is decoded at hand, and its text as it is read. Where no number is asked for, the two agree:
whichever text of a value is decoded, it is taken if the value is, and as the same. The main
statement says so for every shape that is read alike; lists and records of such shapes are read
alike too.
-/

namespace PaginationLint.Wire

open List (Forall₂)
open Draft (Shows Named ofJson ofJsonItems ofJsonMembers)

variable {shape item : Shape} {kind : RecordKind} {d : Draft} {v : Json} {x : Datum}
  {fields : List FieldSpec}

/-- A shape is taken from a text of a value if it is taken from the value, and as the same. -/
def Shape.ReadsAlike (shape : Shape) : Prop :=
  ∀ (d : Draft) (v : Json), Shows d v →
    ∀ x, decode .text shape d = .ok x ↔ read .value shape v = .ok x

/-! ### Texts and flags -/

theorem readsAlike_text : Shape.text.ReadsAlike := by
  intro d v shows x
  cases shows <;> simp [read, ofJson, decode]

theorem readsAlike_flag : Shape.flag.ReadsAlike := by
  intro d v shows x
  cases shows <;> simp [read, ofJson, decode]

/-! ### Lists -/

theorem decodeItems_shows (alike : item.ReadsAlike) {items : List Draft} {vs : List Json}
    (each : Forall₂ Shows items vs) {xs : List Datum} :
    decodeItems .text item items = .ok xs ↔
      decodeItems .value item (ofJsonItems vs) = .ok xs := by
  induction each generalizing xs with
  | nil => rfl
  | cons first _ ih =>
    simp only [ofJsonItems, decodeItems, bind_eq_ok_iff, alike _ _ first, ih, read]

theorem readsAlike_list (alike : item.ReadsAlike) : (Shape.list item).ReadsAlike := by
  intro d v shows x
  cases shows with
  | array each =>
    simp only [read, ofJson, decode, bind_eq_ok_iff, decodeItems_shows alike each]
  | _ => simp [read, ofJson, decode]

/-! ### Records -/

theorem isNull_shows {f : FieldSpec} (shows : Shows d v) : f.isNull d = f.isNull (ofJson v) := by
  cases shows <;> simp [FieldSpec.isNull, ofJson]

theorem decodeFields_shows (alike : ∀ f ∈ fields, f.shape.ReadsAlike) {title : String}
    {count done : Nat} {items : List Draft} {vs : List Json} (each : Forall₂ Shows items vs)
    {xs : List Datum} :
    decodeFields .text title count fields done items none = .ok xs ↔
      decodeFields .value title count fields done (ofJsonItems vs) none = .ok xs := by
  induction each generalizing fields done xs with
  | nil => cases fields <;> simp [ofJsonItems, decodeFields]
  | cons first _ ih =>
    cases fields with
    | nil => simp [ofJsonItems, decodeFields]
    | cons f fs =>
      have head := alike f List.mem_cons_self
      have tail : ∀ g ∈ fs, g.shape.ReadsAlike := fun g hg => alike g (List.mem_cons_of_mem _ hg)
      rw [ofJsonItems, decodeFields, decodeFields, isNull_shows first]
      split <;> simp only [bind_eq_ok_iff, head _ _ first, read, ih tail]

theorem decodeMembers_shows (alike : ∀ f ∈ fields, f.shape.ReadsAlike)
    {members : List (Option String × Draft)} {ms : List (String × Json)}
    (each : Named Shows members ms) {found result : List (String × Datum)} :
    decodeMembers .text true fields found members = .ok result ↔
      decodeMembers .value true fields found (ofJsonMembers ms) = .ok result := by
  induction each generalizing found with
  | nil => simp [ofJsonMembers, decodeMembers]
  | @cons key d v _ _ first _ ih =>
    rw [ofJsonMembers, decodeMembers, decodeMembers]
    cases known : fields.find? fun f => f.key == key with
    -- a key that is no field is refused before its value is looked at
    | none => simp
    | some f =>
      have field := alike f (List.mem_of_find?_eq_some known)
      dsimp only
      rw [isNull_shows first]
      split
      · simp
      · split <;> simp only [bind_eq_ok_iff, field _ _ first, read, ih]

theorem readsAlike_record (closed : kind.isClosed = true)
    (alike : ∀ f ∈ kind.fields, f.shape.ReadsAlike) : (Shape.record kind).ReadsAlike := by
  intro d v shows x
  cases shows with
  | array each =>
    simp only [read, ofJson, decode, bind_eq_ok_iff, decodeFields_shows alike each]
  | @object members ms listed same each =>
    have inOrder : decode .text (.record kind) (.object members none) = .ok x ↔
        read .value (.record kind) (.object listed) = .ok x := by
      simp only [read, ofJson, decode, bind_eq_ok_iff, closed, decodeMembers_shows alike each]
    rw [inOrder, read_record_object_iff, read_record_object_iff]
    constructor
    · rintro ⟨xs, hold, rfl⟩
      exact ⟨xs, hold.perm same.symm, rfl⟩
    · rintro ⟨xs, hold, rfl⟩
      exact ⟨xs, hold.perm same, rfl⟩
  | _ => simp [read, ofJson, decode]

/-! ### Whole texts -/

/-- Whichever text of a value is decoded, it is taken as the value is. -/
theorem decodeText_eq_ok_iff (alike : shape.ReadsAlike) {text : String}
    (written : v.Written text.toList) (nested : v.depth ≤ maxDepth) :
    decodeText shape text = .ok x ↔ decodeValue shape v = .ok x := by
  obtain ⟨d, shows, whole⟩ := Document.ofText_of_written written nested
  rw [decodeText, whole, bind_eq_ok_iff]
  constructor
  · rintro ⟨y, decoded, same⟩
    obtain rfl : y = x := by simpa using same
    exact (alike d v shows y).mp decoded
  · intro decoded
    exact ⟨x, (alike d v shows x).mpr decoded, by simp⟩

theorem ofText_eq_ok_iff {α : Type} [Codec α] (alike : (Codec.shape α).ReadsAlike) {text : String}
    (written : v.Written text.toList) (nested : v.depth ≤ maxDepth) {a : α} :
    ofText text = .ok a ↔ ofValue v = .ok a := by
  simp only [ofText, ofValue, map_eq_ok_iff, decodeText_eq_ok_iff alike written nested]

end PaginationLint.Wire
