import Mathlib.Data.List.Forall2
import PaginationLint.Json.Document
import PaginationLint.Json.Printer
import PaginationLint.Proofs.Json.Spelling

/-!
The texts of a value, and what is read from them.

`Json.Written` is the grammar of JSON: a value is written with blanks around its parts, with any
spelling of its literals and with the members of its objects in any order. The main statements say
that every value has such a text, its compact one, and that a text of a value is read to its end and
without a fault, as a draft of that value.
-/

namespace PaginationLint

open List (Forall₂)

/-! ### Texts of a value -/

namespace Json

mutual

/-- Number of brackets that are nested in a value. -/
def depth : Json → Nat
  | .array items => depthItems items + 1
  | .object members => depthMembers members + 1
  | _ => 0

/-- Number of brackets that are nested in one of the items. -/
def depthItems : List Json → Nat
  | [] => 0
  | v :: vs => max v.depth (depthItems vs)

/-- Number of brackets that are nested in one of the members. -/
def depthMembers : List (String × Json) → Nat
  | [] => 0
  | (_, v) :: ms => max v.depth (depthMembers ms)

end

/-- Blanks, or nothing. -/
def IsBlank (cs : List Char) : Prop := ∀ c ∈ cs, Token.isBlank c

/-- A text of a key: a literal with blanks around it. -/
inductive WrittenKey (key : String) : List Char → Prop
  | mk {before cs after : List Char} (hb : IsBlank before)
    (spelled : Quoted.Spelled key.toList cs) (ha : IsBlank after) :
    WrittenKey key (before ++ '"' :: (cs ++ '"' :: after))

mutual

/-- A text of a value. A number may be written as any numeral, so that what holds of every text of a
value holds however numerals are rounded. -/
inductive Written : Json → List Char → Prop
  | null : Written .null ['n', 'u', 'l', 'l']
  | yes : Written (.bool true) ['t', 'r', 'u', 'e']
  | no : Written (.bool false) ['f', 'a', 'l', 's', 'e']
  | number (n : Number) {cs : List Char} (spelled : Numeral.Spelled cs) : Written (.number n) cs
  | string {s : String} {cs : List Char} (spelled : Quoted.Spelled s.toList cs) :
    Written (.string s) ('"' :: (cs ++ ['"']))
  | array {items : List Json} {cs : List Char} (written : WrittenItems items cs) :
    Written (.array items) ('[' :: (cs ++ [']']))
  | object {members listed : List (String × Json)} {cs : List Char} (same : members.Perm listed)
    (written : WrittenMembers listed cs) : Written (.object members) ('\x7b' :: (cs ++ ['\x7d']))
  | padded {v : Json} {before cs after : List Char} (hb : IsBlank before) (written : Written v cs)
    (ha : IsBlank after) : Written v (before ++ (cs ++ after))

/-- A text of the items of an array. -/
inductive WrittenItems : List Json → List Char → Prop
  | none {cs : List Char} (blank : IsBlank cs) : WrittenItems [] cs
  | one {v : Json} {cs : List Char} (first : Written v cs) : WrittenItems [v] cs
  | more {v w : Json} {vs : List Json} {cs cs' : List Char} (first : Written v cs)
    (rest : WrittenItems (w :: vs) cs') : WrittenItems (v :: w :: vs) (cs ++ ',' :: cs')

/-- A text of the members of an object. -/
inductive WrittenMembers : List (String × Json) → List Char → Prop
  | none {cs : List Char} (blank : IsBlank cs) : WrittenMembers [] cs
  | one {k : String} {v : Json} {ks cs : List Char} (key : WrittenKey k ks)
    (first : Written v cs) : WrittenMembers [(k, v)] (ks ++ ':' :: cs)
  | more {k : String} {v : Json} {m : String × Json} {ms : List (String × Json)}
    {ks cs cs' : List Char} (key : WrittenKey k ks) (first : Written v cs)
    (rest : WrittenMembers (m :: ms) cs') :
    WrittenMembers ((k, v) :: m :: ms) (ks ++ ':' :: (cs ++ ',' :: cs'))

end

/-! ### Compact texts -/

theorem isBlank_nil : IsBlank [] := by simp [IsBlank]

theorem writtenKey_literal (k : String) : WrittenKey k (Quoted.literal k) :=
  .mk isBlank_nil (Quoted.spelled_encode k.toList) isBlank_nil

mutual

theorem written_print : ∀ v : Json, Written v v.print
  | .null => .null
  | .bool true => .yes
  | .bool false => .no
  | .number n => .number n n.spelled_render
  | .string s => .string (Quoted.spelled_encode s.toList)
  | .array items => .array (written_printItems items)
  | .object members => .object (.refl _) (written_printMembers members)

theorem written_printItems : ∀ items : List Json, WrittenItems items (printItems items)
  | [] => .none isBlank_nil
  | [v] => .one (written_print v)
  | v :: w :: vs => .more (written_print v) (written_printItems (w :: vs))

theorem written_printMembers : ∀ members : List (String × Json),
    WrittenMembers members (printMembers members)
  | [] => .none isBlank_nil
  | [(k, v)] => .one (writtenKey_literal k) (written_print v)
  | (k, v) :: m :: ms => by
    have rest := written_printMembers (m :: ms)
    simpa [printMembers] using WrittenMembers.more (writtenKey_literal k) (written_print v) rest

end

/-- Every value has a text: its compact one. -/
theorem written_compact (v : Json) : v.Written v.compact.toList := by
  rw [compact, String.toList_ofList]
  exact v.written_print

end Json

/-! ### Tokens of a text -/

namespace Token

variable {cs rest : List Char}

theorem scan_blank {before : List Char} (h : Json.IsBlank before) :
    scan (before ++ cs) = scan cs := by
  induction before with
  | nil => rfl
  | cons c before ih =>
    rw [List.cons_append, scan, if_pos (h c List.mem_cons_self)]
    exact ih fun c hc => h c (List.mem_cons_of_mem _ hc)

theorem scan_token {c : Char} (h : isBlank c = false) :
    scan (c :: rest) = (scanOne c rest).1 :: scan (scanOne c rest).2 := by
  rw [scan, h]
  rfl

theorem scan_literal {s : String} (h : Quoted.Spelled s.toList cs) :
    scan ('"' :: (cs ++ '"' :: rest)) = .text (.ok s) none :: scan rest := by
  rw [scan_token (by decide), scanOne, scanText, h.scan_eq]
  simp

theorem takeWord_append (word : List Char) : takeWord word (word ++ rest) = .ok rest := by
  induction word with
  | nil => rfl
  | cons c word ih => rw [List.cons_append, takeWord, if_pos rfl, ih]

theorem scan_word {c : Char} {word : List Char} {d : Draft} (start : isBlank c = false)
    (one : scanOne c = scanWord word d) : scan (c :: word ++ rest) = .scalar d :: scan rest := by
  rw [List.cons_append, scan_token start, one, scanWord, takeWord_append]

theorem scanOne_numeral {c : Char} (h : c = '-' ∨ c.isDigit) :
    scanOne c rest = scanNumber (c :: rest) := by
  unfold scanOne
  split <;> simp_all

theorem isBlank_numeral {c : Char} (h : c = '-' ∨ c.isDigit) : isBlank c = false := by
  simp only [isBlank, Bool.or_eq_false_iff, beq_eq_false_iff_ne]
  refine ⟨⟨⟨?_, ?_⟩, ?_⟩, ?_⟩ <;> rintro rfl <;> simp at h

theorem ends_blank {before : List Char} (h : Json.IsBlank before) (stop : Numeral.Ends rest) :
    Numeral.Ends (before ++ rest) := by
  cases before with
  | nil => exact stop
  | cons c before =>
    have blank := h c List.mem_cons_self
    simp only [isBlank, Bool.or_eq_true, beq_iff_eq] at blank
    rcases blank with ((rfl | rfl) | rfl) | rfl <;> simp [Numeral.Ends]

end Token

/-! ### Drafts of a value -/

namespace Draft

/-- The members of a draft are those of a list, with values that are related. -/
inductive Named (R : Draft → Json → Prop) :
    List (Option String × Draft) → List (String × Json) → Prop
  | nil : Named R [] []
  | cons {key : String} {d : Draft} {v : Json} {ds : List (Option String × Draft)}
    {ms : List (String × Json)} (first : R d v) (rest : Named R ds ms) :
    Named R ((some key, d) :: ds) ((key, v) :: ms)

/-- A draft that shows all of a value, up to the order of members and to what its numbers are: some
of them may be too large to be read. -/
inductive Shows : Draft → Json → Prop
  | null : Shows .null .null
  | bool (b : Bool) : Shows (.bool b) (.bool b)
  | string (s : String) : Shows (.string s) (.string s)
  | number (m n : Number) : Shows (.number m) (.number n)
  | large (n : Number) : Shows (.unreadable .malformed none) (.number n)
  | array {items : List Draft} {vs : List Json} (each : Forall₂ Shows items vs) :
    Shows (.array items none) (.array vs)
  | object {members : List (Option String × Draft)} {ms listed : List (String × Json)}
    (same : ms.Perm listed) (each : Named Shows members listed) :
    Shows (.object members none) (.object ms)

end Draft

open Token Json Draft
open Numeral (Ends)

variable {cs rest : List Char}

theorem scan_number (n : Number) (h : Numeral.Spelled cs) (stop : Ends rest) :
    ∃ d, Shows d (.number n) ∧ d.passingFault = none ∧
      scan (cs ++ rest) = .scalar d :: scan rest := by
  obtain ⟨m, scanned⟩ := h.scan_eq stop
  obtain ⟨c, cs, rfl, first⟩ := h.exists_cons
  rw [List.cons_append] at scanned
  rw [List.cons_append, scan_token (isBlank_numeral first), scanOne_numeral first, scanNumber,
    scanned]
  dsimp only
  split
  next x _ => exact ⟨.number x, .number x n, by simp [passingFault], rfl⟩
  · exact ⟨.unreadable .malformed none, .large n, by simp [passingFault], rfl⟩

namespace Document

/-- What is read after a step. -/
def resume (tokens : List Token) : Step → Document
  | .go frames expected => read frames expected tokens
  | .complete root => ⟨root, !tokens.isEmpty⟩
  | .broken root => ⟨root, false⟩

theorem read_cons (frames : List Frame) (expected : Expected) (token : Token)
    (tokens : List Token) :
    read frames expected (token :: tokens) = resume tokens (Step.ofToken frames expected token) := by
  rw [read]
  cases Step.ofToken frames expected token <;> rfl

/-- A place where a value may stand. -/
def Expected.TakesValue (expected : Expected) : Prop := expected = .value ∨ expected = .firstItem

/-- What a text of a value has to be for who reads it, wherever the value stands: a draft of the
value is added there. -/
def Reads (v : Json) (cs : List Char) : Prop :=
  ∀ (frames : List Frame) (expected : Expected) (rest : List Char),
    frames.length + v.depth ≤ maxDepth → expected.TakesValue → Ends rest →
      ∃ d, Shows d v ∧
        read frames expected (scan (cs ++ rest)) = resume (scan rest) (Step.add d frames)

/-- The same for the items of an array, up to its end. -/
def ReadsItems (vs : List Json) (cs : List Char) : Prop :=
  ∀ (frames : List Frame) (items : List Draft) (expected : Expected) (rest : List Char),
    frames.length + 1 + depthItems vs ≤ maxDepth →
      (expected = .firstItem ∨ expected = .value ∧ vs ≠ []) →
        ∃ ds, Forall₂ Shows ds vs ∧
          read (.array items :: frames) expected (scan (cs ++ ']' :: rest)) =
            resume (scan rest) (Step.close (.array (ds.reverse ++ items) :: frames))

/-- The same for the members of an object, up to its end. -/
def ReadsMembers (ms : List (String × Json)) (cs : List Char) : Prop :=
  ∀ (frames : List Frame) (members : List (Option String × Draft)) (expected : Expected)
    (rest : List Char), frames.length + 1 + depthMembers ms ≤ maxDepth →
      (expected = .firstKey ∨ expected = .key ∧ ms ≠ []) →
        ∃ ds, Named Shows ds ms ∧
          read (.object members none :: frames) expected (scan (cs ++ '\x7d' :: rest)) =
            resume (scan rest) (Step.close (.object (ds.reverse ++ members) none :: frames))

/-- A single token that stands for a value. -/
theorem read_single {frames : List Frame} {expected : Expected} {token : Token} {d : Draft}
    {tokens : List Token} (takes : expected.TakesValue)
    (single : Step.value frames token = Step.add d frames) (other : token ≠ .closeArray) :
    read frames expected (token :: tokens) = resume tokens (Step.add d frames) := by
  rw [read_cons, ← single]
  rcases takes with rfl | rfl
  · rfl
  · cases token <;> first | rfl | exact absurd rfl other

/-- A text that is scanned as one scalar. -/
theorem reads_scalar {v : Json} (h : ∀ rest, Ends rest → ∃ d, Shows d v ∧ d.passingFault = none ∧
    scan (cs ++ rest) = .scalar d :: scan rest) : Reads v cs := by
  intro frames expected rest _ takes stop
  obtain ⟨d, shows, passed, scanned⟩ := h rest stop
  refine ⟨d, shows, ?_⟩
  rw [scanned]
  exact read_single takes (by rw [Step.value, passed]) nofun

theorem reads_word {v : Json} {d : Draft} {c : Char} {word : List Char} (shows : Shows d v)
    (passed : d.passingFault = none) (start : isBlank c = false)
    (one : scanOne c = scanWord word d) : Reads v (c :: word) :=
  reads_scalar fun _ _ => ⟨d, shows, passed, scan_word start one⟩

theorem reads_number (n : Number) (h : Numeral.Spelled cs) : Reads (.number n) cs :=
  reads_scalar fun _ stop => scan_number n h stop

theorem reads_string {s : String} (h : Quoted.Spelled s.toList cs) :
    Reads (.string s) ('"' :: (cs ++ ['"'])) := by
  intro frames expected rest _ takes _
  refine ⟨.string s, .string s, ?_⟩
  rw [List.cons_append, List.append_assoc, List.singleton_append, scan_literal h]
  exact read_single takes rfl nofun

theorem reads_padded {v : Json} {before after : List Char} (hb : IsBlank before)
    (h : Reads v cs) (ha : IsBlank after) : Reads v (before ++ (cs ++ after)) := by
  intro frames expected rest nested takes stop
  obtain ⟨d, shows, same⟩ := h frames expected (after ++ rest) nested takes (ends_blank ha stop)
  refine ⟨d, shows, ?_⟩
  rw [List.append_assoc, scan_blank hb, List.append_assoc, same, scan_blank ha]

/-! ### Arrays -/

theorem reads_array {vs : List Json} (h : ReadsItems vs cs) :
    Reads (.array vs) ('[' :: (cs ++ [']'])) := by
  intro frames expected rest nested takes _
  rw [depth] at nested
  obtain ⟨ds, shows, same⟩ := h frames [] .firstItem rest (by omega) (.inl rfl)
  refine ⟨.array ds none, .array shows, ?_⟩
  have opened : Step.ofToken frames expected .openArray = .go (.array [] :: frames) .firstItem := by
    rcases takes with rfl | rfl <;> rfl
  -- the bound on the nesting is needed at the closing bracket: a deeper array would be given up
  rw [List.cons_append, scan_token (by decide), scanOne, read_cons, opened, resume,
    List.append_assoc, List.singleton_append, same, Step.close, Frame.finish,
    if_pos (by omega), Frame.close, List.append_nil, List.reverse_reverse]

theorem readsItems_none (blank : IsBlank cs) : ReadsItems [] cs := by
  intro frames items expected rest _ place
  obtain rfl : expected = .firstItem := by simpa using place
  refine ⟨[], .nil, ?_⟩
  rw [scan_blank blank, scan_token (by decide), scanOne, read_cons]
  rfl

/-- After an item comes a comma or the end of the array. -/
theorem read_item {v : Json} {c : Char} (h : Reads v cs) (frames : List Frame)
    (items : List Draft) {expected : Expected} (nested : frames.length + 1 + v.depth ≤ maxDepth)
    (takes : expected.TakesValue) (stop : Ends (c :: rest)) :
    ∃ d, Shows d v ∧
      read (.array items :: frames) expected (scan (cs ++ c :: rest)) =
        read (.array (d :: items) :: frames) .separator (scan (c :: rest)) :=
  h (.array items :: frames) expected (c :: rest) nested takes stop

theorem readsItems_one {v : Json} (first : Reads v cs) : ReadsItems [v] cs := by
  intro frames items expected rest nested place
  simp only [depthItems, Nat.max_zero] at nested
  have takes : expected.TakesValue := place.symm.imp And.left id
  have stop : Ends (']' :: rest) := by simp [Ends]
  obtain ⟨d, shows, same⟩ := read_item first frames items nested takes stop
  refine ⟨[d], .cons shows .nil, ?_⟩
  rw [same, scan_token (by decide), scanOne, read_cons]
  rfl

theorem readsItems_more {v w : Json} {vs : List Json} {cs' : List Char} (first : Reads v cs)
    (next : ReadsItems (w :: vs) cs') : ReadsItems (v :: w :: vs) (cs ++ ',' :: cs') := by
  intro frames items expected rest nested place
  rw [depthItems] at nested
  have takes : expected.TakesValue := place.symm.imp And.left id
  have stop : Ends (',' :: (cs' ++ ']' :: rest)) := by simp [Ends]
  obtain ⟨d, shows, same⟩ := read_item first frames items (by omega) takes stop
  obtain ⟨ds, shows', same'⟩ :=
    next frames (d :: items) .value rest (by omega) (.inr ⟨rfl, by simp⟩)
  refine ⟨d :: ds, .cons shows shows', ?_⟩
  rw [List.append_assoc, List.cons_append, same, scan_token (by decide), scanOne, read_cons,
    List.reverse_cons, List.append_assoc, List.singleton_append, ← same']
  rfl

/-! ### Objects -/

/-- A key and the colon after it are read. -/
theorem read_key {k : String} {ks : List Char} (h : WrittenKey k ks) {frames : List Frame}
    {members : List (Option String × Draft)} {expected : Expected}
    (place : expected = .key ∨ expected = .firstKey) :
    read (.object members none :: frames) expected (scan (ks ++ ':' :: rest)) =
      read (.object members (some k) :: frames) .value (scan rest) := by
  obtain ⟨hb, spelled, ha⟩ := h
  rw [List.append_assoc, scan_blank hb, List.cons_append, List.append_assoc, List.cons_append,
    scan_literal spelled, read_cons, scan_blank ha, scan_token (by decide), scanOne]
  rcases place with rfl | rfl <;> rfl

theorem depthMembers_perm {ms ms' : List (String × Json)} (h : ms.Perm ms') :
    depthMembers ms = depthMembers ms' := by
  induction h with
  | nil => rfl
  | cons m _ ih => rw [depthMembers, depthMembers, ih]
  | swap m m' ms => simp only [depthMembers, Nat.max_left_comm]
  | trans _ _ ih ih' => rw [ih, ih']

theorem reads_object {ms listed : List (String × Json)} (same : ms.Perm listed)
    (h : ReadsMembers listed cs) : Reads (.object ms) ('\x7b' :: (cs ++ ['\x7d'])) := by
  intro frames expected rest nested takes _
  rw [depth, depthMembers_perm same] at nested
  obtain ⟨ds, shows, eq⟩ := h frames [] .firstKey rest (by omega) (.inl rfl)
  refine ⟨.object ds none, .object same shows, ?_⟩
  have opened : Step.ofToken frames expected .openObject =
      .go (.object [] none :: frames) .firstKey := by
    rcases takes with rfl | rfl <;> rfl
  rw [List.cons_append, scan_token (by decide), scanOne, read_cons, opened, resume,
    List.append_assoc, List.singleton_append, eq, Step.close, Frame.finish,
    if_pos (by omega), Frame.close, List.append_nil, List.reverse_reverse]

theorem readsMembers_none (blank : IsBlank cs) : ReadsMembers [] cs := by
  intro frames members expected rest _ place
  obtain rfl : expected = .firstKey := by simpa using place
  refine ⟨[], .nil, ?_⟩
  rw [scan_blank blank, scan_token (by decide), scanOne, read_cons]
  rfl

/-- After a member comes a comma or the end of the object. -/
theorem read_member {k : String} {v : Json} {c : Char} {ks : List Char} (key : WrittenKey k ks)
    (h : Reads v cs) (frames : List Frame) (members : List (Option String × Draft))
    {expected : Expected} (nested : frames.length + 1 + v.depth ≤ maxDepth)
    (place : expected = .key ∨ expected = .firstKey) (stop : Ends (c :: rest)) :
    ∃ d, Shows d v ∧
      read (.object members none :: frames) expected (scan (ks ++ ':' :: (cs ++ c :: rest))) =
        read (.object ((some k, d) :: members) none :: frames) .separator (scan (c :: rest)) := by
  rw [read_key key place]
  exact h (.object members (some k) :: frames) .value (c :: rest) nested (.inl rfl) stop

theorem readsMembers_one {k : String} {v : Json} {ks : List Char} (key : WrittenKey k ks)
    (first : Reads v cs) : ReadsMembers [(k, v)] (ks ++ ':' :: cs) := by
  intro frames members expected rest nested place
  simp only [depthMembers, Nat.max_zero] at nested
  have place := place.symm.imp And.left id
  have stop : Ends ('\x7d' :: rest) := by simp [Ends]
  obtain ⟨d, shows, same⟩ := read_member key first frames members nested place stop
  refine ⟨[(some k, d)], .cons shows .nil, ?_⟩
  rw [List.append_assoc, List.cons_append, same, scan_token (by decide), scanOne, read_cons]
  rfl

theorem readsMembers_more {k : String} {v : Json} {m : String × Json} {ms : List (String × Json)}
    {ks cs' : List Char} (key : WrittenKey k ks) (first : Reads v cs)
    (next : ReadsMembers (m :: ms) cs') :
    ReadsMembers ((k, v) :: m :: ms) (ks ++ ':' :: (cs ++ ',' :: cs')) := by
  intro frames members expected rest nested place
  rw [depthMembers] at nested
  have place := place.symm.imp And.left id
  have stop : Ends (',' :: (cs' ++ '\x7d' :: rest)) := by simp [Ends]
  obtain ⟨d, shows, same⟩ := read_member key first frames members (by omega) place stop
  obtain ⟨ds, shows', same'⟩ :=
    next frames ((some k, d) :: members) .key rest (by omega) (.inr ⟨rfl, by simp⟩)
  refine ⟨(some k, d) :: ds, .cons shows shows', ?_⟩
  rw [List.append_assoc, List.cons_append, List.append_assoc, List.cons_append, same,
    scan_token (by decide), scanOne, read_cons, List.reverse_cons, List.append_assoc,
    List.singleton_append, ← same']
  rfl

/-! ### Whole texts -/

mutual

theorem reads_of_written {v : Json} {cs : List Char} : v.Written cs → Reads v cs
  | .null => reads_word .null (by simp [passingFault]) (by decide) rfl
  | .yes => reads_word (.bool true) (by simp [passingFault]) (by decide) rfl
  | .no => reads_word (.bool false) (by simp [passingFault]) (by decide) rfl
  | .number n spelled => reads_number n spelled
  | .string spelled => reads_string spelled
  | .array written => reads_array (readsItems_of_written written)
  | .object same written => reads_object same (readsMembers_of_written written)
  | .padded hb written ha => reads_padded hb (reads_of_written written) ha

theorem readsItems_of_written {vs : List Json} {cs : List Char} :
    WrittenItems vs cs → ReadsItems vs cs
  | .none blank => readsItems_none blank
  | .one first => readsItems_one (reads_of_written first)
  | .more first rest => readsItems_more (reads_of_written first) (readsItems_of_written rest)

theorem readsMembers_of_written {ms : List (String × Json)} {cs : List Char} :
    WrittenMembers ms cs → ReadsMembers ms cs
  | .none blank => readsMembers_none blank
  | .one key first => readsMembers_one key (reads_of_written first)
  | .more key first rest =>
    readsMembers_more key (reads_of_written first) (readsMembers_of_written rest)

end

/-- A text of a value that is not nested too deeply is read to its end, as a draft of the value. -/
theorem ofText_of_written {v : Json} {text : String} (written : v.Written text.toList)
    (nested : v.depth ≤ maxDepth) : ∃ d, Shows d v ∧ ofText text = ⟨d, false⟩ := by
  obtain ⟨d, shows, same⟩ := reads_of_written written [] .value [] (by simpa using nested) (.inl rfl)
    (by simp [Ends])
  refine ⟨d, shows, ?_⟩
  rw [List.append_nil] at same
  rw [ofText, same, scan]
  rfl

end Document

end PaginationLint
