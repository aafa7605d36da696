import PaginationLint.Json.Token

/-!
From tokens to a document.

The containers that are still open form a list of frames, innermost first. Each token closes a
frame, opens one or adds to the innermost; the first token out of place ends the document, and
every open container keeps what it had. `Document.ofText` reads a text; `Json.ofText?` accepts the
texts without any fault and gives their value.
-/

namespace PaginationLint

/-- Greatest number of brackets that may be nested. -/
def maxDepth : Nat := 127

/-- A text as a document: its value, and whether more than blanks follows it. -/
structure Document where
  root : Draft
  trailing : Bool
  deriving Repr, Inhabited

/-- An open container: what it holds so far, latest first. -/
inductive Frame where
  | array (items : List Draft)
  /-- `key` is the key that waits for its value. -/
  | object (members : List (Option String × Draft)) (key : Option String)
  deriving Repr

namespace Frame

/-- The container of a frame and one more value in it. -/
def push (d : Draft) : Frame → Frame
  | .array items => .array (d :: items)
  | .object members key => .object ((key, d) :: members) none

/-- The container of a frame, ended by its closing bracket or by a fault. -/
def close (tail : Option Fault) : Frame → Draft
  | .array items => .array items.reverse tail
  | .object members _ => .object members.reverse tail

/-- The value of a container at a nesting depth: beyond the limit it can only be passed over. -/
def finish (depth : Nat) (tail : Option Fault) (frame : Frame) : Draft :=
  if depth ≤ maxDepth then frame.close tail else .unreadable .malformed tail

/-- The document whose open containers are `frames` and that ends in the value `d`, which itself
ends in the fault `f`. -/
def breakOff (d : Draft) (f : Fault) : List Frame → Draft
  | [] => d
  | frame :: frames => breakOff ((frame.push d).finish (frames.length + 1) (some f)) f frames

/-- The document whose open containers are `frames` and that ends in the fault `f`. -/
def abandon (f : Fault) : List Frame → Draft
  | [] => .unreadable f (some f)
  | frame :: frames => breakOff (frame.finish (frames.length + 1) (some f)) f frames

/-- The document that ends in the fault `f`, where a value has to stand. -/
def noValue (f : Fault) (frames : List Frame) : Draft := breakOff (.unreadable f (some f)) f frames

end Frame

namespace Document

/-- What has to stand next. -/
inductive Expected where
  | value
  /-- A value, or the end of an array without items. -/
  | firstItem
  | key
  /-- A key, or the end of an object without members. -/
  | firstKey
  | colon
  /-- A comma, or the end of the innermost container. -/
  | separator

/-- What a token does to a document. -/
inductive Step where
  /-- Reading goes on. -/
  | go (frames : List Frame) (expected : Expected)
  /-- The document is complete. -/
  | complete (root : Draft)
  /-- The document ends here, in a fault. -/
  | broken (root : Draft)

namespace Step

/-- Adds a complete value. -/
def add (d : Draft) : List Frame → Step
  | [] => .complete d
  | frame :: frames => .go (frame.push d :: frames) .separator

/-- Closes the innermost container. -/
def close : List Frame → Step
  | [] => .broken (Frame.abandon .malformed [])
  | frame :: frames => add (frame.finish (frames.length + 1) none) frames

/-- A token where a value has to stand. -/
def value (frames : List Frame) : Token → Step
  | .openArray => .go (.array [] :: frames) .firstItem
  | .openObject => .go (.object [] none :: frames) .firstKey
  | .text (.ok s) _ => add (.string s) frames
  | .text (.error f) none => add (.unreadable f none) frames
  | .text (.error f) (some g) => .broken (Frame.breakOff (.unreadable f (some g)) g frames)
  | .scalar d =>
    match d.passingFault with
    | none => add d frames
    | some g => .broken (Frame.breakOff d g frames)
  | _ => .broken (Frame.noValue .malformed frames)

/-- A token where a key has to stand. -/
def key : List Frame → Token → Step
  | .object members _ :: frames, .text (.ok k) _ => .go (.object members (some k) :: frames) .colon
  | .object members _ :: frames, .text (.error _) none =>
    .go (.object members none :: frames) .colon
  | .object members _ :: frames, .text (.error .malformed) (some g) =>
    .broken (Frame.noValue g (.object members none :: frames))
  | frames, .text _ (some g) => .broken (Frame.abandon g frames)
  | frames, _ => .broken (Frame.abandon .malformed frames)

/-- A token where a comma or the closing bracket of the innermost container has to stand. -/
def separator : List Frame → Token → Step
  | frames@(.array _ :: _), .comma => .go frames .value
  | frames@(.array _ :: _), .closeArray => close frames
  | frames@(.object _ _ :: _), .comma => .go frames .key
  | frames@(.object _ _ :: _), .closeObject => close frames
  | frames, _ => .broken (Frame.abandon .malformed frames)

/-- A token where a given thing has to stand. -/
def ofToken (frames : List Frame) : Expected → Token → Step
  | .firstItem, .closeArray => close frames
  | .firstKey, .closeObject => close frames
  | .value, token | .firstItem, token => value frames token
  | .key, token | .firstKey, token => key frames token
  | .colon, .colon => .go frames .value
  | .colon, _ => .broken (Frame.noValue .malformed frames)
  | .separator, token => separator frames token

/-- The end of the text where a given thing has to stand. -/
def atEnd (frames : List Frame) : Expected → Draft
  | .value | .colon => Frame.noValue .cutShort frames
  | _ => Frame.abandon .cutShort frames

end Step

/-- Reads tokens into a document. -/
def read (frames : List Frame) (expected : Expected) : List Token → Document
  | [] => ⟨Step.atEnd frames expected, false⟩
  | token :: rest =>
    match Step.ofToken frames expected token with
    | .go frames expected => read frames expected rest
    | .complete root => ⟨root, !rest.isEmpty⟩
    | .broken root => ⟨root, false⟩

/-- Reads a text as far as it goes. -/
def ofText (text : String) : Document := read [] .value (Token.scan text.toList)

end Document

namespace Json

/-- Sets a member in a list of members in increasing order of their keys. -/
def setMember (key : String) (value : Json) : List (String × Json) → List (String × Json)
  | [] => [(key, value)]
  | (k, v) :: rest =>
    if key < k then (key, value) :: (k, v) :: rest
    else if key = k then (key, value) :: rest
    else (k, v) :: setMember key value rest

mutual
/-- The value of a draft that can be read to its end. Its objects have each key once, with the
last of its values, in increasing order. -/
def ofDraft? : Draft → Option Json
  | .null => some .null
  | .bool b => some (.bool b)
  | .number n => some (.number n)
  | .string s => some (.string s)
  | .array items none => (ofDraftItems? items).map .array
  | .object members none => (ofDraftMembers? members []).map .object
  | _ => none

/-- The values of the items of a draft. -/
def ofDraftItems? : List Draft → Option (List Json)
  | [] => some []
  | d :: ds => do
    let v ← ofDraft? d
    let vs ← ofDraftItems? ds
    return v :: vs

/-- The members of a draft, added to those in `acc`. -/
def ofDraftMembers? : List (Option String × Draft) → List (String × Json) →
    Option (List (String × Json))
  | [], acc => some acc
  | (none, _) :: _, _ => none
  | (some k, d) :: ms, acc => do
    let v ← ofDraft? d
    ofDraftMembers? ms (setMember k v acc)
end

/-- The value of a JSON text. -/
def ofText? (text : String) : Option Json :=
  let document := Document.ofText text
  if document.trailing then none else ofDraft? document.root

end Json

end PaginationLint
