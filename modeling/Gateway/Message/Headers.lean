import Gateway.Bytes
import Gateway.Message.Version
import Gateway.Text.Ascii
import Gateway.Text.Blank
import Gateway.Text.Number
import Gateway.Text.Split

/-!
# Headers

The headers of a message, in the order and the spelling in which they came.
Names are compared without regard to letter case, and one name may stand several
times; a list-valued header is read as the elements of all its occurrences in a
row.

* `get?`, `getAll`, `elements` look a name up;
* `push`, `remove`, `updateLast` edit;
* `declaredFraming` is the body framing that the headers announce;
* `keepAlive` tells whether a connection goes on after the message.
-/

namespace Gateway

/-- One header line. -/
structure Header where
  /-- The name as it was spelled. -/
  name : String
  /-- The value without the blanks around it. -/
  value : String
  deriving DecidableEq, Repr, Inhabited

/-- How the end of a body is found. -/
inductive Framing where
  /-- There is no body. -/
  | empty
  /-- The body has `n` bytes. -/
  | length (n : Nat)
  /-- The body is a sequence of chunks that ends itself. -/
  | chunked
  /-- The body ends with the connection. -/
  | untilClose
  deriving DecidableEq, Repr, Inhabited

/-- Whether the end of the body shows in the bytes, so that another message can
follow. -/
def Framing.isDelimited (f : Framing) : Bool :=
  f != .untilClose

/-- The headers of a message in order. -/
structure Headers where
  /-- The header lines. -/
  list : List Header := []
  deriving DecidableEq, Repr, Inhabited

/-- Whether a header has the name. -/
def Header.named (name : String) (h : Header) : Bool :=
  Text.alike h.name name

/-- The text of one header line with its line end. -/
def Header.text (h : Header) : String :=
  h.name ++ ": " ++ h.value ++ "\r\n"

namespace Headers

/-! ## Look-up -/

/-- The value of the first header of a name. -/
def get? (hs : Headers) (name : String) : Option String :=
  (hs.list.find? (Header.named name)).map (·.value)

/-- The values of all headers of a name, in order. -/
def getAll (hs : Headers) (name : String) : List String :=
  (hs.list.filter (Header.named name)).map (·.value)

/-- Whether a header of the name is there. -/
def contains (hs : Headers) (name : String) : Bool :=
  hs.list.any (Header.named name)

/-- The elements of a list-valued header: its values cut at commas, trimmed, the
blank ones left out. -/
def elements (hs : Headers) (name : String) : List String :=
  (hs.getAll name).flatMap fun value =>
    (((Text.pieces ',' value.toList).map Text.trim).filter (· ≠ [])).map String.ofList

/-- Whether a list-valued header has the element, in any letter case. -/
def hasElement (hs : Headers) (name element : String) : Bool :=
  (hs.elements name).any fun e => Text.alike e element

/-- The number of headers. -/
def length (hs : Headers) : Nat :=
  hs.list.length

/-! ## Editing -/

/-- Adds a header at the end. -/
def push (hs : Headers) (name value : String) : Headers :=
  ⟨hs.list ++ [⟨name, value⟩]⟩

/-- Leaves out every header of a name. -/
def remove (hs : Headers) (name : String) : Headers :=
  ⟨hs.list.filter fun h => !Header.named name h⟩

/-- Leaves out every header that has one of the names. -/
def removeAll (hs : Headers) (names : List String) : Headers :=
  ⟨hs.list.filter fun h => !names.any fun name => Header.named name h⟩

/-- Changes the value of the last header of a name; `none` if there is none. -/
def updateLast? (hs : Headers) (name : String)
    (f : String → String) : Option Headers :=
  (go hs.list.reverse).map fun hs => ⟨hs.reverse⟩
where
  /-- Works on the reversed list, where the last header comes first. -/
  go : List Header → Option (List Header)
    | [] => none
    | h :: rest =>
      if Header.named name h then some ({ h with value := f h.value } :: rest)
      else (go rest).map (h :: ·)

/-! ## Writing -/

/-- The bytes of all header lines. -/
def encode (hs : Headers) : Bytes :=
  hs.list.flatMap fun h => Bytes.ofText h.text

/-! ## What the headers say about the message -/

/-- The one number that a list of lengths agrees on; `none` for the empty
list. -/
def agreedLength : List String → Except Flaw (Option Nat)
  | [] => .ok none
  | first :: rest => do
    let n ← lengthOf first
    rest.forM fun other => do
      if (← lengthOf other) ≠ n then throw .conflictingLengths
    return some n
where
  /-- The length that a text denotes. -/
  lengthOf (s : String) : Except Flaw Nat :=
    match Text.unsigned? 10 Text.max64 s.toList with
    | some n => .ok n
    | none => .error .invalidLength

/-- The framing that the headers announce; `none` if they say nothing about a
body. A transfer coding decides over a length, and the last coding has to be
chunked. -/
def declaredFraming (hs : Headers) : Except Flaw (Option Framing) :=
  if hs.contains "transfer-encoding" then
    match (hs.elements "transfer-encoding").getLast? with
    | some last =>
      if Text.alike last "chunked" then .ok (some .chunked) else .error .unsupportedCoding
    | none => .error .unsupportedCoding
  else
    (agreedLength (hs.elements "content-length")).map fun length =>
      length.map fun n => if n = 0 then .empty else .length n

/-- Whether the connection goes on after a message of the version. -/
def keepAlive (hs : Headers) : Version → Bool
  | .http11 => !hs.hasElement "connection" "close"
  | .http10 => hs.hasElement "connection" "keep-alive"

/-! ## The edits through the list of headers -/

@[simp]
theorem list_push (hs : Headers) (name value : String) :
    (hs.push name value).list = hs.list ++ [⟨name, value⟩] := rfl

@[simp]
theorem list_remove (hs : Headers) (name : String) :
    (hs.remove name).list = hs.list.filter fun h => !Header.named name h := rfl

@[simp]
theorem list_removeAll (hs : Headers) (names : List String) :
    (hs.removeAll names).list =
      hs.list.filter fun h => !names.any fun name => Header.named name h :=
  rfl

@[simp]
theorem contains_remove_self (hs : Headers) (name : String) :
    (hs.remove name).contains name = false := by
  simp [contains, remove, List.any_filter]

end Headers

end Gateway
