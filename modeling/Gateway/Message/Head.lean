import Gateway.Message.Headers

/-!
# Message heads

A head is a start line and header lines. It is cut at CRLF alone: a CR or an LF
that stands by itself is part of the line it is in.
-/

namespace Gateway

/-- A message head whose start line is not looked into. -/
structure Head where
  /-- The start line. -/
  start : String
  /-- The headers. -/
  headers : Headers
  deriving DecidableEq, Repr, Inhabited

namespace Head

/-- How many headers a head may have. -/
def maxHeaders : Nat := 128

/-- Reads one header line: a name without blanks and control characters, a
colon, and a value. -/
def headerOfLine (line : List Char) : Except Flaw Header :=
  if line.head? = some ' ' ∨ line.head? = some '\t' then .error .foldedLine
  else match Text.cut? ':' line with
    | none => .error .missingColon
    | some (name, value) =>
      if name = [] ∨ name.any Text.isControlOrBlank then .error .invalidName
      else .ok ⟨String.ofList name, String.ofList (Text.trim value)⟩

/-- Adds the header of a line, if the line is one and there is room for it. -/
def addLine (hs : Headers) (line : List Char) : Except Flaw Headers := do
  let h ← headerOfLine line
  if hs.length = maxHeaders then throw .tooManyHeaders
  return hs.push h.name h.value

/-- Reads a head from its text; the line ends at its end do not count. -/
def ofText (text : List Char) : Except Flaw Head :=
  match Text.lines (Text.dropFinalLineEnds text) with
  | [] | [] :: _ => .error .missingStartLine
  | start :: lines => do
    let headers ← lines.foldlM addLine {}
    return ⟨String.ofList start, headers⟩

/-- Reads a head from its bytes. -/
def parse (raw : Bytes) : Except Flaw Head :=
  match Bytes.text? raw with
  | some text => ofText text.toList
  | none => .error .notText

end Head

end Gateway
