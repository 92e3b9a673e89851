import Gateway.Bytes
import Gateway.Text.Split

/-!
# URIs

What a probe asks for and what an operator's request is about: scheme and
authority, or neither, or the authority alone, and then path and query. The
rules are those of requests on the wire, which are wider than what a careful
client sends.

* `Uri.ofText?` reads a URI;
* `Uri.path` is the path that a page is looked up by;
* `Uri.requestTarget` is what is sent of an absolute one.
-/

namespace Gateway

/-- A URI. -/
structure Uri where
  /-- Whether there is a scheme. -/
  isAbsolute : Bool
  /-- Host and port. -/
  authority : Bytes
  /-- Path and query; a fragment is not part of them. -/
  pathAndQuery : Bytes
  deriving DecidableEq, Repr, Inhabited

namespace Uri

/-- The longest URI in bytes. -/
def maxLength : Nat := UInt16.size - 2

/-- The longest scheme in bytes. -/
def maxScheme : Nat := 64

/-- Decides letters and digits. -/
def isWordByte (b : UInt8) : Bool :=
  (48 ≤ b && b ≤ 57) || (65 ≤ b && b ≤ 90) || (97 ≤ b && b ≤ 122)

/-- The other bytes of an authority that mean nothing there. -/
def plainMarks : Bytes := Bytes.ofText "!$&'()*+,-.;=_~"

/-- What was seen of an authority. -/
structure Scan where
  /-- Colons since the last bracket or at sign. -/
  colons : Nat := 0
  /-- Whether a bracket was opened. -/
  opened : Bool := false
  /-- Whether it was closed. -/
  closed : Bool := false
  /-- Whether there was a percent sign since the last bracket or at sign. -/
  percent : Bool := false
  /-- Whether the last byte was an at sign. -/
  endsInAt : Bool := false

/-- Sees one more byte of an authority. -/
def Scan.see (s : Scan) (b : UInt8) : Option Scan :=
  let s := { s with endsInAt := b = 64 }
  if b = 58 then if 8 ≤ s.colons then none else some { s with colons := s.colons + 1 }
  else if b = 91 then if s.percent || s.opened then none else some { s with
    opened := true }
  else if b = 93 then
    if !s.opened || s.closed then none
    else some { s with closed := true, colons := 0, percent := false }
  else if b = 64 then some { s with colons := 0, percent := false }
  else if b = 37 then some { s with percent := true }
  else if isWordByte b || plainMarks.contains b then some s
  else none

/-- Whether what was seen makes an authority. -/
def Scan.isAuthority (s : Scan) : Bool :=
  s.opened == s.closed && decide (s.colons ≤ 1) && !s.endsInAt && !s.percent

/-- Decides the bytes that end an authority. -/
def endsAuthority (b : UInt8) : Bool := b = 47 || b = 63 || b = 35

/-- Decides the bytes of a path. Besides those of the standard there are quotes
and braces, and all that is not ASCII. -/
def isPathByte (b : UInt8) : Bool :=
  b = 33 || b = 34 || (36 ≤ b && b ≤ 59) || b = 61 || (64 ≤ b && b ≤ 95) ||
    (97 ≤ b && b ≤ 126)
    || 128 ≤ b

/-- Decides the bytes of a query. -/
def isQueryByte (b : UInt8) : Bool :=
  b = 33 || (36 ≤ b && b ≤ 59) || b = 61 || (63 ≤ b && b != 127)

/-- Decides the bytes of a scheme. -/
def isSchemeByte (b : UInt8) : Bool :=
  isWordByte b || b = 43 || b = 45 || b = 46 || b = 126

/-- Takes path and query, without the fragment behind them. -/
def pathAndQuery? (bs : Bytes) : Option Bytes :=
  let path := bs.takeWhile fun b => b != 63 && b != 35
  if !path.all isPathByte then none
  else match bs.drop path.length with
    | 63 :: rest =>
      let query := rest.takeWhile (· != 35)
      if query.all isQueryByte then some (path ++ 63 :: query) else none
    | _ => some path

/-- Takes an authority off the front. -/
def authority? (bs : Bytes) : Option (Bytes × Bytes) :=
  let front := bs.takeWhile fun b => !endsAuthority b
  match front.foldlM Scan.see {} with
  | some scan =>
    if scan.isAuthority then some (front, bs.drop front.length) else none
  | none => none

/-- Takes a scheme with the marks behind it off the front, if there is one, and
gives its length. -/
def scheme (bs : Bytes) : Option Nat × Bytes :=
  let name := bs.takeWhile isSchemeByte
  match bs.drop name.length with
  | 58 :: 47 :: 47 :: rest => (some name.length, rest)
  | _ => (none, bs)

/-- Reads a URI. Without a scheme it is a path, or an authority alone. -/
def ofText? (s : String) : Option Uri :=
  let bs := Bytes.ofText s
  if maxLength < bs.length then none
  else match bs with
    | [] => none
    | [42] => some ⟨false, [], bs⟩
    | 47 :: _ => (pathAndQuery? bs).map fun p => ⟨false, [], p⟩
    | _ =>
      match scheme bs with
      | (none, rest) =>
        match authority? rest with
        | some (authority, []) => some ⟨false, authority, []⟩
        | _ => none
      | (some length, rest) =>
        if maxScheme < length then none
        else match authority? rest with
          | none | some ([], _) => none
          | some (authority, rest) =>
            (pathAndQuery? rest).map fun p => ⟨true, authority, p⟩

/-- The path. An absolute URI always has one. -/
def path (u : Uri) : Bytes :=
  match u.pathAndQuery.takeWhile (· != 63) with
  | [] => if u.isAbsolute then [47] else []
  | p => p

/-- What is sent of an absolute URI: no request goes without a path. -/
def requestTarget (u : Uri) : Bytes :=
  match u.pathAndQuery with
  | [] => [47]
  | 63 :: _ => 47 :: u.pathAndQuery
  | _ => u.pathAndQuery

end Uri

end Gateway
