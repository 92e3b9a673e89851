import Gateway.Toml.Quoted
import Gateway.Toml.Value

/-!
# Documents

A document is a list of sections: first the keys without a header, then each
header with the keys below it. `Document.sections` reads them,
`Document.assemble` builds the table that they describe, or finds that one line
says what another has said already.
-/

namespace Gateway.Toml

/-- A key with dots: the keys before the last, and the last. -/
structure Path where
  /-- The keys that name tables. -/
  outer : List String
  /-- The key itself. -/
  last : String
  deriving DecidableEq, Repr, Inhabited

/-- Neither keys nor values go deeper than this. -/
def maxDepth : Nat := 80

/-! ## Keys -/

/-- Decides the characters of a bare key. -/
def isBare (c : Char) : Bool :=
  c.isAlphanum || c == '-' || c == '_'

/-- Takes a key without dots. -/
def simpleKey : Reader String := fun cs =>
  match cs with
  | '"' :: _ | '\'' :: _ => quotedLine cs
  | _ =>
    let word := cs.takeWhile isBare
    if word = [] then none else some (String.ofList word, cs.drop word.length)

/-- Takes keys with dots and blanks between them; `fuel` bounds their number. -/
def keys (fuel : Nat) : Reader (List String) := fun cs =>
  match fuel with
  | 0 => none
  | fuel + 1 => do
    let (k, rest) ← simpleKey (skipBlanks cs)
    match skipBlanks rest with
    | '.' :: rest =>
      let (more, rest) ← keys fuel rest
      some (k :: more, rest)
    | rest => some ([k], rest)

/-- Takes a key with dots. -/
def path : Reader Path := fun cs => do
  let (ks, rest) ← keys (maxDepth - 1) cs
  some (⟨ks.dropLast, ← ks.getLast?⟩, rest)

/-! ## Values -/

/-- Takes a comment up to its line end. -/
def comment : Reader Unit
  | '#' :: rest => some ((), rest.dropWhile isPlain)
  | _ => none

/-- Leaves out blanks, comments and line ends between the items of an array. A
comment has to end with its line. -/
def skipSpace (fuel : Nat) (cs : List Char) : Option (List Char) :=
  match fuel, skipBlanks cs with
  | 0, rest => some rest
  | fuel + 1, rest =>
    match rest with
    | '#' :: _ => do
      let (_, rest) ← comment rest
      let (_, rest) ← lineEnd rest
      skipSpace fuel rest
    | '\n' :: _ | '\r' :: _ => do
      let (_, rest) ← lineEnd rest
      skipSpace fuel rest
    | _ => some rest

/-- Takes the values of an array, behind the opening bracket; `value` takes
one. -/
def items (value : Reader Value) (fuel : Nat)
    (taken : List Value) : Reader Value := fun cs =>
  match fuel with
  | 0 => none
  | fuel + 1 => do
    match ← skipSpace cs.length cs with
    | ']' :: rest => some (.array taken.reverse, rest)
    | cs =>
      let (v, rest) ← value cs
      match ← skipSpace rest.length rest with
      | ',' :: rest => items value fuel (v :: taken) rest
      | ']' :: rest => some (.array (v :: taken).reverse, rest)
      | _ => none

/-- Takes a key and its value with an equals sign between them; `value` takes
one. -/
def entry (value : Reader Value) : Reader (Path × Value) := fun cs => do
  let (p, rest) ← path cs
  let (_, rest) ← one (· == '=') rest
  let (v, rest) ← value (skipBlanks rest)
  some ((p, v), skipBlanks rest)

/-- Takes the entries of a table in braces, behind the first; `value` takes a
value. -/
def entries (value : Reader Value) (fuel : Nat) (es : Entries) : Reader Value :=
  fun cs =>
  match fuel with
  | 0 => none
  | fuel + 1 => do
    let ((p, v), rest) ← entry value cs
    let es ← es.enterDotted p.outer p.last v
    match rest with
    | ',' :: rest => entries value fuel es rest
    | '}' :: rest => some (.table .inline es, rest)
    | _ => none

/-- Takes a value that holds no others. -/
def scalar : Reader Value := fun cs =>
  match cs with
  | '"' :: _ | '\'' :: _ => (quoted cs).map fun (s, rest) => (.string s, rest)
  | 't' :: 'r' :: 'u' :: 'e' :: rest => some (.boolean true, rest)
  | 'f' :: 'a' :: 'l' :: 's' :: 'e' :: rest => some (.boolean false, rest)
  | c :: _ =>
    if c == '+' || c == '-' || c == 'i' || c == 'n' || isDigitOf 10 c then
      match Reader.withText moment cs with
      | some (s, rest) => some (.moment s, rest)
      | none =>
        match Reader.withText float cs with
        | some (s, rest) => some (.float s, rest)
        | none => (integer cs).map fun (n, rest) => (.integer n, rest)
    else none
  | [] => none

/-- Takes a value in which arrays and tables are nested at most `depth` deep. -/
def value : (depth : Nat) → Reader Value
  | 0 => scalar
  | depth + 1 => fun cs =>
    match cs with
    | '[' :: rest => items (value depth) (rest.length + 1) [] rest
    | '{' :: rest =>
      match skipBlanks rest with
      | '}' :: rest => some (.table .inline [], rest)
      | rest => entries (value depth) (rest.length + 1) [] rest
    | _ => scalar cs

/-! ## Sections -/

/-- The header of a section. -/
inductive Header where
  /-- A table. -/
  | table (path : Path)
  /-- One more of the tables under a name. -/
  | element (path : Path)
  deriving DecidableEq, Repr

/-- A line that says something. -/
inductive Line where
  /-- A header. -/
  | header (h : Header)
  /-- A key and its value. -/
  | entry (path : Path) (v : Value)
  deriving Repr

namespace Document

/-- Takes what may follow on a line: blanks, a comment, and the line end or the
end of the document. -/
def restOfLine (cs : List Char) : Option (List Char) :=
  let rest := skipBlanks cs
  let rest := match comment rest with
    | some (_, rest) => rest
    | none => rest
  match rest with
  | [] => some []
  | _ => (lineEnd rest).map (·.2)

/-- Takes a header. -/
def header : Reader Header
  | '[' :: '[' :: rest => do
    let (p, rest) ← path rest
    let rest ← Text.after? [']', ']'] rest
    some (.element p, rest)
  | '[' :: rest => do
    let (p, rest) ← path rest
    let rest ← Text.after? [']'] rest
    some (.table p, rest)
  | _ => none

/-- Reads the lines that say something; `fuel` bounds the number of all
lines. -/
def lines (fuel : Nat) (cs : List Char) : Option (List Line) :=
  match fuel, skipBlanks cs with
  | _, [] => some []
  | 0, _ => none
  | fuel + 1, c :: rest =>
    if c = '#' ∨ c = '\n' ∨ c = '\r' then
      (restOfLine (c :: rest)).bind (lines fuel)
    else if c = '[' then do
      let (h, rest) ← header (c :: rest)
      let rest ← restOfLine rest
      let more ← lines fuel rest
      some (.header h :: more)
    else do
      let ((p, v), rest) ← entry (value (maxDepth - 1)) (c :: rest)
      let rest ← restOfLine rest
      let more ← lines fuel rest
      some (.entry p v :: more)

/-- A header, which the first section lacks, and the keys below it. -/
structure Section where
  /-- The header. -/
  header : Option Header
  /-- The keys with their values. -/
  entries : List (List String × String × Value) := []

/-- Divides lines into sections. -/
def sections : List Line → List Section
  | [] => [⟨none, []⟩]
  | .entry p v :: rest =>
    match sections rest with
    | ⟨none, es⟩ :: more => ⟨none, (p.outer, p.last, v) :: es⟩ :: more
    | more => ⟨none, [(p.outer, p.last, v)]⟩ :: more
  | .header h :: rest =>
    match sections rest with
    | ⟨none, es⟩ :: more => ⟨none, []⟩ :: ⟨some h, es⟩ :: more
    | more => ⟨none, []⟩ :: ⟨some h, []⟩ :: more

/-- Adds a section to the table of the sections before it. -/
def add (root : Entries) (s : Section) : Option Entries :=
  match s.header with
  | none => root.enterAll s.entries
  | some (.table p) =>
    root.within (fun es =>
      match es.get? p.last with
      | none =>
        (Entries.enterAll s.entries []).map fun t => es.enter p.last (.table .header t)
      | some (.table .implied sub) =>
        (Entries.enterAll s.entries sub).map fun t =>
          es.replace p.last (.table .header t)
      | some _ => none) p.outer
  | some (.element p) =>
    root.within (fun es =>
      match es.get? p.last with
      | none =>
        (Entries.enterAll s.entries []).map fun t => es.enter p.last (.tables [t])
      | some (.tables elements) =>
        (Entries.enterAll s.entries []).map fun t =>
          es.replace p.last (.tables (elements ++ [t]))
      | some _ => none) p.outer

/-- Builds the table that sections describe. -/
def assemble : List Section → Entries → Option Entries
  | [], root => some root
  | s :: rest, root => (add root s).bind (assemble rest)

/-- Reads a document. A byte order mark in front does not count. -/
def ofText? (s : String) : Option Entries :=
  let cs := match s.toList with
    | '\ufeff' :: rest => rest
    | cs => cs
  (lines (cs.length + 1) cs).bind fun ls => assemble (sections ls) []

end Document

end Gateway.Toml
