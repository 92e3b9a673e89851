/-!
# Values of a TOML document

A document is a table; tables hold values under keys, in the order in which they
were written. How a table came about decides what later lines may add to it, so
that is kept.
-/

namespace Gateway.Toml

/-- How a table came about. -/
inductive Origin where
  /-- In braces; nothing can be added. -/
  | inline
  /-- By a header of its own. -/
  | header
  /-- By the header of a table below it. -/
  | implied
  /-- By a key with dots. -/
  | dotted
  deriving DecidableEq, Repr, Inhabited

/-- A value. Of numbers with a point and of dates only the text is kept. -/
inductive Value where
  /-- A text. -/
  | string (text : String)
  /-- A whole number. -/
  | integer (n : Int)
  /-- A number with a point or an exponent. -/
  | float (text : String)
  /-- A truth value. -/
  | boolean (b : Bool)
  /-- A date, a time, or both. -/
  | moment (text : String)
  /-- Values in square brackets. -/
  | array (items : List Value)
  /-- Tables that were written one after the other under headers of one name. -/
  | tables (elements : List (List (String × Value)))
  /-- A table. -/
  | table (origin : Origin) (entries : List (String × Value))
  deriving Repr, Inhabited

/-- What a table holds. -/
abbrev Entries : Type := List (String × Value)

namespace Entries

/-- The value of a key. -/
def get? (key : String) (es : Entries) : Option Value :=
  es.lookup key

/-- Puts a value in the place of the one that the key has. -/
def replace (key : String) (v : Value) (es : Entries) : Entries :=
  es.map fun e => if e.1 = key then (key, v) else e

/-- Enters a value at the end. -/
def enter (key : String) (v : Value) (es : Entries) : Entries :=
  es ++ [(key, v)]

/-- Enters the value of a key with dots: the keys before the last name tables,
which are made if they are not there. Only a table that such keys made can be
added to. -/
def enterDotted (path : List String) (key : String) (v : Value)
    (es : Entries) : Option Entries :=
  match path with
  | [] => if (es.get? key).isSome then none else some (es.enter key v)
  | k :: rest =>
    match es.get? k with
    | none =>
      (enterDotted rest key v []).map fun sub => es.enter k (.table .dotted sub)
    | some (.table .dotted sub) =>
      (enterDotted rest key v sub).map fun sub => es.replace k (.table .dotted sub)
    | some (.table .implied sub) =>
      if rest = [] then none
      else (enterDotted rest key v sub).map fun sub => es.replace k (.table .implied sub)
    | some (.tables elements) =>
      if rest = [] then none
      else match elements.getLast? with
        | some last => (enterDotted rest key v last).map fun sub =>
            es.replace k (.tables (elements.dropLast ++ [sub]))
        | none => none
    | some _ => none

/-- Enters one key after the other. -/
def enterAll : List (List String × String × Value) → Entries → Option Entries
  | [], es => some es
  | (path, key, v) :: rest, es =>
    (es.enterDotted path key v).bind (enterAll rest)

/-- Changes the entries of the table that a path names, through tables of any
origin but braces, which are made if they are not there; of tables under one
name it is the last. -/
def within (f : Entries → Option Entries) :
    (path : List String) → Entries → Option Entries
  | [], es => f es
  | k :: rest, es =>
    match es.get? k with
    | none => (within f rest []).map fun sub => es.enter k (.table .implied sub)
    | some (.table .inline _) => none
    | some (.table origin sub) =>
      (within f rest sub).map fun sub => es.replace k (.table origin sub)
    | some (.tables elements) =>
      match elements.getLast? with
      | some last => (within f rest last).map fun sub =>
          es.replace k (.tables (elements.dropLast ++ [sub]))
      | none => none
    | some _ => none

end Entries

end Gateway.Toml
