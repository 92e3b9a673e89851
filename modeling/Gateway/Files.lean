import Gateway.Bytes
import Gateway.Fault
import Gateway.Text.Split

/-!
# Files

What comes of reading a file by its path. A path is followed name by name; every
name but the last has to lead to a directory, and so has the last one if a slash
stands behind it.

* `Files.follow` follows one name;
* `Files.read` gives the bytes of a file, or why there are none.

What files there are is not said here: everything is about any `Files`.
-/

namespace Gateway

/-- What a name stands for. -/
inductive FileNode where
  /-- More names. -/
  | directory
  /-- Bytes. -/
  | file (content : Bytes)
  deriving DecidableEq, Repr, Inhabited

/-- The files of a host, as they are seen from one of its directories. -/
structure Files where
  /-- Everything but the root, by the names on the way to it. -/
  nodes : List (List String × FileNode) := []
  /-- The directory at which a path begins that does not begin at the root. -/
  here : List String := []
  deriving DecidableEq, Repr, Inhabited

namespace Files

/-- The longest name in bytes. -/
def maxName : Nat := 255

/-- The longest path in bytes. -/
def maxPath : Nat := 4095

/-- The names of a path. Where two slashes stand together there is an empty one
between them. -/
def names (path : String) : List String :=
  (Text.pieces '/' path.toList).map String.ofList

/-- What is at a place. -/
def node? (fs : Files) (place : List String) : Option FileNode :=
  if place = [] then some .directory else fs.nodes.lookup place

/-- Adds something at the end of a path from the root. -/
def add (path : String) (node : FileNode) (fs : Files) : Files :=
  { fs with nodes := ((names path).drop 1, node) :: fs.nodes }

/-- Follows one name. -/
def follow (fs : Files) (place : List String) (name : String) :
    Except Fault (List String) :=
  match fs.node? place with
  | some .directory =>
    if name = "" ∨ name = "." then .ok place
    else if name = ".." then .ok place.dropLast
    else if maxName < name.utf8ByteSize then .error .nameTooLong
    else if (fs.node? (place ++ [name])).isSome then .ok (place ++ [name])
    else .error .noSuchFile
  | _ => .error .notDirectory

/-- Where a path leads. -/
def locate (fs : Files) (path : String) : Except Fault (List String) :=
  (names path).foldlM fs.follow (if path.toList.head? = some '/' then [] else fs.here)

/-- Reads a file. -/
def read (fs : Files) (path : String) : Except Fault Bytes :=
  if path.toList.contains '\x00' then .error .nameHasNul
  else if path = "" then .error .noSuchFile
  else if maxPath < path.utf8ByteSize then .error .nameTooLong
  else match fs.locate path with
    | .error fault => .error fault
    | .ok place =>
      match fs.node? place with
      | some (.file content) => .ok content
      | some .directory => .error .isDirectory
      | none => .error .noSuchFile

/-- **No name leads on from a file**, not even the one that stands for the place
itself. -/
theorem follow_of_file {fs : Files} {place : List String} {content : Bytes}
    (h : fs.node? place = some (.file content)) (name : String) :
    fs.follow place name = .error .notDirectory := by
  simp [follow, h]

end Files

end Gateway
