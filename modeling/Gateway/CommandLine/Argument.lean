import Gateway.Fault
import Gateway.Text.Split

/-!
# Arguments

What the words of a command line are by their shape alone: options with a long
name or with letters, and words that are neither.

* `Argument.ofText` sorts a word;
* `Argument.value?` says how an option that wants a value gets it;
* `Argument.refused?` says which words no program can be given.
-/

namespace Gateway

/-- A word of a command line. -/
inductive Argument where
  /-- Two dashes alone, after which there are only plain words. -/
  | terminator
  /-- An option by its name, with the value behind an equals sign. -/
  | long (name : String) (value : Option String)
  /-- Options by a letter, with the letters behind it. -/
  | short (letter : Char) (rest : List Char)
  /-- A plain word. -/
  | word (text : String)
  deriving DecidableEq, Repr, Inhabited

namespace Argument

/-- Sorts a word by its shape. One dash alone is a plain word. -/
def ofText (s : String) : Argument :=
  match s.toList with
  | ['-', '-'] => .terminator
  | '-' :: '-' :: body =>
    match Text.cut? '=' body with
    | some (name, value) =>
      .long (String.ofList name) (some (String.ofList value))
    | none => .long (String.ofList body) none
  | '-' :: letter :: rest => .short letter rest
  | _ => .word s

/-- The value that is written together with a letter; an equals sign between
them does not count. -/
def attached? : List Char → Option String
  | [] => none
  | '=' :: rest => some (String.ofList rest)
  | rest => some (String.ofList rest)

/-- The value of an option: the one written together with it, or else the next
word, if it is plain. Gives the words that are left too. -/
def value? (attached : Option String) (rest : List String) :
    Option (String × List String) :=
  match attached, rest with
  | some v, rest => some (v, rest)
  | none, [] => none
  | none, next :: rest =>
    match ofText next with
    | .word v => some (v, rest)
    | _ => none

/-- The longest word in bytes that a program can be given. -/
def maxLength : Nat := 128 * 1024 - 1

/-- Why no program can be given the words, if none can: they hold the character
that ends words, or they are too long. -/
def refused? (words : List String) : Option Fault :=
  if words.any fun word => word.toList.contains '\x00' then some .wordHasNul
  else if words.any fun word => maxLength < word.utf8ByteSize then some .wordsTooLong
  else none

/-- Taking a value leaves no more words than there were. -/
theorem length_value? {attached : Option String} {rest left : List String}
    {v : String} (h : value? attached rest = some (v, left)) :
    left.length ≤ rest.length := by
  unfold value? at h
  split at h
  · cases h; exact Nat.le_refl _
  · cases h
  · split at h
    · cases h; simp
    · cases h

end Argument

end Gateway
