import Gateway.Toml.Scalar

/-!
# Quoted texts

Four ways to write a text: in double quotes with escapes, in single quotes
without, and either of them with three quotes over several lines. A line end
within a text is a line feed, whichever way it is written; one right behind
three opening quotes does not count.
-/

namespace Gateway.Toml

/-- Decides what may stand in a text as it is: tabs and everything that is no
control character. -/
def isPlain (c : Char) : Bool :=
  c == '\t' || (0x20 ≤ c.toNat && c.toNat != 0x7F)

/-- The character of a number, if there is one. -/
def charOf? (n : Nat) : Option Char :=
  if n.isValidChar then some (Char.ofNat n) else none

/-- Takes exactly `count` hexadecimal digits of a character. -/
def codePoint (count : Nat) : Reader Char := fun cs =>
  let ds := cs.take count
  if ds.length = count then
    match Text.digits? 16 ds with
    | some n => (charOf? n).map fun c => (c, cs.drop count)
    | none => none
  else none

/-- Takes what follows a backslash. -/
def escape : Reader Char
  | 'b' :: rest => some ('\x08', rest)
  | 't' :: rest => some ('\t', rest)
  | 'n' :: rest => some ('\n', rest)
  | 'f' :: rest => some ('\x0c', rest)
  | 'r' :: rest => some ('\r', rest)
  | '"' :: rest => some ('"', rest)
  | '\\' :: rest => some ('\\', rest)
  | 'u' :: rest => codePoint 4 rest
  | 'U' :: rest => codePoint 8 rest
  | _ => none

/-- Takes a line end. -/
def lineEnd : Reader Unit
  | '\n' :: rest => some ((), rest)
  | '\r' :: '\n' :: rest => some ((), rest)
  | _ => none

/-- Leaves out blanks. -/
def skipBlanks (cs : List Char) : List Char :=
  cs.dropWhile fun c => c == ' ' || c == '\t'

/-- Leaves out blanks and line ends. -/
def skipLines : List Char → List Char
  | '\n' :: rest => skipLines rest
  | ' ' :: rest => skipLines rest
  | '\t' :: rest => skipLines rest
  | '\r' :: '\n' :: rest => skipLines rest
  | rest => rest

/-- What a backslash at the end of a line leaves out: blanks, the line end, and
all blanks and line ends behind it. -/
def continuation? (cs : List Char) : Option (List Char) :=
  (lineEnd (skipBlanks cs)).map fun (_, rest) => skipLines rest

/-- How many of the quotes behind three closing ones belong to the text; at most
two do. -/
def extraQuotes (quote : Char) : List Char → List Char × List Char
  | a :: b :: rest =>
    if a = quote ∧ b = quote then ([quote, quote], rest)
    else if a = quote then ([quote], b :: rest)
    else ([], a :: b :: rest)
  | [a] => if a = quote then ([quote], []) else ([], [a])
  | [] => ([], [])

/-- Takes a text on one line in double quotes, behind the opening one. -/
def basic (fuel : Nat) (taken : List Char) : Reader String := fun cs =>
  match fuel, cs with
  | _, '"' :: rest => some (String.ofList taken.reverse, rest)
  | fuel + 1, '\\' :: rest =>
    (escape rest).bind fun (c, rest) => basic fuel (c :: taken) rest
  | fuel + 1, c :: rest =>
    if isPlain c then basic fuel (c :: taken) rest else none
  | _, _ => none

/-- Takes a text on one line in single quotes, behind the opening one. -/
def literal (taken : List Char) : Reader String
  | '\'' :: rest => some (String.ofList taken.reverse, rest)
  | c :: rest => if isPlain c then literal (c :: taken) rest else none
  | [] => none

/-- Takes a text on several lines, behind the opening quotes; `escapes` says
whether it has escapes. -/
def several (quote : Char) (escapes : Bool) (fuel : Nat)
    (taken : List Char) : Reader String := fun cs =>
  match fuel, cs with
  | 0, _ => none
  | fuel + 1, a :: rest =>
    if a = quote then
      match rest with
      | b :: c :: rest' =>
        if b = quote ∧ c = quote then
          let (extra, rest'') := extraQuotes quote rest'
          some (String.ofList (taken.reverse ++ extra), rest'')
        else several quote escapes fuel (a :: taken) rest
      | _ => none
    else if escapes && a == '\\' then
      match continuation? rest with
      | some rest => several quote escapes fuel taken rest
      | none =>
        (escape rest).bind fun (c, rest) => several quote escapes fuel (c :: taken) rest
    else match lineEnd cs with
      | some (_, rest) => several quote escapes fuel ('\n' :: taken) rest
      | none =>
        if isPlain a then several quote escapes fuel (a :: taken) rest else none
  | _, [] => none

/-- Leaves out one line end, if there is one. -/
def skipLineEnd (cs : List Char) : List Char :=
  match lineEnd cs with
  | some (_, rest) => rest
  | none => cs

/-- Takes a text on one line in quotes of either sort. -/
def quotedLine : Reader String
  | '"' :: rest => basic rest.length [] rest
  | '\'' :: rest => literal [] rest
  | _ => none

/-- Takes a text in quotes of any sort. -/
def quoted : Reader String
  | '"' :: '"' :: '"' :: rest =>
    several '"' true (rest.length + 1) [] (skipLineEnd rest)
  | '\'' :: '\'' :: '\'' :: rest =>
    several '\'' false (rest.length + 1) [] (skipLineEnd rest)
  | cs => quotedLine cs

end Gateway.Toml
