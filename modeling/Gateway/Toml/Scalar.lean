import Gateway.Text.Number
import Gateway.Text.Split

/-!
# Numbers, dates and times

The values that begin with a digit or a sign. Digits may have single underscores
between them; a whole number has no leading zero and fits 64 bits with a sign;
hexadecimal, octal and binary digits come after `0x`, `0o` and `0b`. Dates have
to exist.
-/

namespace Gateway.Toml

/-- A reader takes a value off the front of a text. -/
abbrev Reader (α : Type) : Type := List Char → Option (α × List Char)

/-- Takes a value and keeps the text it was read from. -/
def Reader.withText {α : Type} (r : Reader α) : Reader String := fun cs =>
  (r cs).map fun (_, rest) => (String.ofList (cs.take (cs.length - rest.length)), rest)

/-- Tries one reader after the other. -/
def Reader.orElse {α : Type} (r s : Reader α) : Reader α := fun cs =>
  match r cs with
  | some found => some found
  | none => s cs

/-- Takes one character of a class. -/
def one (p : Char → Bool) : Reader Char
  | c :: rest => if p c then some (c, rest) else none
  | [] => none

/-- Decides the digits of a base. -/
def isDigitOf (base : Nat) (c : Char) : Bool :=
  (Text.digitValue? base c).isSome

/-- Takes digits of a base, at least one, with single underscores between them;
the underscores are left out. -/
def digits (base : Nat) : Reader (List Char) := fun cs =>
  match one (isDigitOf base) cs with
  | some (c, rest) => more [c] rest
  | none => none
where
  /-- Takes the digits behind the first; those that were taken are kept in
  reverse. -/
  more (taken : List Char) : Reader (List Char)
    | '_' :: c :: rest =>
      if isDigitOf base c then more (c :: taken) rest else none
    | c :: rest =>
      if c = '_' then none
      else if isDigitOf base c then more (c :: taken) rest
      else some (taken.reverse, c :: rest)
    | [] => some (taken.reverse, [])

/-- Takes a sign, if there is one; true says minus. -/
def sign : List Char → Bool × List Char
  | '-' :: rest => (true, rest)
  | '+' :: rest => (false, rest)
  | rest => (false, rest)

/-- Takes a decimal number without leading zeros. -/
def decimal : Reader (List Char)
  | '0' :: rest => some (['0'], rest)
  | rest => digits 10 rest

/-- The whole numbers from `-2^63` to `2^63 - 1`. -/
def fitted? (n : Int) : Option Int :=
  if Int64.minValue.toInt ≤ n ∧ n ≤ Int64.maxValue.toInt then some n else none

/-- Takes a whole number. -/
def integer : Reader Int
  | '0' :: 'x' :: rest => based 16 rest
  | '0' :: 'o' :: rest => based 8 rest
  | '0' :: 'b' :: rest => based 2 rest
  | cs => do
    let (minus, rest) := sign cs
    let (ds, rest) ← decimal rest
    let n ← Text.digits? 10 ds
    let n ← fitted? (if minus then -(n : Int) else n)
    some (n, rest)
where
  /-- Takes digits of a base behind its mark. -/
  based (base : Nat) : Reader Int := fun cs => do
    let (ds, rest) ← digits base cs
    let n ← Text.digits? base ds
    let n ← fitted? n
    some (n, rest)

/-! ## Numbers with a point -/

/-- The parts of a number with a point or an exponent. -/
structure Decimal where
  /-- Whether it is below zero. -/
  minus : Bool
  /-- The digits before and behind the point. -/
  digits : List Char
  /-- How many of them are behind the point. -/
  places : Nat
  /-- The power of ten. -/
  exponent : Int
  deriving Repr

/-- From here on a number is nearer to `2^1024` than to the largest double. -/
def Decimal.ceiling : Nat := Nat.pow 2 1024 - Nat.pow 2 970

/-- Whether the number is nearer to `2^1024` than to the largest double. -/
def Decimal.overflows (d : Decimal) : Bool :=
  let value := (Text.digits? 10 d.digits).getD 0
  let scale := d.exponent - d.places
  if value = 0 then false
  else if scale ≥ 0 then
    scale > 400 || decide (value * Nat.pow 10 scale.toNat ≥ ceiling)
  else if (-scale).toNat > d.digits.length then false
  else decide (value ≥ ceiling * Nat.pow 10 (-scale).toNat)

/-- Takes the power of ten. -/
def exponent : Reader Int := fun cs => do
  let (_, rest) ← one (fun c => c == 'e' || c == 'E') cs
  let (minus, rest) := sign rest
  let (ds, rest) ← digits 10 rest
  let n ← Text.digits? 10 ds
  some (if minus then -(n : Int) else n, rest)

/-- Takes a point and the digits behind it. -/
def fraction : Reader (List Char) := fun cs => do
  let (_, rest) ← one (· == '.') cs
  digits 10 rest

/-- Takes a number with a point or an exponent. One above all doubles is
refused; one below is not. -/
def float : Reader Unit := fun cs => do
  let (minus, rest) := sign cs
  match Text.after? ['i', 'n', 'f'] rest, Text.after? ['n', 'a', 'n'] rest with
  | some rest, _ => some ((), rest)
  | _, some rest => some ((), rest)
  | none, none =>
    let (whole, rest) ← decimal rest
    let (d, rest) ← match fraction rest with
      | some (part, rest) =>
        let (e, rest) := (exponent rest).getD (0, rest)
        some (⟨minus, whole ++ part, part.length, e⟩, rest)
      | none =>
        (exponent rest).map fun (e, rest) => ((⟨minus, whole, 0, e⟩ : Decimal), rest)
    if !d.minus && d.overflows then none else some ((), rest)

/-! ## Dates and times -/

/-- Takes exactly `count` digits and gives the number, if it is from `low` to
`high`. -/
def fixed (count low high : Nat) : Reader Nat := fun cs =>
  let ds := cs.take count
  if ds.length = count ∧ ds.all (isDigitOf 10) then
    match Text.digits? 10 ds with
    | some n => if low ≤ n ∧ n ≤ high then some (n, cs.drop count) else none
    | none => none
  else none

/-- How many days a month has. -/
def daysIn (year month : Nat) : Nat :=
  if month = 2 then
    if year % 4 = 0 ∧ (year % 100 ≠ 0 ∨ year % 400 = 0) then 29 else 28
  else if month = 4 ∨ month = 6 ∨ month = 9 ∨ month = 11 then 30
  else 31

/-- Takes year, month and day. -/
def date : Reader Unit := fun cs => do
  let (year, rest) ← fixed 4 0 9999 cs
  let (_, rest) ← one (· == '-') rest
  let (month, rest) ← fixed 2 1 12 rest
  let (_, rest) ← one (· == '-') rest
  let (_, rest) ← fixed 2 1 (daysIn year month) rest
  some ((), rest)

/-- Takes hour, minute and second; the second may have a fraction, and may be a
leap second. -/
def time : Reader Unit := fun cs => do
  let (_, rest) ← fixed 2 0 23 cs
  let (_, rest) ← one (· == ':') rest
  let (_, rest) ← fixed 2 0 59 rest
  let (_, rest) ← one (· == ':') rest
  let (_, rest) ← fixed 2 0 60 rest
  match rest with
  | '.' :: c :: more =>
    if isDigitOf 10 c then some ((), more.dropWhile (isDigitOf 10)) else none
  | _ => some ((), rest)

/-- Takes the distance from universal time. -/
def offset : Reader Unit := fun cs =>
  match cs with
  | 'Z' :: rest | 'z' :: rest => some ((), rest)
  | _ => do
    let (_, rest) ← one (fun c => c == '+' || c == '-') cs
    let (_, rest) ← fixed 2 0 23 rest
    let (_, rest) ← one (· == ':') rest
    let (_, rest) ← fixed 2 0 59 rest
    some ((), rest)

/-- Takes a date, a time, or both with a mark or a blank between them. -/
def moment : Reader Unit := fun cs =>
  match date cs with
  | none => time cs
  | some (_, rest) =>
    let both : Option (List Char) := do
      let (_, rest) ← one (fun c => c == 'T' || c == 't' || c == ' ') rest
      let (_, rest) ← time rest
      some (match offset rest with
        | some (_, rest) => rest
        | none => rest)
    some ((), both.getD rest)

end Gateway.Toml
