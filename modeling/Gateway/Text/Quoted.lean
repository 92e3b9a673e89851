import Gateway.Text.Printable

/-!
# Quoted text

Reports show a text that came from outside in double quotes, with everything
escaped that would not show: the usual control characters by a letter, every
other character that has no glyph of its own by its code point. An apostrophe
stays as it is.
-/

namespace Gateway.Text

/-- The digits of a number to the base 16. -/
def hexDigits (n : Nat) : List Char :=
  Nat.toDigits 16 n

/-- How one character stands between double quotes. -/
def escaped (c : Char) : List Char :=
  match c with
  | '\x00' => ['\\', '0']
  | '\t' => ['\\', 't']
  | '\n' => ['\\', 'n']
  | '\r' => ['\\', 'r']
  | '"' => ['\\', '"']
  | '\\' => ['\\', '\\']
  | _ =>
    if shows c then [c] else '\\' :: 'u' :: '{' :: hexDigits c.toNat ++ ['}']

/-- A text between double quotes. -/
def quoted (s : String) : String :=
  String.ofList ('"' :: s.toList.flatMap escaped ++ ['"'])

end Gateway.Text
