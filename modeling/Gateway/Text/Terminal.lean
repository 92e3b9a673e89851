/-!
# Text for terminals and without them

A text for a terminal may hold control sequences, which begin with an escape
character: some run to a final letter, others hold a whole string. Where a text
does not go to a terminal, all that would control one is taken out: the
sequences, and control characters that are no blanks.

* `bold` sets a text in bold;
* `uncontrolled` is what is left of a text;
* `uncontrolled_eq_self`: a text without control characters is left as it is.
-/

namespace Gateway.Text

/-- A text in bold. -/
def bold (s : String) : String :=
  "\x1b[1m" ++ s ++ "\x1b[0m"

/-- How far the head of a string for a device is read, which stands between its
beginning and its string. -/
inductive DeviceHead where
  /-- Nothing of it. -/
  | start
  /-- Parameters. -/
  | parameters
  /-- What stands behind the parameters. -/
  | middle
  deriving DecidableEq, Repr, Inhabited

/-- Where a text stands between control sequences. -/
inductive Control where
  /-- In none. -/
  | ground
  /-- Behind an escape character. -/
  | escape
  /-- In a sequence of two or more characters that a letter or digit ends. -/
  | middle
  /-- In a sequence with parameters, which a letter ends. -/
  | parameters
  /-- In a title, which a bell ends. -/
  | title
  /-- In the head of a string for a device. -/
  | device (head : DeviceHead)
  /-- In a string that is not shown. -/
  | string
  deriving DecidableEq, Repr, Inhabited

namespace Control

/-- Decides control characters of ASCII. -/
def isControl (c : Char) : Bool :=
  c.toNat < 0x20 || c == '\x7f'

/-- Decides the control characters that are blanks. -/
def isBlank (c : Char) : Bool :=
  c == '\t' || c == '\n' || c == '\x0c' || c == '\r'

/-- Decides the characters that end a string. The mark is one byte, and it
counts wherever it stands, also within the bytes of a character. -/
def endsString (c : Char) : Bool :=
  (String.utf8EncodeChar c).contains 0x9c

/-- Behind an escape character, what a character begins. -/
def opened (c : Char) : Control :=
  match c with
  | '[' => .parameters
  | ']' => .title
  | 'P' => .device .start
  | 'X' | '^' | '_' => .string
  | _ =>
    if '\x20' ≤ c && c ≤ '/' then .middle
    else if '0' ≤ c && c ≤ '~' then .ground
    else .escape

/-- What comes behind a character of the head of a string for a device. A letter
ends the head, and so does a parameter that stands where none is expected. -/
def behindDevice (head : DeviceHead) (c : Char) : Control :=
  if '@' ≤ c && c ≤ '~' then .string
  else if '\x20' ≤ c && c ≤ '/' then .device .middle
  else if '0' ≤ c && c ≤ '?' then
    if head = .start || (head = .parameters && c ≤ ';') then .device .parameters
    else .string
  else .device head

/-- Reads one character: where the text stands then, and whether the character
shows. -/
def read (state : Control) (c : Char) : Control × Bool :=
  if c == '\x1b' then (.escape, false)
  else if c == '\x18' || c == '\x1a' then (.ground, false)
  else match state with
    | .ground => (.ground, !isControl c || isBlank c)
    | .escape => if isBlank c then (.ground, true) else (opened c, false)
    | .middle =>
      if isBlank c then (.ground, true)
      else if '0' ≤ c && c ≤ '~' then (.ground, false) else (.middle, false)
    | .parameters =>
      if isBlank c then (.ground, true)
      else if '@' ≤ c && c ≤ '~' then (.ground, false) else (.parameters, false)
    | .title => if c == '\x07' then (.ground, false) else (.title, false)
    | .device head => (behindDevice head c, false)
    | .string => if endsString c then (.ground, false) else (.string, false)

end Control

/-- What is left of a text without what would control a terminal. -/
def uncontrolled (cs : List Char) : List Char :=
  go .ground cs
where
  /-- Reads on from a state. -/
  go (state : Control) : List Char → List Char
    | [] => []
    | c :: rest =>
      match state.read c with
      | (next, true) => c :: go next rest
      | (next, false) => go next rest

/-- **A text without control characters is left as it is.** -/
theorem uncontrolled_eq_self {cs : List Char}
    (h : ∀ c ∈ cs, Control.isControl c = false) :
    uncontrolled cs = cs := by
  unfold uncontrolled
  induction cs with
  | nil => rfl
  | cons c rest ih =>
    have hc := h c (List.mem_cons_self ..)
    have hne : ∀ d, Control.isControl d = true → (c == d) = false := by
      intro d hd
      by_cases e : c = d
      · subst e; rw [hc] at hd; cases hd
      · simpa using e
    have hread : Control.ground.read c = (.ground, true) := by
      simp [Control.read, hne '\x1b' (by decide), hne '\x18' (by decide),
        hne '\x1a' (by decide), hc]
    simp only [uncontrolled.go, hread]
    rw [ih fun d hd => h d (List.mem_cons_of_mem _ hd)]

end Gateway.Text
