import Gateway.Text.Number
import Gateway.Text.Split

/-!
# Network addresses

Internet addresses and socket addresses with their text forms. Reading is
strict: an address is a complete text, decimal bytes have no leading zeros, and
at most one `::` stands for a run of zero groups. Writing is canonical: the
longest run of two or more zero groups is left out, and an address that maps one
of version 4 shows it in dotted form.

* `Ip.ofText?`, `SocketAddress.ofText?` read;
* `Ip.text`, `SocketAddress.text` write.
-/

namespace Gateway

/-- An internet address of version 4. -/
structure Ipv4 where
  /-- The four bytes, most significant first. -/
  bytes : Vector UInt8 4
  deriving DecidableEq, Repr, Inhabited

/-- An internet address of version 6. -/
structure Ipv6 where
  /-- The eight groups of 16 bits, most significant first. -/
  groups : Vector UInt16 8
  deriving DecidableEq, Repr, Inhabited

/-- An internet address. -/
inductive Ip where
  /-- An address of version 4. -/
  | v4 (address : Ipv4)
  /-- An address of version 6. -/
  | v6 (address : Ipv6)
  deriving DecidableEq, Repr, Inhabited

namespace Ipv4

/-- Whether an address stands for all addresses of a host. -/
def isUnspecified (a : Ipv4) : Bool := a.bytes == #v[0, 0, 0, 0]

end Ipv4

namespace Ipv6

/-- Whether an address stands for all addresses of a host. -/
def isUnspecified (a : Ipv6) : Bool := a.groups == #v[0, 0, 0, 0, 0, 0, 0, 0]

/-- The address of version 4 that an address maps. -/
def mapped? (a : Ipv6) : Option Ipv4 :=
  if a.groups.toList.take 6 == [0, 0, 0, 0, 0, 0xFFFF] then
    let high := a.groups[6]
    let low := a.groups[7]
    some ⟨#v[(high / 256).toUInt8, (high % 256).toUInt8, (low / 256).toUInt8,
      (low % 256).toUInt8]⟩
  else none

end Ipv6

/-- The address by which a host reaches itself. -/
def Ip.loopback : Ip := .v4 ⟨#v[127, 0, 0, 1]⟩

/-- An address as one of version 4, if it is one or maps one. -/
def Ip.v4? : Ip → Option Ipv4
  | .v4 a => some a
  | .v6 a => a.mapped?

/-- An internet address with a port; `scope` names the zone of an address of
version 6 and is 0 otherwise. -/
structure SocketAddress where
  /-- The address of the host. -/
  ip : Ip
  /-- The port on the host. -/
  port : UInt16
  /-- The zone identifier. -/
  scope : UInt32 := 0
  deriving DecidableEq, Repr, Inhabited

/-! ## Reading -/

namespace Address

/-- A reader takes a value off the front of a text. -/
abbrev Reader (α : Type) : Type := List Char → Option (α × List Char)

/-- Takes a number of at most `width` digits and at most `limit`; `strict`
refuses a leading zero. -/
def number (base : Nat) (width : Option Nat) (limit : Nat)
    (strict : Bool) : Reader Nat := fun cs =>
  let digits := cs.takeWhile fun c => (Text.digitValue? base c).isSome
  let tooWide := match width with
    | some w => w < digits.length
    | none => false
  if tooWide || (strict && digits.length > 1 && digits.head? == some '0') then none
  else match Text.digits? base digits with
    | some n => if n ≤ limit then some (n, cs.drop digits.length) else none
    | none => none

/-- Takes one fixed character. -/
def mark (c : Char) : Reader Unit := fun cs =>
  (Text.after? [c] cs).map fun rest => ((), rest)

/-- Takes four decimal bytes with points between them. -/
def ipv4 : Reader Ipv4 := fun cs => do
  let (a, cs) ← byte cs
  let (b, cs) ← pointAndByte cs
  let (c, cs) ← pointAndByte cs
  let (d, cs) ← pointAndByte cs
  some (⟨#v[a, b, c, d]⟩, cs)
where
  /-- A decimal byte has up to three digits and no leading zero. -/
  byte : Reader UInt8 := fun cs =>
    (number 10 (some 3) 255 true cs).map fun (n, rest) => (n.toUInt8, rest)
  /-- A point and the byte after it. -/
  pointAndByte : Reader UInt8 := fun cs =>
    (mark '.' cs).bind fun (_, rest) => byte rest

/-- Takes a group of up to four hexadecimal digits. -/
def group : Reader UInt16 := fun cs =>
  (number 16 (some 4) Text.max16 false cs).map fun (n, rest) => (n.toUInt16, rest)

/-- Takes up to `room` groups with colons between them. A dotted address of
version 4 may stand for the last two, if there is room for two; the flag tells
whether one did. -/
def groups :
    (room : Nat) → (first : Bool) → List Char → List UInt16 × Bool × List Char
  | 0, _, cs => ([], false, cs)
  | room + 1, first, cs =>
    let here := if first then some cs else (mark ':' cs).map (·.2)
    match (if room = 0 then none else here.bind ipv4) with
    | some (dotted, rest) =>
        let pair (i j : Fin 4) : UInt16 :=
            dotted.bytes[i].toUInt16 * 256 + dotted.bytes[j].toUInt16
        ([pair 0 1, pair 2 3], true, rest)
    | none =>
      match here.bind group with
      | some (g, rest) =>
          let (more, dotted, rest) := groups room false rest
          (g :: more, dotted, rest)
      | none => ([], false, cs)

/-- The eight groups in a list of eight. -/
def ofGroups? (gs : List UInt16) : Option Ipv6 :=
  if h : gs.toArray.size = 8 then some ⟨⟨gs.toArray, h⟩⟩ else none

/-- Takes an address of version 6. -/
def ipv6 : Reader Ipv6 := fun cs =>
  match groups 8 true cs with
  | (front, dotted, rest) =>
    if front.length = 8 then (ofGroups? front).map fun a => (a, rest)
    else if dotted then none
    else do
      let (_, rest) ← mark ':' rest
      let (_, rest) ← mark ':' rest
      let (back, _, rest) := groups (7 - front.length) true rest
      let zeros := List.replicate (8 - front.length - back.length) 0
      let a ← ofGroups? (front ++ zeros ++ back)
      some (a, rest)

/-- Takes an address of either version. -/
def ip : Reader Ip := fun cs =>
  match ipv4 cs with
  | some (a, rest) => some (.v4 a, rest)
  | none => (ipv6 cs).map fun (a, rest) => (.v6 a, rest)

/-- Takes a colon and a port. -/
def port : Reader UInt16 := fun cs => do
  let (_, cs) ← mark ':' cs
  let (n, cs) ← number 10 none Text.max16 false cs
  some (n.toUInt16, cs)

/-- Takes a socket address of version 4. -/
def socketV4 : Reader SocketAddress := fun cs => do
  let (a, cs) ← ipv4 cs
  let (p, cs) ← port cs
  some ({ ip := .v4 a, port := p }, cs)

/-- Takes a percent sign and a zone identifier, if there is one. -/
def zone : List Char → UInt32 × List Char := fun cs =>
  let found : Option (Nat × List Char) := do
    let (_, cs) ← mark '%' cs
    number 10 none Text.max32 false cs
  match found with
  | some (n, rest) => (n.toUInt32, rest)
  | none => (0, cs)

/-- Takes a socket address of version 6, whose address stands in square
brackets. -/
def socketV6 : Reader SocketAddress := fun cs => do
  let (_, cs) ← mark '[' cs
  let (a, cs) ← ipv6 cs
  let (scope, cs) := zone cs
  let (_, cs) ← mark ']' cs
  let (p, cs) ← port cs
  some ({ ip := .v6 a, port := p, scope := scope }, cs)

/-- Reads a whole text, with nothing left over. -/
def whole {α : Type} (reader : Reader α) (s : String) : Option α :=
  match reader s.toList with
  | some (a, []) => some a
  | _ => none

end Address

/-- Reads an internet address. -/
def Ip.ofText? (s : String) : Option Ip :=
  Address.whole Address.ip s

/-- Reads a socket address. -/
def SocketAddress.ofText? (s : String) : Option SocketAddress :=
  match Address.whole Address.socketV4 s with
  | some a => some a
  | none => Address.whole Address.socketV6 s

/-! ## Writing -/

/-- The dotted form. -/
def Ipv4.text (a : Ipv4) : String :=
  String.intercalate "." (a.bytes.toList.map fun b => toString b.toNat)

namespace Ipv6

/-- A group without leading zeros. -/
def groupText (g : UInt16) : String :=
  String.ofList (Nat.toDigits 16 g.toNat)

/-- The length of the run of zeros at the front. -/
def zeroRun (gs : List UInt16) : Nat :=
  (gs.takeWhile (· == 0)).length

/-- Start and length of the longest run of zeros, the first of equals; length 0
if there is no zero. -/
def longestZeroRun (gs : List UInt16) : Nat × Nat :=
  go 0 gs
where
  /-- `at` counts the groups in front of the rest. -/
  go (at_ : Nat) : List UInt16 → Nat × Nat
    | [] => (at_, 0)
    | g :: rest =>
      let here := zeroRun (g :: rest)
      let later := go (at_ + 1) rest
      if later.2 ≤ here then (at_, here) else later

/-- The canonical form. -/
def text (a : Ipv6) : String :=
  match a.mapped? with
  | some dotted => "::ffff:" ++ dotted.text
  | none =>
    let gs := a.groups.toList
    let join (part : List UInt16) := String.intercalate ":" (part.map groupText)
    let (start, length) := longestZeroRun gs
    if length > 1 then join (gs.take start) ++ "::" ++
      join (gs.drop (start + length)) else join gs

end Ipv6

/-- The text of an internet address. -/
def Ip.text : Ip → String
  | .v4 a => a.text
  | .v6 a => a.text

/-- The text of a socket address; one of version 6 stands in square brackets. -/
def SocketAddress.text (a : SocketAddress) : String :=
  let zone := if a.scope = 0 then "" else "%" ++ toString a.scope.toNat
  match a.ip with
  | .v4 ip => ip.text ++ ":" ++ toString a.port.toNat
  | .v6 ip => "[" ++ ip.text ++ zone ++ "]:" ++ toString a.port.toNat

end Gateway
