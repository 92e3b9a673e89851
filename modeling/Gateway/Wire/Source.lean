import Gateway.Bytes
import Gateway.Fault

/-!
# Sources

The receiving side of a connection, as the bytes that will still arrive: cut
into the pieces in which they arrive, and followed by what the peer does after
the last of them. A read never joins two pieces.

* `Source.read` takes what fits of the next piece;
* `Source.remaining` is the view: all bytes to come, whatever the pieces;
* `remaining_read`: a read takes its bytes off the front of the view.
-/

namespace Gateway

/-- What reads give after the last piece. -/
inductive Ending where
  /-- The peer has ended its side. -/
  | eof
  /-- The connection fails. -/
  | failed (fault : Fault)
  /-- Nothing more ever arrives. -/
  | silent
  deriving DecidableEq, Repr, Inhabited

/-- Why a read comes back without bytes. -/
inductive Stop where
  /-- The connection failed. -/
  | failed (fault : Fault)
  /-- The read would wait forever. -/
  | silent
  deriving DecidableEq, Repr, Inhabited

/-- The bytes that will arrive on a connection. -/
structure Source where
  /-- The pieces in which the bytes arrive. -/
  pieces : List Bytes := []
  /-- What comes after them. -/
  ending : Ending := .eof
  deriving DecidableEq, Repr, Inhabited

/-- What a read gives when no piece is left; the empty list says that the peer
has ended. -/
def Ending.read : Ending → Except Stop Bytes
  | .eof => .ok []
  | .failed fault => .error (.failed fault)
  | .silent => .error .silent

namespace Source

/-- How many bytes a piece has at most. -/
def pieceSize : Nat := 8192

/-- Cuts bytes into pieces that are full but for the last one. -/
def cut (bs : Bytes) : List Bytes :=
  if bs.length ≤ pieceSize then [bs]
  else bs.take pieceSize :: cut (bs.drop pieceSize)
termination_by bs.length
decreasing_by
  simp only [List.length_drop, pieceSize] at *
  omega

/-- The source of segments that arrive one by one, each in pieces of at most
`pieceSize` bytes. -/
def ofSegments (segments : List Bytes) (ending : Ending) : Source :=
  ⟨segments.flatMap cut, ending⟩

/-- All bytes to come. -/
def remaining (s : Source) : Bytes :=
  s.pieces.flatten

/-- Takes at most `room` bytes of the next piece that has any. Without room
nothing is taken, and no bytes are given; otherwise giving no bytes says that
the peer has ended. -/
def read (room : Nat) (s : Source) : Except Stop Bytes × Source :=
  if room = 0 then (.ok [], s) else go s.pieces
where
  /-- Skips pieces without bytes. -/
  go : List Bytes → Except Stop Bytes × Source
    | [] => (s.ending.read, ⟨[], s.ending⟩)
    | [] :: rest => go rest
    | (b :: bs) :: rest =>
      (.ok ((b :: bs).take room), ⟨(b :: bs).drop room :: rest, s.ending⟩)

/-- **A read takes its bytes off the front.** -/
theorem remaining_read {room : Nat} {s t : Source} {bs : Bytes}
    (h : s.read room = (.ok bs, t)) :
    s.remaining = bs ++ t.remaining := by
  unfold read at h
  split at h
  · cases h; simp
  · have key : ∀ pieces, read.go room s pieces = (.ok bs, t) →
        pieces.flatten = bs ++ t.pieces.flatten := by
      intro pieces hp
      induction pieces with
      | nil =>
        simp only [read.go, Prod.mk.injEq] at hp
        obtain ⟨he, rfl⟩ := hp
        cases hs : s.ending <;> simp_all [Ending.read]
      | cons p rest ih =>
        cases p with
        | nil => simpa using ih hp
        | cons b piece =>
          simp only [read.go, Prod.mk.injEq, Except.ok.injEq] at hp
          obtain ⟨rfl, rfl⟩ := hp
          simp only [List.flatten_cons, ← List.append_assoc, List.take_append_drop]
    exact key s.pieces h

end Source

end Gateway
