import Gateway.Message.Headers
import Gateway.Wire.Peer

/-!
# Relaying bodies

A body is copied from a reader to a sink as it comes, through a buffer of a
fixed size, and never held whole. A chunked body is copied with its size lines,
its line ends and its trailers, so the receiver sees what the sender wrote. The
copy stops right behind the body.

* `Pipe` is one direction of a relay with the count of the bytes that went
  through;
* `Pipe.copyLength`, `Pipe.copyChunks`, `Pipe.copyAll` are the copies,
  `Pipe.relay` picks one by framing.
-/

namespace Gateway

/-- Why a body could not be relayed. -/
inductive RelayError where
  /-- The sender's connection failed. -/
  | read (fault : Fault)
  /-- The receiver's connection failed. -/
  | write (fault : Fault)
  /-- The sender ended within the body. -/
  | unexpectedEnd
  /-- The sender's chunks are none. -/
  | invalidChunk (flaw : Flaw)
  /-- The sender keeps its connection open and sends nothing more. -/
  | silent
  deriving DecidableEq, Repr, Inhabited

/-- The wording of a relay error. -/
def RelayError.message : RelayError → String
  | .read fault => "read failed: " ++ fault.message
  | .write fault => "write failed: " ++ fault.message
  | .unexpectedEnd => "peer closed before the body was complete"
  | .invalidChunk flaw => "invalid chunked encoding: " ++ flaw.message
  | .silent => "no more bytes arrive"

/-- One direction of a relay. -/
structure Pipe where
  /-- Where the body comes from. -/
  reader : Reader
  /-- Where it goes to. -/
  sink : Sink
  /-- How many bytes of bodies went through. -/
  count : Nat := 0
  deriving DecidableEq, Repr, Inhabited

namespace Pipe

/-- The count as the gateway keeps it, in 64 bits. It is the number of bytes as
long as that is below `2 ^ 64`; a count that begins at 0 would take centuries to
get there. -/
def counter (p : Pipe) : UInt64 :=
  .ofNat p.count

theorem toNat_counter {p : Pipe} (h : p.count < UInt64.size) :
    p.counter.toNat = p.count :=
  UInt64.toNat_ofNat_of_lt h

/-- A step of a relay, which ends with a value or an error and in either case
leaves a pipe. -/
abbrev Step (α : Type) : Type := Pipe → EStateM.Result RelayError Pipe α

/-- The relay error of a read that gives nothing. -/
def errorOfStop : Stop → RelayError
  | .failed fault => .read fault
  | .silent => .silent

/-- Takes at most `room` bytes of the body; none say that the sender has
ended. -/
def fetch (room : Nat) : Step Bytes := fun p =>
  match p.reader.readSome room with
  | (.ok bs, reader) => .ok bs { p with reader := reader }
  | (.error stop, reader) =>
    .error (errorOfStop stop) { p with reader := reader }

/-- Sends bytes on. They count only if all of them are accepted. -/
def emit (data : Bytes) : Step Unit := fun p =>
  match p.sink.write data with
  | (.ok _, sink) =>
    .ok () { p with sink := sink, count := p.count + data.length }
  | (.error fault, sink) => .error (.write fault) { p with sink := sink }

/-- The longest line of a chunked body that has to be accepted. -/
def maxChunkLine : Nat := 4096

/-- The relay error of a line that cannot be read. A reader says by the kind of
its failure that a line is too long, so a connection that fails with this kind
is taken for such a line. -/
def errorOfLine : LineError → RelayError
  | .tooLong => .invalidChunk .lineTooLong
  | .stopped (.failed fault) =>
    if fault.kind = .invalidData then .invalidChunk .lineTooLong else .read fault
  | .stopped .silent => .silent

/-- Takes a line of a chunked body. -/
def fetchLine : Step Bytes := fun p =>
  match p.reader.readLine maxChunkLine with
  | (.ok (some line), reader) => .ok line { p with reader := reader }
  | (.ok none, reader) => .error .unexpectedEnd { p with reader := reader }
  | (.error e, reader) => .error (errorOfLine e) { p with reader := reader }

/-! ## What a step does to the bytes to come -/

/-- A fetch that gives bytes leaves fewer to come. -/
theorem fetch_length_lt {room : Nat} {p q : Pipe} {b : UInt8} {bs : Bytes}
    (h : fetch room p = .ok (b :: bs) q) :
    q.reader.remaining.length < p.reader.remaining.length := by
  unfold fetch at h
  split at h
  · rename_i reader heq
    cases h
    have hr := congrArg List.length (Reader.remaining_readSome heq)
    rw [List.length_append, List.length_cons] at hr
    show reader.remaining.length < _
    omega
  · cases h

/-- A line that is fetched leaves fewer bytes to come. -/
theorem fetchLine_length_lt {p q : Pipe} {line : Bytes}
    (h : fetchLine p = .ok line q) :
    q.reader.remaining.length < p.reader.remaining.length := by
  unfold fetchLine at h
  split at h <;> try cases h
  rename_i heq
  obtain ⟨he, hne⟩ := Reader.remaining_readLine heq
  rw [he]
  have := List.length_pos_iff.2 hne
  simp
  omega

theorem emit_reader {data : Bytes} {p q : Pipe} (h : emit data p = .ok () q) :
    q.reader = p.reader := by
  unfold emit at h
  split at h <;> cases h
  rfl

/-! ## Bodies of a known length -/

/-- Copies exactly `n` bytes, at most `room` at a time. -/
def copyLength (room n : Nat) : Step Unit := fun p =>
  if n = 0 then .ok () p
  else match fetch (min room n) p with
    | .error e p => .error e p
    | .ok [] p => .error .unexpectedEnd p
    | .ok (b :: bs) p =>
      match emit (b :: bs) p with
      | .error e p => .error e p
      | .ok _ p => copyLength room (n - (bs.length + 1)) p
termination_by n

/-- A copy leaves no more bytes to come than there were. -/
theorem copyLength_length_le {room n : Nat} {p q : Pipe}
    (h : copyLength room n p = .ok () q) :
    q.reader.remaining.length ≤ p.reader.remaining.length := by
  fun_induction copyLength room n p with
  | case1 => cases h; exact Nat.le_refl _
  | case2 => cases h
  | case3 => cases h
  | case4 => cases h
  | case5 _ p _ _ _ _ hf _ _ he ih =>
    have h1 := ih h
    have h2 := fetch_length_lt hf
    rw [emit_reader he] at h1
    omega

/-! ## Bodies that end with the connection -/

/-- Copies everything up to the end of the connection, at most `room` bytes at a
time. -/
def copyAll (room : Nat) : Step Unit := fun p =>
  match _hf : fetch room p with
  | .error e p => .error e p
  | .ok [] p => .ok () p
  | .ok (b :: bs) q =>
    match _he : emit (b :: bs) q with
    | .error e q => .error e q
    | .ok _ q => copyAll room q
termination_by p => p.reader.remaining.length
decreasing_by
  have h1 := fetch_length_lt _hf
  rw [emit_reader _he]
  exact h1

/-! ## Chunked bodies -/

/-- The size at the front of a size line, in hexadecimal; what follows a
semicolon does not count. -/
def chunkSize (line : Bytes) : Except Flaw Nat :=
  match line.text? with
  | none => .error .chunkSizeNotText
  | some text =>
    let bare := (text.toList.reverse.dropWhile fun c => c == '\r' || c == '\n').reverse
    let digits := Text.trim (bare.takeWhile (· ≠ ';'))
    if digits = [] ∨ 16 < digits.length then .error .invalidChunkSize
    else match Text.unsigned? 16 Text.max64 digits with
      | some n => .ok n
      | none => .error .invalidChunkSize

/-- Whether a line is empty but for its line end. -/
def isEmptyLine (line : Bytes) : Bool :=
  line == [13, 10] || line == [10]

/-- Copies trailer lines up to and with the empty one. -/
def copyTrailers : Step Unit := fun p =>
  match _hl : fetchLine p with
  | .error e p => .error e p
  | .ok line q =>
    match _he : emit line q with
    | .error e q => .error e q
    | .ok _ q => if isEmptyLine line then .ok () q else copyTrailers q
termination_by p => p.reader.remaining.length
decreasing_by
  have h1 := fetchLine_length_lt _hl
  rw [emit_reader _he]
  exact h1

/-- Takes the line end behind the data of a chunk and sends it on. -/
def copyChunkEnd : Step Unit := fun p =>
  match fetchLine p with
  | .error e p => .error e p
  | .ok line p =>
    if isEmptyLine line then emit line p else .error (.invalidChunk .unendedChunk) p

/-- The line end of a chunk leaves fewer bytes to come. -/
theorem copyChunkEnd_length_lt {p q : Pipe} (h : copyChunkEnd p = .ok () q) :
    q.reader.remaining.length < p.reader.remaining.length := by
  unfold copyChunkEnd at h
  split at h
  · cases h
  · rename_i hl
    split at h
    · rw [emit_reader h]
      exact fetchLine_length_lt hl
    · cases h

/-- Takes a size line, sends it on and gives the size. -/
def copyChunkSize : Step Nat := fun p =>
  match fetchLine p with
  | .error e p => .error e p
  | .ok line p =>
    match chunkSize line with
    | .error flaw => .error (.invalidChunk flaw) p
    | .ok n =>
      match emit line p with
      | .error e p => .error e p
      | .ok _ p => .ok n p

/-- A size line leaves fewer bytes to come. -/
theorem copyChunkSize_length_lt {p q : Pipe} {n : Nat}
    (h : copyChunkSize p = .ok n q) :
    q.reader.remaining.length < p.reader.remaining.length := by
  unfold copyChunkSize at h
  split at h
  · cases h
  · rename_i hl
    split at h
    · cases h
    · split at h
      · cases h
      · rename_i he
        cases h
        rw [emit_reader he]
        exact fetchLine_length_lt hl

/-- Copies chunks up to and with the last one, which has size 0, and the
trailers behind it. -/
def copyChunks (room : Nat) : Step Unit := fun p =>
  match _hs : copyChunkSize p with
  | .error e p => .error e p
  | .ok n p1 =>
    if n = 0 then copyTrailers p1
    else match _hd : copyLength room n p1 with
      | .error e p => .error e p
      | .ok _ p2 =>
        match _he : copyChunkEnd p2 with
        | .error e p => .error e p
        | .ok _ p3 => copyChunks room p3
termination_by p => p.reader.remaining.length
decreasing_by
  have h1 := copyChunkSize_length_lt _hs
  have h2 := copyLength_length_le _hd
  have h3 := copyChunkEnd_length_lt _he
  omega

/-! ## Any body -/

/-- Copies one body, at most `room` bytes at a time. -/
def relay (framing : Framing) (room : Nat) : Step Unit :=
  match framing with
  | .empty => fun p => .ok () p
  | .length n => copyLength room n
  | .chunked => copyChunks room
  | .untilClose => copyAll room

/-! ## A relay takes bytes off the front and adds none -/

/-- Copying everything leaves no more bytes to come than there were. -/
theorem copyAll_length_le {room : Nat} {p q : Pipe}
    (h : copyAll room p = .ok () q) :
    q.reader.remaining.length ≤ p.reader.remaining.length := by
  fun_induction copyAll room p with
  | case1 => cases h
  | case2 p q hf =>
    cases h
    unfold fetch at hf
    split at hf
    · rename_i heq
      cases hf
      rw [Reader.remaining_readSome heq]
      simp
    · cases hf
  | case3 => cases h
  | case4 p b bs q hf q' _ he ih =>
    have h1 := ih h
    have h2 := fetch_length_lt hf
    rw [emit_reader he] at h1
    omega

/-- Copying trailers leaves no more bytes to come than there were. -/
theorem copyTrailers_length_le {p q : Pipe} (h : copyTrailers p = .ok () q) :
    q.reader.remaining.length ≤ p.reader.remaining.length := by
  fun_induction copyTrailers p with
  | case1 => cases h
  | case2 => cases h
  | case3 p line q' hl q'' _ he _ =>
    cases h
    have := fetchLine_length_lt hl
    rw [emit_reader he]
    omega
  | case4 p line q' hl q'' _ he _ ih =>
    have h1 := ih h
    have h2 := fetchLine_length_lt hl
    rw [emit_reader he] at h1
    omega

/-- Copying chunks leaves no more bytes to come than there were. -/
theorem copyChunks_length_le {room : Nat} {p q : Pipe}
    (h : copyChunks room p = .ok () q) :
    q.reader.remaining.length ≤ p.reader.remaining.length := by
  fun_induction copyChunks room p with
  | case1 => cases h
  | case2 p p1 hs =>
    have h1 := copyTrailers_length_le h
    have h2 := copyChunkSize_length_lt hs
    omega
  | case3 => cases h
  | case4 => cases h
  | case5 p n p1 hs _ p2 _ hd p3 _ he ih =>
    have h1 := ih h
    have h2 := copyChunkSize_length_lt hs
    have h3 := copyLength_length_le hd
    have h4 := copyChunkEnd_length_lt he
    omega

/-- **A relay leaves no more bytes to come than there were.** -/
theorem relay_length_le {framing : Framing} {room : Nat} {p q : Pipe}
    (h : relay framing room p = .ok () q) :
    q.reader.remaining.length ≤ p.reader.remaining.length := by
  cases framing with
  | empty => cases h; exact Nat.le_refl _
  | length n => exact copyLength_length_le h
  | chunked => exact copyChunks_length_le h
  | untilClose => exact copyAll_length_le h

end Pipe

end Gateway
