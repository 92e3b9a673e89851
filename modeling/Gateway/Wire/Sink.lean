import Gateway.Bytes
import Gateway.Fault

/-!
# Sinks

The sending side of a connection, as what it has accepted and how much more it
will. A write that does not fit is accepted as far as it does and then fails.

* `Sink.write` offers bytes;
* `Sink.accepted` is the view: all bytes that went out, in order;
* `accepted_write`: a write that succeeds adds its bytes, one that fails adds a
  part from their front.
-/

namespace Gateway

/-- The sending side of a connection. -/
structure Sink where
  /-- How many more bytes are accepted; without a number all are. -/
  room : Option Nat := none
  /-- What a write meets that is not accepted. -/
  refusal : Fault := .system 32
  /-- The accepted writes, the last one first. -/
  writes : List Bytes := []
  deriving DecidableEq, Repr, Inhabited

namespace Sink

/-- All bytes that went out. -/
def accepted (s : Sink) : Bytes :=
  s.writes.reverse.flatten

/-- Writes all of the bytes or fails. -/
def write (data : Bytes) (s : Sink) : Except Fault Unit × Sink :=
  match s.room with
  | none => (.ok (), { s with writes := data :: s.writes })
  | some n =>
    if data.length ≤ n then
      (.ok (), { s with room := some (n - data.length), writes := data :: s.writes })
    else
      (.error s.refusal, { s with room := some 0, writes := data.take n :: s.writes })

/-- **A write that succeeds adds exactly its bytes.** -/
theorem accepted_write {s t : Sink} {data : Bytes}
    (h : s.write data = (.ok (), t)) :
    t.accepted = s.accepted ++ data := by
  unfold write at h
  split at h
  · cases h; simp [accepted]
  · split at h
    · cases h; simp [accepted]
    · cases h

/-- **A write that fails adds a part from the front of its bytes.** -/
theorem accepted_write_error {s t : Sink} {data : Bytes} {fault : Fault}
    (h : s.write data = (.error fault, t)) :
    ∃ n, n < data.length ∧ t.accepted = s.accepted ++ data.take n := by
  unfold write at h
  split at h
  · cases h
  · rename_i n _
    split at h
    · cases h
    · cases h
      exact ⟨n, by omega, by simp [accepted]⟩

end Sink

end Gateway
