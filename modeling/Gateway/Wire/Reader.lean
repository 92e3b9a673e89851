import Gateway.Message.Flaw
import Gateway.Wire.Source

/-!
# Buffered reading

A reader holds what has arrived and was not asked for yet, in front of its
source. Heads and lines are read by taking piece after piece into the buffer
until the end shows, so bytes that arrive together with a head stay for whoever
reads next.

* `readHead` reads a message head, `readLine` a line, `readSome` whatever is
  there;
* `Reader.remaining` is the view: buffered bytes, then bytes to come;
* `remaining_readSome`, `remaining_readLine`: a reader gives bytes off the front
  of its view and loses none.
-/

namespace Gateway

/-- A source with the bytes that were read from it and not consumed. -/
structure Reader where
  /-- Arrived and not consumed. -/
  buffer : Bytes := []
  /-- Yet to arrive. -/
  source : Source := {}
  deriving DecidableEq, Repr, Inhabited

/-- Why a line could not be read. -/
inductive LineError where
  /-- No line end shows within the limit. -/
  | tooLong
  /-- The source gave no more bytes. -/
  | stopped (stop : Stop)
  deriving DecidableEq, Repr, Inhabited

namespace Reader

/-- All bytes that the reader will still give. -/
def remaining (r : Reader) : Bytes :=
  r.buffer ++ r.source.remaining

/-! ## Where heads and lines end -/

/-- Takes the line ends off the front. -/
def dropLineEnds : Bytes → Bytes
  | 13 :: 10 :: rest => dropLineEnds rest
  | bs => bs

/-- The length of the shortest part from the front that ends with an empty
line. -/
def headEnd? (bs : Bytes) : Option Nat :=
  go 0 bs
where
  /-- Counts the bytes in front. -/
  go (passed : Nat) : Bytes → Option Nat
    | 13 :: 10 :: 13 :: 10 :: _ => some (passed + 4)
    | _ :: rest => go (passed + 1) rest
    | [] => none

/-- The same, where no head ends within the first `scanned + 3` bytes. -/
def headEndFrom? (scanned : Nat) (bs : Bytes) : Option Nat :=
  (headEnd? (bs.drop scanned)).map (scanned + ·)

/-- The length of the first line with its line feed. -/
def lineEnd? (bs : Bytes) : Option Nat :=
  (bs.findIdx? (· == Bytes.lf)).map (· + 1)

/-- The same, where the first `scanned` bytes hold no line feed. -/
def lineEndFrom? (scanned : Nat) (bs : Bytes) : Option Nat :=
  (lineEnd? (bs.drop scanned)).map (scanned + ·)

/-! ## Reading -/

/-- Reads a head of at most `max` bytes with the empty line that ends it. Line
ends in front of a head are skipped; a peer that ends before a head begins gives
none. -/
def readHead (max : Nat) (r : Reader) :
    Except HeadError (Option Bytes) × Reader :=
  go r.buffer 0 r.source.pieces
where
  /-- Takes piece after piece into the buffer; the search starts where the last
  one could not have seen an end. -/
  go (held : Bytes) (scanned : Nat) (pieces : List Bytes) :
      Except HeadError (Option Bytes) × Reader :=
    let buffer := dropLineEnds held
    let scanned := if buffer.length = held.length then scanned else 0
    let left (buffer : Bytes) : Reader := ⟨buffer, ⟨pieces, r.source.ending⟩⟩
    match headEndFrom? scanned buffer with
    | some n =>
      if max < n then (.error (.tooLarge max), left buffer)
      else (.ok (some (buffer.take n)), left (buffer.drop n))
    | none =>
      if max < buffer.length then (.error (.tooLarge max), left buffer)
      else match pieces with
        | piece :: rest => go (buffer ++ piece) (buffer.length - 3) rest
        | [] => match r.source.ending with
          | .eof =>
            (if buffer = [] then .ok none else .error .closed, left buffer)
          | .failed fault => (.error (.failed fault), left buffer)
          | .silent => (.error .silent, left buffer)

/-- Reads a line with its line feed. The limit holds for the bytes that have
arrived without one, so a line that is longer and arrives at once is read; a
peer that ends within the line gives none. -/
def readLine (max : Nat) (r : Reader) :
    Except LineError (Option Bytes) × Reader :=
  go r.buffer 0 r.source.pieces
where
  /-- Takes piece after piece into the buffer; the search starts behind what was
  searched. -/
  go (buffer : Bytes) (scanned : Nat) (pieces : List Bytes) :
      Except LineError (Option Bytes) × Reader :=
    let left (buffer : Bytes) : Reader := ⟨buffer, ⟨pieces, r.source.ending⟩⟩
    match lineEndFrom? scanned buffer with
    | some n => (.ok (some (buffer.take n)), left (buffer.drop n))
    | none =>
      if max < buffer.length then (.error .tooLong, left buffer)
      else match pieces with
        | piece :: rest => go (buffer ++ piece) buffer.length rest
        | [] => match r.source.ending with
          | .eof => (.ok none, left buffer)
          | .failed fault => (.error (.stopped (.failed fault)), left buffer)
          | .silent => (.error (.stopped .silent), left buffer)

/-- The most bytes for which there can be room at once. -/
def maxRoom : Nat := UInt64.size / 2 - 1

/-- Reads at most `room` bytes: buffered ones if there are any, else from the
source. -/
def readSome (room : Nat) (r : Reader) : Except Stop Bytes × Reader :=
  if r.buffer = [] then
    match r.source.read room with
    | (result, source) => (result, { r with source := source })
  else (.ok (r.buffer.take room), { r with buffer := r.buffer.drop room })

/-! ## No byte is lost -/

/-- **What is read comes off the front of the view.** -/
theorem remaining_readSome {room : Nat} {r t : Reader} {bs : Bytes}
    (h : r.readSome room = (.ok bs, t)) : r.remaining = bs ++ t.remaining := by
  unfold readSome at h
  split at h
  · rename_i hb
    simp only [Prod.mk.injEq] at h
    obtain ⟨hr, rfl⟩ := h
    have := Source.remaining_read (s := r.source) (t := (r.source.read room).2)
      (Prod.ext hr rfl)
    simp [remaining, hb, this]
  · simp only [Prod.mk.injEq, Except.ok.injEq] at h
    obtain ⟨rfl, rfl⟩ := h
    simp [remaining, ← List.append_assoc]

theorem lineEndFrom?_pos {scanned n : Nat} {bs : Bytes}
    (h : lineEndFrom? scanned bs = some n) :
    0 < n ∧ n ≤ bs.length := by
  simp only [lineEndFrom?, lineEnd?, Option.map_map, Option.map_eq_some_iff] at h
  obtain ⟨i, hi, rfl⟩ := h
  have hlt := (List.findIdx?_eq_some_iff_getElem.1 hi).1
  simp only [List.length_drop] at hlt
  simp only [Function.comp]
  omega

/-- **A line comes off the front of the view and is not empty.** -/
theorem remaining_readLine {max : Nat} {r t : Reader} {line : Bytes}
    (h : r.readLine max = (.ok (some line), t)) :
    r.remaining = line ++ t.remaining ∧ line ≠ [] := by
  have key : ∀ pieces buffer scanned, readLine.go max r buffer scanned pieces =
      (.ok (some line), t) →
      buffer ++ pieces.flatten = line ++ t.remaining ∧ line ≠ [] := by
    intro pieces
    induction pieces with
    | nil =>
      intro buffer scanned hg
      unfold readLine.go at hg
      simp only at hg
      split at hg
      · rename_i n hn
        cases hg
        have := lineEndFrom?_pos hn
        refine ⟨by simp [remaining, Source.remaining], ?_⟩
        intro he
        simp only [List.take_eq_nil_iff] at he
        rcases he with he | he
        · omega
        · simp [he] at this; omega
      · split at hg
        · cases hg
        · split at hg <;> cases hg
    | cons piece rest ih =>
      intro buffer scanned hg
      unfold readLine.go at hg
      simp only at hg
      split at hg
      · rename_i n hn
        cases hg
        have := lineEndFrom?_pos hn
        refine ⟨by simp [remaining, Source.remaining, ← List.append_assoc], ?_⟩
        intro he
        simp only [List.take_eq_nil_iff] at he
        rcases he with he | he
        · omega
        · simp [he] at this; omega
      · split at hg
        · cases hg
        · have := ih _ _ hg
          simpa using this
  have := key r.source.pieces r.buffer 0 h
  simpa [remaining, Source.remaining] using this

theorem exists_dropLineEnds (bs : Bytes) :
    ∃ skipped, bs = skipped ++ dropLineEnds bs := by
  fun_induction dropLineEnds bs with
  | case1 rest ih =>
    obtain ⟨skipped, h⟩ := ih
    exact ⟨13 :: 10 :: skipped, by rw [List.cons_append, List.cons_append, ← h]⟩
  | case2 bs => exact ⟨[], rfl⟩

/-- A found head end is behind at least four bytes. -/
theorem headEnd?_bounds {bs : Bytes} {n : Nat} (h : headEnd? bs = some n) :
    4 ≤ n ∧ n ≤ bs.length := by
  have key : ∀ (passed : Nat) (bs : Bytes), headEnd?.go passed bs = some n →
      passed + 4 ≤ n ∧ n ≤ passed + bs.length := by
    intro passed bs h
    fun_induction headEnd?.go passed bs with
    | case1 passed tail =>
      cases h
      simp only [List.length_cons]
      omega
    | case2 passed _ rest _ ih =>
      have := ih h
      simp only [List.length_cons]
      omega
    | case3 => cases h
  have := key 0 bs h
  omega

theorem headEndFrom?_bounds {scanned n : Nat} {bs : Bytes}
    (h : headEndFrom? scanned bs = some n) :
    4 ≤ n ∧ n ≤ bs.length := by
  simp only [headEndFrom?, Option.map_eq_some_iff] at h
  obtain ⟨i, hi, rfl⟩ := h
  have := headEnd?_bounds hi
  simp only [List.length_drop] at this
  omega

/-- **A head comes off the front of the view**, behind the line ends that are
skipped. -/
theorem remaining_readHead {max : Nat} {r t : Reader} {head : Bytes}
    (h : r.readHead max = (.ok (some head), t)) :
    4 ≤ head.length ∧ ∃ skipped, r.remaining = skipped ++ head ++ t.remaining := by
  have key : ∀ pieces held scanned, readHead.go max r held scanned pieces =
      (.ok (some head), t) →
      4 ≤ head.length ∧
        ∃ skipped, held ++ pieces.flatten = skipped ++ head ++ t.remaining := by
    intro pieces
    induction pieces with
    | nil =>
      intro held scanned hg
      unfold readHead.go at hg
      simp only at hg
      split at hg
      · rename_i n hn
        split at hg
        · cases hg
        · cases hg
          have hb := headEndFrom?_bounds hn
          obtain ⟨skipped, hs⟩ := exists_dropLineEnds held
          refine ⟨by rw [List.length_take]; omega, skipped, ?_⟩
          simp only [remaining, Source.remaining, List.flatten_nil,
            List.append_nil, List.append_assoc, List.take_append_drop]
          exact hs
      · split at hg
        · cases hg
        · split at hg
          · split at hg <;> cases hg
          · cases hg
          · cases hg
    | cons piece rest ih =>
      intro held scanned hg
      unfold readHead.go at hg
      simp only at hg
      split at hg
      · rename_i n hn
        split at hg
        · cases hg
        · cases hg
          have hb := headEndFrom?_bounds hn
          obtain ⟨skipped, hs⟩ := exists_dropLineEnds held
          refine ⟨by rw [List.length_take]; omega, skipped, ?_⟩
          simp only [remaining, Source.remaining, List.append_assoc]
          rw [← List.append_assoc (List.take n _), List.take_append_drop,
            ← List.append_assoc, ← hs]
      · split at hg
        · cases hg
        · obtain ⟨h4, skipped, he⟩ := ih _ _ hg
          obtain ⟨front, hs⟩ := exists_dropLineEnds held
          refine ⟨h4, front ++ skipped, ?_⟩
          rw [List.append_assoc, List.append_assoc, ← List.append_assoc skipped, ← he,
            List.append_assoc, ← List.append_assoc front, ← hs, List.flatten_cons]
  exact key r.source.pieces r.buffer 0 h

theorem length_remaining_readHead {max : Nat} {r t : Reader} {head : Bytes}
    (h : r.readHead max = (.ok (some head), t)) :
    t.remaining.length < r.remaining.length := by
  obtain ⟨h4, skipped, he⟩ := remaining_readHead h
  rw [he]
  simp only [List.length_append]
  omega

end Reader

end Gateway
