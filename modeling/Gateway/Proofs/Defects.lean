import Gateway.Proofs.LongLines

/-!
# Bodies that are not there

Where a framing does not put a body at the front of a sender's bytes, the bytes
say why: the first line that is out of order is malformed, or the bytes end
before the body does. A malformed body stays so whatever follows, and one that
is cut short is the fault of whoever ended the connection. Of the way in which
the bytes arrive, this depends on the numbers that decide about long lines and
on nothing else.

* `Reader.defect?` finds the first defect, and `Defect.error` is the relay error
  for it;
* `Reader.takeBody?_of_defect?_none`, `Reader.defect?_of_delimits`: a body
  without a defect is one, and a body of short lines has no defect;
* `Reader.takeBody?_append_of_malformed`: nothing that follows mends a malformed
  body;
* `Pipe.relay_of_defect?`: **a relay fails by the first defect**, and goes
  through if there is none.
-/

namespace Gateway

open Reader (IsLine)

/-! ## Readers behind others -/

namespace Reader

/-- A reader stands `m` bytes behind another one: of its `n`-th byte it is known
how many arrive before. -/
def Behind (m : Nat) (r t : Reader) : Prop :=
  ∀ n, 0 < n → t.heldBefore n = r.heldBefore (m + n) - m

variable {m n k max room : Nat} {r s t : Reader} {piece buffer line bs : Bytes}

theorem Behind.refl (r : Reader) : r.Behind 0 r :=
  fun n _ => by rw [Nat.zero_add, Nat.sub_zero]

theorem Behind.trans (h : r.Behind m s)
    (h' : s.Behind k t) : r.Behind (m + k) t := by
  intro n hn
  rw [h' n hn, h (k + n) (Nat.add_pos_right k hn), Nat.add_assoc, Nat.sub_sub]

/-- Where more bytes are in front, more arrive before each. -/
theorem heldBefore_go_add (m n held : Nat) (pieces : List Bytes) :
    heldBefore.go (m + n) (m + held) pieces = m + heldBefore.go n held pieces := by
  induction pieces generalizing held with
  | nil => rfl
  | cons piece rest ih =>
    rw [heldBefore.go, heldBefore.go, Nat.add_assoc]
    by_cases hle : n ≤ held + piece.length
    · rw [if_pos hle, if_pos (Nat.add_le_add_left hle m)]
    · rw [if_neg hle, if_neg (fun h => hle (Nat.le_of_add_le_add_left h)), ih]

/-- What is taken off a piece is not waited for. -/
theorem heldBefore_go_drop (hm : m ≤ piece.length) (n : Nat)
    (pieces : List Bytes) :
    heldBefore.go n 0 (piece.drop m :: pieces) =
      heldBefore.go (m + n) 0 (piece :: pieces) - m := by
  rw [heldBefore.go, heldBefore.go, List.length_drop, Nat.zero_add, Nat.zero_add]
  by_cases hle : m + n ≤ piece.length
  · rw [if_pos hle, if_pos (by omega), Nat.zero_sub]
  · rw [if_neg hle, if_neg (by omega)]
    have hshift := heldBefore_go_add m n (piece.length - m) pieces
    rw [Nat.add_sub_cancel' hm] at hshift
    rw [hshift, Nat.add_sub_cancel_left]

/-- Pieces that are put together arrive at once, which makes no difference
behind the first. -/
theorem heldBefore_go_join (hm : buffer.length ≤ m) (hn : 0 < n)
    (pieces : List Bytes) :
    heldBefore.go (m + n) 0 (buffer :: piece :: pieces) - m =
      heldBefore.go (m + n) 0 ((buffer ++ piece) :: pieces) - m := by
  rw [heldBefore.go, if_neg (by omega), heldBefore.go, heldBefore.go,
    List.length_append, Nat.zero_add, Nat.zero_add]
  by_cases hle : m + n ≤ buffer.length + piece.length
  · rw [if_pos hle, if_pos hle, Nat.sub_eq_zero_of_le hm, Nat.zero_sub]
  · rw [if_neg hle, if_neg hle]

/-- **A reader that has given a line stands behind it.** -/
theorem behind_readLine
    (h : r.readLine max = (.ok (some line), t)) : r.Behind line.length t := by
  have key : ∀ pieces buffer scanned, scanned ≤ buffer.length →
      Bytes.lf ∉ buffer.take scanned →
      lineEnd? (buffer ++ pieces.flatten) = some line.length →
      readLine.go max r buffer scanned pieces = (.ok (some line), t) →
      ∀ n, 0 < n → t.heldBefore n =
        heldBefore.go (line.length + n) 0 (buffer :: pieces) - line.length := by
    intro pieces buffer scanned hle hseen hview h n hn
    fun_induction readLine.go max r buffer scanned pieces with
    | case1 pieces buffer scanned left k hend =>
      cases h
      have hk := (lineEndFrom?_pos hend).2
      rw [List.length_take_of_le hk]
      exact heldBefore_go_drop hk n pieces
    | case2 => cases h
    | case3 buffer scanned hend hshort piece more ih =>
      rw [lineEndFrom?_eq hle hseen] at hend
      -- nothing of what is buffered is behind the line
      rw [heldBefore_go_join (Nat.le_of_lt (length_lt_of_lineEnd?_append hend hview)) hn]
      rw [List.flatten_cons, ← List.append_assoc] at hview
      refine ih (by simp) ?_ hview h
      rw [List.take_left]
      exact lineEnd?_eq_none_iff.1 hend
    | case4 => cases h
    | case5 => cases h
    | case6 => cases h
  refine key r.source.pieces r.buffer 0 (Nat.zero_le _) List.not_mem_nil ?_ h
  have hview : r.buffer ++ r.source.pieces.flatten = line ++ t.remaining :=
    (remaining_readLine h).1
  rw [hview]
  exact lineEnd?_of_isLine (isLine_of_readLine h)

/-- The same of as many bytes of a piece as there is room for. -/
theorem heldBefore_go_take (room n : Nat) (piece : Bytes) (pieces : List Bytes) :
    heldBefore.go n 0 (piece.drop room :: pieces) =
      heldBefore.go ((piece.take room).length + n) 0 (piece :: pieces) -
        (piece.take room).length := by
  have hdrop : piece.drop room = piece.drop (piece.take room).length := by
    rw [List.length_take]
    rcases Nat.le_total room piece.length with hroom | hroom
    · rw [Nat.min_eq_left hroom]
    · rw [Nat.min_eq_right hroom, List.drop_of_length_le hroom, List.drop_length]
  rw [hdrop]
  exact heldBefore_go_drop (List.length_take_le' room piece) n pieces

/-- **A reader that has given bytes stands behind them.** -/
theorem behind_readSome (h : r.readSome room = (.ok bs, t))
    (hne : bs ≠ []) : r.Behind bs.length t := by
  have key : ∀ pieces source, Source.read.go room r.source pieces =
      (.ok bs, source) → ∀ n, 0 < n →
      heldBefore.go n 0 source.pieces =
        heldBefore.go (bs.length + n) 0 pieces - bs.length := by
    intro pieces source hp n hn
    induction pieces with
    | nil =>
      rw [Source.read.go, Prod.mk.injEq] at hp
      obtain ⟨hending, -⟩ := hp
      cases hr : r.source.ending <;> rw [hr] at hending <;> cases hending
      exact absurd rfl hne
    | cons piece rest ih =>
      cases piece with
      | nil =>
        rw [heldBefore.go, if_neg (by simp; omega)]
        exact ih hp
      | cons b piece =>
        cases hp
        exact heldBefore_go_take room n (b :: piece) rest
  intro n hn
  rw [readSome] at h
  split at h
  · rename_i hbuffer
    cases hread : r.source.read room with
    | mk answer source =>
      rw [hread] at h
      cases h
      rw [Source.read] at hread
      split at hread
      · cases hread
        exact absurd rfl hne
      · rw [heldBefore, heldBefore, hbuffer, heldBefore.go, heldBefore.go,
          if_neg (by simp; omega), if_neg (by simp; omega)]
        exact key r.source.pieces source hread n hn
  · cases h
    exact heldBefore_go_take room n r.buffer r.source.pieces

end Reader

/-! ## Defects -/

/-- Why no body stands at the front of bytes. -/
inductive Defect where
  /-- A line of it is malformed. -/
  | malformed (flaw : Flaw)
  /-- The bytes end within a line. -/
  | openLine
  /-- The bytes end within the data. -/
  | shortData
  deriving DecidableEq, Repr

/-- The relay error for a defect, after which the sender ends like this. -/
def Defect.error (ending : Ending) : Defect → RelayError
  | .malformed flaw => .invalidChunk flaw
  | .openLine =>
    match ending with
    | .eof => .unexpectedEnd
    | .failed fault => Pipe.errorOfLine (.stopped (.failed fault))
    | .silent => .silent
  | .shortData => ending.relayError

/-- Takes a line off bytes that stand behind `passed` others. It is too long if
more bytes than the limit are there before its line feed is. -/
def timelyLine (before : Nat → Nat) (passed : Nat) (bs : Bytes) :
    Except Defect (Bytes × Bytes) :=
  match takeLine? bs with
  | some (line, rest) =>
    if before (passed + line.length) - passed ≤ Pipe.maxChunkLine then .ok (line, rest)
    else .error (.malformed .lineTooLong)
  | none =>
    .error (if bs.length ≤ Pipe.maxChunkLine then .openLine else .malformed .lineTooLong)

variable {before : Nat → Nat} {passed : Nat} {bs line rest : Bytes} {d : Defect}

theorem takeLine?_of_timelyLine
    (h : timelyLine before passed bs = .ok (line, rest)) :
    takeLine? bs = some (line, rest) := by
  rw [timelyLine] at h
  split at h
  · rename_i hline
    split at h <;> cases h
    exact hline
  · cases h

/-- The first defect of the trailers behind `passed` bytes. -/
def trailersDefect? (before : Nat → Nat) (passed : Nat)
    (bs : Bytes) : Option Defect :=
  match _h : timelyLine before passed bs with
  | .error d => some d
  | .ok (line, rest) =>
    if Pipe.isEmptyLine line then none
    else trailersDefect? before (passed + line.length) rest
termination_by bs.length
decreasing_by exact length_lt_of_takeLine? (takeLine?_of_timelyLine _h)

/-- The first defect of the chunks behind `passed` bytes. -/
def chunksDefect? (before : Nat → Nat) (passed : Nat)
    (bs : Bytes) : Option Defect :=
  match _h : timelyLine before passed bs with
  | .error d => some d
  | .ok (line, rest) =>
    match Pipe.chunkSize line with
    | .error flaw => some (.malformed flaw)
    | .ok n =>
      if n = 0 then trailersDefect? before (passed + line.length) rest
      else if rest.length < n then some .shortData
      else match _h' : timelyLine before (passed + line.length + n) (rest.drop n) with
        | .error d => some d
        | .ok (ending, rest') =>
          if Pipe.isEmptyLine ending then
            chunksDefect? before (passed + line.length + n + ending.length) rest'
          else some (.malformed .unendedChunk)
termination_by bs.length
decreasing_by
  have h1 := length_lt_of_takeLine? (takeLine?_of_timelyLine _h)
  have h2 := length_lt_of_takeLine? (takeLine?_of_timelyLine _h')
  rw [List.length_drop] at h2
  omega

/-- The first defect of the body at the front of what a reader will give. -/
def Reader.defect? (framing : Framing) (r : Reader) : Option Defect :=
  match framing with
  | .empty => none
  | .length n => if n ≤ r.remaining.length then none else some .shortData
  | .chunked => chunksDefect? r.heldBefore 0 r.remaining
  | .untilClose => if r.source.ending = .eof then none else some .shortData

/-! ## Defects and bodies -/

/-- Bytes do not mend a defect: it is not the length of a line, and it is none
of bytes that are missing, or no bytes follow. -/
def Defect.Stays (d : Defect) (more : Bytes) : Prop :=
  d ≠ .malformed .lineTooLong ∧ ((∃ flaw, d = .malformed flaw) ∨ more = [])

theorem takeLine?_append_of_stays {more : Bytes}
    (h : timelyLine before passed bs = .error d) (hd : d.Stays more) :
    takeLine? (bs ++ more) = none := by
  rw [timelyLine] at h
  split at h
  · split at h <;> cases h
    exact absurd rfl hd.1
  · rename_i hnone
    cases h
    obtain ⟨hlong, ⟨flaw, hflaw⟩ | rfl⟩ := hd
    · split at hlong
      · rename_i hle
        rw [if_pos hle] at hflaw
        cases hflaw
      · exact absurd rfl hlong
    · rw [List.append_nil, hnone]

theorem takeTrailers?_append_of_stays {more : Bytes}
    (h : trailersDefect? before passed bs = some d) (hd : d.Stays more) :
    takeTrailers? (bs ++ more) = none := by
  fun_induction trailersDefect? before passed bs with
  | case1 passed bs d' hline =>
    cases h
    exact takeTrailers?_of_none (takeLine?_append_of_stays hline hd)
  | case2 => cases h
  | case3 passed bs line rest hline hempty ih =>
    rw [takeTrailers?_of_takeLine? (takeLine?_append
      (takeLine?_of_timelyLine hline) more), if_neg hempty, ih h]
    rfl

theorem takeChunks?_append_of_stays {more : Bytes}
    (h : chunksDefect? before passed bs = some d) (hd : d.Stays more) :
    takeChunks? (bs ++ more) = none := by
  have hfirst : ∀ {passed bs line rest}, timelyLine before passed bs =
      .ok (line, rest) →
      takeLine? (bs ++ more) = some (line, rest ++ more) :=
    fun hline => takeLine?_append (takeLine?_of_timelyLine hline) more
  fun_induction chunksDefect? before passed bs with
  | case1 passed bs d' hline =>
    cases h
    exact takeChunks?_of_none (takeLine?_append_of_stays hline hd)
  | case2 passed bs line rest hline flaw hsize =>
    rw [takeChunks?_of_takeLine? (hfirst hline), hsize]
  | case3 passed bs line rest hline hsize =>
    rw [takeChunks?_of_last (hfirst hline) hsize, takeTrailers?_append_of_stays h hd]
    rfl
  | case4 passed bs line rest hline n hsize hn hshort =>
    -- data that are missing may follow
    cases h
    obtain ⟨-, ⟨_, hflaw⟩ | rfl⟩ := hd
    · cases hflaw
    · rw [takeChunks?_of_takeLine? (hfirst hline), hsize, List.append_nil]
      dsimp only
      rw [if_neg hn, if_pos hshort]
  | case5 passed bs line rest hline n hsize hn hdata d' hline' =>
    cases h
    rw [takeChunks?_append_of_data (takeLine?_of_timelyLine hline) hsize hn
      (Nat.le_of_not_lt hdata), takeLine?_append_of_stays hline' hd]
  | case6 passed bs line rest hline n hsize hn hdata ending rest' hline' hempty ih =>
    rw [takeChunks?_append_of_data (takeLine?_of_timelyLine hline) hsize hn
      (Nat.le_of_not_lt hdata), hfirst hline']
    dsimp only
    rw [if_pos hempty, ih h]
    rfl
  | case7 passed bs line rest hline n hsize hn hdata ending rest' hline' hempty =>
    rw [takeChunks?_append_of_data (takeLine?_of_timelyLine hline) hsize hn
      (Nat.le_of_not_lt hdata), hfirst hline']
    dsimp only
    rw [if_neg hempty]

namespace Reader

variable {framing : Framing} {r : Reader}

/-- Where a body has a defect, bytes that do not mend it make no body. -/
theorem takeBody?_append_of_stays (more : Bytes)
    (h : r.defect? framing = some d) (hd : d.Stays more) :
    takeBody? framing (r.remaining ++ more) = none := by
  cases framing with
  | length n =>
    rw [defect?] at h
    split at h
    · cases h
    · rename_i hshort
      cases h
      obtain ⟨-, ⟨_, hflaw⟩ | rfl⟩ := hd
      · cases hflaw
      · rw [takeBody?, List.append_nil, if_neg hshort]
  | chunked => exact takeChunks?_append_of_stays h hd
  | empty => cases h
  | untilClose => rfl

/-- **Nothing that follows mends a malformed body**, but for a line that would
be there in time. -/
theorem takeBody?_append_of_malformed {flaw : Flaw}
    (h : r.defect? framing = some (.malformed flaw))
    (hflaw : flaw ≠ .lineTooLong) (more : Bytes) :
    takeBody? framing (r.remaining ++ more) = none :=
  takeBody?_append_of_stays more h ⟨fun he => hflaw (Defect.malformed.inj he),
    .inl ⟨flaw, rfl⟩⟩

/-- **Where a body has a defect there is none**, but for the length of a
line. -/
theorem takeBody?_of_defect? (h : r.defect? framing = some d)
    (hd : d ≠ .malformed .lineTooLong) :
    takeBody? framing r.remaining = none := by
  have hnone := takeBody?_append_of_stays [] h ⟨hd, .inr rfl⟩
  rwa [List.append_nil] at hnone

end Reader

/-! ## Defects and relays -/

namespace Pipe

/-- The pipe stands `passed` bytes behind a reader, these bytes are to come, and
the receiver has no limit. -/
structure Stands (r : Reader) (passed : Nat) (bs : Bytes)
    (p : Pipe) : Prop where
  /-- It is known how the bytes arrive. -/
  behind : r.Behind passed p.reader
  /-- They are to come. -/
  remaining : p.reader.remaining = bs
  /-- The sender ends as that of the reader. -/
  ending : p.reader.source.ending = r.source.ending
  /-- The receiver takes everything. -/
  unlimited : p.sink.room = none

/-- A relay goes through, or it fails by a defect. -/
def EndsBy (ending : Ending) (defect : Option Defect)
    (result : EStateM.Result RelayError Pipe Unit) : Prop :=
  match defect with
  | none => ∃ q, result = .ok () q
  | some d => ∃ q, result = .error (d.error ending) q

variable {r : Reader} {p q : Pipe} {room n : Nat}

theorem Stands.moved {cs : Bytes} (h : p.Stands r passed (bs ++ cs))
    (hmoved : p.Moved bs q) (hbehind : p.reader.Behind bs.length q.reader) :
    q.Stands r (passed + bs.length) cs where
  behind := h.behind.trans hbehind
  remaining := hmoved.left h.remaining
  ending := hmoved.ending.trans h.ending
  unlimited := hmoved.unlimited h.unlimited

theorem behind_of_fetchLine (h : fetchLine p = .ok line q) :
    p.reader.Behind line.length q.reader := by
  rw [fetchLine] at h
  split at h <;> cases h
  rename_i hread
  exact Reader.behind_readLine hread

theorem behind_of_copyLength (h : copyLength room n p = .ok () q) :
    p.reader.Behind n q.reader := by
  fun_induction copyLength room n p with
  | case1 =>
    cases h
    exact .refl _
  | case2 => cases h
  | case3 => cases h
  | case4 => cases h
  | case5 n p h0 b bs p' hf _ p'' he ih =>
    have hle := length_fetch_le hf
    rw [List.length_cons] at hle
    have hbehind := ih h
    rw [emit_reader he] at hbehind
    rw [show n = (b :: bs).length + (n - (bs.length + 1)) by
      rw [List.length_cons]; omega]
    refine .trans ?_ hbehind
    rw [fetch] at hf
    split at hf <;> cases hf
    rename_i hread
    exact Reader.behind_readSome hread (List.cons_ne_nil b bs)

/-- **A line is fetched, or it is the first defect.** -/
theorem Stands.fetchLine (h : p.Stands r passed bs) :
    match timelyLine r.heldBefore passed bs with
    | .ok (line, _) => ∃ q, Pipe.fetchLine p = .ok line q
    | .error d => ∃ q, Pipe.fetchLine p = .error (d.error r.source.ending) q := by
  have hanswer := (Reader.readLine_spec maxChunkLine p.reader).1
  rw [h.remaining, h.ending, Reader.lineAnswer.eq_def] at hanswer
  rw [Pipe.fetchLine, timelyLine, takeLine?]
  cases hread : p.reader.readLine maxChunkLine with
  | mk answer t =>
    rw [hread] at hanswer
    dsimp only at hanswer ⊢
    cases hn : Reader.lineEnd? bs with
    | some n =>
      have hlength : (bs.take n).length = n :=
        List.length_take_of_le (Reader.lineEnd?_append hn []).2
      have hpos : 0 < n := by
        obtain ⟨text, -, htext⟩ := Reader.isLine_of_lineEnd? hn
        rw [← hlength, htext, List.length_append]
        exact Nat.succ_pos _
      rw [hn] at hanswer
      dsimp only [Option.map_some] at hanswer ⊢
      rw [hlength, ← h.behind n hpos]
      by_cases hheld : p.reader.heldBefore n ≤ maxChunkLine
      · rw [if_pos hheld] at hanswer ⊢
        subst hanswer
        exact ⟨_, rfl⟩
      · rw [if_neg hheld] at hanswer ⊢
        subst hanswer
        exact ⟨_, rfl⟩
    | none =>
      rw [hn] at hanswer
      dsimp only [Option.map_none] at hanswer ⊢
      by_cases hlong : maxChunkLine < bs.length
      · rw [if_pos hlong] at hanswer
        rw [if_neg (Nat.not_le.2 hlong)]
        subst hanswer
        exact ⟨_, rfl⟩
      · rw [if_neg hlong] at hanswer
        rw [if_pos (Nat.le_of_not_lt hlong)]
        cases hending : r.source.ending <;> rw [hending] at hanswer <;>
          subst hanswer <;> exact ⟨_, rfl⟩

/-- A line in time is fetched and sent on. -/
theorem Stands.passLine (h : p.Stands r passed bs)
    (hline : timelyLine r.heldBefore passed bs = .ok (line, rest)) :
    ∃ q s, Pipe.fetchLine p = .ok line q ∧ Pipe.emit line q = .ok () s ∧
      s.Stands r (passed + line.length) rest := by
  have hfetched := h.fetchLine
  rw [hline] at hfetched
  obtain ⟨q, hq⟩ := hfetched
  obtain ⟨htook, -⟩ := took_of_fetchLine hq
  obtain ⟨s, hs, hmoved⟩ := htook.passes.moved h.unlimited
  have hbehind := behind_of_fetchLine hq
  rw [← emit_reader hs] at hbehind
  obtain ⟨-, hbs⟩ := takeLine?_eq_some_iff.1 (takeLine?_of_timelyLine hline)
  exact ⟨q, s, hq, hs, (hbs ▸ h).moved hmoved hbehind⟩

theorem Stands.noLine (h : p.Stands r passed bs)
    (hline : timelyLine r.heldBefore passed bs = .error d) :
    ∃ q, Pipe.fetchLine p = .error (d.error r.source.ending) q := by
  have hfetched := h.fetchLine
  rwa [hline] at hfetched

/-- Trailers go through up to their first defect. -/
theorem Stands.copyTrailers (h : p.Stands r passed bs) :
    EndsBy r.source.ending (trailersDefect? r.heldBefore passed bs)
      (copyTrailers p) := by
  fun_induction trailersDefect? r.heldBefore passed bs generalizing p with
  | case1 passed bs d hline =>
    obtain ⟨q, hq⟩ := h.noLine hline
    rw [copyTrailers_eq, hq]
    exact ⟨q, rfl⟩
  | case2 passed bs line rest hline hempty =>
    obtain ⟨q, s, hq, hs, -⟩ := h.passLine hline
    rw [copyTrailers_eq, hq, andThen, hs, andThen, if_pos hempty]
    exact ⟨s, rfl⟩
  | case3 passed bs line rest hline hempty ih =>
    obtain ⟨q, s, hq, hs, hstands⟩ := h.passLine hline
    rw [copyTrailers_eq, hq, andThen, hs, andThen, if_neg hempty]
    exact ih hstands

/-- Data that are all there are copied. -/
theorem Stands.copyLength (h : p.Stands r passed bs) (hroom : 0 < room)
    (hn : n ≤ bs.length) :
    ∃ q, copyLength room n p = .ok () q ∧ q.Stands r (passed + n) (bs.drop n) := by
  have hpasses := passes_copyLength (p := p) hroom (h.remaining.symm ▸ hn)
  rw [h.remaining] at hpasses
  obtain ⟨q, hq, hmoved⟩ := hpasses.moved h.unlimited
  have hlength := List.length_take_of_le hn
  have hbehind := behind_of_copyLength hq
  rw [← hlength] at hbehind
  rw [← List.take_append_drop n bs] at h
  have hstands := h.moved hmoved hbehind
  rw [hlength] at hstands
  exact ⟨q, hq, hstands⟩

/-- Data that are not all there are not. -/
theorem Stands.noData (h : p.Stands r passed bs) (hroom : 0 < room)
    (hn : bs.length < n) :
    ∃ q, Pipe.copyLength room n p =
      .error (Defect.shortData.error r.source.ending) q := by
  cases hq : Pipe.copyLength room n p with
  | ok _ q =>
    have hle := ((copyLength_eq_ok_iff hroom n p).1 ⟨q, hq⟩).1
    rw [h.remaining] at hle
    exact absurd hle (Nat.not_le.2 hn)
  | error e q =>
    obtain ⟨part, -, -, hdry⟩ := halted_of_copyLength hq
    obtain ⟨-, rfl⟩ := hdry hroom fun fault he =>
      (failed_of_copyLength hq).limited fault he h.unlimited
    exact ⟨q, by rw [h.ending]; rfl⟩

theorem Stands.copyChunkSize (h : p.Stands r passed bs)
    (hline : timelyLine r.heldBefore passed bs = .ok (line, rest))
    (hsize : chunkSize line = .ok n) :
    ∃ q, Pipe.copyChunkSize p = .ok n q ∧ q.Stands r (passed + line.length) rest := by
  obtain ⟨q, s, hq, hs, hstands⟩ := h.passLine hline
  refine ⟨s, ?_, hstands⟩
  rw [copyChunkSize_eq, hq, andThen, hsize]
  dsimp only
  rw [hs]
  rfl

theorem Stands.copyData (h : p.Stands r passed bs) (hroom : 0 < room)
    (hline : timelyLine r.heldBefore passed bs = .ok (line, rest))
    (hsize : chunkSize line = .ok n) (hdata : n ≤ rest.length) :
    ∃ q s, Pipe.copyChunkSize p = .ok n q ∧ Pipe.copyLength room n q = .ok () s ∧
      s.Stands r (passed + line.length + n) (rest.drop n) := by
  obtain ⟨q, hq, hstands⟩ := h.copyChunkSize hline hsize
  obtain ⟨s, hs, hstands'⟩ := hstands.copyLength hroom hdata
  exact ⟨q, s, hq, hs, hstands'⟩

/-- **Chunks go through up to their first defect.** -/
theorem Stands.copyChunks (h : p.Stands r passed bs) (hroom : 0 < room) :
    EndsBy r.source.ending (chunksDefect? r.heldBefore passed bs)
      (copyChunks room p) := by
  fun_induction chunksDefect? r.heldBefore passed bs generalizing p with
  | case1 passed bs d hline =>
    obtain ⟨q, hq⟩ := h.noLine hline
    rw [copyChunks_eq, copyChunkSize_eq, hq]
    exact ⟨q, rfl⟩
  | case2 passed bs line rest hline flaw hsize =>
    obtain ⟨q, -, hq, -⟩ := h.passLine hline
    rw [copyChunks_eq, copyChunkSize_eq, hq, andThen, hsize]
    exact ⟨q, rfl⟩
  | case3 passed bs line rest hline hsize =>
    obtain ⟨q, hq, hstands⟩ := h.copyChunkSize hline hsize
    rw [copyChunks_eq, hq, andThen, if_pos rfl]
    exact hstands.copyTrailers
  | case4 passed bs line rest hline n hsize hn hshort =>
    obtain ⟨q₁, hq₁, h₁⟩ := h.copyChunkSize hline hsize
    obtain ⟨q₂, hq₂⟩ := h₁.noData hroom hshort
    rw [copyChunks_eq, hq₁, andThen, if_neg hn, hq₂]
    exact ⟨q₂, rfl⟩
  | case5 passed bs line rest hline n hsize hn hdata d' hline' =>
    obtain ⟨q₁, q₂, hq₁, hq₂, h₂⟩ :=
      h.copyData hroom hline hsize (Nat.le_of_not_lt hdata)
    obtain ⟨q₃, hq₃⟩ := h₂.noLine hline'
    rw [copyChunks_eq, hq₁, andThen, if_neg hn, hq₂, andThen, copyChunkEnd_eq, hq₃]
    exact ⟨q₃, rfl⟩
  | case6 passed bs line rest hline n hsize hn hdata ending rest' hline' hempty ih =>
    obtain ⟨q₁, q₂, hq₁, hq₂, h₂⟩ :=
      h.copyData hroom hline hsize (Nat.le_of_not_lt hdata)
    obtain ⟨q₃, s, hq₃, hs, h₃⟩ := h₂.passLine hline'
    rw [copyChunks_eq, hq₁, andThen, if_neg hn, hq₂, andThen, copyChunkEnd_eq,
      hq₃, andThen, if_pos hempty, hs]
    exact ih h₃
  | case7 passed bs line rest hline n hsize hn hdata ending rest' hline' hempty =>
    obtain ⟨q₁, q₂, hq₁, hq₂, h₂⟩ :=
      h.copyData hroom hline hsize (Nat.le_of_not_lt hdata)
    obtain ⟨q₃, -, hq₃, -⟩ := h₂.passLine hline'
    rw [copyChunks_eq, hq₁, andThen, if_neg hn, hq₂, andThen, copyChunkEnd_eq,
      hq₃, andThen, if_neg hempty]
    exact ⟨q₃, rfl⟩

/-- **A relay fails by the first defect of the body in front**, and goes through
if there is none, where the receiver takes everything. -/
theorem relay_of_defect? (framing : Framing) (hroom : 0 < room)
    (hp : p.sink.room = none) :
    EndsBy p.reader.source.ending (p.reader.defect? framing) (relay framing room p) := by
  have hstands : p.Stands p.reader 0 p.reader.remaining := ⟨.refl _, rfl, rfl, hp⟩
  cases framing with
  | empty => exact ⟨p, rfl⟩
  | length n =>
    rw [Reader.defect?, relay]
    split
    · rename_i hn
      obtain ⟨q, hq, -⟩ := hstands.copyLength hroom hn
      exact ⟨q, hq⟩
    · rename_i hn
      exact hstands.noData hroom (Nat.lt_of_not_le hn)
  | chunked => exact hstands.copyChunks hroom
  | untilClose =>
    have htakes : p.sink.Takes p.reader.remaining.length :=
      fun most hmost => by rw [hp] at hmost; cases hmost
    rw [Reader.defect?, relay]
    split
    · rename_i hend
      exact (copyAll_eq_ok_iff hroom p).2 ⟨hend, htakes⟩
    · rename_i hend
      cases hq : copyAll room p with
      | ok _ q => exact absurd ((copyAll_eq_ok_iff hroom p).1 ⟨q, hq⟩).1 hend
      | error e q =>
        obtain ⟨part, -, hdry⟩ := halted_of_copyAll hq
        obtain ⟨-, rfl, -⟩ :=
          hdry fun fault he => (failed_of_copyAll hq).limited fault he hp
        exact ⟨q, rfl⟩

end Pipe

namespace Reader

variable {framing : Framing} {r : Reader}

/-- **A body without a defect is there.** -/
theorem takeBody?_of_defect?_none (hf : framing.isDelimited = true)
    (h : r.defect? framing = none) :
    ∃ body rest, takeBody? framing r.remaining = some (body, rest) := by
  -- a relay copies it
  have hends := Pipe.relay_of_defect? framing (p := ⟨r, {}, 0⟩) Nat.one_pos rfl
  dsimp only at hends
  rw [h] at hends
  obtain ⟨q, hq⟩ := hends
  obtain ⟨body, hb, hmoved⟩ := Pipe.delimits_of_relay hf hq
  exact ⟨body, _, takeBody?_eq_some_iff.2 ⟨hb, hmoved.taken⟩⟩

/-- **A body of short lines has no defect.** -/
theorem defect?_of_delimits {body : Bytes}
    (hb : Delimits IsShortLine framing body) (h : r.remaining = body ++ rest) :
    r.defect? framing = none := by
  obtain ⟨q, hq, -⟩ := Pipe.relay_of_delimits (p := ⟨r, {}, 0⟩) Nat.one_pos hb rfl h
  have hends := Pipe.relay_of_defect? framing (p := ⟨r, {}, 0⟩) Nat.one_pos rfl
  dsimp only at hends
  cases hd : r.defect? framing with
  | none => rfl
  | some d =>
    rw [hd] at hends
    obtain ⟨s, hs⟩ := hends
    rw [hq] at hs
    cases hs

end Reader

end Gateway
