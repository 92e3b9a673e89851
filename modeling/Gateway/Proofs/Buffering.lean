import Gateway.Proofs.LongLines

/-!
# How much is buffered

A reader takes another piece into its buffer only while it holds no more than
the limit of what it is asked for. So whatever a peer sends, and however slowly,
no more is buffered than the limit and one piece.

* `Reader.Holds` is the bound, and `Reader.Holds.answer` says which answers keep
  it;
* `Reader.answer_within`: a reader that waits is within the limit of its demand,
  which can be given up and made again;
* `Reader.Reached` are the states of a reader between its demands and within
  them, whatever fails;
* `Pipe.keeps_relay`: a relay keeps the bound that the lines of chunked bodies
  allow for;
* `Reader.buffer_bounded`: the bounds for whole histories.
-/

namespace Gateway

/-! ## Pieces -/

namespace Source

/-- Bytes are cut into pieces that are not larger than a piece may be. -/
theorem length_le_of_mem_cut {bs piece : Bytes} (h : piece ∈ cut bs) :
    piece.length ≤ pieceSize := by
  fun_induction cut bs with
  | case1 bs hle =>
    obtain rfl := List.mem_singleton.1 h
    exact hle
  | case2 bs hlong ih =>
    obtain rfl | h := List.mem_cons.1 h
    · exact List.length_take_le _ _
    · exact ih h

theorem length_le_of_mem_ofSegments {segments : List Bytes} {ending : Ending}
    {piece : Bytes} (h : piece ∈ (ofSegments segments ending).pieces) :
    piece.length ≤ pieceSize := by
  obtain ⟨segment, -, hpiece⟩ := List.mem_flatMap.1 h
  exact length_le_of_mem_cut hpiece

/-- What a read leaves of the pieces are pieces, and ends of pieces. -/
theorem exists_suffix_of_mem_read {room : Nat} {s : Source} {piece : Bytes}
    (h : piece ∈ (s.read room).2.pieces) :
    ∃ whole ∈ s.pieces, piece <:+ whole := by
  rw [read] at h
  split at h
  · exact ⟨piece, h, List.suffix_rfl⟩
  · have key : ∀ pieces, piece ∈ (read.go room s pieces).2.pieces →
        ∃ whole ∈ pieces, piece <:+ whole := by
      intro pieces hmem
      fun_induction read.go room s pieces with
      | case1 => cases hmem
      | case2 rest ih =>
        obtain ⟨whole, hwhole, hsuffix⟩ := ih hmem
        exact ⟨whole, List.mem_cons_of_mem _ hwhole, hsuffix⟩
      | case3 b bs rest =>
        obtain rfl | hmem := List.mem_cons.1 hmem
        · exact ⟨b :: bs, List.mem_cons_self, List.drop_suffix _ _⟩
        · exact ⟨piece, List.mem_cons_of_mem _ hmem, List.suffix_rfl⟩
    exact key s.pieces h

/-- As long as none has a byte, pieces that have arrived do not count. -/
theorem read_go_again {room : Nat} {s : Source} (t : Source)
    {pieces : List Bytes} (hwaits : (read.go room s pieces).1 = .error .silent) :
    (read.go room s pieces).2.pieces = [] ∧
      ∀ more, read.go room t (pieces ++ more) = read.go room t more := by
  fun_induction read.go room s pieces with
  | case1 => exact ⟨rfl, fun _ => rfl⟩
  | case2 rest ih => exact ih hwaits
  | case3 => cases hwaits

/-- Of a source only its ending matters to how pieces are read. -/
theorem read_go_congr {room : Nat} {s t : Source} (h : s.ending = t.ending)
    (pieces : List Bytes) :
    read.go room s pieces = read.go room t pieces := by
  fun_induction read.go room t pieces with
  | case1 => rw [read.go, h]
  | case2 rest ih => exact ih
  | case3 => rw [read.go, h]

end Source

/-- The limit up to which bytes are buffered for a demand. Bytes are given as
they arrive, so none are buffered. -/
def Demand.limit : Demand → Nat
  | .head max | .line max => max
  | .bytes _ => 0

/-- An answer is still to come, and comes if the peer goes on. -/
def Reply.Waits : Reply → Prop
  | .head result => result = .error .silent
  | .line result => result = .error (.stopped .silent)
  | .bytes result => result = .error .silent

namespace Reader

variable {size most limit max room n : Nat} {r s : Reader} {demand : Demand}

/-! ## One demand -/

/-- A reader of pieces of at most `size` bytes that holds at most `most`
bytes. -/
structure Holds (size most : Nat) (r : Reader) : Prop where
  /-- So many bytes are buffered at most. -/
  buffer : r.buffer.length ≤ most
  /-- So many bytes arrive at once at most. -/
  pieces : ∀ piece ∈ r.source.pieces, piece.length ≤ size

theorem length_append_piece_le {held piece : Bytes} (hheld : held.length ≤ max)
    (hpiece : piece.length ≤ size) (hmax : max + size ≤ most) :
    (held ++ piece).length ≤ most := by
  rw [List.length_append]
  exact Nat.le_trans (Nat.add_le_add hheld hpiece) hmax

theorem length_dropLineEnds_le (bs : Bytes) :
    (dropLineEnds bs).length ≤ bs.length := by
  obtain ⟨skipped, hskipped⟩ := exists_dropLineEnds bs
  rw [congrArg List.length hskipped, List.length_append]
  exact Nat.le_add_left _ _

/-- **A head is read within its limit and one piece**, unless more is buffered
already. -/
theorem Holds.readHead (h : r.Holds size most) (hmax : max + size ≤ most) :
    (r.readHead max).2.Holds size most := by
  have key : ∀ held pieces, held.length ≤ most →
      (∀ piece ∈ pieces, piece.length ≤ size) →
      (readHeadAnew.go max r held pieces).2.Holds size most := by
    intro held pieces hheld hpieces
    have hrest := Nat.le_trans (length_dropLineEnds_le held) hheld
    fun_induction readHeadAnew.go max r held pieces with
    | case1 => exact ⟨hrest, hpieces⟩
    | case2 =>
      exact ⟨Nat.le_trans (List.drop_suffix _ _).length_le hrest, hpieces⟩
    | case3 => exact ⟨hrest, hpieces⟩
    | case4 held _ _ hshort piece rest ih =>
      -- another piece is taken, so the buffer is within the limit
      have hlength := length_append_piece_le (Nat.le_of_not_lt hshort)
        (hpieces piece List.mem_cons_self) hmax
      exact ih hlength (fun p hp => hpieces p (List.mem_cons_of_mem _ hp))
        (Nat.le_trans (length_dropLineEnds_le _) hlength)
    | case5 => exact ⟨hrest, hpieces⟩
    | case6 => exact ⟨hrest, hpieces⟩
    | case7 => exact ⟨hrest, hpieces⟩
  rw [readHead_eq_readHeadAnew]
  exact key r.buffer r.source.pieces h.buffer h.pieces

/-- **So is a line.** -/
theorem Holds.readLine (h : r.Holds size most) (hmax : max + size ≤ most) :
    (r.readLine max).2.Holds size most := by
  have key : ∀ buffer scanned pieces, buffer.length ≤ most →
      (∀ piece ∈ pieces, piece.length ≤ size) →
      (readLine.go max r buffer scanned pieces).2.Holds size most := by
    intro buffer scanned pieces hbuffer hpieces
    fun_induction readLine.go max r buffer scanned pieces with
    | case1 =>
      exact ⟨Nat.le_trans (List.drop_suffix _ _).length_le hbuffer, hpieces⟩
    | case2 => exact ⟨hbuffer, hpieces⟩
    | case3 buffer _ _ hshort piece rest ih =>
      exact ih (length_append_piece_le (Nat.le_of_not_lt hshort)
        (hpieces piece List.mem_cons_self) hmax) fun p hp =>
          hpieces p (List.mem_cons_of_mem _ hp)
    | case4 => exact ⟨hbuffer, hpieces⟩
    | case5 => exact ⟨hbuffer, hpieces⟩
    | case6 => exact ⟨hbuffer, hpieces⟩
  exact key r.buffer 0 r.source.pieces h.buffer h.pieces

/-- **Bytes are given without buffering any.** -/
theorem Holds.readSome (h : r.Holds size most) :
    (r.readSome room).2.Holds size most := by
  rw [Reader.readSome]
  split
  · refine ⟨h.buffer, fun piece hpiece => ?_⟩
    obtain ⟨whole, hwhole, hsuffix⟩ := Source.exists_suffix_of_mem_read hpiece
    exact Nat.le_trans hsuffix.length_le (h.pieces whole hwhole)
  · exact ⟨Nat.le_trans (List.drop_suffix _ _).length_le h.buffer, h.pieces⟩

/-- **Every answer keeps the bound** that is over its limit by a piece. -/
theorem Holds.answer (h : r.Holds size most)
    (hlimit : demand.limit + size ≤ most) :
    (r.answer demand).2.Holds size most := by
  cases demand with
  | head max => exact h.readHead hlimit
  | line max => exact h.readLine hlimit
  | bytes room => exact h.readSome

/-! ## One demand after the other -/

/-- A reader of which only the next `n` pieces have arrived so far. -/
def soFar (n : Nat) (r : Reader) : Reader :=
  { r with source := ⟨r.source.pieces.take n, .silent⟩ }

/-- What a reader has become of `r` with the first `n` pieces, the others being
yet to arrive. -/
def beyond (n : Nat) (r t : Reader) : Reader :=
  { t with source := ⟨t.source.pieces ++ r.source.pieces.drop n, r.source.ending⟩ }

/-- The reader within a demand, when `n` pieces have arrived for it. A demand
that needs fewer is answered by then. -/
def within (n : Nat) (r : Reader) (demand : Demand) : Reader :=
  r.beyond n ((r.soFar n).answer demand).2

/-- While a head is open and not too long, the next piece is taken in. -/
theorem readHeadAnew_go_of_open (r : Reader) {held : Bytes}
    (hend : headEnd? (dropLineEnds held) = none)
    (hshort : ¬ max < (dropLineEnds held).length) (piece : Bytes)
    (more : List Bytes) :
    readHeadAnew.go max r held (piece :: more) =
      readHeadAnew.go max r (dropLineEnds held ++ piece) more := by
  rw [readHeadAnew.go.eq_def]
  simp only [hend, hshort, if_false]

/-- A reader that waits for a head has all pieces in its buffer and is within
the limit. With more pieces it goes on as if it was asked anew. -/
theorem readHead_again (r s : Reader) {held : Bytes} {pieces : List Bytes}
    (hwaits : (readHeadAnew.go max s held pieces).1 = .error .silent) :
    (readHeadAnew.go max s held pieces).2.source.pieces = [] ∧
      (readHeadAnew.go max s held pieces).2.buffer.length ≤ max ∧
      ∀ more, readHeadAnew.go max r (readHeadAnew.go max s held pieces).2.buffer more =
        readHeadAnew.go max r held (pieces ++ more) := by
  fun_induction readHeadAnew.go max s held pieces with
  | case1 => cases hwaits
  | case2 => cases hwaits
  | case3 => cases hwaits
  | case4 held _ hend hshort piece rest ih =>
    obtain ⟨hpieces, hlength, hagain⟩ := ih hwaits
    refine ⟨hpieces, hlength, fun more => ?_⟩
    rw [hagain, List.cons_append, readHeadAnew_go_of_open r hend hshort]
  | case5 => split at hwaits <;> cases hwaits
  | case6 => cases hwaits
  | case7 held _ hend hshort =>
    refine ⟨rfl, Nat.le_of_not_lt hshort, fun more => ?_⟩
    rw [readHeadAnew.go.eq_def, readHeadAnew.go.eq_def max r held,
      dropLineEnds_eq_self (not_crlf_prefix_dropLineEnds held)]
    rfl

/-- So does one that waits for a line. -/
theorem readLine_again (r s : Reader) {buffer : Bytes} {scanned : Nat}
    {pieces : List Bytes} (hle : scanned ≤ buffer.length)
    (hseen : Bytes.lf ∉ buffer.take scanned)
    (hwaits : (readLine.go max s buffer scanned pieces).1 = .error (.stopped .silent)) :
    (readLine.go max s buffer scanned pieces).2.source.pieces = [] ∧
      (readLine.go max s buffer scanned pieces).2.buffer.length ≤ max ∧
      ∀ more, readLine.go max r (readLine.go max s buffer scanned pieces).2.buffer 0 more =
        readLine.go max r buffer scanned (pieces ++ more) := by
  fun_induction readLine.go max s buffer scanned pieces with
  | case1 => cases hwaits
  | case2 => cases hwaits
  | case3 buffer scanned hend hshort piece rest ih =>
    rw [lineEndFrom?_eq hle hseen, lineEnd?_eq_none_iff] at hend
    have hopen : Bytes.lf ∉ (buffer ++ piece).take buffer.length := by
      rwa [List.take_left]
    obtain ⟨hpieces, hlength, hagain⟩ := ih (by simp) hopen hwaits
    refine ⟨hpieces, hlength, fun more => ?_⟩
    rw [hagain, List.cons_append,
      readLine_go_of_open r hle hseen hend (Nat.le_of_not_lt hshort)]
  | case4 => cases hwaits
  | case5 => cases hwaits
  | case6 buffer scanned hend hshort =>
    refine ⟨rfl, Nat.le_of_not_lt hshort, fun more => ?_⟩
    rw [readLine.go.eq_def, readLine.go.eq_def max r buffer scanned,
      lineEndFrom?_eq hle hseen, lineEndFrom?_eq (Nat.zero_le _) List.not_mem_nil]
    rfl

theorem readHeadAnew_go_congr (h : s.source.ending = r.source.ending)
    (held : Bytes) (pieces : List Bytes) :
    readHeadAnew.go max s held pieces = readHeadAnew.go max r held pieces := by
  induction pieces generalizing held with
  | nil => rw [readHeadAnew.go.eq_def, readHeadAnew.go.eq_def max r, h]
  | cons piece rest ih =>
    rw [readHeadAnew.go.eq_def, readHeadAnew.go.eq_def max r, h]
    simp only [ih]

theorem readLine_go_congr (h : s.source.ending = r.source.ending)
    (buffer : Bytes) (scanned : Nat) (pieces : List Bytes) :
    readLine.go max s buffer scanned pieces =
      readLine.go max r buffer scanned pieces := by
  induction pieces generalizing buffer scanned with
  | nil => rw [readLine.go.eq_def, readLine.go.eq_def max r, h]
  | cons piece rest ih =>
    rw [readLine.go.eq_def, readLine.go.eq_def max r, h]
    simp only [ih]

/-- A head can be asked for again when it was given up. -/
theorem readHead_beyond (hwaits : ((r.soFar n).readHead max).1 = .error .silent) :
    ((r.soFar n).readHead max).2.buffer.length ≤ max ∧
      (r.beyond n ((r.soFar n).readHead max).2).readHead max = r.readHead max := by
  simp only [readHead_eq_readHeadAnew] at hwaits ⊢
  obtain ⟨hnil, hlength, hagain⟩ := readHead_again r (r.soFar n) hwaits
  refine ⟨hlength, ?_⟩
  have hgone : ((r.soFar n).readHeadAnew max).2.source.pieces = [] := hnil
  have hmore : readHeadAnew.go max r ((r.soFar n).readHeadAnew max).2.buffer
      (r.source.pieces.drop n) = readHeadAnew.go max r r.buffer
        (r.source.pieces.take n ++ r.source.pieces.drop n) := hagain _
  rw [List.take_append_drop] at hmore
  rw [beyond, hgone, List.nil_append]
  refine Eq.trans (readHeadAnew_go_congr ?_ _ _) hmore
  rfl

/-- So can a line. -/
theorem readLine_beyond
    (hwaits : ((r.soFar n).readLine max).1 = .error (.stopped .silent)) :
    ((r.soFar n).readLine max).2.buffer.length ≤ max ∧
      (r.beyond n ((r.soFar n).readLine max).2).readLine max = r.readLine max := by
  obtain ⟨hnil, hlength, hagain⟩ :=
    readLine_again r (r.soFar n) (Nat.zero_le _) List.not_mem_nil hwaits
  refine ⟨hlength, ?_⟩
  have hgone : ((r.soFar n).readLine max).2.source.pieces = [] := hnil
  have hmore : readLine.go max r ((r.soFar n).readLine max).2.buffer 0
      (r.source.pieces.drop n) = readLine.go max r r.buffer 0
        (r.source.pieces.take n ++ r.source.pieces.drop n) := hagain _
  rw [List.take_append_drop] at hmore
  rw [beyond, hgone, List.nil_append]
  refine Eq.trans (readLine_go_congr ?_ _ _ _) hmore
  rfl

/-- Bytes are waited for only if none are buffered and there is room. Then they
are those of the next piece that has any. -/
theorem readSome_of_error {stop : Stop} (h : (r.readSome room).1 = .error stop) :
    r.buffer = [] ∧ ∀ s : Reader, s.buffer = [] → s.readSome room =
      ((Source.read.go room s.source s.source.pieces).1,
        { s with source := (Source.read.go room s.source s.source.pieces).2 }) := by
  rw [Reader.readSome] at h
  split at h
  · rename_i hempty
    refine ⟨hempty, fun s hs => ?_⟩
    have hroom : room ≠ 0 := by
      rintro rfl
      cases h
    rw [Reader.readSome, if_pos hs, Source.read, if_neg hroom]
  · cases h

/-- Bytes can be asked for again as well. None have arrived then. -/
theorem readSome_beyond
    (hwaits : ((r.soFar n).readSome room).1 = .error .silent) :
    ((r.soFar n).readSome room).2.buffer = [] ∧
      (r.beyond n ((r.soFar n).readSome room).2).readSome room = r.readSome room := by
  obtain ⟨hempty, hread⟩ := readSome_of_error hwaits
  rw [hread _ hempty] at hwaits ⊢
  obtain ⟨hnil, hagain⟩ := Source.read_go_again r.source hwaits
  refine ⟨hempty, ?_⟩
  have hmore : Source.read.go room r.source
      (r.source.pieces.take n ++ r.source.pieces.drop n) =
        Source.read.go room r.source (r.source.pieces.drop n) := hagain _
  rw [List.take_append_drop] at hmore
  let left : Source := ⟨r.source.pieces.drop n, r.source.ending⟩
  have hcongr : Source.read.go room left left.pieces =
      Source.read.go room r.source left.pieces :=
    Source.read_go_congr (s := left) (t := r.source) rfl _
  rw [beyond, hnil, List.nil_append]
  refine (hread ⟨r.buffer, left⟩ hempty).trans ?_
  rw [hread r hempty, hmore, hcongr]

/-- **A demand that waits can be given up and made again**, and while it waits
the reader is within its limit. -/
theorem answer_within (r : Reader) (n : Nat) (demand : Demand)
    (hwaits : ((r.soFar n).answer demand).1.Waits) :
    (r.within n demand).buffer.length ≤ demand.limit ∧
      (r.within n demand).answer demand = r.answer demand := by
  cases demand with
  | head max =>
    obtain ⟨hlength, hagain⟩ := readHead_beyond hwaits
    exact ⟨hlength, by rw [within, answer, answer, answer, hagain]⟩
  | line max =>
    obtain ⟨hlength, hagain⟩ := readLine_beyond hwaits
    exact ⟨hlength, by rw [within, answer, answer, answer, hagain]⟩
  | bytes room =>
    obtain ⟨hnil, hagain⟩ := readSome_beyond hwaits
    exact ⟨Nat.le_of_eq (congrArg List.length hnil),
      by rw [within, answer, answer, answer, hagain]⟩

/-- The states of a reader whose demands have limits up to `limit`, and whose
pieces have up to `size` bytes. -/
inductive Reached (size limit : Nat) (r : Reader) : Reader → Prop where
  /-- It begins with nothing asked for. -/
  | start : Reached size limit r r
  /-- It answers, and may fail. -/
  | answered {s : Reader} (demand : Demand) :
    Reached size limit r s → demand.limit ≤ limit →
    Reached size limit r (s.answer demand).2
  /-- It waits within a demand, and the demand may be given up there. -/
  | waited {s : Reader} (n : Nat) (demand : Demand) :
    Reached size limit r s → demand.limit ≤ limit →
    Reached size limit r (s.within n demand)
  /-- What looked like the end, or a failure, was none, and more arrives. -/
  | resumed {s : Reader} (source : Source) :
    Reached size limit r s → s.source.pieces = [] →
    (∀ piece ∈ source.pieces, piece.length ≤ size) →
      Reached size limit r { s with source := source }

theorem Holds.soFar (h : r.Holds size most) (n : Nat) :
    (r.soFar n).Holds size most :=
  ⟨h.buffer, fun piece hpiece => h.pieces piece (List.mem_of_mem_take hpiece)⟩

theorem Holds.within (h : r.Holds size most) (n : Nat)
    (hlimit : demand.limit + size ≤ most) :
    (r.within n demand).Holds size most := by
  obtain ⟨hbuffer, hpieces⟩ := (h.soFar n).answer hlimit
  refine ⟨hbuffer, fun piece hpiece => ?_⟩
  obtain hpiece | hpiece := List.mem_append.1 hpiece
  · exact hpieces piece hpiece
  · exact h.pieces piece (List.mem_of_mem_drop hpiece)

/-- **The bound holds in every state.** -/
theorem Reached.holds (hs : Reached size limit r s) (h : r.Holds size most)
    (hlimit : limit + size ≤ most) :
    s.Holds size most := by
  induction hs with
  | start => exact h
  | answered demand _ hdemand ih =>
    exact ih.answer (Nat.le_trans (Nat.add_le_add_right hdemand size) hlimit)
  | waited n demand _ hdemand ih =>
    exact ih.within n (Nat.le_trans (Nat.add_le_add_right hdemand size) hlimit)
  | resumed source _ _ hpieces ih => exact ⟨ih.buffer, hpieces⟩

theorem Reached.answers (hs : Reached size limit r s) {demands : List Demand}
    (hdemands : ∀ demand ∈ demands, demand.limit ≤ limit) :
    Reached size limit r (s.answers demands).2 := by
  induction demands generalizing s with
  | nil => exact hs
  | cons demand demands ih =>
    exact ih (hs.answered demand (hdemands demand List.mem_cons_self))
      fun d hd => hdemands d (List.mem_cons_of_mem _ hd)

end Reader

/-! ## Relays -/

namespace Pipe

variable {size most room : Nat} {p q : Pipe} {α β : Type} {a : α}
  {e : RelayError}

/-- The pipe that a step leaves, with a value or an error. -/
def leftBy : EStateM.Result RelayError Pipe α → Pipe
  | .ok _ q | .error _ q => q

/-- A step keeps the bound, whether it fails or not. -/
def Keeps (size most : Nat) (step : Step α) : Prop :=
  ∀ p, p.reader.Holds size most → (leftBy (step p)).reader.Holds size most

theorem Keeps.ok {step : Step α} (h : Keeps size most step)
    (hp : p.reader.Holds size most) (hq : step p = .ok a q) :
    q.reader.Holds size most := by
  have hleft := h p hp
  rwa [hq] at hleft

theorem Keeps.error {step : Step α} (h : Keeps size most step)
    (hp : p.reader.Holds size most) (hq : step p = .error e q) :
    q.reader.Holds size most := by
  have hleft := h p hp
  rwa [hq] at hleft

theorem Keeps.andThen {step : Step α} {next : α → Step β}
    (h : Keeps size most step) (hnext : ∀ a, Keeps size most (next a)) :
    Keeps size most fun p => andThen (step p) next := by
  intro p hp
  show (leftBy (Pipe.andThen (step p) next)).reader.Holds size most
  cases hstep : step p with
  | ok a q => exact hnext a q (h.ok hp hstep)
  | error e q => exact h.error hp hstep

theorem keeps_fetch : Keeps size most (fetch room) := by
  intro p hp
  have hsome : (p.reader.readSome room).2.Holds size most := hp.readSome
  rw [fetch]
  split <;> rename_i hread <;> rwa [hread] at hsome

theorem keeps_fetchLine (hmost : maxChunkLine + size ≤ most) :
    Keeps size most fetchLine := by
  intro p hp
  have hline := hp.readLine hmost
  rw [fetchLine]
  split <;> rename_i hread <;> rwa [hread] at hline

theorem keeps_emit (data : Bytes) : Keeps size most (emit data) := by
  intro p hp
  rw [emit]
  split <;> exact hp

/-- A copy of a known length buffers nothing. -/
theorem keeps_copyLength (n : Nat) : Keeps size most (copyLength room n) := by
  intro p hp
  fun_induction copyLength room n p with
  | case1 => exact hp
  | case2 _ p _ e q hf => exact keeps_fetch.error hp hf
  | case3 _ p _ q hf => exact keeps_fetch.ok hp hf
  | case4 _ p _ b bs q hf e s he =>
    exact (keeps_emit _).error (keeps_fetch.ok hp hf) he
  | case5 _ p _ b bs q hf _ s he ih =>
    exact ih ((keeps_emit _).ok (keeps_fetch.ok hp hf) he)

theorem keeps_copyAll : Keeps size most (copyAll room) := by
  intro p hp
  fun_induction copyAll room p with
  | case1 p e q hf => exact keeps_fetch.error hp hf
  | case2 p q hf => exact keeps_fetch.ok hp hf
  | case3 p b bs q hf e s he =>
    exact (keeps_emit _).error (keeps_fetch.ok hp hf) he
  | case4 p b bs q hf s _ he ih =>
    exact ih ((keeps_emit _).ok (keeps_fetch.ok hp hf) he)

/-- A size line is a line. -/
theorem keeps_copyChunkSize (hmost : maxChunkLine + size ≤ most) :
    Keeps size most copyChunkSize := by
  intro p hp
  rw [copyChunkSize_eq]
  refine (keeps_fetchLine hmost).andThen (fun line q hq => ?_) p hp
  split
  · exact hq
  · refine (keeps_emit line).andThen (fun _ s hs => ?_) q hq
    exact hs

theorem keeps_copyChunkEnd (hmost : maxChunkLine + size ≤ most) :
    Keeps size most copyChunkEnd := by
  intro p hp
  rw [copyChunkEnd_eq]
  refine (keeps_fetchLine hmost).andThen (fun line q hq => ?_) p hp
  split
  · exact keeps_emit line q hq
  · exact hq

/-- Trailers are lines. -/
theorem keeps_copyTrailers (hmost : maxChunkLine + size ≤ most) :
    Keeps size most copyTrailers := by
  intro p hp
  have hline := keeps_fetchLine hmost
  fun_induction copyTrailers p with
  | case1 p e q hl => exact hline.error hp hl
  | case2 p line q hl e s he =>
    exact (keeps_emit line).error (hline.ok hp hl) he
  | case3 p line q hl s _ he => exact (keeps_emit line).ok (hline.ok hp hl) he
  | case4 p line q hl s _ he _ ih =>
    exact ih ((keeps_emit line).ok (hline.ok hp hl) he)

/-- **Chunks are copied within the limit of lines and one piece**, whatever
sizes they have. -/
theorem keeps_copyChunks (hmost : maxChunkLine + size ≤ most) :
    Keeps size most (copyChunks room) := by
  intro p hp
  have hsize := keeps_copyChunkSize hmost
  have hend := keeps_copyChunkEnd hmost
  fun_induction copyChunks room p with
  | case1 p e q hs => exact hsize.error hp hs
  | case2 p q hs => exact keeps_copyTrailers hmost q (hsize.ok hp hs)
  | case3 p n q hs _ e s hd =>
    exact (keeps_copyLength n).error (hsize.ok hp hs) hd
  | case4 p n q hs _ s _ hd e t he =>
    exact hend.error ((keeps_copyLength n).ok (hsize.ok hp hs) hd) he
  | case5 p n q hs _ s _ hd t _ he ih =>
    exact ih (hend.ok ((keeps_copyLength n).ok (hsize.ok hp hs) hd) he)

/-- **A relay keeps the bound** that is over the limit of lines by a piece. -/
theorem keeps_relay (hmost : maxChunkLine + size ≤ most) (framing : Framing) :
    Keeps size most (relay framing room) := by
  cases framing with
  | empty => exact fun _ hp => hp
  | length n => exact keeps_copyLength n
  | chunked => exact keeps_copyChunks hmost
  | untilClose => exact keeps_copyAll

end Pipe

/-! ## Every state -/

/-- **A peer cannot make a reader buffer without bound.** In every state of a
reader whose pieces are no larger than a piece may be, it holds no more than
what it began with, or the limit of its demands and one piece. And the relay of
a chunked body from this state on, when it has succeeded or failed, and before
that when only `n` pieces have arrived, holds no more than what was buffered
before, or the limit of lines and one piece. -/
theorem Reader.buffer_bounded {limit : Nat} {r s : Reader}
    (hpieces : ∀ piece ∈ r.source.pieces, piece.length ≤ Source.pieceSize)
    (hs : Reader.Reached Source.pieceSize limit r s) :
    s.buffer.length ≤ max r.buffer.length (limit + 8192) ∧
      ∀ (room : Nat) (sink : Sink) (count n : Nat),
        let most := max s.buffer.length (4096 + 8192)
        (Pipe.leftBy (Pipe.relay .chunked room ⟨s, sink, count⟩)).reader.buffer.length ≤ most ∧
        (Pipe.leftBy (Pipe.relay .chunked room
          ⟨s.soFar n, sink, count⟩)).reader.buffer.length ≤ most := by
  have hholds :=
    hs.holds ⟨Nat.le_max_left _ (limit + 8192), hpieces⟩ (Nat.le_max_right _ _)
  refine ⟨hholds.buffer, fun room sink count n => ?_⟩
  have hrelay : Pipe.Keeps Source.pieceSize (max s.buffer.length (4096 + 8192))
      (Pipe.relay .chunked room) :=
    Pipe.keeps_relay (Nat.le_max_right _ _) .chunked
  have hstart : s.Holds Source.pieceSize (max s.buffer.length (4096 + 8192)) :=
    ⟨Nat.le_max_left _ _, hholds.pieces⟩
  exact ⟨(hrelay ⟨s, sink, count⟩ hstart).buffer,
    (hrelay ⟨s.soFar n, sink, count⟩ (hstart.soFar n)).buffer⟩

/-- A line without an end is given up when 260 bytes have arrived of it, 100 of
them are read as they are, and a head that does not end in the others fails as
well. -/
theorem Reader.buffer_bounded_unended_line :
    let r : Reader :=
      ⟨[], Source.ofSegments [List.replicate 60 97, List.replicate 200 97] .eof⟩
    let s := (r.answers [.line 64, .bytes 100, .head 10]).2
    (r.answer (.line 64)).2.buffer.length = 260 ∧ s.buffer.length = 160 ∧
      s.buffer.length ≤ max r.buffer.length (64 + 8192) ∧
      ∀ (room : Nat) (sink : Sink) (count n : Nat),
        let most := max s.buffer.length (4096 + 8192)
        (Pipe.leftBy (Pipe.relay .chunked room ⟨s, sink, count⟩)).reader.buffer.length ≤ most ∧
        (Pipe.leftBy (Pipe.relay .chunked room
          ⟨s.soFar n, sink, count⟩)).reader.buffer.length ≤ most := by
  intro r s
  have hs : Reader.Reached Source.pieceSize 64 r s :=
    Reader.Reached.start.answers (by decide)
  have hr : r = ⟨[], ⟨[List.replicate 60 97, List.replicate 200 97], .eof⟩⟩ := by
    simp [r, Source.ofSegments, Source.cut, Source.pieceSize]
  refine ⟨?_, ?_, Reader.buffer_bounded (fun _ => Source.length_le_of_mem_ofSegments) hs⟩
  · rw [hr]
    decide +kernel
  · simp only [s, hr]
    decide +kernel

end Gateway
