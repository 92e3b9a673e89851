import Gateway.Proofs.Relaying
import Gateway.Proofs.Segmentation

/-!
# Chunked bodies go through verbatim

A chunked body is told by its own bytes: chunks, each a size line, that many
bytes and an empty line; then a size line that says 0, trailer lines, and an
empty line. `ChunkedBody` is this grammar over a class of lines, so that it can
be read with and without a limit on their length.

* `passes_copyChunks`: a chunked body of short lines at the front of the view is
  passed on, and nothing more;
* `chunkedBody_of_copyChunks`: what went through is a chunked body;
* `relay_chunked_verbatim`: both together.
-/

namespace Gateway

open Reader (IsLine)

/-! ## The grammar -/

/-- A line that no relay refuses for its length. -/
def IsShortLine (line : Bytes) : Prop :=
  IsLine line ∧ line.length ≤ Pipe.maxChunkLine

/-- Trailer lines up to and with the empty one. -/
inductive TrailerSection (Line : Bytes → Prop) : Bytes → Prop where
  /-- The empty line. -/
  | done {line : Bytes} : Line line → Pipe.isEmptyLine line = true →
      TrailerSection Line line
  /-- A trailer line in front of others. -/
  | trailer {line rest : Bytes} : Line line → Pipe.isEmptyLine line = false →
      TrailerSection Line rest →
      TrailerSection Line (line ++ rest)

/-- Chunks up to and with the last one, and the trailers behind it. -/
inductive ChunkedBody (Line : Bytes → Prop) : Bytes → Prop where
  /-- The last chunk, which has size 0. -/
  | last {line trailers : Bytes} : Line line → Pipe.chunkSize line = .ok 0 →
      TrailerSection Line trailers → ChunkedBody Line (line ++ trailers)
  /-- A chunk of another size: the size line, the data and an empty line. -/
  | chunk {line data ending rest : Bytes} : Line line →
      Pipe.chunkSize line = .ok data.length →
      data ≠ [] → Line ending → Pipe.isEmptyLine ending = true →
      ChunkedBody Line rest →
      ChunkedBody Line (line ++ (data ++ (ending ++ rest)))

variable {Line Line' : Bytes → Prop} {body : Bytes}

theorem TrailerSection.mono (hmono : ∀ line, Line line → Line' line)
    (h : TrailerSection Line body) :
    TrailerSection Line' body := by
  induction h with
  | done hline hempty => exact .done (hmono _ hline) hempty
  | trailer hline hempty _ ih => exact .trailer (hmono _ hline) hempty ih

theorem ChunkedBody.mono (hmono : ∀ line, Line line → Line' line)
    (h : ChunkedBody Line body) :
    ChunkedBody Line' body := by
  induction h with
  | last hline hsize htrailers =>
    exact .last (hmono _ hline) hsize (htrailers.mono hmono)
  | chunk hline hsize hdata hending hempty _ ih =>
    exact .chunk (hmono _ hline) hsize hdata (hmono _ hending) hempty ih

namespace Pipe

/-! ## Lines -/

/-- What is fetched as a line is one, and is taken off the front. -/
theorem took_of_fetchLine {p q : Pipe} {line : Bytes}
    (h : fetchLine p = .ok line q) :
    p.Took line q ∧ IsLine line := by
  rw [fetchLine] at h
  split at h
  · rename_i hread
    cases h
    refine ⟨⟨(Reader.remaining_readLine hread).1, ?_, rfl, rfl⟩,
      Reader.isLine_of_readLine hread⟩
    have := Reader.ending_readLine maxChunkLine p.reader
    rwa [hread] at this
  · cases h
  · cases h

theorem fetchLine_of_isShortLine {p : Pipe} {line rest : Bytes}
    (hline : IsShortLine line) (h : p.reader.remaining = line ++ rest) :
    ∃ q, fetchLine p = .ok line q := by
  obtain ⟨t, ht, -, -⟩ := Reader.readLine_of_isLine hline.1 hline.2 h
  exact ⟨_, by rw [fetchLine, ht]⟩

/-- A line that cannot be fetched is not sent on. -/
theorem failed_of_fetchLine {p q : Pipe} {e : RelayError}
    (h : fetchLine p = .error e q) :
    p.Failed e q := by
  rw [fetchLine] at h
  split at h
  · cases h
  · cases h
    exact .of_sink rfl (fun _ he => by cases he) fun he => by cases he
  · rename_i hread
    cases h
    refine .of_sink rfl (errorOfLine_ne_write _) fun hs => ?_
    obtain rfl := eq_stopped_of_errorOfLine hs
    exact silent_of_errorOfStop (Reader.ending_of_readLine_error hread) rfl

theorem passes_line {p : Pipe} {line rest : Bytes} (hline : IsShortLine line)
    (h : p.reader.remaining = line ++ rest) :
    ∃ q, fetchLine p = .ok line q ∧ p.Passes line () (emit line q) := by
  obtain ⟨q, hq⟩ := fetchLine_of_isShortLine hline h
  exact ⟨q, hq, (took_of_fetchLine hq).1.passes⟩

/-! ## Trailers -/

/-- A trailer line is fetched and sent on, and it is the last one if it is
empty. -/
theorem copyTrailers_eq (p : Pipe) :
    copyTrailers p = andThen (fetchLine p) fun line q => andThen (emit line q) fun _ q =>
      if isEmptyLine line then .ok () q else copyTrailers q := by
  rw [copyTrailers]
  split
  · rename_i hq
    rw [hq]
    rfl
  · rename_i q hq
    rw [hq]
    split
    · rename_i hs
      rw [andThen, hs]
      rfl
    · rename_i hs
      rw [andThen, hs]
      rfl

/-- **A trailer section of short lines at the front is passed on.** -/
theorem passes_copyTrailers {p : Pipe} {body rest : Bytes}
    (hb : TrailerSection IsShortLine body)
    (h : p.reader.remaining = body ++ rest) :
    p.Passes body () (copyTrailers p) := by
  induction hb generalizing p with
  | @done line hline hempty =>
    obtain ⟨q, hq, hpasses⟩ := passes_line hline h
    rw [copyTrailers_eq, ← List.append_nil line, hq]
    refine hpasses.andThen fun s _ => ?_
    rw [if_pos hempty]
    exact passes_pure () s
  | trailer hline hempty _ ih =>
    rw [List.append_assoc] at h
    obtain ⟨q, hq, hpasses⟩ := passes_line hline h
    rw [copyTrailers_eq, hq]
    refine hpasses.andThen fun s hmoved => ?_
    rw [hempty, if_neg Bool.false_ne_true]
    exact ih (hmoved.left h)

/-- **Trailers that went through are a trailer section.** -/
theorem trailerSection_of_copyTrailers {p q : Pipe}
    (h : copyTrailers p = .ok () q) :
    ∃ body, TrailerSection IsLine body ∧ p.Moved body q := by
  fun_induction copyTrailers p with
  | case1 => cases h
  | case2 => cases h
  | case3 p line p' hl _ p'' he hempty =>
    cases h
    obtain ⟨htook, hline⟩ := took_of_fetchLine hl
    exact ⟨line, .done hline hempty, htook.moved he⟩
  | case4 p line p' hl _ p'' he hempty ih =>
    obtain ⟨more, hmore, hmoved⟩ := ih h
    obtain ⟨htook, hline⟩ := took_of_fetchLine hl
    exact ⟨line ++ more, .trailer hline (by simpa using hempty) hmore,
      (htook.moved he).trans hmoved⟩

/-- Trailers that did not go through were sent in part. -/
theorem failed_of_copyTrailers {p q : Pipe} {e : RelayError}
    (h : copyTrailers p = .error e q) :
    p.Failed e q := by
  fun_induction copyTrailers p with
  | case1 p e' p' hl =>
    cases h
    exact failed_of_fetchLine hl
  | case2 p line p' hl e' p'' he =>
    cases h
    exact (took_of_fetchLine hl).1.failed he
  | case3 => cases h
  | case4 p line p' hl _ p'' he hempty ih =>
    exact ((took_of_fetchLine hl).1.moved he).failed (ih h)

/-! ## Chunks -/

/-- A size line is fetched, and sent on if it has a size. -/
theorem copyChunkSize_eq (p : Pipe) :
    copyChunkSize p = andThen (fetchLine p) fun line q =>
      match chunkSize line with
      | .error flaw => .error (.invalidChunk flaw) q
      | .ok n => andThen (emit line q) fun _ q => .ok n q := by
  rw [copyChunkSize]
  cases fetchLine p with
  | error e q => rfl
  | ok line q =>
    dsimp only [andThen]
    cases chunkSize line with
    | error flaw => rfl
    | ok n => cases emit line q <;> rfl

theorem copyChunkEnd_eq (p : Pipe) :
    copyChunkEnd p = andThen (fetchLine p) fun line q =>
      if isEmptyLine line then emit line q
      else .error (.invalidChunk .unendedChunk) q := by
  rw [copyChunkEnd]
  cases fetchLine p <;> rfl

/-- A size line at the front is passed on, and its size is known. -/
theorem passes_copyChunkSize {p : Pipe} {n : Nat} {line rest : Bytes}
    (hline : IsShortLine line) (hn : chunkSize line = .ok n)
    (h : p.reader.remaining = line ++ rest) :
    p.Passes line n (copyChunkSize p) := by
  obtain ⟨q, hq, hpasses⟩ := passes_line hline h
  rw [copyChunkSize, hq]
  dsimp only
  rw [hn]
  rcases hpasses with ⟨s, hs, hmoved⟩ | ⟨fault, s, hs, hlimit⟩
  · exact .inl ⟨s, by rw [hs], hmoved⟩
  · exact .inr ⟨fault, s, by rw [hs], hlimit⟩

/-- A size line that went through is a line of its size. -/
theorem moved_of_copyChunkSize {p q : Pipe} {n : Nat}
    (h : copyChunkSize p = .ok n q) :
    ∃ line, IsLine line ∧ chunkSize line = .ok n ∧ p.Moved line q := by
  rw [copyChunkSize] at h
  split at h
  · cases h
  · rename_i line p' hl
    obtain ⟨htook, hline⟩ := took_of_fetchLine hl
    split at h
    · cases h
    · rename_i n' hn
      split at h
      · cases h
      · rename_i he
        cases h
        exact ⟨line, hline, hn, htook.moved he⟩

/-- A size line that did not go through was sent in part. -/
theorem failed_of_copyChunkSize {p q : Pipe} {e : RelayError}
    (h : copyChunkSize p = .error e q) :
    p.Failed e q := by
  rw [copyChunkSize] at h
  split at h
  · rename_i hl
    cases h
    exact failed_of_fetchLine hl
  · rename_i hl
    have htook := (took_of_fetchLine hl).1
    split at h
    · cases h
      exact .of_sink htook.sink (fun _ he => by cases he) fun he => by cases he
    · split at h
      · rename_i he
        cases h
        exact htook.failed he
      · cases h

theorem passes_copyChunkEnd {p : Pipe} {line rest : Bytes}
    (hline : IsShortLine line) (hempty : isEmptyLine line = true)
    (h : p.reader.remaining = line ++ rest) :
    p.Passes line () (copyChunkEnd p) := by
  obtain ⟨q, hq, hpasses⟩ := passes_line hline h
  rw [copyChunkEnd, hq]
  dsimp only
  rw [if_pos hempty]
  exact hpasses

/-- What went through behind the data of a chunk is an empty line. -/
theorem moved_of_copyChunkEnd {p q : Pipe} (h : copyChunkEnd p = .ok () q) :
    ∃ line, IsLine line ∧ isEmptyLine line = true ∧ p.Moved line q := by
  rw [copyChunkEnd] at h
  split at h
  · cases h
  · rename_i line p' hl
    obtain ⟨htook, hline⟩ := took_of_fetchLine hl
    split at h
    · rename_i hempty
      exact ⟨line, hline, hempty, htook.moved h⟩
    · cases h

/-- A line that did not go through behind the data of a chunk was sent in
part. -/
theorem failed_of_copyChunkEnd {p q : Pipe} {e : RelayError}
    (h : copyChunkEnd p = .error e q) :
    p.Failed e q := by
  rw [copyChunkEnd] at h
  split at h
  · rename_i hl
    cases h
    exact failed_of_fetchLine hl
  · rename_i hl
    have htook := (took_of_fetchLine hl).1
    split at h
    · exact htook.failed h
    · cases h
      exact .of_sink htook.sink (fun _ he => by cases he) fun he => by cases he

/-! ## Bodies -/

/-- A chunk is its size line, its data and its line end; the last one is
followed by trailers. -/
theorem copyChunks_eq (room : Nat) (p : Pipe) :
    copyChunks room p = andThen (copyChunkSize p) fun n q =>
      if n = 0 then copyTrailers q
      else andThen (copyLength room n q) fun _ q =>
        andThen (copyChunkEnd q) fun _ q => copyChunks room q := by
  rw [copyChunks]
  split
  · rename_i hq
    rw [hq]
    rfl
  · rename_i hq
    rw [hq, andThen]
    split
    · rfl
    · split
      · rename_i hs
        rw [hs]
        rfl
      · rename_i hs
        rw [hs, andThen]
        split
        · rename_i ht
          rw [ht]
          rfl
        · rename_i ht
          rw [ht]
          rfl

/-- **A chunked body of short lines at the front is passed on.** -/
theorem passes_copyChunks {room : Nat} {p : Pipe} {body rest : Bytes}
    (hroom : 0 < room) (hb : ChunkedBody IsShortLine body)
    (h : p.reader.remaining = body ++ rest) :
    p.Passes body () (copyChunks room p) := by
  induction hb generalizing p with
  | last hline hsize htrailers =>
    rw [List.append_assoc] at h
    rw [copyChunks_eq]
    refine (passes_copyChunkSize hline hsize h).andThen fun q hmoved => ?_
    rw [if_pos rfl]
    exact passes_copyTrailers htrailers (hmoved.left h)
  | @chunk line data ending more hline hsize hdata hending hempty _ ih =>
    rw [List.append_assoc, List.append_assoc, List.append_assoc] at h
    rw [copyChunks_eq]
    -- size line, data, line end and the chunks behind them, each from where the
    -- one before has stopped
    refine (passes_copyChunkSize hline hsize h).andThen fun q₁ hm₁ => ?_
    have hr₁ := hm₁.left h
    have hpasses := passes_copyLength (p := q₁) (n := data.length) hroom
      (by rw [hr₁, List.length_append]; omega)
    rw [hr₁, List.take_left] at hpasses
    rw [if_neg (by simpa using hdata)]
    refine hpasses.andThen fun q₂ hm₂ => ?_
    have hr₂ := hm₂.left hr₁
    refine (passes_copyChunkEnd hending hempty hr₂).andThen fun q₃ hm₃ => ?_
    exact ih (hm₃.left hr₂)

theorem copyChunks_of_malformed (room : Nat) {p : Pipe} {line rest : Bytes}
    {flaw : Flaw} (hline : IsShortLine line)
    (hflaw : chunkSize line = .error flaw)
    (h : p.reader.remaining = line ++ rest) :
    ∃ q, copyChunks room p = .error (.invalidChunk flaw) q := by
  obtain ⟨q, hq⟩ := fetchLine_of_isShortLine hline h
  refine ⟨q, ?_⟩
  rw [copyChunks_eq, copyChunkSize, hq]
  dsimp only
  rw [hflaw]
  rfl

/-- **A chunked body of short lines at the front goes through** to a receiver
without a limit. -/
theorem copyChunks_of_chunkedBody {room : Nat} {p : Pipe} {body rest : Bytes}
    (hroom : 0 < room) (hb : ChunkedBody IsShortLine body)
    (hp : p.sink.room = none) (h : p.reader.remaining = body ++ rest) :
    ∃ q, copyChunks room p = .ok () q ∧ p.Moved body q :=
  (passes_copyChunks hroom hb h).moved hp

/-- **Chunks that went through are a chunked body.** -/
theorem chunkedBody_of_copyChunks {room : Nat} {p q : Pipe}
    (h : copyChunks room p = .ok () q) :
    ∃ body, ChunkedBody IsLine body ∧ p.Moved body q := by
  fun_induction copyChunks room p with
  | case1 => cases h
  | case2 p p₁ h₁ =>
    obtain ⟨line, hline, hsize, hm₁⟩ := moved_of_copyChunkSize h₁
    obtain ⟨trailers, htrailers, hm₂⟩ := trailerSection_of_copyTrailers h
    exact ⟨_, .last hline hsize htrailers, hm₁.trans hm₂⟩
  | case3 => cases h
  | case4 => cases h
  | case5 p n p₁ h₁ hn _ p₂ h₂ _ p₃ h₃ ih =>
    obtain ⟨line, hline, hsize, hm₁⟩ := moved_of_copyChunkSize h₁
    obtain ⟨data, rfl, hm₂⟩ := moved_of_copyLength h₂
    obtain ⟨ending, hending, hempty, hm₃⟩ := moved_of_copyChunkEnd h₃
    obtain ⟨more, hmore, hm₄⟩ := ih h
    refine ⟨_, .chunk hline hsize ?_ hending hempty hmore,
      hm₁.trans (hm₂.trans (hm₃.trans hm₄))⟩
    rintro rfl
    exact hn rfl

/-- Chunks that did not go through were sent in part. -/
theorem failed_of_copyChunks {room : Nat} {p q : Pipe} {e : RelayError}
    (h : copyChunks room p = .error e q) : p.Failed e q := by
  fun_induction copyChunks room p with
  | case1 p e' p₁ h₁ =>
    cases h
    exact failed_of_copyChunkSize h₁
  | case2 p p₁ h₁ =>
    obtain ⟨line, -, -, hm₁⟩ := moved_of_copyChunkSize h₁
    exact hm₁.failed (failed_of_copyTrailers h)
  | case3 p n p₁ h₁ hn e' p₂ h₂ =>
    cases h
    obtain ⟨line, -, -, hm₁⟩ := moved_of_copyChunkSize h₁
    exact hm₁.failed (failed_of_copyLength h₂)
  | case4 p n p₁ h₁ hn _ p₂ h₂ e' p₃ h₃ =>
    cases h
    obtain ⟨line, -, -, hm₁⟩ := moved_of_copyChunkSize h₁
    obtain ⟨data, -, hm₂⟩ := moved_of_copyLength h₂
    exact hm₁.failed (hm₂.failed (failed_of_copyChunkEnd h₃))
  | case5 p n p₁ h₁ hn _ p₂ h₂ _ p₃ h₃ ih =>
    obtain ⟨line, -, -, hm₁⟩ := moved_of_copyChunkSize h₁
    obtain ⟨data, -, hm₂⟩ := moved_of_copyLength h₂
    obtain ⟨ending, -, -, hm₃⟩ := moved_of_copyChunkEnd h₃
    exact hm₁.failed (hm₂.failed (hm₃.failed (ih h)))

/-- **A chunked body goes through verbatim.** One of short lines at the front of
the view, in whatever pieces it arrives, is sent on as it is and counted, and
the view is left with what follows. And whatever goes through is a chunked body
from the front of the view, with lines of any length. The counter shows the
count as long as that is below `2 ^ 64`. -/
theorem relay_chunked_verbatim :
    (∀ (body rest : Bytes) (room : Nat) (p : Pipe),
      ChunkedBody IsShortLine body → 0 < room →
      p.sink.room = none → p.reader.remaining = body ++ rest →
      ∃ q, relay .chunked room p = .ok () q ∧
        q.sink.accepted = p.sink.accepted ++ body ∧
        q.count = p.count + body.length ∧
        (p.count + body.length < UInt64.size → q.counter.toNat = p.count + body.length) ∧
        q.reader.remaining = rest) ∧
    ∀ (room : Nat) (p q : Pipe), relay .chunked room p = .ok () q →
      ∃ body, ChunkedBody IsLine body ∧ q.sink.accepted = p.sink.accepted ++ body ∧
        q.count = p.count + body.length ∧
        (p.count + body.length < UInt64.size → q.counter.toNat = p.count + body.length) ∧
        p.reader.remaining = body ++ q.reader.remaining := by
  constructor
  · intro body rest room p hb hroom hp h
    obtain ⟨q, hq, hmoved⟩ := copyChunks_of_chunkedBody hroom hb hp h
    exact ⟨q, hq, hmoved.sent, hmoved.count, hmoved.toNat_counter, hmoved.left h⟩
  · intro room p q h
    obtain ⟨body, hb, hmoved⟩ := chunkedBody_of_copyChunks h
    exact ⟨body, hb, hmoved.sent, hmoved.count, hmoved.toNat_counter, hmoved.taken⟩

/-- A body with an extension, a bare line feed and a trailer, cut within the
data, in front of the next request. -/
theorem relay_chunked_verbatim_cut :
    let p : Pipe :=
      { reader := ⟨Bytes.ofText "5;x=y\r\nhe",
          ⟨[Bytes.ofText "llo\n0\r", Bytes.ofText "\nVia: a\r\n",
            Bytes.ofText "\r\nGET"], .silent⟩⟩
        sink := {}, count := 7 }
    ∃ q, relay .chunked 3 p = .ok () q ∧
      q.sink.accepted = Bytes.ofText "5;x=y\r\nhello\n0\r\nVia: a\r\n\r\n" ∧
      q.count = 33 ∧
      q.counter.toNat = 33 ∧ q.reader.remaining = Bytes.ofText "GET" := by
  intro p
  have hlf : ∀ text : Bytes, Bytes.lf ∉ text →
      (text ++ [Bytes.lf]).length ≤ maxChunkLine →
      IsShortLine (text ++ [Bytes.lf]) := fun text h hle => ⟨⟨text, h, rfl⟩, hle⟩
  have htrailers : TrailerSection IsShortLine
      (Bytes.ofText "Via: a\r\n" ++ Bytes.ofText "\r\n") :=
    .trailer (hlf (Bytes.ofText "Via: a\r") (by decide +kernel)
      (by decide +kernel)) (by decide +kernel)
        (.done (hlf [13] (by decide) (by decide)) (by decide))
  have hbody : ChunkedBody IsShortLine
      (Bytes.ofText "5;x=y\r\n" ++ (Bytes.ofText "hello" ++ ([10] ++ (Bytes.ofText
        "0\r\n" ++ (Bytes.ofText "Via: a\r\n" ++ Bytes.ofText "\r\n"))))) :=
    .chunk (hlf (Bytes.ofText "5;x=y\r") (by decide +kernel) (by decide +kernel)) (by rfl)
      (by decide +kernel) (hlf [] (by decide) (by decide)) (by decide)
      (.last (hlf (Bytes.ofText "0\r") (by decide +kernel) (by decide +kernel))
        (by rfl) htrailers)
  obtain ⟨q, hq, hsent, hcount, hcounter, hrest⟩ :=
    relay_chunked_verbatim.1 _ (Bytes.ofText "GET") 3 p hbody (by decide) rfl
      (by decide +kernel)
  exact ⟨q, hq, hsent, hcount, hcounter (by decide +kernel), hrest⟩

end Pipe

end Gateway
