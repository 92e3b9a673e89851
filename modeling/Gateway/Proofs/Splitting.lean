import Gateway.Message.Request
import Gateway.Proofs.ChunkedBody

/-!
# The requests in a stream of bytes

Where the requests of a connection begin and end is a function of its bytes,
which knows nothing of the pieces in which they arrive, of what is held back,
and of what is answered.

* `takeBody?` takes the body of a framing off the front of bytes, and
  `takeBody?_eq_some_iff` says that it is the one beginning that the framing
  delimits;
* `Pipe.relay_of_delimits`, `Pipe.delimits_of_relay`: a relay copies that body
  and stops behind it;
* `Pipe.passes_relay`, `Pipe.moved_of_relay`: the same for bodies that only the
  connection's end ends;
* `splitRequests` takes one request after the other off.
-/

namespace Gateway

open Reader (IsLine)

/-! ## Bodies -/

/-- The framing puts the end of the body behind these bytes. -/
def Delimits (Line : Bytes → Prop) (framing : Framing) (body : Bytes) : Prop :=
  match framing with
  | .empty => body = []
  | .length n => body.length = n
  | .chunked => ChunkedBody Line body
  | .untilClose => False

/-- The framing puts a body in front of `rest`: one that it delimits, or all
there is if only the end of the connection ends the body. -/
def Encloses (Line : Bytes → Prop) (framing : Framing) (ending : Ending)
    (body rest : Bytes) : Prop :=
  Delimits Line framing body ∨ framing = .untilClose ∧ rest = [] ∧ ending = .eof

section

variable {Line Line' : Bytes → Prop} {framing : Framing} {ending : Ending}
  {body rest : Bytes}

theorem Delimits.mono (hmono : ∀ line, Line line → Line' line)
    (h : Delimits Line framing body) :
    Delimits Line' framing body := by
  cases framing with
  | chunked => exact ChunkedBody.mono hmono h
  | _ => exact h

/-- A framing that delimits a body shows where it ends. -/
theorem Delimits.isDelimited (h : Delimits Line framing body) :
    framing.isDelimited = true := by
  cases framing with
  | untilClose => exact h.elim
  | _ => rfl

theorem Encloses.delimits (h : Encloses Line framing ending body rest)
    (hf : framing.isDelimited = true) :
    Delimits Line framing body := by
  rcases h with h | ⟨rfl, -, -⟩
  · exact h
  · cases hf

theorem Encloses.mono (hmono : ∀ line, Line line → Line' line)
    (h : Encloses Line framing ending body rest) :
    Encloses Line' framing ending body rest :=
  h.imp_left (Delimits.mono hmono)

end

namespace Pipe

variable {framing : Framing} {room : Nat} {p q : Pipe}

/-- **A body of short lines passes**, whatever its framing. -/
theorem passes_relay {body rest : Bytes} (hroom : 0 < room)
    (hb : Encloses IsShortLine framing p.reader.source.ending body rest)
    (h : p.reader.remaining = body ++ rest) :
    p.Passes body () (relay framing room p) := by
  rcases hb with hb | ⟨rfl, rfl, hend⟩
  · cases framing with
    | empty =>
      cases hb
      exact passes_pure () p
    | length n =>
      have hn : body.length = n := hb
      have hpasses := passes_copyLength (p := p) (n := n) hroom
        (by rw [h, List.length_append, hn]; exact Nat.le_add_right _ _)
      rwa [h, ← hn, List.take_left, hn] at hpasses
    | chunked => exact passes_copyChunks hroom hb h
    | untilClose => exact hb.elim
  · rw [List.append_nil] at h
    rw [← h]
    exact passes_copyAll hroom hend

/-- **A delimited body of short lines goes through**, and the view is left with
what follows. -/
theorem relay_of_delimits {body rest : Bytes} (hroom : 0 < room)
    (hb : Delimits IsShortLine framing body) (hp : p.sink.room = none)
    (h : p.reader.remaining = body ++ rest) :
    ∃ q, relay framing room p = .ok () q ∧ p.Moved body q ∧
      q.reader.remaining = rest := by
  obtain ⟨q, hq, hmoved⟩ := (passes_relay hroom (.inl hb) h).moved hp
  exact ⟨q, hq, hmoved, hmoved.left h⟩

/-- **What went through was delimited**, if the framing delimits anything. -/
theorem delimits_of_relay (hf : framing.isDelimited = true)
    (h : relay framing room p = .ok () q) :
    ∃ body, Delimits IsLine framing body ∧ p.Moved body q := by
  cases framing with
  | empty =>
    cases h
    exact ⟨[], rfl, Moved.refl p⟩
  | length n => exact moved_of_copyLength h
  | chunked => exact chunkedBody_of_copyChunks h
  | untilClose => cases hf

/-- **What went through stood at the front.** It was a body of the framing, if
the framing delimits anything or there was room for anything. -/
theorem moved_of_relay (h : relay framing room p = .ok () q) :
    ∃ body, p.Moved body q ∧ (framing.isDelimited = true ∨ 0 < room →
      Encloses IsLine framing p.reader.source.ending body q.reader.remaining) := by
  cases hf : framing.isDelimited with
  | true =>
    obtain ⟨body, hb, hmoved⟩ := delimits_of_relay hf h
    exact ⟨body, hmoved, fun _ => .inl hb⟩
  | false =>
    obtain rfl : framing = .untilClose := by simpa [Framing.isDelimited] using hf
    obtain ⟨body, hmoved, hrest⟩ := moved_of_copyAll h
    exact ⟨body, hmoved,
      fun hroom => .inr ⟨rfl, hrest (hroom.resolve_left Bool.false_ne_true)⟩⟩

theorem failed_of_relay {e : RelayError}
    (h : relay framing room p = .error e q) : p.Failed e q := by
  cases framing with
  | empty => cases h
  | length n => exact failed_of_copyLength h
  | chunked => exact failed_of_copyChunks h
  | untilClose => exact failed_of_copyAll h

end Pipe

/-! ## Taking bodies off bytes -/

/-- Takes a line off the front. -/
def takeLine? (bs : Bytes) : Option (Bytes × Bytes) :=
  (Reader.lineEnd? bs).map fun n => (bs.take n, bs.drop n)

/-- A line is taken off exactly where one stands at the front. -/
theorem takeLine?_eq_some_iff {bs line rest : Bytes} :
    takeLine? bs = some (line, rest) ↔ IsLine line ∧ bs = line ++ rest := by
  rw [takeLine?, Option.map_eq_some_iff]
  constructor
  · rintro ⟨n, hn, h⟩
    cases h
    exact ⟨Reader.isLine_of_lineEnd? hn, (List.take_append_drop n bs).symm⟩
  · rintro ⟨hline, rfl⟩
    exact ⟨line.length, Reader.lineEnd?_of_isLine hline,
      by rw [List.take_left, List.drop_left]⟩

theorem takeLine?_append {bs line rest : Bytes}
    (h : takeLine? bs = some (line, rest)) (more : Bytes) :
    takeLine? (bs ++ more) = some (line, rest ++ more) := by
  obtain ⟨hline, rfl⟩ := takeLine?_eq_some_iff.1 h
  exact takeLine?_eq_some_iff.2 ⟨hline, List.append_assoc _ _ _⟩

theorem length_lt_of_takeLine? {bs line rest : Bytes}
    (h : takeLine? bs = some (line, rest)) :
    rest.length < bs.length := by
  obtain ⟨⟨text, -, rfl⟩, rfl⟩ := takeLine?_eq_some_iff.1 h
  simp only [List.length_append, List.length_singleton]
  omega

/-- Takes trailer lines up to and with the empty one off the front. -/
def takeTrailers? (bs : Bytes) : Option (Bytes × Bytes) :=
  match _h : takeLine? bs with
  | none => none
  | some (line, rest) =>
    if Pipe.isEmptyLine line then some (line, rest)
    else (takeTrailers? rest).map fun (more, rest) => (line ++ more, rest)
termination_by bs.length
decreasing_by exact length_lt_of_takeLine? _h

/-- Takes chunks, the last one and the trailers off the front. -/
def takeChunks? (bs : Bytes) : Option (Bytes × Bytes) :=
  match _h : takeLine? bs with
  | none => none
  | some (line, rest) =>
    match Pipe.chunkSize line with
    | .error _ => none
    | .ok n =>
      if n = 0 then (takeTrailers? rest).map fun (trailers, rest) =>
        (line ++ trailers, rest)
      else if rest.length < n then none
      else match _h' : takeLine? (rest.drop n) with
        | none => none
        | some (ending, rest') =>
          if Pipe.isEmptyLine ending then
            (takeChunks? rest').map fun (more, rest') =>
              (line ++ (rest.take n ++ (ending ++ more)), rest')
          else none
termination_by bs.length
decreasing_by
  have h1 := length_lt_of_takeLine? _h
  have h2 := length_lt_of_takeLine? _h'
  rw [List.length_drop] at h2
  omega

/-- Takes the body of a framing off the front. -/
def takeBody? (framing : Framing) (bs : Bytes) : Option (Bytes × Bytes) :=
  match framing with
  | .empty => some ([], bs)
  | .length n => if n ≤ bs.length then some (bs.take n, bs.drop n) else none
  | .chunked => takeChunks? bs
  | .untilClose => none

theorem takeTrailers?_of_none {bs : Bytes} (h : takeLine? bs = none) :
    takeTrailers? bs = none := by
  rw [takeTrailers?]
  split
  · rfl
  · rename_i h'
    rw [h] at h'
    cases h'

/-- A trailer line that is taken off is the last one if it is empty. -/
theorem takeTrailers?_of_takeLine? {bs line rest : Bytes}
    (h : takeLine? bs = some (line, rest)) :
    takeTrailers? bs = if Pipe.isEmptyLine line then some (line, rest)
      else (takeTrailers? rest).map fun (more, rest) => (line ++ more, rest) := by
  rw [takeTrailers?]
  split
  · rename_i h'
    rw [h] at h'
    cases h'
  · rename_i h'
    rw [h] at h'
    cases h'
    rfl

/-- Trailers are taken off exactly where a trailer section stands at the
front. -/
theorem takeTrailers?_eq_some_iff {bs body rest : Bytes} :
    takeTrailers? bs = some (body, rest) ↔
      TrailerSection IsLine body ∧ bs = body ++ rest := by
  constructor
  · intro h
    fun_induction takeTrailers? bs generalizing body rest with
    | case1 => cases h
    | case2 bs line rest' hl hempty =>
      cases h
      obtain ⟨hline, rfl⟩ := takeLine?_eq_some_iff.1 hl
      exact ⟨.done hline hempty, rfl⟩
    | case3 bs line rest' hl hempty ih =>
      rw [Option.map_eq_some_iff] at h
      obtain ⟨⟨more, rest''⟩, hmore, h⟩ := h
      cases h
      obtain ⟨hline, rfl⟩ := takeLine?_eq_some_iff.1 hl
      obtain ⟨htrailers, rfl⟩ := ih hmore
      exact ⟨.trailer hline (Bool.not_eq_true _ ▸ hempty) htrailers,
        (List.append_assoc _ _ _).symm⟩
  · rintro ⟨hb, rfl⟩
    induction hb with
    | done hline hempty =>
      rw [takeTrailers?_of_takeLine? (takeLine?_eq_some_iff.2 ⟨hline, rfl⟩),
        if_pos hempty]
    | @trailer line more hline hempty _ ih =>
      have htake : takeLine? (line ++ more ++ rest) = some (line, more ++ rest) :=
        takeLine?_eq_some_iff.2 ⟨hline, List.append_assoc _ _ _⟩
      rw [takeTrailers?_of_takeLine? htake, hempty, ih]
      rfl

theorem takeChunks?_of_none {bs : Bytes} (h : takeLine? bs = none) :
    takeChunks? bs = none := by
  rw [takeChunks?]
  split
  · rfl
  · rename_i h'
    rw [h] at h'
    cases h'

/-- What is taken off depends on the size that the first line says. -/
theorem takeChunks?_of_takeLine? {bs line rest : Bytes}
    (h : takeLine? bs = some (line, rest)) :
    takeChunks? bs = match Pipe.chunkSize line with
      | .error _ => none
      | .ok n =>
        if n = 0 then (takeTrailers? rest).map fun (trailers, rest) =>
          (line ++ trailers, rest)
        else if rest.length < n then none
        else match takeLine? (rest.drop n) with
          | none => none
          | some (ending, rest') =>
            if Pipe.isEmptyLine ending then
              (takeChunks? rest').map fun (more, rest') =>
                (line ++ (rest.take n ++ (ending ++ more)), rest')
            else none := by
  rw [takeChunks?]
  split
  · rename_i h'
    rw [h] at h'
    cases h'
  · rename_i h'
    rw [h] at h'
    cases h'
    cases Pipe.chunkSize line with
    | error flaw => rfl
    | ok n =>
      dsimp only
      split
      · rfl
      · split
        · rfl
        · split <;> rename_i hl <;> rw [hl]

theorem takeChunks?_of_last {bs line rest : Bytes}
    (h : takeLine? bs = some (line, rest)) (hsize : Pipe.chunkSize line = .ok 0) :
    takeChunks? bs = (takeTrailers? rest).map fun (trailers, rest) =>
      (line ++ trailers, rest) := by
  rw [takeChunks?_of_takeLine? h, hsize]
  rfl

theorem takeChunks?_of_data {bs line rest : Bytes} {n : Nat}
    (h : takeLine? bs = some (line, rest)) (hsize : Pipe.chunkSize line = .ok n)
    (hn : n ≠ 0) (hdata : n ≤ rest.length) :
    takeChunks? bs = match takeLine? (rest.drop n) with
      | none => none
      | some (ending, rest') =>
        if Pipe.isEmptyLine ending then
          (takeChunks? rest').map fun (more, rest') =>
            (line ++ (rest.take n ++ (ending ++ more)), rest')
        else none := by
  rw [takeChunks?_of_takeLine? h, hsize]
  dsimp only
  rw [if_neg hn, if_neg (Nat.not_lt.2 hdata)]

/-- What follows the data of a chunk does not change them. -/
theorem takeChunks?_append_of_data {bs line rest : Bytes} {n : Nat}
    (h : takeLine? bs = some (line, rest)) (hsize : Pipe.chunkSize line = .ok n)
    (hn : n ≠ 0) (hdata : n ≤ rest.length) (more : Bytes) :
    takeChunks? (bs ++ more) = match takeLine? (rest.drop n ++ more) with
      | none => none
      | some (ending, rest') =>
        if Pipe.isEmptyLine ending then
          (takeChunks? rest').map fun (more, rest') =>
            (line ++ (rest.take n ++ (ending ++ more)), rest')
        else none := by
  have hdata' : n ≤ (rest ++ more).length :=
    List.length_append ▸ Nat.le_add_right_of_le hdata
  rw [takeChunks?_of_data (takeLine?_append h more) hsize hn hdata',
    List.drop_append_of_le_length hdata, List.take_append_of_le_length hdata]

theorem takeChunks?_of_chunk {bs line data ending rest : Bytes}
    (h : takeLine? bs = some (line, data ++ (ending ++ rest)))
    (hsize : Pipe.chunkSize line = .ok data.length) (hdata : data ≠ [])
    (hending : IsLine ending) (hempty : Pipe.isEmptyLine ending = true) :
    takeChunks? bs =
      (takeChunks? rest).map fun (more, rest) =>
        (line ++ (data ++ (ending ++ more)), rest) := by
  have hline : takeLine? (ending ++ rest) = some (ending, rest) :=
    takeLine?_eq_some_iff.2 ⟨hending, rfl⟩
  rw [takeChunks?_of_data h hsize (by simpa using hdata) (by simp),
    List.drop_left, hline]
  dsimp only
  rw [if_pos hempty, List.take_left]

/-- **Chunks are taken off exactly where a chunked body stands at the
front.** -/
theorem takeChunks?_eq_some_iff {bs body rest : Bytes} :
    takeChunks? bs = some (body, rest) ↔
      ChunkedBody IsLine body ∧ bs = body ++ rest := by
  constructor
  · intro h
    -- one case for each way out: only the last chunk and a whole chunk in front
    -- of others leave a body
    fun_induction takeChunks? bs generalizing body rest with
    | case1 => cases h
    | case2 => cases h
    | case3 bs line rest' hl hsize =>
      rw [Option.map_eq_some_iff] at h
      obtain ⟨⟨trailers, rest''⟩, htrailers, h⟩ := h
      cases h
      obtain ⟨hline, rfl⟩ := takeLine?_eq_some_iff.1 hl
      obtain ⟨hsection, rfl⟩ := takeTrailers?_eq_some_iff.1 htrailers
      exact ⟨.last hline hsize hsection, (List.append_assoc _ _ _).symm⟩
    | case4 => cases h
    | case5 => cases h
    | case6 bs line rest' hl n hsize hn hlen ending rest'' hl' hempty ih =>
      rw [Option.map_eq_some_iff] at h
      obtain ⟨⟨more, tail⟩, hmore, h⟩ := h
      cases h
      obtain ⟨hline, rfl⟩ := takeLine?_eq_some_iff.1 hl
      obtain ⟨hending, hdrop⟩ := takeLine?_eq_some_iff.1 hl'
      obtain ⟨hbody, rfl⟩ := ih hmore
      have hlength : (rest'.take n).length = n :=
        List.length_take_of_le (Nat.le_of_not_lt hlen)
      refine ⟨.chunk hline (by rw [hlength]; exact hsize) ?_ hending hempty hbody, ?_⟩
      · intro hnil
        rw [hnil] at hlength
        exact hn hlength.symm
      · simp only [List.append_assoc]
        rw [← hdrop, List.take_append_drop]
    | case7 => cases h
  · rintro ⟨hb, rfl⟩
    induction hb with
    | @last line trailers hline hsize htrailers =>
      have htake : takeLine? (line ++ trailers ++ rest) =
          some (line, trailers ++ rest) :=
        takeLine?_eq_some_iff.2 ⟨hline, List.append_assoc _ _ _⟩
      rw [takeChunks?_of_last htake hsize,
        takeTrailers?_eq_some_iff.2 ⟨htrailers, rfl⟩]
      rfl
    | @chunk line data ending more hline hsize hdata hending hempty _ ih =>
      have htake : takeLine? (line ++ (data ++ (ending ++ more)) ++ rest) =
          some (line, data ++ (ending ++ (more ++ rest))) :=
        takeLine?_eq_some_iff.2 ⟨hline, by simp only [List.append_assoc]⟩
      rw [takeChunks?_of_chunk htake hsize hdata hending hempty, ih]
      rfl

/-- **A body is taken off exactly where the framing delimits one at the
front.** -/
theorem takeBody?_eq_some_iff {framing : Framing} {bs body rest : Bytes} :
    takeBody? framing bs = some (body, rest) ↔
      Delimits IsLine framing body ∧ bs = body ++ rest := by
  cases framing with
  | empty =>
    rw [takeBody?, Option.some_inj, Prod.mk.injEq]
    constructor
    · rintro ⟨rfl, rfl⟩
      exact ⟨rfl, rfl⟩
    · rintro ⟨hb, rfl⟩
      cases hb
      exact ⟨rfl, rfl⟩
  | length n =>
    rw [takeBody?]
    constructor
    · intro h
      split at h
      · rename_i hn
        cases h
        exact ⟨List.length_take_of_le hn, (List.take_append_drop n bs).symm⟩
      · cases h
    · rintro ⟨hb, rfl⟩
      cases hb
      rw [if_pos (by rw [List.length_append]; exact Nat.le_add_right _ _),
        List.take_left, List.drop_left]
  | chunked => exact takeChunks?_eq_some_iff
  | untilClose =>
    constructor
    · intro h
      cases h
    · rintro ⟨hb, -⟩
      exact hb.elim

theorem length_le_of_takeBody? {framing : Framing} {bs body rest : Bytes}
    (h : takeBody? framing bs = some (body, rest)) :
    rest.length ≤ bs.length := by
  obtain ⟨-, rfl⟩ := takeBody?_eq_some_iff.1 h
  rw [List.length_append]
  exact Nat.le_add_left _ _

/-! ## Requests -/

/-- A head that is taken off leaves fewer bytes. -/
theorem Reader.length_lt_of_headOf? {max : Nat} {bs head rest : Bytes}
    (h : headOf? max bs = some (head, rest)) :
    rest.length < bs.length := by
  rw [headOf?, Option.bind_eq_some_iff] at h
  obtain ⟨n, hn, h⟩ := h
  split at h
  · cases h
    obtain ⟨skipped, hskipped⟩ := exists_dropLineEnds bs
    have hbounds := headEnd?_bounds hn
    have hlength := congrArg List.length hskipped
    rw [List.length_append] at hlength
    rw [List.length_drop]
    omega
  · cases h

/-- A whole request. -/
structure Message where
  /-- The head. -/
  request : Request
  /-- How the end of the body is found. -/
  framing : Framing
  /-- The body, with all that frames it. -/
  body : Bytes
  deriving DecidableEq, Repr

/-- The requests in a stream of bytes. -/
structure Split where
  /-- The whole requests. -/
  messages : List Message := []
  /-- The head behind them whose body is not whole, and all bytes behind that
  head. -/
  unfinished : Option (Request × Bytes) := none
  deriving DecidableEq, Repr

/-- The requests that a connection has to serve: the whole ones up to and with
the first that does not want the connection to go on. Nothing counts behind a
head that is too long or that cannot be read or framed. -/
def splitRequests (max : Nat) (bs : Bytes) : Split :=
  match _h : Reader.headOf? max bs with
  | none => {}
  | some (head, rest) =>
    match Request.parse head with
    | .error _ => {}
    | .ok request =>
      match request.framing with
      | .error _ => {}
      | .ok framing =>
        match _h' : takeBody? framing rest with
        | none => { unfinished := some (request, rest) }
        | some (body, rest') =>
          if request.keepAlive then
            { messages := ⟨request, framing, body⟩ :: (splitRequests max rest').messages
              unfinished := (splitRequests max rest').unfinished }
          else { messages := [⟨request, framing, body⟩] }
termination_by bs.length
decreasing_by
  all_goals
    have h1 := Reader.length_lt_of_headOf? _h
    have h2 := length_le_of_takeBody? _h'
    omega

/-- A request has a body whose end shows. -/
theorem Request.isDelimited_framing {r : Request} {framing : Framing}
    (h : r.framing = .ok framing) :
    framing.isDelimited = true := by
  rw [Request.framing, Headers.declaredFraming] at h
  split at h
  · split at h
    · split at h
      · cases h
        rfl
      · cases h
    · cases h
  · cases hlength : Headers.agreedLength (r.headers.elements "content-length") with
    | error flaw =>
      rw [hlength] at h
      cases h
    | ok length =>
      rw [hlength] at h
      cases length with
      | none =>
        cases h
        rfl
      | some n =>
        cases h
        show (if n = 0 then Framing.empty else .length n).isDelimited = true
        split <;> rfl

end Gateway
