import Gateway.Wire.Relay

/-!
# What goes through a pipe

A step of a relay takes bytes off the front of the sender's view and sends them
on, behind what the receiver was sent before. `Pipe.Moved p bs q` says that
between `p` and `q` exactly the bytes `bs` went through, and moves follow one
another (`Moved.trans`). `Pipe.Passes` says that a step makes such a move unless
the receiver refuses it. A step that fails may have sent a part of its bytes,
which is still a part from the front of the view; it fails in a write only where
the receiver has a limit, and waits for ever only where the sender is silent
(`Pipe.Failed`).

* `took_of_fetch`, `fetch_of_remaining`: a fetch takes what it gives, and gives
  bytes as long as there are any;
* `passes_copyLength`, `moved_of_copyLength`: a copy of `n` bytes moves the
  first `n`, if there are so many;
* `passes_copyAll`, `moved_of_copyAll`: a copy up to the end leaves nothing.
-/

namespace Gateway

/-! ## Sinks -/

namespace Sink

theorem write_of_unlimited {s : Sink} (data : Bytes) (h : s.room = none) :
    ∃ t, s.write data = (.ok (), t) ∧ t.room = none ∧
      t.accepted = s.accepted ++ data := by
  have hw : s.write data = (.ok (), { s with writes := data :: s.writes }) := by
    rw [write.eq_def, h]
  exact ⟨_, hw, h, accepted_write hw⟩

theorem write_cases (s : Sink) (data : Bytes) :
    (∃ t, s.write data = (.ok (), t)) ∨
      ∃ fault t, s.write data = (.error fault, t) ∧ s.room ≠ none := by
  rcases hw : s.write data with ⟨fault | _, t⟩
  · refine .inr ⟨fault, t, rfl, fun hroom => ?_⟩
    obtain ⟨t', ht', -⟩ := write_of_unlimited data hroom
    rw [ht'] at hw
    cases hw
  · exact .inl ⟨t, rfl⟩

end Sink

/-! ## Reads -/

namespace Source

/-- A read with room gives what comes of the end, if nothing is to come, or the
front of the next piece that has any bytes. -/
theorem read_cases {room : Nat} (hroom : 0 < room) (s : Source) :
    (s.remaining = [] ∧ s.read room = (s.ending.read, ⟨[], s.ending⟩)) ∨
      ∃ piece rest, piece ≠ [] ∧ s.remaining = piece ++ rest.flatten ∧
        s.read room = (.ok (piece.take room), ⟨piece.drop room :: rest, s.ending⟩) := by
  have key : ∀ pieces : List Bytes,
      (pieces.flatten = [] ∧ read.go room s pieces = (s.ending.read, ⟨[], s.ending⟩)) ∨
        ∃ piece rest, piece ≠ [] ∧ pieces.flatten = piece ++ rest.flatten ∧
          read.go room s pieces =
            (.ok (piece.take room), ⟨piece.drop room :: rest, s.ending⟩) := by
    intro pieces
    induction pieces with
    | nil => exact .inl ⟨rfl, rfl⟩
    | cons piece rest ih =>
      cases piece with
      | nil => exact ih
      | cons b bs => exact .inr ⟨b :: bs, rest, List.cons_ne_nil _ _, rfl, rfl⟩
  rw [read, if_neg (Nat.ne_of_gt hroom)]
  exact key s.pieces

theorem ending_read (room : Nat) (s : Source) :
    (s.read room).2.ending = s.ending := by
  rcases Nat.eq_zero_or_pos room with rfl | hroom
  · rfl
  · rcases s.read_cases hroom with ⟨-, h⟩ | ⟨piece, rest, -, -, h⟩
    · rw [h]
    · rw [h]

/-- A read gives at most as many bytes as there is room for. -/
theorem length_read_le {room : Nat} {s t : Source} {bs : Bytes}
    (h : s.read room = (.ok bs, t)) :
    bs.length ≤ room := by
  rcases Nat.eq_zero_or_pos room with rfl | hroom
  · rw [read, if_pos rfl] at h
    cases h
    exact Nat.le_refl 0
  · rcases s.read_cases hroom with ⟨-, hread⟩ | ⟨piece, rest, -, -, hread⟩
    · rw [h, Prod.mk.injEq] at hread
      have hans := hread.1
      cases he : s.ending with
      | eof =>
        rw [he] at hans
        cases hans
        exact Nat.zero_le room
      | failed fault =>
        rw [he] at hans
        cases hans
      | silent =>
        rw [he] at hans
        cases hans
    · rw [h] at hread
      cases hread
      rw [List.length_take]
      exact Nat.min_le_left _ _

end Source

namespace Reader

/-- A reader with bytes to come and room for some gives some. -/
theorem readSome_of_remaining {room : Nat} {r : Reader} (hroom : 0 < room)
    (h : r.remaining ≠ []) :
    ∃ bs t, r.readSome room = (.ok bs, t) ∧ bs ≠ [] := by
  have some_of_take : ∀ bs : Bytes, bs ≠ [] → bs.take room ≠ [] := by
    intro bs hne
    rw [Ne, List.take_eq_nil_iff]
    rintro (h0 | h0)
    · omega
    · exact hne h0
  by_cases hb : r.buffer = []
  · rw [remaining, hb, List.nil_append] at h
    rcases r.source.read_cases hroom with ⟨hnil, -⟩ | ⟨piece, rest, hne, -, hread⟩
    · exact absurd hnil h
    · exact ⟨_, _, by rw [readSome, if_pos hb, hread], some_of_take piece hne⟩
  · exact ⟨_, _, by rw [readSome, if_neg hb], some_of_take r.buffer hb⟩

/-- A reader with room that gives nothing has nothing to come, and its sender
has ended. -/
theorem ended_of_readSome {room : Nat} {r t : Reader} (hroom : 0 < room)
    (h : r.readSome room = (.ok [], t)) :
    r.remaining = [] ∧ r.source.ending = .eof := by
  have hnil : r.remaining = [] := by
    refine Decidable.byContradiction fun hne => ?_
    obtain ⟨bs, t', hread, hbs⟩ := readSome_of_remaining hroom hne
    rw [h] at hread
    cases hread
    exact hbs rfl
  obtain ⟨hbuffer, hsource⟩ :=
    List.append_eq_nil_iff.1 (show r.buffer ++ r.source.remaining = [] from hnil)
  refine ⟨hnil, ?_⟩
  rw [readSome, if_pos hbuffer] at h
  rcases r.source.read_cases hroom with ⟨-, hread⟩ | ⟨piece, rest, hne, hremaining, -⟩
  · rw [hread] at h
    cases hend : r.source.ending with
    | eof => rfl
    | failed fault =>
      rw [hend] at h
      cases h
    | silent =>
      rw [hend] at h
      cases h
  · rw [hremaining, List.append_eq_nil_iff] at hsource
    exact absurd hsource.1 hne

/-- A read gives no bytes only as its sender ends. -/
theorem ending_of_readSome_error {room : Nat} {r t : Reader} {stop : Stop}
    (h : r.readSome room = (.error stop, t)) :
    r.source.ending.read = .error stop := by
  rw [readSome] at h
  split at h
  · rw [Prod.mk.injEq] at h
    rcases Nat.eq_zero_or_pos room with rfl | hroom
    · rw [Source.read, if_pos rfl] at h
      cases h.1
    · rcases r.source.read_cases hroom with ⟨-, hread⟩ | ⟨piece, rest, -, -, hread⟩
      · rw [hread] at h
        exact h.1
      · rw [hread] at h
        cases h.1
  · cases h

/-- A reader whose sender has ended, or will, always gives an answer. -/
theorem readSome_of_eof {r : Reader} (room : Nat) (h : r.source.ending = .eof) :
    ∃ bs t, r.readSome room = (.ok bs, t) := by
  by_cases hb : r.buffer = []
  · rcases Nat.eq_zero_or_pos room with rfl | hroom
    · exact ⟨_, _, by rw [readSome, if_pos hb, Source.read, if_pos rfl]⟩
    · rcases r.source.read_cases hroom with ⟨-, hread⟩ | ⟨piece, rest, -, -, hread⟩
      · rw [h] at hread
        exact ⟨_, _, by rw [readSome, if_pos hb, hread]; rfl⟩
      · exact ⟨_, _, by rw [readSome, if_pos hb, hread]⟩
  · exact ⟨_, _, by rw [readSome, if_neg hb]⟩

theorem ending_readSome (room : Nat) (r : Reader) :
    (r.readSome room).2.source.ending = r.source.ending := by
  rw [readSome]
  split
  · exact Source.ending_read room r.source
  · rfl

/-- A read gives at most as many bytes as there is room for. -/
theorem length_readSome_le {room : Nat} {r t : Reader} {bs : Bytes}
    (h : r.readSome room = (.ok bs, t)) : bs.length ≤ room := by
  rw [readSome] at h
  split at h
  · rw [Prod.mk.injEq] at h
    exact Source.length_read_le (Prod.ext h.1 rfl)
  · cases h
    rw [List.length_take]
    exact Nat.min_le_left _ _

end Reader

namespace Pipe

/-! ## Moves -/

/-- Exactly the bytes `bs` were taken off the sender, and nothing was sent. -/
structure Took (p : Pipe) (bs : Bytes) (q : Pipe) : Prop where
  /-- They stood at the front of the view. -/
  taken : p.reader.remaining = bs ++ q.reader.remaining
  /-- How the sender ends is as before. -/
  ending : q.reader.source.ending = p.reader.source.ending
  /-- The receiver was sent nothing. -/
  sink : q.sink = p.sink
  /-- Nothing was counted. -/
  count : q.count = p.count

/-- Exactly the bytes `bs` went through. -/
structure Moved (p : Pipe) (bs : Bytes) (q : Pipe) : Prop where
  /-- They stood at the front of the view. -/
  taken : p.reader.remaining = bs ++ q.reader.remaining
  /-- How the sender ends is as before. -/
  ending : q.reader.source.ending = p.reader.source.ending
  /-- The receiver was sent them behind all else. -/
  sent : q.sink.accepted = p.sink.accepted ++ bs
  /-- They were counted. -/
  count : q.count = p.count + bs.length
  /-- A receiver without a limit stays without one. -/
  unlimited : p.sink.room = none → q.sink.room = none

/-- The receiver was sent a part of the view from its front. -/
def Broke (p q : Pipe) : Prop :=
  ∃ part, part <+: p.reader.remaining ∧ q.sink.accepted = p.sink.accepted ++ part

theorem Moved.refl (p : Pipe) : p.Moved [] p :=
  ⟨rfl, rfl, (List.append_nil _).symm, rfl, id⟩

theorem Moved.trans {p q s : Pipe} {bs cs : Bytes} (h : p.Moved bs q)
    (h' : q.Moved cs s) :
    p.Moved (bs ++ cs) s where
  taken := by rw [h.taken, h'.taken, List.append_assoc]
  ending := h'.ending.trans h.ending
  sent := by rw [h'.sent, h.sent, List.append_assoc]
  count := by rw [h'.count, h.count, List.length_append, Nat.add_assoc]
  unlimited := fun hp => h'.unlimited (h.unlimited hp)

/-- The counter shows the count as long as it can. -/
theorem Moved.toNat_counter {p q : Pipe} {bs : Bytes} (h : p.Moved bs q)
    (hfits : p.count + bs.length < UInt64.size) :
    q.counter.toNat = p.count + bs.length := by
  rw [← h.count] at hfits ⊢
  exact Pipe.toNat_counter hfits

theorem Moved.broke {p q s : Pipe} {bs : Bytes} (h : p.Moved bs q)
    (h' : q.Broke s) : p.Broke s := by
  obtain ⟨part, hpart, hsent⟩ := h'
  refine ⟨bs ++ part, ?_, ?_⟩
  · rw [h.taken]
    exact (List.prefix_append_right_inj bs).2 hpart
  · rw [hsent, h.sent, List.append_assoc]

theorem Broke.of_sink {p q : Pipe} (h : q.sink = p.sink) : p.Broke q :=
  ⟨[], List.nil_prefix, by rw [h, List.append_nil]⟩

theorem Moved.left {p q : Pipe} {bs rest : Bytes} (h : p.Moved bs q)
    (hp : p.reader.remaining = bs ++ rest) :
    q.reader.remaining = rest := by
  rw [h.taken] at hp
  exact List.append_cancel_left hp

/-- A step gives `a` and has moved `bs`, unless the receiver has a limit and
refuses. -/
def Passes {α : Type} (p : Pipe) (bs : Bytes) (a : α)
    (result : EStateM.Result RelayError Pipe α) : Prop :=
  (∃ q, result = .ok a q ∧ p.Moved bs q) ∨
    ∃ fault q, result = .error (.write fault) q ∧ p.sink.room ≠ none

theorem Passes.moved {α : Type} {p : Pipe} {bs : Bytes} {a : α}
    {result : EStateM.Result RelayError Pipe α} (h : p.Passes bs a result)
    (hp : p.sink.room = none) : ∃ q, result = .ok a q ∧ p.Moved bs q :=
  h.resolve_right fun ⟨_, _, _, hlimit⟩ => hlimit hp

theorem Moved.passes {α : Type} {p q : Pipe} {bs cs : Bytes} {a : α}
    {result : EStateM.Result RelayError Pipe α} (h : p.Moved bs q)
    (h' : q.Passes cs a result) :
    p.Passes (bs ++ cs) a result := by
  rcases h' with ⟨s, hs, hmoved⟩ | ⟨fault, s, hs, hlimit⟩
  · exact .inl ⟨s, hs, h.trans hmoved⟩
  · exact .inr ⟨fault, s, hs, fun hp => hlimit (h.unlimited hp)⟩

/-- What a step is followed by, unless it fails. -/
def andThen {α β : Type} (result : EStateM.Result RelayError Pipe α)
    (next : α → Step β) :
    EStateM.Result RelayError Pipe β :=
  match result with
  | .ok a q => next a q
  | .error e q => .error e q

/-- **What two steps move one after the other passes**, unless one of them is
refused. -/
theorem Passes.andThen {α β : Type} {p : Pipe} {bs cs : Bytes} {a : α} {b : β}
    {result : EStateM.Result RelayError Pipe α} {next : α → Step β}
    (h : p.Passes bs a result)
    (hnext : ∀ q, p.Moved bs q → q.Passes cs b (next a q)) :
    p.Passes (bs ++ cs) b (andThen result next) := by
  rcases h with ⟨q, rfl, hmoved⟩ | ⟨fault, q, rfl, hlimit⟩
  · exact hmoved.passes (hnext q hmoved)
  · exact .inr ⟨fault, q, rfl, hlimit⟩

theorem passes_pure {α : Type} (a : α) (p : Pipe) : p.Passes [] a (.ok a p) :=
  .inl ⟨p, rfl, Moved.refl p⟩

/-- What is known of a step that failed. -/
structure Failed (p : Pipe) (e : RelayError) (q : Pipe) : Prop where
  /-- A part from the front was sent. -/
  broke : p.Broke q
  /-- A write fails only where the receiver has a limit. -/
  limited : ∀ fault, e = .write fault → p.sink.room ≠ none
  /-- A read waits for ever only where the sender is silent. -/
  waited : e = .silent → p.reader.source.ending = .silent

theorem Moved.failed {p q s : Pipe} {bs : Bytes} {e : RelayError}
    (h : p.Moved bs q) (h' : q.Failed e s) :
    p.Failed e s where
  broke := h.broke h'.broke
  limited := fun fault he hp => h'.limited fault he (h.unlimited hp)
  waited := fun he => h.ending.symm.trans (h'.waited he)

theorem Failed.of_sink {p q : Pipe} {e : RelayError} (h : q.sink = p.sink)
    (he : ∀ fault, e ≠ .write fault)
    (hs : e = .silent → p.reader.source.ending = .silent) : p.Failed e q :=
  ⟨Broke.of_sink h, fun fault hw => absurd hw (he fault), hs⟩

/-! ## Single steps -/

/-- A fetch takes what it gives, at most as much as there is room for. -/
theorem took_of_fetch {room : Nat} {p q : Pipe} {bs : Bytes}
    (h : fetch room p = .ok bs q) :
    p.Took bs q := by
  rw [fetch] at h
  split at h
  · rename_i bs' reader hread
    cases h
    refine ⟨Reader.remaining_readSome hread, ?_, rfl, rfl⟩
    have := Reader.ending_readSome room p.reader
    rwa [hread] at this
  · cases h

theorem length_fetch_le {room : Nat} {p q : Pipe} {bs : Bytes}
    (h : fetch room p = .ok bs q) :
    bs.length ≤ room := by
  rw [fetch] at h
  split at h
  · rename_i hread
    cases h
    exact Reader.length_readSome_le hread
  · cases h

theorem errorOfStop_ne_write (stop : Stop) (fault : Fault) :
    errorOfStop stop ≠ .write fault := by
  cases stop <;> rintro ⟨⟩

theorem errorOfLine_ne_write (e : LineError) (fault : Fault) :
    errorOfLine e ≠ .write fault := by
  rcases e with _ | fault' | _
  · rintro ⟨⟩
  · rw [errorOfLine]
    split <;> rintro ⟨⟩
  · rintro ⟨⟩

theorem eq_stopped_of_errorOfLine {e : LineError}
    (h : errorOfLine e = .silent) : e = .stopped .silent := by
  rcases e with _ | fault | _
  · cases h
  · rw [errorOfLine] at h
    split at h <;> cases h
  · rfl

/-- A read waits for ever only where the sender is silent. -/
theorem silent_of_errorOfStop {ending : Ending} {stop : Stop}
    (h : ending.read = .error stop)
    (hs : errorOfStop stop = .silent) : ending = .silent := by
  cases stop with
  | failed fault => cases hs
  | silent => cases ending <;> cases h; rfl

theorem failed_of_fetch {room : Nat} {p q : Pipe} {e : RelayError}
    (h : fetch room p = .error e q) :
    p.Failed e q := by
  rw [fetch] at h
  split at h
  · cases h
  · rename_i hread
    cases h
    exact .of_sink rfl (errorOfStop_ne_write _)
      (silent_of_errorOfStop (Reader.ending_of_readSome_error hread))

theorem fetch_of_remaining {room : Nat} {p : Pipe} (hroom : 0 < room)
    (h : p.reader.remaining ≠ []) :
    ∃ bs q, fetch room p = .ok bs q ∧ bs ≠ [] := by
  obtain ⟨bs, t, hread, hne⟩ := Reader.readSome_of_remaining hroom h
  exact ⟨bs, _, by rw [fetch, hread], hne⟩

/-- A fetch with room that gives nothing has met the end of the sender. -/
theorem ended_of_fetch {room : Nat} {p q : Pipe} (hroom : 0 < room)
    (h : fetch room p = .ok [] q) :
    p.reader.remaining = [] ∧ p.reader.source.ending = .eof := by
  rw [fetch] at h
  split at h
  · rename_i hread
    cases h
    exact Reader.ended_of_readSome hroom hread
  · cases h

/-- A fetch fails only where the sender does not end in order. -/
theorem fetch_of_eof {p : Pipe} (room : Nat) (h : p.reader.source.ending = .eof) :
    ∃ bs q, fetch room p = .ok bs q := by
  obtain ⟨bs, t, hread⟩ := Reader.readSome_of_eof room h
  exact ⟨bs, _, by rw [fetch, hread]⟩

/-- Bytes that were taken and sent on went through. -/
theorem Took.moved {p q s : Pipe} {bs : Bytes} (h : p.Took bs q)
    (he : emit bs q = .ok () s) :
    p.Moved bs s := by
  rw [emit] at he
  split at he
  · rename_i sink hw
    cases he
    refine ⟨h.taken, h.ending, ?_, by rw [← h.count], ?_⟩
    · rw [← h.sink]
      exact Sink.accepted_write hw
    · intro hp
      rw [← h.sink] at hp
      obtain ⟨t, ht, hroom, -⟩ := Sink.write_of_unlimited bs hp
      rw [ht] at hw
      cases hw
      exact hroom
  · cases he

theorem Took.moved_nil {p q : Pipe} (h : p.Took [] q) : p.Moved [] q where
  taken := h.taken
  ending := h.ending
  sent := by rw [h.sink, List.append_nil]
  count := h.count
  unlimited := fun hp => by rwa [h.sink]

/-- Bytes that were taken and could not be sent on were sent in part. -/
theorem Took.failed {p q s : Pipe} {bs : Bytes} {e : RelayError}
    (h : p.Took bs q) (he : emit bs q = .error e s) : p.Failed e s := by
  rcases q.sink.write_cases bs with ⟨t, ht⟩ | ⟨fault, t, ht, hlimit⟩
  · rw [emit, ht] at he
    cases he
  · rw [emit, ht] at he
    cases he
    obtain ⟨n, -, hsent⟩ := Sink.accepted_write_error ht
    rw [h.sink] at hsent hlimit
    refine ⟨⟨bs.take n, ?_, hsent⟩, fun _ _ => hlimit, nofun⟩
    rw [h.taken]
    exact (List.take_prefix n bs).trans (List.prefix_append _ _)

/-- Bytes that were taken pass when they are sent on. -/
theorem Took.passes {p q : Pipe} {bs : Bytes} (h : p.Took bs q) :
    p.Passes bs () (emit bs q) := by
  cases hs : emit bs q with
  | ok _ s => exact .inl ⟨s, rfl, h.moved hs⟩
  | error e s =>
    rcases q.sink.write_cases bs with ⟨t, ht⟩ | ⟨fault, t, ht, hlimit⟩
    · rw [emit, ht] at hs
      cases hs
    · rw [emit, ht] at hs
      cases hs
      rw [h.sink] at hlimit
      exact .inr ⟨fault, _, rfl, hlimit⟩

/-! ## Copies of a known length -/

/-- A copy sends on what it fetches, and copies the rest. -/
theorem copyLength_of_fetch {room n : Nat} {p q : Pipe} {b : UInt8} {bs : Bytes}
    (h0 : n ≠ 0) (hf : fetch (min room n) p = .ok (b :: bs) q) :
    copyLength room n p =
      andThen (emit (b :: bs) q) fun _ s => copyLength room (n - (bs.length + 1)) s := by
  rw [copyLength, if_neg h0, hf]
  dsimp only
  cases emit (b :: bs) q <;> rfl

/-- **A copy of `n` bytes passes the first `n` on**, if there are so many. -/
theorem passes_copyLength {room n : Nat} {p : Pipe} (hroom : 0 < room)
    (hn : n ≤ p.reader.remaining.length) :
    p.Passes (p.reader.remaining.take n) () (copyLength room n p) := by
  induction n using Nat.strongRecOn generalizing p with
  | ind n ih =>
    by_cases h0 : n = 0
    · subst h0
      rw [copyLength, if_pos rfl]
      exact passes_pure () p
    · have hsome : p.reader.remaining ≠ [] := by
        intro hnil
        rw [hnil, List.length_nil] at hn
        omega
      obtain ⟨bs, q, hf, hne⟩ :=
        fetch_of_remaining (show 0 < min room n by omega) hsome
      obtain ⟨b, bs, rfl⟩ := List.exists_cons_of_ne_nil hne
      have hlen := length_fetch_le hf
      -- one byte at least is sent on, and no more than are asked for
      have htaken := (took_of_fetch hf).taken
      rw [List.length_cons] at hlen
      rw [htaken, List.length_append, List.length_cons] at hn
      rw [copyLength_of_fetch h0 hf, htaken, List.take_append, List.length_cons,
        List.take_of_length_le (show (b :: bs).length ≤ n by rw [List.length_cons]; omega)]
      refine (took_of_fetch hf).passes.andThen fun s hmoved => ?_
      rw [← hmoved.left htaken] at hn ⊢
      exact ih (n - (bs.length + 1)) (by omega) (by omega)

/-- **A copy that succeeds moved `n` bytes.** -/
theorem moved_of_copyLength {room n : Nat} {p q : Pipe}
    (h : copyLength room n p = .ok () q) :
    ∃ bs, bs.length = n ∧ p.Moved bs q := by
  fun_induction copyLength room n p with
  | case1 =>
    cases h
    exact ⟨[], rfl, Moved.refl _⟩
  | case2 => cases h
  | case3 => cases h
  | case4 => cases h
  | case5 n p h0 b bs p' hf _ p'' he ih =>
    obtain ⟨more, hmore, hmoved⟩ := ih h
    have htook := took_of_fetch hf
    have hroom := length_fetch_le hf
    refine ⟨b :: bs ++ more, ?_, (htook.moved he).trans hmoved⟩
    rw [List.length_append, List.length_cons, hmore]
    rw [List.length_cons] at hroom
    omega

/-- A copy that fails sent a part from the front. -/
theorem failed_of_copyLength {room n : Nat} {p q : Pipe} {e : RelayError}
    (h : copyLength room n p = .error e q) : p.Failed e q := by
  fun_induction copyLength room n p with
  | case1 => cases h
  | case2 n p h0 e' p' hf =>
    cases h
    exact failed_of_fetch hf
  | case3 n p h0 p' hf =>
    cases h
    exact .of_sink (took_of_fetch hf).sink (fun _ he => by cases he) fun he => by cases he
  | case4 n p h0 b bs p' hf e' p'' he =>
    cases h
    exact (took_of_fetch hf).failed he
  | case5 n p h0 b bs p' hf _ p'' he ih =>
    exact ((took_of_fetch hf).moved he).failed (ih h)

/-! ## Copies up to the end -/

/-- **A copy up to the end passes everything on**, if the sender ends in
order. -/
theorem passes_copyAll {room : Nat} {p : Pipe} (hroom : 0 < room)
    (hend : p.reader.source.ending = .eof) :
    p.Passes p.reader.remaining () (copyAll room p) := by
  fun_induction copyAll room p with
  | case1 p e q hf =>
    obtain ⟨bs, q', hf'⟩ := fetch_of_eof room hend
    rw [hf] at hf'
    cases hf'
  | case2 p q hf =>
    rw [(ended_of_fetch hroom hf).1]
    exact .inl ⟨q, rfl, (took_of_fetch hf).moved_nil⟩
  | case3 p b bs q hf e s he =>
    rcases (took_of_fetch hf).passes with ⟨s', hs, -⟩ | ⟨fault, s', hs, hlimit⟩
    · rw [he] at hs
      cases hs
    · rw [he] at hs
      cases hs
      exact .inr ⟨fault, s, rfl, hlimit⟩
  | case4 p b bs q hf _ s he ih =>
    have hmoved := (took_of_fetch hf).moved he
    rw [hmoved.taken]
    exact hmoved.passes (ih (hmoved.ending.trans hend))

/-- **A copy up to the end that succeeds leaves nothing**, if there was room for
anything. -/
theorem moved_of_copyAll {room : Nat} {p q : Pipe}
    (h : copyAll room p = .ok () q) :
    ∃ bs, p.Moved bs q ∧
      (0 < room → q.reader.remaining = [] ∧ p.reader.source.ending = .eof) := by
  fun_induction copyAll room p with
  | case1 => cases h
  | case2 p p' hf =>
    cases h
    have htook := took_of_fetch hf
    refine ⟨[], htook.moved_nil, fun hroom => ?_⟩
    obtain ⟨hnil, hend⟩ := ended_of_fetch hroom hf
    rw [htook.taken, List.nil_append] at hnil
    exact ⟨hnil, hend⟩
  | case3 => cases h
  | case4 p b bs p' hf _ p'' he ih =>
    obtain ⟨more, hmoved, hnil⟩ := ih h
    have hfirst := (took_of_fetch hf).moved he
    rw [hfirst.ending] at hnil
    exact ⟨b :: bs ++ more, hfirst.trans hmoved, hnil⟩

/-- A copy up to the end that fails sent a part from the front. -/
theorem failed_of_copyAll {room : Nat} {p q : Pipe} {e : RelayError}
    (h : copyAll room p = .error e q) : p.Failed e q := by
  fun_induction copyAll room p with
  | case1 p e' p' hf =>
    cases h
    exact failed_of_fetch hf
  | case2 => cases h
  | case3 p b bs p' hf e' p'' he =>
    cases h
    exact (took_of_fetch hf).failed he
  | case4 p b bs p' hf _ p'' he ih =>
    exact ((took_of_fetch hf).moved he).failed (ih h)

end Pipe

end Gateway
