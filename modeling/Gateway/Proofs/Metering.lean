import Gateway.Proofs.Consuming
import Gateway.Proofs.Splitting

/-!
# What a relay counts

A relay can fail between a read and the write of what was read, or within the
write. Whatever happens, the receiver has a part of the body from its front, and
the count is the length of this part, unless it was a write that failed: then
the bytes of that write are not counted.

* `Pipe.Poured` adds to a move how much room it takes in the receiver;
  `Pipe.Halted` says what a step leaves that fails, and `Pipe.Accounted` either;
* `poured_of_copyLength`, `halted_of_copyLength`: a copy of `n` bytes fails
  exactly where bytes or room are too few;
* `poured_of_copyAll`, `halted_of_copyAll`: so does a copy up to the end, and
  where the sender does not end in order;
* `relay_accounted`: what was copied and counted, for every framing and every
  way out.
-/

namespace Gateway

open Reader (IsLine)

namespace Sink

variable {s : Sink} {data : Bytes}

/-- A sink accepts that many bytes more. -/
def Takes (n : Nat) (s : Sink) : Prop :=
  ∀ most, s.room = some most → n ≤ most

/-- A write for which there is room takes up its room. -/
theorem write_of_takes (h : s.Takes data.length) :
    ∃ t, s.write data = (.ok (), t) ∧ t.accepted = s.accepted ++ data ∧
      s.room = t.room.map (data.length + ·) ∧ t.refusal = s.refusal := by
  cases hroom : s.room with
  | none =>
    have hw : s.write data = (.ok (), { s with writes := data :: s.writes }) := by
      rw [write.eq_def, hroom]
    exact ⟨_, hw, accepted_write hw, by rw [hroom]; rfl, rfl⟩
  | some most =>
    have hle := h most hroom
    have hw : s.write data =
        (.ok (), { s with
          room := some (most - data.length), writes := data :: s.writes }) := by
      rw [write.eq_def, hroom]
      exact if_pos hle
    exact ⟨_, hw, accepted_write hw, congrArg some (Nat.add_sub_cancel' hle).symm, rfl⟩

/-- A write for which there is no room fills the sink up. -/
theorem write_of_not_takes (h : ¬ s.Takes data.length) :
    ∃ most t, s.room = some most ∧ most < data.length ∧
      s.write data = (.error s.refusal, t) ∧
      t.accepted = s.accepted ++ data.take most := by
  cases hroom : s.room with
  | none =>
    exact absurd (fun most hmost => by rw [hroom] at hmost; cases hmost) h
  | some most =>
    have hlt : most < data.length := by
      refine Nat.lt_of_not_le fun hle => h fun most' hmost' => ?_
      rw [hroom] at hmost'
      exact Option.some.inj hmost' ▸ hle
    refine ⟨most, { s with
      room := some 0, writes := data.take most :: s.writes }, rfl, hlt, ?_, ?_⟩
    · rw [write.eq_def, hroom]
      exact if_neg (Nat.not_le.2 hlt)
    · simp [accepted]

end Sink

/-- The relay error of a sender that has ended within a body. -/
def Ending.relayError : Ending → RelayError
  | .eof => .unexpectedEnd
  | .failed fault => .read fault
  | .silent => .silent

theorem RelayError.write_or (e : RelayError) :
    (∃ fault, e = .write fault) ∨ ∀ fault, e ≠ .write fault := by
  cases e with
  | write fault => exact .inl ⟨fault, rfl⟩
  | _ => exact .inr fun _ he => by cases he

namespace Pipe

variable {p q s : Pipe} {bs cs : Bytes} {e : RelayError} {room n : Nat}

/-! ## Moves and halts -/

/-- Exactly the bytes `bs` went through, and took their room. -/
structure Poured (p : Pipe) (bs : Bytes) (q : Pipe) :
    Prop extends p.Moved bs q where
  /-- The receiver has so much less room. -/
  room : p.sink.room = q.sink.room.map (bs.length + ·)
  /-- What it answers without room is as before. -/
  refusal : q.sink.refusal = p.sink.refusal

/-- A step failed when the receiver had taken the bytes `bs`. -/
structure Halted (p : Pipe) (bs : Bytes) (e : RelayError)
    (q : Pipe) : Prop where
  /-- They stand at the front of the view. -/
  part : bs <+: p.reader.remaining
  /-- The receiver was sent them behind all else. -/
  sent : q.sink.accepted = p.sink.accepted ++ bs
  /-- There was room for them. -/
  takes : p.sink.Takes bs.length
  /-- The count did not go back. -/
  le_count : p.count ≤ q.count
  /-- No more was counted than was taken. -/
  count_le : q.count ≤ p.count + bs.length
  /-- All that was taken was counted, unless a write failed. -/
  count : (∀ fault, e ≠ .write fault) → q.count = p.count + bs.length
  /-- A write fails when the receiver has no room and there is more to send. -/
  full : ∀ fault, e = .write fault →
    fault = p.sink.refusal ∧ p.sink.room = some bs.length ∧
    bs.length < p.reader.remaining.length

theorem Poured.refl (p : Pipe) : p.Poured [] p :=
  ⟨Moved.refl p, by simp, rfl⟩

theorem Poured.trans (h : p.Poured bs q)
    (h' : q.Poured cs s) : p.Poured (bs ++ cs) s where
  toMoved := h.toMoved.trans h'.toMoved
  room := by simp [h.room, h'.room, Function.comp_def, Nat.add_assoc]
  refusal := h'.refusal.trans h.refusal

theorem Poured.takes (h : p.Poured bs q) : p.sink.Takes bs.length := by
  intro most hmost
  rw [h.room, Option.map_eq_some_iff] at hmost
  obtain ⟨left, -, rfl⟩ := hmost
  exact Nat.le_add_right _ _

/-- A step may fail behind a move. -/
theorem Poured.halted (h : p.Poured bs q)
    (h' : q.Halted cs e s) : p.Halted (bs ++ cs) e s where
  part := by
    rw [h.taken]
    exact (List.prefix_append_right_inj bs).2 h'.part
  sent := by rw [h'.sent, h.sent, List.append_assoc]
  takes := by
    intro most hmost
    rw [h.room, Option.map_eq_some_iff] at hmost
    obtain ⟨left, hleft, rfl⟩ := hmost
    rw [List.length_append]
    exact Nat.add_le_add_left (h'.takes left hleft) _
  le_count := by
    have := h'.le_count
    rw [h.count] at this
    omega
  count_le := by
    have := h'.count_le
    rw [h.count] at this
    rw [List.length_append]
    omega
  count := fun he => by rw [h'.count he, h.count, List.length_append, Nat.add_assoc]
  full := by
    intro fault he
    obtain ⟨hrefusal, hroom, hmore⟩ := h'.full fault he
    refine ⟨hrefusal.trans h.refusal, ?_, ?_⟩
    · rw [h.room, hroom, List.length_append]
      rfl
    · rw [h.taken, List.length_append, List.length_append]
      omega

theorem Halted.of_sink (hsink : q.sink = p.sink) (hcount : q.count = p.count)
    (he : ∀ fault, e ≠ .write fault) :
    p.Halted [] e q where
  part := List.nil_prefix
  sent := by rw [hsink, List.append_nil]
  takes := fun most _ => Nat.zero_le most
  le_count := Nat.le_of_eq hcount.symm
  count_le := Nat.le_of_eq hcount
  count := fun _ => hcount
  full := fun fault hw => absurd hw (he fault)

/-- **Bytes that were taken are sent on** if there is room for them, and in part
if there is not. -/
theorem Took.emit_cases (h : p.Took bs q) :
    (p.sink.Takes bs.length ∧ ∃ s, emit bs q = .ok () s ∧ p.Poured bs s) ∨
      ∃ part s, p.sink.room = some part.length ∧ part.length < bs.length ∧
        emit bs q = .error (.write p.sink.refusal) s ∧
        p.Halted part (.write p.sink.refusal) s := by
  by_cases htakes : q.sink.Takes bs.length
  · obtain ⟨t, ht, -, hroom, hrefusal⟩ := Sink.write_of_takes htakes
    have he : emit bs q = .ok () { q with
        sink := t, count := q.count + bs.length } := by
      rw [emit, ht]
    rw [h.sink] at hroom hrefusal htakes
    exact .inl ⟨htakes, _, he, h.moved he, hroom, hrefusal⟩
  · obtain ⟨most, t, hroom, hlt, ht, hsent⟩ := Sink.write_of_not_takes htakes
    have he : emit bs q = .error (.write q.sink.refusal) { q with sink := t } := by
      rw [emit, ht]
    have hpart : (bs.take most).length = most :=
      List.length_take_of_le (Nat.le_of_lt hlt)
    rw [h.sink] at hroom hsent he
    refine .inr ⟨bs.take most, _, by rw [hpart, hroom], by rwa [hpart], he, ?_⟩
    exact {
      part := by
        rw [h.taken]
        exact (List.take_prefix most bs).trans (List.prefix_append _ _)
      sent := hsent
      takes := fun most' hmost' => by
        rw [hroom] at hmost'
        rw [hpart]
        exact Nat.le_of_eq (Option.some.inj hmost')
      le_count := Nat.le_of_eq h.count.symm
      count_le := Nat.le_add_right_of_le (Nat.le_of_eq h.count)
      count := fun hw => absurd rfl (hw _)
      full := by
        rintro _ ⟨⟩
        refine ⟨rfl, by rw [hpart, hroom], ?_⟩
        rw [h.taken, hpart, List.length_append]
        omega }

theorem Took.poured (h : p.Took bs q)
    (he : emit bs q = .ok () s) : p.Poured bs s := by
  obtain ⟨-, s', hs, hpoured⟩ | ⟨_, s', -, -, hs, -⟩ := h.emit_cases
  · rw [he] at hs
    cases hs
    exact hpoured
  · rw [he] at hs
    cases hs

/-- Bytes that could not be sent on were sent in part. -/
theorem Took.halted (h : p.Took bs q) (he : emit bs q = .error e s) :
    ∃ part, part.length < bs.length ∧ p.Halted part e s ∧
      ∃ fault, e = .write fault := by
  obtain ⟨-, s', hs, -⟩ | ⟨part, s', -, hlt, hs, hhalted⟩ := h.emit_cases
  · rw [he] at hs
    cases hs
  · rw [he] at hs
    cases hs
    exact ⟨part, hlt, hhalted, _, rfl⟩

/-- A fetch that fails finds nothing, and the sender has ended. -/
theorem halted_of_fetch (h : fetch room p = .error e q) :
    p.Halted [] e q ∧ p.reader.remaining = [] ∧
      e = p.reader.source.ending.relayError := by
  rw [fetch] at h
  split at h
  · cases h
  · rename_i stop reader hread
    cases h
    refine ⟨.of_sink rfl rfl (errorOfStop_ne_write _),
      (Reader.remaining_of_readSome_error hread).1, ?_⟩
    have hend := Reader.ending_of_readSome_error hread
    cases hending : p.reader.source.ending <;> rw [hending] at hend <;>
      cases hend <;> rfl

/-! ## Copies -/

/-- A copy that succeeds poured `n` bytes. -/
theorem poured_of_copyLength (h : copyLength room n p = .ok () q) :
    ∃ bs, bs.length = n ∧ p.Poured bs q := by
  fun_induction copyLength room n p with
  | case1 =>
    cases h
    exact ⟨[], rfl, .refl _⟩
  | case2 => cases h
  | case3 => cases h
  | case4 => cases h
  | case5 n p h0 b bs p' hf _ p'' he ih =>
    obtain ⟨more, hmore, hpoured⟩ := ih h
    have hle := length_fetch_le hf
    refine ⟨b :: bs ++ more, ?_, ((took_of_fetch hf).poured he).trans hpoured⟩
    rw [List.length_append, List.length_cons, hmore]
    rw [List.length_cons] at hle
    omega

/-- **A copy that fails copied fewer bytes**: as many as there were, or as many
as there was room for. -/
theorem halted_of_copyLength (h : copyLength room n p = .error e q) :
    ∃ bs, bs.length < n ∧ p.Halted bs e q ∧ (0 < room →
      (∀ fault, e ≠ .write fault) →
        bs = p.reader.remaining ∧ e = p.reader.source.ending.relayError) := by
  fun_induction copyLength room n p with
  | case1 => cases h
  | case2 n p h0 e' p' hf =>
    cases h
    obtain ⟨hhalted, hnil, hend⟩ := halted_of_fetch hf
    exact ⟨[], Nat.pos_of_ne_zero h0, hhalted, fun _ _ => ⟨hnil.symm, hend⟩⟩
  | case3 n p h0 p' hf =>
    cases h
    have htook := took_of_fetch hf
    refine ⟨[], Nat.pos_of_ne_zero h0,
      .of_sink htook.sink htook.count (fun _ he => by cases he), fun hroom _ => ?_⟩
    obtain ⟨hnil, hend⟩ := ended_of_fetch (show 0 < min room n by omega) hf
    rw [hend]
    exact ⟨hnil.symm, rfl⟩
  | case4 n p h0 b bs p' hf e' p'' he =>
    cases h
    have hle := length_fetch_le hf
    obtain ⟨part, hlt, hhalted, fault, rfl⟩ := (took_of_fetch hf).halted he
    exact ⟨part, by omega, hhalted, fun _ hw => absurd rfl (hw fault)⟩
  | case5 n p h0 b bs p' hf _ p'' he ih =>
    obtain ⟨more, hmore, hhalted, hdry⟩ := ih h
    have hle := length_fetch_le hf
    rw [List.length_cons] at hle
    have hpoured := (took_of_fetch hf).poured he
    refine ⟨b :: bs ++ more, ?_, hpoured.halted hhalted, fun hroom hw => ?_⟩
    · rw [List.length_append, List.length_cons]
      omega
    · obtain ⟨hall, hend⟩ := hdry hroom hw
      exact ⟨by rw [hpoured.taken, hall],
        hend.trans (congrArg Ending.relayError hpoured.ending)⟩

/-- **A copy up to the end that succeeds poured all there was**, and the sender
has ended in order. -/
theorem poured_of_copyAll (hroom : 0 < room) (h : copyAll room p = .ok () q) :
    p.Poured p.reader.remaining q ∧ p.reader.source.ending = .eof := by
  fun_induction copyAll room p with
  | case1 => cases h
  | case2 p p' hf =>
    cases h
    have htook := took_of_fetch hf
    obtain ⟨hnil, hend⟩ := ended_of_fetch hroom hf
    rw [hnil]
    exact ⟨⟨htook.moved_nil, by simp [htook.sink], congrArg Sink.refusal htook.sink⟩, hend⟩
  | case3 => cases h
  | case4 p b bs p' hf _ p'' he ih =>
    obtain ⟨hmore, hend⟩ := ih h
    have hpoured := (took_of_fetch hf).poured he
    rw [hpoured.taken]
    exact ⟨hpoured.trans hmore, hpoured.ending.symm.trans hend⟩

/-- **A copy up to the end that fails copied all there was**, where the sender
does not end in order, or as much as there was room for. -/
theorem halted_of_copyAll (h : copyAll room p = .error e q) :
    ∃ bs, p.Halted bs e q ∧
      ((∀ fault, e ≠ .write fault) →
        bs = p.reader.remaining ∧ e = p.reader.source.ending.relayError ∧
        p.reader.source.ending ≠ .eof) := by
  fun_induction copyAll room p with
  | case1 p e' p' hf =>
    cases h
    obtain ⟨hhalted, hnil, hend⟩ := halted_of_fetch hf
    refine ⟨[], hhalted, fun _ => ⟨hnil.symm, hend, fun heof => ?_⟩⟩
    obtain ⟨bs, t, ht⟩ := fetch_of_eof room heof
    rw [hf] at ht
    cases ht
  | case2 => cases h
  | case3 p b bs p' hf e' p'' he =>
    cases h
    obtain ⟨part, -, hhalted, fault, rfl⟩ := (took_of_fetch hf).halted he
    exact ⟨part, hhalted, fun hw => absurd rfl (hw fault)⟩
  | case4 p b bs p' hf _ p'' he ih =>
    obtain ⟨more, hhalted, hdry⟩ := ih h
    have hpoured := (took_of_fetch hf).poured he
    refine ⟨b :: bs ++ more, hpoured.halted hhalted, fun hw => ?_⟩
    obtain ⟨hall, hend, hne⟩ := hdry hw
    rw [hpoured.ending] at hend hne
    exact ⟨by rw [hpoured.taken, hall], hend, hne⟩

/-! ## Chunks -/

/-- What a step leaves, whichever way it goes. -/
def Accounted {α : Type} (p : Pipe) : EStateM.Result RelayError Pipe α → Prop
  | .ok _ q => ∃ bs, p.Poured bs q
  | .error e q => ∃ bs, p.Halted bs e q

/-- What is accounted for behind a move is accounted for with it. -/
theorem Poured.accounted {α : Type} {result : EStateM.Result RelayError Pipe α}
    (h : p.Poured bs q) (h' : q.Accounted result) : p.Accounted result := by
  cases result with
  | ok a s =>
    obtain ⟨cs, hmore⟩ := h'
    exact ⟨bs ++ cs, h.trans hmore⟩
  | error e s =>
    obtain ⟨cs, hmore⟩ := h'
    exact ⟨bs ++ cs, h.halted hmore⟩

theorem Took.accounted (h : p.Took bs q) : p.Accounted (emit bs q) := by
  cases he : emit bs q with
  | ok _ s => exact ⟨bs, h.poured he⟩
  | error e s =>
    obtain ⟨part, -, hhalted, -⟩ := h.halted he
    exact ⟨part, hhalted⟩

theorem halted_of_fetchLine (h : fetchLine p = .error e q) :
    p.Halted [] e q ∧ ∀ fault, e ≠ .write fault := by
  have hread : ∀ fault, e ≠ .write fault := by
    rw [fetchLine] at h
    split at h <;> cases h
    · exact fun _ he => by cases he
    · exact errorOfLine_ne_write _
  refine ⟨.of_sink ?_ ?_ hread, hread⟩ <;> rw [fetchLine] at h <;>
    split at h <;> cases h <;> rfl

/-- A copy of a known length is accounted for. -/
theorem accounted_copyLength (room n : Nat) (p : Pipe) :
    p.Accounted (copyLength room n p) := by
  cases h : copyLength room n p with
  | ok _ q =>
    obtain ⟨bs, -, hpoured⟩ := poured_of_copyLength h
    exact ⟨bs, hpoured⟩
  | error e q =>
    obtain ⟨bs, -, hhalted, -⟩ := halted_of_copyLength h
    exact ⟨bs, hhalted⟩

theorem accounted_copyTrailers (p : Pipe) : p.Accounted (copyTrailers p) := by
  fun_induction copyTrailers p with
  | case1 p e q hl => exact ⟨[], (halted_of_fetchLine hl).1⟩
  | case2 p line q hl e s he => exact he ▸ (took_of_fetchLine hl).1.accounted
  | case3 p line q hl _ s he => exact ⟨line, (took_of_fetchLine hl).1.poured he⟩
  | case4 p line q hl _ s he _ ih =>
    exact ((took_of_fetchLine hl).1.poured he).accounted ih

/-- A size line is accounted for. -/
theorem accounted_copyChunkSize (p : Pipe) : p.Accounted (copyChunkSize p) := by
  rw [copyChunkSize]
  split
  · rename_i hl
    exact ⟨[], (halted_of_fetchLine hl).1⟩
  · rename_i line q hl
    have htook := (took_of_fetchLine hl).1
    split
    · exact ⟨[], .of_sink htook.sink htook.count fun _ he => by cases he⟩
    · split
      · rename_i he
        obtain ⟨part, -, hhalted, -⟩ := htook.halted he
        exact ⟨part, hhalted⟩
      · rename_i he
        exact ⟨line, htook.poured he⟩

/-- The line end behind a chunk is accounted for. -/
theorem accounted_copyChunkEnd (p : Pipe) : p.Accounted (copyChunkEnd p) := by
  rw [copyChunkEnd]
  split
  · rename_i hl
    exact ⟨[], (halted_of_fetchLine hl).1⟩
  · rename_i hl
    have htook := (took_of_fetchLine hl).1
    split
    · exact htook.accounted
    · exact ⟨[], .of_sink htook.sink htook.count fun _ he => by cases he⟩

/-- **Chunks are accounted for.** -/
theorem accounted_copyChunks (room : Nat) (p : Pipe) :
    p.Accounted (copyChunks room p) := by
  fun_induction copyChunks room p with
  | case1 p e q hs =>
    obtain ⟨part, hhalted⟩ : p.Accounted (α := Nat) (.error e q) :=
      hs ▸ accounted_copyChunkSize p
    exact ⟨part, hhalted⟩
  | case2 p p₁ hs =>
    obtain ⟨line, hpoured⟩ : p.Accounted (.ok 0 p₁) := hs ▸ accounted_copyChunkSize p
    exact hpoured.accounted (accounted_copyTrailers p₁)
  | case3 p n p₁ hs hn e p₂ hd =>
    obtain ⟨line, hpoured⟩ : p.Accounted (.ok n p₁) := hs ▸ accounted_copyChunkSize p
    exact hpoured.accounted (hd ▸ accounted_copyLength room n p₁)
  | case4 p n p₁ hs hn _ p₂ hd e p₃ he =>
    obtain ⟨line, hpoured⟩ : p.Accounted (.ok n p₁) := hs ▸ accounted_copyChunkSize p
    obtain ⟨data, hdata⟩ : p₁.Accounted (.ok () p₂) :=
      hd ▸ accounted_copyLength room n p₁
    exact (hpoured.trans hdata).accounted (he ▸ accounted_copyChunkEnd p₂)
  | case5 p n p₁ hs hn _ p₂ hd _ p₃ he ih =>
    obtain ⟨line, hpoured⟩ : p.Accounted (.ok n p₁) := hs ▸ accounted_copyChunkSize p
    obtain ⟨data, hdata⟩ : p₁.Accounted (.ok () p₂) :=
      hd ▸ accounted_copyLength room n p₁
    obtain ⟨ending, hending⟩ : p₂.Accounted (.ok () p₃) :=
      he ▸ accounted_copyChunkEnd p₂
    exact ((hpoured.trans hdata).trans hending).accounted ih

/-! ## Whole bodies -/

/-- A step sends a whole body on and gives `a`, or it fails within the body: the
receiver has a part of it then, and not all of it if it is the receiver that has
failed. -/
def Carries {α : Type} (p : Pipe) (body : Bytes) (a : α) :
    EStateM.Result RelayError Pipe α → Prop
  | .ok b q => b = a ∧ p.Poured body q
  | .error e q =>
    ∃ part, part <+: body ∧ p.Halted part e q ∧ ∀ fault, e = .write fault →
      part.length < body.length

section

variable {α β : Type} {a : α} {b : β} {line rest : Bytes}

/-- **Bodies that are carried one after the other are carried together.** -/
theorem Carries.andThen {result : EStateM.Result RelayError Pipe α}
    {next : α → Step β} (h : p.Carries bs a result)
    (hnext : ∀ q, p.Poured bs q → q.Carries cs b (next a q)) :
    p.Carries (bs ++ cs) b (Pipe.andThen result next) := by
  cases result with
  | ok a' q =>
    obtain ⟨rfl, hpoured⟩ := h
    have hmore := hnext q hpoured
    rw [Pipe.andThen]
    cases hs : next a' q with
    | ok b' s =>
      rw [hs] at hmore
      exact ⟨hmore.1, hpoured.trans hmore.2⟩
    | error e s =>
      rw [hs] at hmore
      obtain ⟨part, hpart, hhalted, hlt⟩ := hmore
      refine ⟨bs ++ part, (List.prefix_append_right_inj bs).2 hpart,
        hpoured.halted hhalted, fun fault he => ?_⟩
      rw [List.length_append, List.length_append]
      exact Nat.add_lt_add_left (hlt fault he) _
  | error e q =>
    obtain ⟨part, hpart, hhalted, hlt⟩ := h
    refine ⟨part, hpart.trans (List.prefix_append _ _), hhalted, fun fault he => ?_⟩
    rw [List.length_append]
    exact Nat.lt_add_right _ (hlt fault he)

theorem Carries.andThen_nil {result : EStateM.Result RelayError Pipe α}
    {next : α → Step β} (h : p.Carries bs a result)
    (hnext : ∀ q, next a q = .ok b q) :
    p.Carries bs b (Pipe.andThen result next) := by
  rw [← List.append_nil bs]
  refine h.andThen fun q _ => ?_
  rw [hnext]
  exact ⟨rfl, .refl q⟩

theorem Took.carries (h : p.Took bs q) : p.Carries bs () (emit bs q) := by
  cases hs : emit bs q with
  | ok _ s => exact ⟨rfl, h.poured hs⟩
  | error e s =>
    obtain ⟨part, hlt, hhalted, -⟩ := h.halted hs
    have hbs : bs <+: p.reader.remaining := h.taken ▸ List.prefix_append _ _
    exact ⟨part, List.prefix_of_prefix_length_le hhalted.part hbs
      (Nat.le_of_lt hlt), hhalted, fun _ _ => hlt⟩

/-- A line in front is fetched, and what comes next is done with it, or it is
too long. -/
theorem carries_fetchLine {next : Bytes → Step α} (hline : IsLine line)
    (h : p.reader.remaining = line ++ rest)
    (hnext : ∀ q, p.Took line q → p.Carries bs a (next line q)) :
    p.Carries bs a (Pipe.andThen (fetchLine p) next) := by
  cases hl : fetchLine p with
  | error e q =>
    obtain ⟨hhalted, hread⟩ := halted_of_fetchLine hl
    exact ⟨[], List.nil_prefix, hhalted, fun fault he => absurd he (hread fault)⟩
  | ok line' q =>
    obtain ⟨htook, hline'⟩ := took_of_fetchLine hl
    -- there is but one line in front
    have hlength : some line'.length = some line.length := by
      rw [← Reader.lineEnd?_of_isLine hline', ← htook.taken, h,
        Reader.lineEnd?_of_isLine hline]
    obtain ⟨rfl, -⟩ :=
      List.append_inj (htook.taken.symm.trans h) (Option.some.inj hlength)
    exact hnext q htook

theorem carries_copyLength {n : Nat} (room : Nat)
    (hn : n ≤ p.reader.remaining.length) :
    p.Carries (p.reader.remaining.take n) () (copyLength room n p) := by
  cases h : copyLength room n p with
  | ok _ q =>
    obtain ⟨bs, rfl, hpoured⟩ := poured_of_copyLength h
    rw [hpoured.taken, List.take_left]
    exact ⟨rfl, hpoured⟩
  | error e q =>
    obtain ⟨bs, hlt, hhalted, -⟩ := halted_of_copyLength h
    have hlength := List.length_take_of_le hn
    exact ⟨bs, List.prefix_of_prefix_length_le hhalted.part
      (List.take_prefix _ _) (by omega), hhalted, fun _ _ => hlength.symm ▸ hlt⟩

theorem carries_copyTrailers (hb : TrailerSection IsLine bs)
    (h : p.reader.remaining = bs ++ rest) :
    p.Carries bs () (copyTrailers p) := by
  induction hb generalizing p with
  | done hline hempty =>
    rw [copyTrailers_eq]
    exact carries_fetchLine hline h fun q htook =>
      htook.carries.andThen_nil fun s => if_pos hempty
  | trailer hline hempty _ ih =>
    rw [List.append_assoc] at h
    rw [copyTrailers_eq]
    refine carries_fetchLine hline h fun q htook =>
      htook.carries.andThen fun s hpoured => ?_
    rw [hempty, if_neg Bool.false_ne_true]
    exact ih (hpoured.left h)

theorem carries_copyChunkSize {n : Nat} (hline : IsLine line)
    (hn : chunkSize line = .ok n) (h : p.reader.remaining = line ++ rest) :
    p.Carries line n (copyChunkSize p) := by
  rw [copyChunkSize_eq]
  refine carries_fetchLine hline h fun q htook => ?_
  rw [hn]
  exact htook.carries.andThen_nil fun _ => rfl

theorem carries_copyChunkEnd (hline : IsLine line)
    (hempty : isEmptyLine line = true) (h : p.reader.remaining = line ++ rest) :
    p.Carries line () (copyChunkEnd p) := by
  rw [copyChunkEnd_eq]
  refine carries_fetchLine hline h fun q htook => ?_
  rw [if_pos hempty]
  exact htook.carries

theorem carries_copyChunks (room : Nat) (hb : ChunkedBody IsLine bs)
    (h : p.reader.remaining = bs ++ rest) :
    p.Carries bs () (copyChunks room p) := by
  induction hb generalizing p with
  | last hline hsize htrailers =>
    rw [List.append_assoc] at h
    rw [copyChunks_eq]
    refine (carries_copyChunkSize hline hsize h).andThen fun q hpoured => ?_
    rw [if_pos rfl]
    exact carries_copyTrailers htrailers (hpoured.left h)
  | @chunk line data ending more hline hsize hdata hending hempty _ ih =>
    rw [List.append_assoc, List.append_assoc, List.append_assoc] at h
    rw [copyChunks_eq]
    refine (carries_copyChunkSize hline hsize h).andThen fun q₁ h₁ => ?_
    have hr₁ := h₁.left h
    have hcarries := carries_copyLength (p := q₁) (n := data.length) room
      (by rw [hr₁, List.length_append]; omega)
    rw [hr₁, List.take_left] at hcarries
    rw [if_neg (by simpa using hdata)]
    refine hcarries.andThen fun q₂ h₂ => ?_
    have hr₂ := h₂.left hr₁
    exact (carries_copyChunkEnd hending hempty hr₂).andThen fun q₃ h₃ =>
      ih (h₃.left hr₂)

end

/-! ## Any body -/

/-- **Every relay is accounted for**, whatever its framing. -/
theorem accounted_relay (framing : Framing) (hroom : 0 < room) (p : Pipe) :
    p.Accounted (relay framing room p) := by
  cases framing with
  | empty => exact ⟨[], .refl p⟩
  | length n => exact accounted_copyLength room n p
  | chunked => exact accounted_copyChunks room p
  | untilClose =>
    rw [relay]
    cases h : copyAll room p with
    | ok _ q => exact ⟨_, (poured_of_copyAll hroom h).1⟩
    | error e q =>
      obtain ⟨bs, hhalted, -⟩ := halted_of_copyAll h
      exact ⟨bs, hhalted⟩

/-- **A body in front is carried**, whatever its framing, unless it is
everything and no bytes are asked for. -/
theorem carries_relay {framing : Framing} {body rest : Bytes}
    (hf : framing.isDelimited = true ∨ 0 < room)
    (hb : Encloses IsLine framing p.reader.source.ending body rest)
    (h : p.reader.remaining = body ++ rest) :
    p.Carries body () (relay framing room p) := by
  rcases hb with hb | ⟨rfl, rfl, hend⟩
  · cases framing with
    | empty =>
      cases hb
      exact ⟨rfl, .refl p⟩
    | length n =>
      cases hb
      have hcarries := carries_copyLength (p := p) (n := body.length) room
        (by rw [h, List.length_append]; exact Nat.le_add_right _ _)
      rwa [h, List.take_left] at hcarries
    | chunked => exact carries_copyChunks room hb h
    | untilClose => exact hb.elim
  · rw [List.append_nil] at h
    rw [← h, relay]
    cases hs : copyAll room p with
    | ok _ q =>
      exact ⟨rfl, (poured_of_copyAll (hf.resolve_left Bool.false_ne_true) hs).1⟩
    | error e q =>
      obtain ⟨part, hhalted, -⟩ := halted_of_copyAll hs
      exact ⟨part, hhalted.part, hhalted, fun fault he => (hhalted.full fault he).2.2⟩

/-- **A body of short lines goes through exactly if there is room for it**, and
without room it is the write that fails. -/
theorem relay_of_encloses {framing : Framing} {body rest : Bytes}
    (hroom : 0 < room)
    (hb : Encloses IsShortLine framing p.reader.source.ending body rest)
    (h : p.reader.remaining = body ++ rest) :
    (p.sink.Takes body.length ∧ ∃ q, relay framing room p = .ok () q) ∨
      ¬ p.sink.Takes body.length ∧
        ∃ fault q, relay framing room p = .error (.write fault) q := by
  have hcarries := carries_relay (.inr hroom) (hb.mono fun _ hline => hline.1) h
  rcases passes_relay hroom hb h with ⟨q, hq, -⟩ | ⟨fault, q, hq, -⟩
  · rw [hq] at hcarries
    exact .inl ⟨hcarries.2.takes, q, hq⟩
  · rw [hq] at hcarries
    obtain ⟨part, -, hhalted, hlt⟩ := hcarries
    refine .inr ⟨fun htakes => ?_, fault, q, hq⟩
    exact absurd (htakes _ (hhalted.full fault rfl).2.1) (Nat.not_le.2 (hlt fault rfl))

/-- **A copy of `n` bytes succeeds exactly if there are `n` bytes and room for
them.** -/
theorem copyLength_eq_ok_iff (hroom : 0 < room) (n : Nat) (p : Pipe) :
    (∃ q, copyLength room n p = .ok () q) ↔
      n ≤ p.reader.remaining.length ∧ p.sink.Takes n := by
  constructor
  · rintro ⟨q, h⟩
    obtain ⟨bs, rfl, hpoured⟩ := poured_of_copyLength h
    refine ⟨?_, hpoured.takes⟩
    rw [hpoured.taken, List.length_append]
    exact Nat.le_add_right _ _
  · rintro ⟨hn, htakes⟩
    cases h : copyLength room n p with
    | ok _ q => exact ⟨q, rfl⟩
    | error e q =>
      obtain ⟨bs, hlt, hhalted, hdry⟩ := halted_of_copyLength h
      rcases e.write_or with ⟨fault, hfault⟩ | hw
      · have := htakes _ (hhalted.full fault hfault).2.1
        omega
      · obtain ⟨rfl, -⟩ := hdry hroom hw
        omega

/-- **A copy up to the end succeeds exactly if the sender ends in order and
there is room for everything.** -/
theorem copyAll_eq_ok_iff (hroom : 0 < room) (p : Pipe) :
    (∃ q, copyAll room p = .ok () q) ↔
      p.reader.source.ending = .eof ∧ p.sink.Takes p.reader.remaining.length := by
  constructor
  · rintro ⟨q, h⟩
    obtain ⟨hpoured, hend⟩ := poured_of_copyAll hroom h
    exact ⟨hend, hpoured.takes⟩
  · rintro ⟨hend, htakes⟩
    cases h : copyAll room p with
    | ok _ q => exact ⟨q, rfl⟩
    | error e q =>
      obtain ⟨bs, hhalted, hdry⟩ := halted_of_copyAll h
      rcases e.write_or with ⟨fault, hfault⟩ | hw
      · obtain ⟨-, hfull, hmore⟩ := hhalted.full fault hfault
        have := htakes _ hfull
        omega
      · exact absurd hend (hdry hw).2.2

/-- **What a relay copied and counted**, for every sender, receiver and framing,
and a buffer of at least one byte. If it succeeds, the bytes that were taken off
the sender are those that were sent on and counted. If it fails, a part from the
front was sent on, and no more was counted; exactly this part was counted if it
was no write that failed. The counter shows the count as long as that is below
`2 ^ 64`. A body of `n` bytes is copied exactly if there are so many and room
for them, and then its bytes are gone and no others; otherwise fewer are copied.
Where the end of the connection ends the body, it is copied exactly if the
sender ends in order and there is room for everything, and then the receiver has
been sent everything and nothing is left. -/
theorem relay_accounted (hroom : 0 < room) (p : Pipe) :
    (∀ framing q, relay framing room p = .ok () q →
      ∃ bs, p.reader.remaining = bs ++ q.reader.remaining ∧
        q.sink.accepted = p.sink.accepted ++ bs ∧
        q.count = p.count + bs.length ∧
        (p.count + bs.length < UInt64.size → q.counter.toNat = p.count + bs.length)) ∧
    (∀ framing e q, relay framing room p = .error e q →
      ∃ bs, bs <+: p.reader.remaining ∧ q.sink.accepted = p.sink.accepted ++ bs ∧
        p.count ≤ q.count ∧ q.count ≤ p.count + bs.length ∧
        ((∀ fault, e ≠ .write fault) → q.count = p.count + bs.length) ∧
        (p.count + bs.length < UInt64.size → q.counter.toNat = q.count)) ∧
    (∀ n, ((∃ q, relay (.length n) room p = .ok () q) ↔
      n ≤ p.reader.remaining.length ∧ p.sink.Takes n) ∧
      (∀ q, relay (.length n) room p = .ok () q →
        q.sink.accepted = p.sink.accepted ++ p.reader.remaining.take n ∧
        q.reader.remaining = p.reader.remaining.drop n) ∧
      ∀ e q, relay (.length n) room p = .error e q →
        ∃ bs, bs.length < n ∧ q.sink.accepted = p.sink.accepted ++ bs) ∧
    ((∃ q, relay .untilClose room p = .ok () q) ↔
      p.reader.source.ending = .eof ∧ p.sink.Takes p.reader.remaining.length) ∧
    ∀ q, relay .untilClose room p = .ok () q →
      q.sink.accepted = p.sink.accepted ++ p.reader.remaining ∧
      q.reader.remaining = [] ∧
      q.count = p.count + p.reader.remaining.length := by
  refine ⟨fun framing q h => ?_, fun framing e q h => ?_,
    fun n => ⟨copyLength_eq_ok_iff hroom n p, fun q h => ?_, fun e q h => ?_⟩,
    copyAll_eq_ok_iff hroom p, fun q h => ?_⟩
  · obtain ⟨bs, hpoured⟩ : p.Accounted (.ok () q) :=
      h ▸ accounted_relay framing hroom p
    exact ⟨bs, hpoured.taken, hpoured.sent, hpoured.count, hpoured.toNat_counter⟩
  · obtain ⟨bs, hhalted⟩ : p.Accounted (α := Unit) (.error e q) :=
      h ▸ accounted_relay framing hroom p
    exact ⟨bs, hhalted.part, hhalted.sent, hhalted.le_count, hhalted.count_le,
      hhalted.count,
      fun hfits => toNat_counter (Nat.lt_of_le_of_lt hhalted.count_le hfits)⟩
  · obtain ⟨bs, rfl, hpoured⟩ := poured_of_copyLength h
    rw [hpoured.taken, List.take_left, List.drop_left]
    exact ⟨hpoured.sent, rfl⟩
  · obtain ⟨bs, hlt, hhalted, -⟩ := halted_of_copyLength h
    exact ⟨bs, hlt, hhalted.sent⟩
  · have hpoured := (poured_of_copyAll hroom h).1
    exact ⟨hpoured.sent, hpoured.left (List.append_nil _).symm, hpoured.count⟩

/-- A receiver that takes four bytes of five: a body of four goes through, and
of one of five the second write fails, so that four bytes were taken and two
were counted. One that takes five gets all there is up to the end. -/
theorem relay_accounted_partial :
    let p : Pipe :=
      { reader := ⟨Bytes.ofText "he", ⟨[Bytes.ofText "llo"], .eof⟩⟩,
        sink := { room := some 4 }, count := 10 }
    0 < 3 ∧
      (∃ q, relay (.length 4) 3 p = .ok () q ∧ q.sink.accepted = Bytes.ofText "hell" ∧
        q.reader.remaining = Bytes.ofText "o") ∧
      (∃ q, relay (.length 5) 3 p = .error (.write (.system 32)) q ∧
        q.sink.accepted = Bytes.ofText "hell" ∧
        q.count = 12 ∧ 10 ≤ q.count) ∧
      ∃ q, relay .untilClose 3 { p with sink := { room := some 5 } } = .ok () q ∧
        q.sink.accepted = Bytes.ofText "hello" ∧ q.reader.remaining = [] ∧
        q.count = 15 ∧ q.counter.toNat = 15 := by
  intro p
  obtain ⟨-, hfails, hlength, -, -⟩ := relay_accounted (show 0 < 3 by decide) p
  obtain ⟨⟨-, hcopies⟩, hfirst, -⟩ := hlength 4
  obtain ⟨q, hq⟩ := hcopies ⟨by decide +kernel,
    fun most hmost => Nat.le_of_eq (Option.some.inj hmost)⟩
  obtain ⟨hsent, hleft⟩ := hfirst q hq
  refine ⟨by decide, ⟨q, hq, hsent, hleft⟩, ?_, ?_⟩
  · have hfailed : relay (.length 5) 3 p = .error (.write (.system 32))
        { reader := ⟨[], ⟨[[]], .eof⟩⟩
          sink := { room := some 0, writes := [Bytes.ofText "ll", Bytes.ofText "he"] }
          count := 12 } := by
      rw [relay, copyLength_of_fetch (by decide)
        (show fetch (min 3 5) p = .ok (104 :: [101]) _ from rfl)]
      change copyLength 3 3 _ = _
      rw [copyLength_of_fetch (by decide)
        (show fetch (min 3 3) _ = .ok (108 :: [108, 111]) _ from rfl)]
      rfl
    obtain ⟨bs, -, -, hcount, -⟩ := hfails _ _ _ hfailed
    exact ⟨_, hfailed, by decide +kernel, rfl, hcount⟩
  · obtain ⟨-, -, -, ⟨-, hcopies⟩, hall⟩ :=
      relay_accounted (show 0 < 3 by decide) { p with sink := { room := some 5 } }
    obtain ⟨q, hq⟩ :=
      hcopies ⟨rfl, fun most hmost => Nat.le_of_eq (Option.some.inj hmost)⟩
    obtain ⟨hsent, hnil, hcount⟩ := hall q hq
    have hfifteen : q.count = 15 := hcount
    exact ⟨q, hq, hsent, hnil, hfifteen,
      hfifteen ▸ toNat_counter (by rw [hfifteen]; decide)⟩

end Pipe

end Gateway
