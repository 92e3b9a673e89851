import Gateway.Proofs.Metering

/-!
# Lines that are too long

A line is refused if more bytes than the limit have arrived before its line feed
has. So a line within the limit is read however it arrives, and one beyond it is
read or refused as it arrives: what counts is how many bytes were there before
the piece that holds the line feed. The relay of a chunked body depends on
pieces in this and in nothing else.

* `Reader.heldBefore` is the number that counts, `Reader.readLine_spec` what a
  reader answers, from its view and this number;
* `Pipe.Alike` are pipes whose bytes arrive in different pieces, and
  `Pipe.Agree` results that differ in no more;
* `Pipe.cuts_agree`: alike pipes agree, unless one of them refuses a line for
  its length.
-/

namespace Gateway

namespace Reader

/-! ## Lines -/

/-- How many bytes have arrived before the piece that holds the `n`-th; none of
those if it is buffered. -/
def heldBefore (n : Nat) (r : Reader) : Nat :=
  go 0 (r.buffer :: r.source.pieces)
where
  /-- Adds pieces up as long as the byte is in none of them. -/
  go (held : Nat) : List Bytes → Nat
    | [] => held
    | piece :: rest =>
      if n ≤ held + piece.length then held else go (held + piece.length) rest

/-- What is read as a line from these bytes and what is left of them, where so
many have arrived before its end. -/
def lineAnswer (max : Nat) (ending : Ending) (before : Nat → Nat) (bs : Bytes) :
    Except LineError (Option Bytes) × Bytes :=
  match lineEnd? bs with
  | some n =>
    if before n ≤ max then (.ok (some (bs.take n)), bs.drop n) else (.error .tooLong, bs)
  | none =>
    if max < bs.length then (.error .tooLong, bs)
    else match ending with
      | .eof => (.ok none, bs)
      | .failed fault => (.error (.stopped (.failed fault)), bs)
      | .silent => (.error (.stopped .silent), bs)

variable {max n : Nat} {r t : Reader} {bs line rest : Bytes}

/-- Only on which side of the limit the number is makes a difference. -/
theorem lineAnswer_congr {ending : Ending} {before before' : Nat → Nat}
    (h : ∀ n, lineEnd? bs = some n → (before n ≤ max ↔ before' n ≤ max)) :
    lineAnswer max ending before bs = lineAnswer max ending before' bs := by
  rw [lineAnswer.eq_def, lineAnswer.eq_def]
  cases hn : lineEnd? bs with
  | none => rfl
  | some n => simp only [h n hn]

theorem lineAnswer_of_long {ending : Ending} {before : Nat → Nat}
    (hlong : max < bs.length) (h : ∀ n, lineEnd? bs = some n → max < before n) :
    lineAnswer max ending before bs = (.error .tooLong, bs) := by
  rw [lineAnswer.eq_def]
  cases hn : lineEnd? bs with
  | none => exact if_pos hlong
  | some n => exact if_neg (Nat.not_le.2 (h n hn))

theorem lineEnd?_append (h : lineEnd? bs = some n) (more : Bytes) :
    lineEnd? (bs ++ more) = some n ∧ n ≤ bs.length := by
  have hle : n ≤ bs.length :=
    (lineEndFrom?_pos ((lineEndFrom?_eq (Nat.zero_le _) List.not_mem_nil).trans h)).2
  refine ⟨?_, hle⟩
  have hfound : lineEnd? (bs.take n ++ (bs.drop n ++ more)) =
      some (bs.take n).length :=
    lineEnd?_of_isLine (isLine_of_lineEnd? h)
  rwa [← List.append_assoc, List.take_append_drop,
    List.length_take_of_le hle] at hfound

theorem length_lt_of_lineEnd?_append {more : Bytes} (hno : lineEnd? bs = none)
    (h : lineEnd? (bs ++ more) = some n) : bs.length < n := by
  refine Nat.lt_of_not_le fun hle => ?_
  obtain ⟨text, -, htext⟩ := isLine_of_lineEnd? h
  rw [List.take_append_of_le_length hle] at htext
  refine lineEnd?_eq_none_iff.1 hno (List.mem_of_mem_take (i := n) ?_)
  rw [htext]
  exact List.mem_append_right _ (List.mem_singleton_self _)

/-- Bytes that have arrived stay. -/
theorem le_heldBefore_go (n held : Nat) (pieces : List Bytes) :
    held ≤ heldBefore.go n held pieces := by
  induction pieces generalizing held with
  | nil => exact Nat.le_refl _
  | cons piece rest ih =>
    rw [heldBefore.go]
    split
    · exact Nat.le_refl _
    · exact Nat.le_trans (Nat.le_add_right _ _) (ih _)

/-- Fewer bytes have arrived than it takes. -/
theorem heldBefore_go_lt {held : Nat} (h : held < n) (pieces : List Bytes) :
    heldBefore.go n held pieces < n := by
  induction pieces generalizing held with
  | nil => exact h
  | cons piece rest ih =>
    rw [heldBefore.go]
    split
    · exact h
    · rename_i hmore
      exact ih (Nat.lt_of_not_le hmore)

/-- The piece that is missing holds the rest. -/
theorem le_heldBefore_go_add {size held : Nat} {pieces : List Bytes}
    (hsize : ∀ piece ∈ pieces, piece.length ≤ size)
    (hn : n ≤ held + pieces.flatten.length) :
    n ≤ heldBefore.go n held pieces + size := by
  induction pieces generalizing held with
  | nil => exact Nat.le_add_right_of_le hn
  | cons piece rest ih =>
    rw [heldBefore.go]
    split
    · rename_i hle
      exact Nat.le_trans hle (Nat.add_le_add_left (hsize piece List.mem_cons_self) _)
    · refine ih (fun p hp => hsize p (List.mem_cons_of_mem _ hp)) ?_
      rwa [List.flatten_cons, List.length_append, ← Nat.add_assoc] at hn

/-- **What a reader answers to the request for a line**, and what it has
left. -/
theorem readLine_spec (max : Nat) (r : Reader) :
    let answer := lineAnswer max r.source.ending r.heldBefore r.remaining
    (r.readLine max).1 = answer.1 ∧ (r.readLine max).2.remaining = answer.2 := by
  have key : ∀ pieces buffer scanned, scanned ≤ buffer.length →
      Bytes.lf ∉ buffer.take scanned →
      let answer := lineAnswer max r.source.ending
        (fun n => heldBefore.go n 0 (buffer :: pieces)) (buffer ++ pieces.flatten)
      (readLine.go max r buffer scanned pieces).1 = answer.1 ∧
      (readLine.go max r buffer scanned pieces).2.remaining = answer.2 := by
    intro pieces buffer scanned hle hseen
    fun_induction readLine.go max r buffer scanned pieces with
    | case1 pieces buffer scanned left n hend =>
      -- the line end is buffered
      rw [lineEndFrom?_eq hle hseen] at hend
      obtain ⟨hfound, hn⟩ := lineEnd?_append hend pieces.flatten
      have hbefore : heldBefore.go n 0 (buffer :: pieces) ≤ max := by
        rw [heldBefore.go, if_pos (by rwa [Nat.zero_add])]
        exact Nat.zero_le max
      rw [lineAnswer.eq_def, hfound]
      dsimp only
      rw [if_pos hbefore, List.take_append_of_le_length hn,
        List.drop_append_of_le_length hn]
      exact ⟨rfl, rfl⟩
    | case2 pieces buffer scanned left hend hlong =>
      -- whatever is to come, too much is there already
      rw [lineEndFrom?_eq hle hseen] at hend
      have hview : max < (buffer ++ pieces.flatten).length := by
        rw [List.length_append]
        omega
      rw [lineAnswer_of_long hview fun n hn => ?_]
      · exact ⟨rfl, rfl⟩
      · have hopen := length_lt_of_lineEnd?_append hend hn
        rw [heldBefore.go, if_neg (by omega), Nat.zero_add]
        exact Nat.lt_of_lt_of_le hlong (le_heldBefore_go n _ pieces)
    | case3 buffer scanned hend hshort piece more ih =>
      rw [lineEndFrom?_eq hle hseen] at hend
      have hanswer :=
        ih (by simp) (by rw [List.take_left]; exact lineEnd?_eq_none_iff.1 hend)
      rw [List.append_assoc] at hanswer
      rw [List.flatten_cons, lineAnswer_congr fun n hn => ?_]
      · exact hanswer
      · -- a line end in the piece is not waited for any longer, and one behind it
        -- is as far away as before
        have hopen := length_lt_of_lineEnd?_append hend hn
        rw [heldBefore.go, if_neg (by omega), Nat.zero_add, heldBefore.go,
          heldBefore.go, Nat.zero_add, List.length_append]
        split
        · exact ⟨fun _ => Nat.zero_le max, fun _ => Nat.le_of_not_lt hshort⟩
        · exact Iff.rfl
    | case4 buffer scanned hend hshort hending =>
      rw [lineEndFrom?_eq hle hseen] at hend
      rw [List.flatten_nil, List.append_nil, lineAnswer.eq_def, hend, hending]
      dsimp only
      rw [if_neg hshort]
      exact ⟨rfl, List.append_nil buffer⟩
    | case5 buffer scanned hend hshort fault hending =>
      rw [lineEndFrom?_eq hle hseen] at hend
      rw [List.flatten_nil, List.append_nil, lineAnswer.eq_def, hend, hending]
      dsimp only
      rw [if_neg hshort]
      exact ⟨rfl, List.append_nil buffer⟩
    | case6 buffer scanned hend hshort hending =>
      rw [lineEndFrom?_eq hle hseen] at hend
      rw [List.flatten_nil, List.append_nil, lineAnswer.eq_def, hend, hending]
      dsimp only
      rw [if_neg hshort]
      exact ⟨rfl, List.append_nil buffer⟩
  exact key r.source.pieces r.buffer 0 (Nat.zero_le _) List.not_mem_nil

/-- **A line is read or refused** by how many bytes have arrived before its
end. -/
theorem readLine_of_line (max : Nat) (hline : IsLine line)
    (hr : r.remaining = line ++ rest) :
    (r.readLine max).1 = if r.heldBefore line.length ≤ max then .ok (some line)
      else .error .tooLong := by
  rw [(readLine_spec max r).1, lineAnswer.eq_def, hr, lineEnd?_of_isLine hline]
  dsimp only
  split
  · rw [List.take_left]
  · rfl

theorem heldBefore_lt (hline : IsLine line) :
    r.heldBefore line.length < line.length := by
  obtain ⟨text, -, rfl⟩ := hline
  exact heldBefore_go_lt (by simp) _

/-- The end of a line that is not buffered arrives in one piece with what is not
there before. -/
theorem length_le_heldBefore_add {size : Nat}
    (hsize : ∀ piece ∈ r.source.pieces, piece.length ≤ size)
    (hbuffer : r.buffer.length < line.length) (hr : r.remaining = line ++ rest) :
    line.length ≤ r.heldBefore line.length + size := by
  rw [heldBefore, heldBefore.go, if_neg (by omega)]
  refine le_heldBefore_go_add hsize ?_
  have hlength := congrArg List.length hr
  rw [remaining, Source.remaining, List.length_append, List.length_append] at hlength
  omega

/-- **Readers of the same bytes answer the same** exactly if for both of them,
or for neither, more bytes than the limit arrive before the end of a line in
front. -/
theorem readLine_eq_iff (max : Nat) (hview : r.remaining = t.remaining)
    (hend : r.source.ending = t.source.ending) :
    (r.readLine max).1 = (t.readLine max).1 ↔
      ∀ line rest, IsLine line → r.remaining = line ++ rest →
      (r.heldBefore line.length ≤ max ↔ t.heldBefore line.length ≤ max) := by
  constructor
  · intro hsame line rest hline hr
    rw [readLine_of_line max hline hr,
      readLine_of_line max hline (hview ▸ hr)] at hsame
    by_cases hheld : r.heldBefore line.length ≤ max
    · rw [if_pos hheld] at hsame
      refine ⟨fun _ => Decidable.byContradiction fun hlong => ?_, fun _ => hheld⟩
      rw [if_neg hlong] at hsame
      cases hsame
    · rw [if_neg hheld] at hsame
      refine ⟨fun hbelow => absurd hbelow hheld, fun hbelow => ?_⟩
      rw [if_pos hbelow] at hsame
      cases hsame
  · intro hsides
    rw [(readLine_spec max r).1, (readLine_spec max t).1, ← hview, ← hend]
    refine congrArg Prod.fst (lineAnswer_congr fun n hn => ?_)
    have hside := hsides _ _ (isLine_of_lineEnd? hn)
      (List.take_append_drop n r.remaining).symm
    rwa [List.length_take_of_le (lineEnd?_append hn []).2] at hside

/-- **A line that is read is longer than the limit by no more than a piece**,
unless it is buffered. -/
theorem length_le_of_readLine {size : Nat}
    (hsize : ∀ piece ∈ r.source.pieces, piece.length ≤ size)
    (h : r.readLine max = (.ok (some line), t)) :
    line.length ≤ r.buffer.length ∨ line.length ≤ max + size := by
  have hline := isLine_of_readLine h
  have hr := (remaining_readLine h).1
  have hanswer := readLine_of_line max hline hr
  rw [h] at hanswer
  by_cases hheld : r.heldBefore line.length ≤ max
  · by_cases hbuffer : line.length ≤ r.buffer.length
    · exact .inl hbuffer
    · exact .inr (Nat.le_trans (length_le_heldBefore_add hsize (Nat.lt_of_not_le hbuffer) hr)
        (Nat.add_le_add_right hheld size))
  · rw [if_neg hheld] at hanswer
    cases hanswer

/-- A line of nine bytes is read under a limit of four if it arrives at once,
and refused if its line feed comes later. -/
theorem readLine_eq_iff_long :
    let whole : Reader := { source := ⟨[Bytes.ofText "abcdefgh\n"], .eof⟩ }
    let parts : Reader :=
      { source := ⟨[Bytes.ofText "abcdefgh", Bytes.ofText "\n"], .eof⟩ }
    whole.remaining = parts.remaining ∧
      (∀ piece ∈ whole.source.pieces ++ parts.source.pieces,
        piece ≠ [] ∧ piece.length ≤ Source.pieceSize) ∧
      (whole.readLine 4).1 = .ok (some (Bytes.ofText "abcdefgh\n")) ∧
      (parts.readLine 4).1 = .error .tooLong ∧
      4 < (Bytes.ofText "abcdefgh\n").length := by
  refine ⟨by decide +kernel, by decide +kernel, by rfl, by rfl, by decide +kernel⟩

/-- Two readers of the same bytes that refuse no line answer the same, and have
the same left. -/
theorem readLine_agree (max : Nat) (hview : r.remaining = t.remaining)
    (hend : r.source.ending = t.source.ending) :
    ((r.readLine max).1 = (t.readLine max).1 ∧
      (r.readLine max).2.remaining = (t.readLine max).2.remaining) ∨
      (r.readLine max).1 = .error .tooLong ∨
        (t.readLine max).1 = .error .tooLong := by
  obtain ⟨hanswer, hleft⟩ := readLine_spec max r
  obtain ⟨hanswer', hleft'⟩ := readLine_spec max t
  rw [hanswer, hanswer', hleft, hleft', ← hview, ← hend]
  cases hn : lineEnd? r.remaining with
  | none =>
    have hcongr : lineAnswer max r.source.ending r.heldBefore r.remaining =
        lineAnswer max r.source.ending t.heldBefore r.remaining :=
      lineAnswer_congr fun n h => by rw [hn] at h; cases h
    exact .inl ⟨congrArg Prod.fst hcongr, congrArg Prod.snd hcongr⟩
  | some n =>
    rw [lineAnswer.eq_def, lineAnswer.eq_def, hn]
    dsimp only
    by_cases hr : r.heldBefore n ≤ max
    · by_cases ht : t.heldBefore n ≤ max
      · rw [if_pos hr, if_pos ht]
        exact .inl ⟨rfl, rfl⟩
      · rw [if_neg ht]
        exact .inr (.inr rfl)
    · rw [if_neg hr]
      exact .inr (.inl rfl)

end Reader

namespace Pipe

/-! ## Pipes -/

/-- Pipes whose bytes arrive in different pieces, and were sent on in different
pieces. -/
structure Alike (p q : Pipe) : Prop where
  /-- The same bytes are to come. -/
  remaining : p.reader.remaining = q.reader.remaining
  /-- The senders end in the same way. -/
  ending : p.reader.source.ending = q.reader.source.ending
  /-- The receivers were sent the same bytes. -/
  accepted : p.sink.accepted = q.sink.accepted
  /-- They have the same room. -/
  room : p.sink.room = q.sink.room
  /-- Without room they answer the same. -/
  refusal : p.sink.refusal = q.sink.refusal
  /-- The same number of bytes was counted. -/
  count : p.count = q.count

/-- Results that differ in pieces only. After an error only what was sent
matters. -/
def Agree {α : Type} :
    EStateM.Result RelayError Pipe α → EStateM.Result RelayError Pipe α → Prop
  | .ok a p, .ok b q => a = b ∧ p.Alike q
  | .error e p, .error f q => e = f ∧ p.sink.accepted = q.sink.accepted
  | _, _ => False

/-- A line was refused for its length. -/
def RefusedLine {α : Type} (result : EStateM.Result RelayError Pipe α) : Prop :=
  ∃ q, result = .error (.invalidChunk .lineTooLong) q

/-- Results that agree, or one of them is a refused line. -/
def AgreeUnlessLong {α : Type}
    (result other : EStateM.Result RelayError Pipe α) : Prop :=
  Agree result other ∨ RefusedLine result ∨ RefusedLine other

variable {α β : Type} {p q p' q' : Pipe} {bs : Bytes} {room room' n : Nat}

theorem RefusedLine.andThen {result : EStateM.Result RelayError Pipe α}
    (h : RefusedLine result) (next : α → Step β) :
    RefusedLine (andThen result next) := by
  obtain ⟨q, rfl⟩ := h
  exact ⟨q, rfl⟩

/-- **Steps that agree one after the other agree together.** -/
theorem AgreeUnlessLong.andThen
    {result other : EStateM.Result RelayError Pipe α} {next next' : α → Step β}
    (h : AgreeUnlessLong result other)
    (hnext : ∀ a q q', result = .ok a q → q.Alike q' →
      AgreeUnlessLong (next a q) (next' a q')) :
    AgreeUnlessLong (andThen result next) (andThen other next') := by
  rcases h with hagree | hlong | hlong
  · cases result with
    | ok a q =>
      cases other with
      | ok b q' =>
        obtain ⟨rfl, halike⟩ := hagree
        exact hnext a q q' rfl halike
      | error f q' => exact hagree.elim
    | error e q =>
      cases other with
      | ok b q' => exact hagree.elim
      | error f q' => exact .inl hagree
  · exact .inr (.inl (hlong.andThen next))
  · exact .inr (.inr (hlong.andThen next'))

theorem Alike.symm (h : p.Alike q) : q.Alike p :=
  ⟨h.remaining.symm, h.ending.symm, h.accepted.symm, h.room.symm,
    h.refusal.symm, h.count.symm⟩

/-- Alike pipes fetch the same line. -/
theorem Alike.fetchLine (h : p.Alike p') :
    AgreeUnlessLong (fetchLine p) (fetchLine p') := by
  have hending := Reader.ending_readLine maxChunkLine p.reader
  have hending' := Reader.ending_readLine maxChunkLine p'.reader
  have hagree := Reader.readLine_agree maxChunkLine h.remaining h.ending
  rw [Pipe.fetchLine, Pipe.fetchLine]
  generalize p.reader.readLine maxChunkLine = result at hending hagree ⊢
  generalize p'.reader.readLine maxChunkLine = result' at hending' hagree ⊢
  obtain ⟨answer, t⟩ := result
  obtain ⟨answer', t'⟩ := result'
  dsimp only at hending hending' hagree
  rcases hagree with ⟨rfl, hleft⟩ | rfl | rfl
  · rcases answer with (_ | stop) | _ | line
    · exact .inl ⟨rfl, h.accepted⟩
    · exact .inl ⟨rfl, h.accepted⟩
    · exact .inl ⟨rfl, h.accepted⟩
    · exact .inl ⟨rfl, hleft, hending.trans (h.ending.trans hending'.symm),
        h.accepted, h.room, h.refusal, h.count⟩
  · exact .inr (.inl ⟨_, rfl⟩)
  · exact .inr (.inr ⟨_, rfl⟩)

theorem room_cancel {left left' : Option Nat}
    (h : left.map (n + ·) = left'.map (n + ·)) : left = left' := by
  cases left <;> cases left' <;> simp_all

/-- Receivers with the same room take the same. -/
theorem Alike.emit (h : p.Alike p') (data : Bytes) :
    AgreeUnlessLong (emit data p) (emit data p') := by
  by_cases htakes : p.sink.Takes data.length
  · have htakes' : p'.sink.Takes data.length :=
      fun most hmost => htakes most (h.room.trans hmost)
    obtain ⟨t, ht, hsent, hroom, hrefusal⟩ := Sink.write_of_takes htakes
    obtain ⟨t', ht', hsent', hroom', hrefusal'⟩ := Sink.write_of_takes htakes'
    rw [Pipe.emit, ht, Pipe.emit, ht']
    exact .inl ⟨rfl, h.remaining, h.ending, by rw [hsent, hsent', h.accepted],
      room_cancel (hroom.symm.trans (h.room.trans hroom')),
      hrefusal.trans (h.refusal.trans hrefusal'.symm),
      congrArg (· + data.length) h.count⟩
  · have htakes' : ¬ p'.sink.Takes data.length :=
      fun h' => htakes fun most hmost => h' most (h.room.symm.trans hmost)
    obtain ⟨most, t, hroom, -, ht, hsent⟩ := Sink.write_of_not_takes htakes
    obtain ⟨most', t', hroom', -, ht', hsent'⟩ := Sink.write_of_not_takes htakes'
    obtain rfl : most = most' :=
      Option.some.inj (hroom.symm.trans (h.room.trans hroom'))
    rw [Pipe.emit, ht, Pipe.emit, ht']
    exact .inl ⟨congrArg RelayError.write h.refusal, by rw [hsent, hsent', h.accepted]⟩

/-- Alike pipes are alike when the same bytes went through. -/
theorem Alike.poured (h : p.Alike p') (hq : p.Poured bs q)
    (hq' : p'.Poured bs q') : q.Alike q' where
  remaining := by
    have hview := h.remaining
    rw [hq.taken, hq'.taken] at hview
    exact List.append_cancel_left hview
  ending := hq.ending.trans (h.ending.trans hq'.ending.symm)
  accepted := by rw [hq.sent, hq'.sent, h.accepted]
  room := room_cancel (hq.room.symm.trans (h.room.trans hq'.room))
  refusal := hq.refusal.trans (h.refusal.trans hq'.refusal.symm)
  count := by rw [hq.count, hq'.count, h.count]

/-- A copy is dry when it failed in no write: it has copied all there was. -/
def Dry (p : Pipe) (bs : Bytes) (e : RelayError) : Prop :=
  (∀ fault, e ≠ .write fault) →
    bs = p.reader.remaining ∧ e = p.reader.source.ending.relayError

/-- A copy that fails where there is no room does not fail for want of bytes
from an alike pipe. -/
theorem Alike.not_dry {e e' : RelayError} {cs : Bytes} {fault : Fault}
    (h : p.Alike p') (hq : p.Halted bs e q) (he : e = .write fault)
    (hq' : p'.Halted cs e' q') (hcs : cs = p'.reader.remaining) : False := by
  obtain ⟨-, hfull, hmore⟩ := hq.full fault he
  have htakes := hq'.takes _ (h.room.symm.trans hfull)
  rw [hcs, ← h.remaining] at htakes
  omega

/-- **Copies from alike pipes that fail agree.** -/
theorem Alike.halted {e e' : RelayError} {cs : Bytes} (h : p.Alike p')
    (hq : p.Halted bs e q) (hdry : p.Dry bs e) (hq' : p'.Halted cs e' q')
    (hdry' : p'.Dry cs e') : e = e' ∧ q.sink.accepted = q'.sink.accepted := by
  have hsent : bs = cs → q.sink.accepted = q'.sink.accepted := by
    rintro rfl
    rw [hq.sent, hq'.sent, h.accepted]
  rcases e.write_or with ⟨fault, he⟩ | he
  · rcases e'.write_or with ⟨fault', he'⟩ | he'
    · obtain ⟨hrefusal, hfull, -⟩ := hq.full fault he
      obtain ⟨hrefusal', hfull', -⟩ := hq'.full fault' he'
      have hlength : bs.length = cs.length :=
        Option.some.inj (hfull.symm.trans (h.room.trans hfull'))
      have hpart := List.prefix_of_prefix_length_le hq.part
        (h.remaining ▸ hq'.part) (Nat.le_of_eq hlength)
      refine ⟨?_, hsent (hpart.eq_of_length hlength)⟩
      rw [he, he', hrefusal, hrefusal', h.refusal]
    · exact (h.not_dry hq he hq' (hdry' he').1).elim
  · obtain ⟨hbs, hend⟩ := hdry he
    rcases e'.write_or with ⟨fault', he'⟩ | he'
    · exact (h.symm.not_dry hq' he' hq hbs).elim
    · obtain ⟨hcs, hend'⟩ := hdry' he'
      exact ⟨by rw [hend, hend', h.ending], hsent (by rw [hbs, hcs, h.remaining])⟩

/-- Copies of a known length from alike pipes agree, whatever room there is for
a piece. -/
theorem Alike.copyLength (h : p.Alike p') (hroom : 0 < room)
    (hroom' : 0 < room') (n : Nat) :
    Agree (copyLength room n p) (copyLength room' n p') := by
  have hiff := copyLength_eq_ok_iff hroom n p
  have hiff' := copyLength_eq_ok_iff hroom' n p'
  have htakes : ∀ n, p.sink.Takes n ↔ p'.sink.Takes n :=
    fun n => by rw [Sink.Takes, Sink.Takes, h.room]
  rw [h.remaining, htakes, ← hiff'] at hiff
  cases hq : Pipe.copyLength room n p with
  | ok _ q =>
    obtain ⟨q', hq'⟩ := hiff.1 ⟨q, hq⟩
    rw [hq']
    obtain ⟨bs, hbs, hpoured⟩ := poured_of_copyLength hq
    obtain ⟨bs', hbs', hpoured'⟩ := poured_of_copyLength hq'
    have hview := h.remaining
    rw [hpoured.taken, hpoured'.taken] at hview
    obtain ⟨rfl, -⟩ := List.append_inj hview (hbs.trans hbs'.symm)
    exact ⟨rfl, h.poured hpoured hpoured'⟩
  | error e q =>
    cases hq' : Pipe.copyLength room' n p' with
    | ok _ q' =>
      obtain ⟨t, ht⟩ := hiff.2 ⟨q', hq'⟩
      rw [hq] at ht
      cases ht
    | error e' q' =>
      obtain ⟨bs, -, hhalted, hdry⟩ := halted_of_copyLength hq
      obtain ⟨bs', -, hhalted', hdry'⟩ := halted_of_copyLength hq'
      exact h.halted hhalted (hdry hroom) hhalted' (hdry' hroom')

theorem Alike.copyChunkSize (h : p.Alike p') :
    AgreeUnlessLong (copyChunkSize p) (copyChunkSize p') := by
  rw [copyChunkSize_eq, copyChunkSize_eq]
  refine h.fetchLine.andThen fun line q q' _ hq => ?_
  cases chunkSize line with
  | error flaw => exact .inl ⟨rfl, hq.accepted⟩
  | ok n => exact (hq.emit line).andThen fun _ s s' _ hs => .inl ⟨rfl, hs⟩

theorem Alike.copyChunkEnd (h : p.Alike p') :
    AgreeUnlessLong (copyChunkEnd p) (copyChunkEnd p') := by
  rw [copyChunkEnd_eq, copyChunkEnd_eq]
  refine h.fetchLine.andThen fun line q q' _ hq => ?_
  split
  · exact hq.emit line
  · exact .inl ⟨rfl, hq.accepted⟩

/-- Alike pipes have the same trailers. -/
theorem Alike.copyTrailers (h : p.Alike p') :
    AgreeUnlessLong (copyTrailers p) (copyTrailers p') := by
  induction hlength : p.reader.remaining.length using Nat.strongRecOn
      generalizing p p' with
  | ind length ih =>
    rw [copyTrailers_eq, copyTrailers_eq]
    refine h.fetchLine.andThen fun line q q' hq halike =>
      (halike.emit line).andThen fun _ s s' hs halike => ?_
    split
    · exact .inl ⟨rfl, halike⟩
    · refine ih s.reader.remaining.length ?_ halike rfl
      rw [emit_reader hs, ← hlength]
      exact fetchLine_length_lt hq

/-- **Alike pipes have the same chunks.** -/
theorem Alike.copyChunks (h : p.Alike p') (hroom : 0 < room)
    (hroom' : 0 < room') :
    AgreeUnlessLong (copyChunks room p) (copyChunks room' p') := by
  induction hlength : p.reader.remaining.length using Nat.strongRecOn
      generalizing p p' with
  | ind length ih =>
    rw [copyChunks_eq, copyChunks_eq]
    refine h.copyChunkSize.andThen fun n q₁ q₁' h₁ halike₁ => ?_
    split
    · exact halike₁.copyTrailers
    · refine AgreeUnlessLong.andThen (.inl (halike₁.copyLength hroom hroom' n))
        fun _ q₂ q₂' h₂ halike₂ => ?_
      refine halike₂.copyChunkEnd.andThen fun _ q₃ q₃' h₃ halike₃ => ih _ ?_ halike₃ rfl
      have hsize := copyChunkSize_length_lt h₁
      have hdata := copyLength_length_le h₂
      have hend := copyChunkEnd_length_lt h₃
      omega

/-- **Lines and chunked bodies as they arrive**, where the same bytes arrive in
any two ways. A line is read the same exactly if both or neither have more bytes
than the limit there before the piece with its end; so one within the limit is
read, however it arrives, and what is read is within the limit and one piece
more, unless it is buffered. Relays of a chunked body, whose bytes are taken in
whatever pieces, come to the same and send on the same, unless one of them
refuses a line for its length. -/
theorem cuts_agree (h : p.Alike p') (max : Nat) (hroom : 0 < room)
    (hroom' : 0 < room') :
    ((p.reader.readLine max).1 = (p'.reader.readLine max).1 ↔
      ∀ line rest, Reader.IsLine line → p.reader.remaining = line ++ rest →
        (p.reader.heldBefore line.length ≤ max ↔
          p'.reader.heldBefore line.length ≤ max)) ∧
    (∀ line rest, Reader.IsLine line → p.reader.remaining = line ++ rest →
      p.reader.heldBefore line.length < line.length ∧
      (p.reader.readLine max).1 =
        if p.reader.heldBefore line.length ≤ max then .ok (some line)
        else .error .tooLong) ∧
    (∀ size line, (∀ piece ∈ p.reader.source.pieces, piece.length ≤ size) →
      (p.reader.readLine max).1 = .ok (some line) →
      line.length ≤ p.reader.buffer.length ∨ line.length ≤ max + size) ∧
    AgreeUnlessLong (relay .chunked room p) (relay .chunked room' p') := by
  refine ⟨Reader.readLine_eq_iff max h.remaining h.ending, fun line rest hline hr => ?_,
    fun size line hsize hread => ?_, h.copyChunks hroom hroom'⟩
  · exact ⟨Reader.heldBefore_lt hline, Reader.readLine_of_line max hline hr⟩
  · exact Reader.length_le_of_readLine hsize (Prod.ext hread rfl)

/-- A chunked body that arrives in two pieces and is taken by three bytes at a
time, and the same at once. -/
theorem cuts_agree_body :
    let p : Pipe :=
      { reader :=
          ⟨[], ⟨[Bytes.ofText "5\r\nhe", Bytes.ofText "llo\r\n0\r\n\r\n"], .silent⟩⟩
        sink := {} }
    let p' : Pipe :=
      { reader := ⟨Bytes.ofText "5\r\nhello\r\n0\r\n\r\n", ⟨[], .silent⟩⟩
        sink := {} }
    0 < 3 ∧ 0 < 8 ∧ p.Alike p' ∧
      ∃ q q', relay .chunked 3 p = .ok () q ∧ relay .chunked 8 p' = .ok () q' ∧
        q.Alike q' := by
  intro p p'
  have halike : p.Alike p' := ⟨by decide +kernel, rfl, rfl, rfl, rfl, rfl⟩
  have hlf : ∀ text : Bytes, Bytes.lf ∉ text →
      (text ++ [Bytes.lf]).length ≤ maxChunkLine →
      IsShortLine (text ++ [Bytes.lf]) := fun text h hle => ⟨⟨text, h, rfl⟩, hle⟩
  have hbody : ChunkedBody IsShortLine
      (Bytes.ofText "5\r\n" ++ (Bytes.ofText "hello" ++ (Bytes.ofText "\r\n" ++
        (Bytes.ofText "0\r\n" ++ Bytes.ofText "\r\n")))) :=
    .chunk (hlf (Bytes.ofText "5\r") (by decide +kernel) (by decide +kernel))
      (by rfl) (by decide +kernel) (hlf [13] (by decide) (by decide)) (by decide)
      (.last (hlf (Bytes.ofText "0\r") (by decide +kernel) (by decide +kernel)) (by rfl)
        (.done (hlf [13] (by decide) (by decide)) (by decide)))
  have hview : p.reader.remaining =
      Bytes.ofText "5\r\n" ++ (Bytes.ofText "hello" ++ (Bytes.ofText "\r\n" ++
        (Bytes.ofText "0\r\n" ++ Bytes.ofText "\r\n"))) ++ [] := by decide +kernel
  obtain ⟨q, hq, -⟩ :=
    copyChunks_of_chunkedBody (show 0 < 3 by decide) hbody rfl hview
  obtain ⟨q', hq', -⟩ := copyChunks_of_chunkedBody (show 0 < 8 by decide) hbody
    rfl (halike.remaining.symm.trans hview)
  obtain ⟨-, -, -, hagree⟩ :=
    cuts_agree halike 4096 (show 0 < 3 by decide) (show 0 < 8 by decide)
  refine ⟨by decide, by decide, halike, q, q', hq, hq', ?_⟩
  rw [relay, relay, hq, hq'] at hagree
  rcases hagree with ⟨-, halike⟩ | ⟨_, hlong⟩ | ⟨_, hlong⟩
  · exact halike
  · cases hlong
  · cases hlong

end Pipe

end Gateway
