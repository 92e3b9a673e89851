import Gateway.Proofs.Announcing
import Gateway.Proofs.Editing

/-!
# What a failure is answered with

The answer to a request that failed is one string, but it is a message: a head
that says how long its text is, and behind it the text, whatever is in that. So
any reader of messages takes the head for what it is and the text as it was, and
finds nothing behind it.

* `Response.wellFormed_refusal`: its head reads back;
* `Response.framing_refusal`, `Response.keepAlive_refusal`: the head says where
  the text ends, and that the connection closes;
* `Response.errorResponse_reads_back`: the gateway reads the whole answer as it
  was meant.
-/

namespace Gateway

open Text (max64)

theorem Bytes.length_ofText (s : String) :
    (ofText s).length = s.utf8ByteSize := by
  rw [ofText, Array.length_toList, ← ByteArray.size, String.size_toByteArray]

theorem Headers.isElement_toString (n : Nat) : IsElement (toString n) := by
  have hchars {P : Char → Prop} (hdigits : ∀ d < 16, P (Nat.digitChar d)) :
      ∀ c ∈ (toString n).toList, P c := by
    rw [Nat.toString_eq_ofList_toDigits, String.toList_ofList]
    exact Text.forall_mem_toDigits hdigits (by decide) (by decide) n
  refine ⟨hchars (by decide), fun hc => hchars (P := (· ≠ ',')) (by decide) _ hc rfl, ?_⟩
  rw [Nat.toString_eq_ofList_toDigits]
  simp

namespace Response

variable {status : Nat} {message : String}

/-- **The head of such an answer reads back.** -/
theorem wellFormed_refusal (hrange : 100 ≤ status ∧ status < 1000)
    (message : String) :
    (refusal status message).WellFormed where
  range := hrange
  unbroken := by
    simp only [refusal, reasonPhrase]
    split <;> exact unbroken_of_not_mem (by decide)
  headers := by
    intro h hmem
    simp only [refusal, List.mem_cons, List.not_mem_nil, or_false] at hmem
    rcases hmem with rfl | rfl | rfl
    · exact ⟨by decide, Header.isValue_of_plain (by decide)⟩
    · exact ⟨(by decide : Header.IsName "Content-Length".toList),
        Header.isValue_of_plain (Headers.isElement_toString _).plain⟩
    · exact ⟨by decide, Header.isValue_of_plain (by decide)⟩

theorem getAll_refusal (status : Nat) (message : String) :
    (refusal status message).headers.contains "transfer-encoding" = false ∧
      (refusal status message).headers.getAll "content-length" =
        [toString message.utf8ByteSize] ∧
      (refusal status message).headers.getAll "connection" = ["close"] := by
  simp only [refusal]
  generalize toString message.utf8ByteSize = value
  have hnamed : ∀ name, Header.named name ⟨"Content-Length", value⟩ =
      Header.named name ⟨"Content-Length", ""⟩ :=
    fun _ => rfl
  simp only [Headers.contains, Headers.getAll, List.any_cons,
    List.filter_cons, hnamed]
  exact ⟨by rfl, by rfl, by rfl⟩

theorem keepAlive_refusal (status : Nat) (message : String) :
    (refusal status message).keepAlive = false := by
  have hclose : (refusal status message).headers.hasElement "connection"
      "close" = true := by
    rw [Headers.hasElement, Headers.elements_eq, (getAll_refusal status message).2.2]
    rfl
  exact congrArg (!·) hclose

/-- **Such an answer says how long its text is**, unless its status rules a text
out. -/
theorem framing_refusal
    (hbody : (refusal status message).hasNoBody false = false)
    (hsize : message.utf8ByteSize ≤ max64) :
    (refusal status message).framing false =
      .ok (if message.utf8ByteSize = 0 then .empty else .length message.utf8ByteSize) := by
  obtain ⟨hcodings, hlength, -⟩ := getAll_refusal status message
  have helements : (refusal status message).headers.elements "content-length" =
      [toString message.utf8ByteSize] := by
    rw [Headers.elements_eq, hlength, List.flatMap_singleton]
    exact (Headers.isElement_toString message.utf8ByteSize).elementsOf_eq [] nofun
  have hvalue : Text.unsigned? 10 max64 (toString message.utf8ByteSize).toList =
      some message.utf8ByteSize := by
    rw [Nat.toString_eq_ofList_toDigits, String.toList_ofList,
      Text.unsigned?_toDigits hsize]
  have hagreed : Headers.agreedLength [toString message.utf8ByteSize] =
      .ok (some message.utf8ByteSize) := by
    rw [Headers.agreedLength, Headers.agreedLength.lengthOf, hvalue]
    rfl
  rw [framing, hbody, Headers.declaredFraming, hcodings]
  simp only [Bool.false_eq_true, if_false, helements, hagreed, Except.map,
    Option.map_some]

/-- **The gateway reads its own answers**: in whatever pieces one arrives and
whatever its text is, its head is found, with the status that was meant and the
word that the connection closes, and a relay copies the text and stops behind
it. The text may be as long as a length can say, which is longer than any
machine holds. -/
theorem errorResponse_reads_back (hrange : 200 ≤ status ∧ status < 1000)
    (hbody : status ≠ 204 ∧ status ≠ 304) (hsize : message.utf8ByteSize ≤ max64) :
    ∃ raw head framing,
      errorResponse status message = raw ++ Bytes.ofText message ∧
      parse raw = .ok head ∧ head.status = status ∧ head.version = .http11 ∧
      head.keepAlive = false ∧ head.framing false = .ok framing ∧
      ∀ (max room count : Nat) (r : Reader) (sink : Sink) (rest : Bytes),
        raw.length ≤ max → 0 < room → sink.room = none →
        r.remaining = errorResponse status message ++ rest →
          ∃ t q, r.readHead max = (.ok (some raw), t) ∧
            Pipe.relay framing room
              { reader := t, sink := sink, count := count } = .ok () q ∧
            q.sink.accepted = sink.accepted ++ Bytes.ofText message ∧
            q.count = count + message.utf8ByteSize ∧ q.reader.remaining = rest := by
  have hwell :=
    wellFormed_refusal ⟨Nat.le_trans (by decide) hrange.1, hrange.2⟩ message
  have hnobody : (refusal status message).hasNoBody false = false := by
    simp [hasNoBody, isInformational, refusal, hbody.1, hbody.2, hrange.1]
  refine ⟨(refusal status message).encode, refusal status message, _,
    errorResponse_eq status message, parse_encode hwell
      (Nat.le_of_ble_eq_true rfl), rfl, rfl, keepAlive_refusal status message,
    framing_refusal hnobody hsize, ?_⟩
  intro max room count r sink rest hmax hroom hsink hremaining
  rw [errorResponse_eq, List.append_assoc] at hremaining
  have hhead : Reader.headOf? max r.remaining =
      some (_, Bytes.ofText message ++ rest) :=
    hremaining ▸ headOf?_encode hwell hmax _
  obtain ⟨t, hread, hleft, -⟩ := Reader.readHead_of_headOf? hhead
  have hdelimits : Delimits IsShortLine (if message.utf8ByteSize = 0 then .empty
      else .length message.utf8ByteSize) (Bytes.ofText message) := by
    split
    · rename_i hzero
      exact List.length_eq_zero_iff.1 ((Bytes.length_ofText message).trans hzero)
    · exact Bytes.length_ofText message
  obtain ⟨q, hrelay, hmoved, hrest⟩ :=
    Pipe.relay_of_delimits (p := ⟨t, sink, count⟩) hroom hdelimits hsink hleft
  exact ⟨t, q, hread, hrelay, hmoved.sent,
    Bytes.length_ofText message ▸ hmoved.count, hrest⟩

/-- A text with line ends, an empty line, a head of its own and a letter of two
bytes, in an answer that arrives byte by byte. -/
theorem errorResponse_reads_back_bytewise :
    let message := "caf\u00e9\r\n\r\nHTTP/1.1 200 OK\r\n\r\n"
    let r : Reader :=
      { source :=
          { pieces := (errorResponse 502 message).map ([·]), ending := .silent } }
    ∃ raw head framing t q, r.readHead 4096 = (.ok (some raw), t) ∧
      parse raw = .ok head ∧ head.status = 502 ∧
      head.keepAlive = false ∧ head.framing false = .ok framing ∧
      Pipe.relay framing 7 { reader := t, sink := {} } = .ok () q ∧
      q.sink.accepted = Bytes.ofText message ∧
      q.count = 28 ∧ q.reader.remaining = [] := by
  intro message r
  obtain ⟨raw, head, framing, hanswer, hparse, hstatus, -, hkeep, hframing, hreads⟩ :=
    @errorResponse_reads_back 502 message (by decide) (by decide) (by decide)
  have hmax : raw.length ≤ 4096 := by
    have hlength : (errorResponse 502 message).length ≤ 4096 := by
      rw [errorResponse, Bytes.length_ofText]
      decide
    rw [hanswer, List.length_append] at hlength
    omega
  have hremaining : r.remaining = errorResponse 502 message ++ [] := by
    simp [r, Reader.remaining, Source.remaining, ← List.flatMap_def]
  obtain ⟨t, q, hread, hrelay, hsent, hcount, hrest⟩ :=
    hreads 4096 7 0 r {} [] hmax (by decide) rfl hremaining
  exact ⟨raw, head, framing, t, q, hread, hparse, hstatus, hkeep, hframing,
    hrelay, hsent, hcount, hrest⟩

end Response

end Gateway
