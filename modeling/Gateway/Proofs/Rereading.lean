import Gateway.Proofs.Responses

/-!
# Every head that is read can be written and read again

A reader of heads is generous: it takes blanks around values, lone CRs and LFs,
any text in a target or a reason, and start lines without a reason. What it
reads is nevertheless always well-formed and never too long, and heads like that
are what its own writer and reader agree on.

* `Head.length_le_of_parse`: a head that was read has no more headers than a
  head may have;
* `Request.exists_parse_iff`, `Response.exists_parse_iff`: which heads can be
  read at all;
* `Head.parse_encode_of_parse`: what was read reads back as it was.
-/

namespace Gateway

namespace Head

/-- Lines that are read fill the room and no more. -/
theorem length_le_of_addLines {ls : List (List Char)} {hs more : Headers}
    (hroom : hs.length ≤ maxHeaders) (h : ls.foldlM addLine hs = .ok more) :
    more.length ≤ maxHeaders := by
  induction ls generalizing hs with
  | nil =>
    cases h
    exact hroom
  | cons l ls ih =>
    rw [List.foldlM_cons] at h
    cases hadd : addLine hs l with
    | error flaw =>
      rw [hadd] at h
      cases h
    | ok next =>
      rw [hadd] at h
      obtain ⟨header, -, hfull, hlist⟩ := addLine_cases hadd
      have hlength : next.length = hs.length + 1 := by simp [Headers.length, hlist]
      exact ih (by omega) h

/-- **A head that was read has no more headers than a head may have.** -/
theorem length_le_of_parse {raw : Bytes} {head : Head}
    (h : parse raw = .ok head) :
    head.headers.length ≤ maxHeaders := by
  rw [parse.eq_def] at h
  split at h
  · rw [ofText.eq_def] at h
    split at h
    · cases h
    · cases h
    · rename_i ls _ _
      cases hadd : ls.foldlM addLine {} with
      | error flaw =>
        rw [hadd] at h
        cases h
      | ok headers =>
        rw [hadd] at h
        cases h
        exact length_le_of_addLines (Nat.zero_le _) hadd
  · cases h

end Head

theorem Request.length_le_of_parse {raw : Bytes} {r : Request}
    (h : parse raw = .ok r) :
    r.headers.length ≤ Head.maxHeaders := by
  obtain ⟨head, hhead, hof⟩ := Head.exists_of_bind_parse h
  obtain ⟨-, -, -, -, hheaders⟩ := ofHead_cases hof
  rw [hheaders]
  exact Head.length_le_of_parse hhead

/-- **The requests that can be read** are the well-formed ones of so many
headers. -/
theorem Request.exists_parse_iff {r : Request} :
    (∃ raw, parse raw = .ok r) ↔
      r.WellFormed ∧ r.headers.length ≤ Head.maxHeaders := by
  constructor
  · rintro ⟨raw, h⟩
    exact ⟨wellFormed_of_parse h, length_le_of_parse h⟩
  · rintro ⟨hwell, hroom⟩
    exact ⟨r.encode, parse_encode hwell hroom⟩

theorem Response.length_le_of_parse {raw : Bytes} {r : Response}
    (h : parse raw = .ok r) :
    r.headers.length ≤ Head.maxHeaders := by
  obtain ⟨head, hhead, hof⟩ := Head.exists_of_bind_parse h
  obtain ⟨-, -, hheaders⟩ := ofHead_cases hof
  rw [hheaders]
  exact Head.length_le_of_parse hhead

/-- **The responses that can be read** are the well-formed ones of so many
headers. -/
theorem Response.exists_parse_iff {r : Response} :
    (∃ raw, parse raw = .ok r) ↔
      r.WellFormed ∧ r.headers.length ≤ Head.maxHeaders := by
  constructor
  · rintro ⟨raw, h⟩
    exact ⟨wellFormed_of_parse h, length_le_of_parse h⟩
  · rintro ⟨hwell, hroom⟩
    exact ⟨r.encode, parse_encode hwell hroom⟩

namespace Head

/-- **What was read reads back as it was**, whatever the bytes were: the start
line, and the headers in their order, with their names as they were spelled and
their values. -/
theorem parse_encode_of_parse (raw : Bytes) :
    (∀ r, Request.parse raw = .ok r → Request.parse r.encode = .ok r) ∧
      ∀ r, Response.parse raw = .ok r → Response.parse r.encode = .ok r := by
  constructor
  · intro r h
    obtain ⟨hwell, hroom⟩ := Request.exists_parse_iff.1 ⟨raw, h⟩
    exact Request.parse_encode hwell hroom
  · intro r h
    obtain ⟨hwell, hroom⟩ := Response.exists_parse_iff.1 ⟨raw, h⟩
    exact Response.parse_encode hwell hroom

/-- Lone CRs and LFs in a target and in values, values of blanks alone, one name
in two spellings, and a reason of blanks that ends in a CR. -/
theorem parse_encode_of_parse_odd :
    let request : Request := ⟨"Get", "/ü\r?\n", .http10,
      ⟨[⟨"X-Ü", "a\rb\nc"⟩, ⟨"Via", ""⟩, ⟨"VIA", ":"⟩]⟩⟩
    let response : Response := ⟨.http11, 404, "  not\nhere \r", ⟨[⟨"A", ""⟩]⟩⟩
    let asked := Bytes.ofText
      "Get /ü\r?\n HTTP/1.0\r\nX-Ü:\u00a0a\rb\nc\r \u2003\r\nVia:\r\nVIA: :\t\r\n\r\n"
    let answered := Bytes.ofText "HTTP/1.1 404   not\nhere \r\r\nA: \r \r\n"
    (Request.parse asked = .ok request ∧
      Request.parse request.encode = .ok request ∧ request.encode ≠ asked) ∧
      Response.parse answered = .ok response ∧
      Response.parse response.encode = .ok response ∧
      response.encode ≠ answered := by
  intro request response asked answered
  have hasked : Request.parse asked = .ok request := by decide +kernel
  have hanswered : Response.parse answered = .ok response := by decide +kernel
  exact ⟨⟨hasked, (parse_encode_of_parse asked).1 request hasked, by decide +kernel⟩,
    hanswered, (parse_encode_of_parse answered).2 response hanswered, by
    decide +kernel⟩

end Head

end Gateway
