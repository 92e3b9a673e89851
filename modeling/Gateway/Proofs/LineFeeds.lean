import Mathlib.Data.List.Forall2
import Gateway.Proofs.Responses

/-!
# Line feeds inside lines

Heads are cut at CRLF alone, so a line feed without a carriage return in front
of it is a character like others: a target, a reason phrase and the value of a
header can have one, and it is sent on where it was. Other readers end their
lines at line feeds, as the reader of chunk sizes does. For them such a line
feed begins a line that the gateway does not see, and what follows it can be a
header.

* `Text.feedLines`, `Head.seenBy`: lines that end at line feeds, and what a
  receiver makes of a head that it cuts into lines in its own way;
* `Request.count_lf_encode`: the line feeds of a request are those of its line
  ends and of its target and values;
* `Head.seenBy_feedLines_eq_iff`: a receiver that ends lines at line feeds sees
  the head that was sent exactly if no line has a line feed in it;
* `Head.Unmixed.oneLine`: what is read of lines without carriage returns and
  line feeds has none;
* `Head.line_feeds_of_parse`: what this comes to for the heads that are read and
  for what the backend gets.
-/

namespace Gateway

/-! ## Lines that end at line feeds -/

namespace Text

/-- Neither a carriage return nor a line feed is in the text. -/
def OneLine (cs : List Char) : Prop :=
  '\r' ∉ cs ∧ '\n' ∉ cs

instance (cs : List Char) : Decidable (OneLine cs) :=
  inferInstanceAs (Decidable ('\r' ∉ cs ∧ '\n' ∉ cs))

theorem OneLine.of_subset {cs part : List Char} (h : OneLine cs)
    (hpart : part ⊆ cs) : OneLine part :=
  ⟨fun hcr => h.1 (hpart hcr), fun hlf => h.2 (hpart hlf)⟩

/-- Takes the carriage return off the end of a line. -/
def dropFinalCr (line : List Char) : List Char :=
  if line.getLast? = some '\r' then line.dropLast else line

/-- Cuts a text at every line feed, with or without a carriage return in front
of it. -/
def feedLines (cs : List Char) : List (List Char) :=
  (pieces '\n' cs).map dropFinalCr

theorem dropFinalCr_append_cr (line : List Char) :
    dropFinalCr (line ++ ['\r']) = line := by
  rw [dropFinalCr, List.getLast?_concat, if_pos rfl, List.dropLast_concat]

theorem mem_of_mem_dropFinalCr {line : List Char} {c : Char}
    (h : c ∈ dropFinalCr line) : c ∈ line := by
  rw [dropFinalCr] at h
  split at h
  · exact List.dropLast_subset _ h
  · exact h

/-- **Joined lines are cut where they were joined** if none has a line feed in
it. -/
theorem feedLines_joined {ls : List (List Char)} (h : ∀ l ∈ ls, '\n' ∉ l)
    (rest : List Char) :
    feedLines (joined ls ++ rest) = ls ++ feedLines rest := by
  induction ls with
  | nil => rfl
  | cons l ls ih =>
    have hl : '\n' ∉ l ++ ['\r'] := by
      rw [List.mem_append, not_or]
      exact ⟨h l List.mem_cons_self, by decide⟩
    have hcut : joined (l :: ls) ++ rest =
        (l ++ ['\r']) ++ '\n' :: (joined ls ++ rest) := by
      simp [joined_cons, crlf]
    rw [hcut, feedLines, pieces_append hl, List.map_cons,
      dropFinalCr_append_cr, ← feedLines,
      ih fun l hl => h l (List.mem_cons_of_mem _ hl)]
    rfl

theorem newline_not_mem_of_mem_feedLines {cs line : List Char}
    (h : line ∈ feedLines cs) : '\n' ∉ line := by
  obtain ⟨piece, hpiece, rfl⟩ := List.mem_map.1 h
  have hpieces : ∀ piece ∈ pieces '\n' cs, ∀ c ∈ piece, c ≠ '\n' :=
    forall_pieces_iff.2 fun c _ => Classical.em (c = '\n')
  exact fun hc => hpieces piece hpiece '\n' (mem_of_mem_dropFinalCr hc) rfl

theorem count_joined (ls : List (List Char)) :
    (joined ls).count '\n' = (ls.map (·.count '\n')).sum + ls.length := by
  induction ls with
  | nil => rfl
  | cons l ls ih =>
    have hcrlf : crlf.count '\n' = 1 := by decide
    rw [joined_cons, List.count_append, List.count_append, ih, hcrlf,
      List.map_cons, List.sum_cons, List.length_cons]
    omega

end Text

/-- **A text has as many line feeds as its bytes.** -/
theorem Bytes.count_lf_ofText (s : String) :
    (ofText s).count lf = s.toList.count '\n' := by
  have hchar : ∀ c, (String.utf8EncodeChar c).count lf = if c = '\n' then 1 else 0 := by
    intro c
    by_cases hc : c = '\n'
    · rw [hc]
      decide
    · rw [if_neg hc, List.count_eq_zero]
      exact fun hmem => hc (Char.toNat_inj.1 (utf8EncodeChar_of_mem hmem (by decide)).2)
  rw [ofText_eq]
  induction s.toList with
  | nil => rfl
  | cons c cs ih =>
    rw [List.flatMap_cons, List.count_append, ih, hchar,
      List.count_cons, Nat.add_comm]
    simp

/-! ## What a receiver sees -/

/-- What can be read of every element, read in order. -/
theorem mapM_eq_ok_iff {α β ε : Type} {f : α → Except ε β} {xs : List α}
    {ys : List β} :
    xs.mapM f = .ok ys ↔ List.Forall₂ (fun x y => f x = .ok y) xs ys := by
  induction xs generalizing ys with
  | nil =>
    rw [List.mapM_nil, List.forall₂_nil_left_iff]
    exact ⟨fun h => (Except.ok.inj h).symm, fun h => congrArg Except.ok h.symm⟩
  | cons x xs ih =>
    rw [List.mapM_cons, List.forall₂_cons_left_iff]
    cases hx : f x with
    | error e => exact ⟨fun h => (nomatch h), fun ⟨_, _, hy, _⟩ => (nomatch hy)⟩
    | ok y =>
      simp only [← ih]
      cases hxs : xs.mapM f with
      | error e =>
        exact ⟨fun h => (nomatch h), fun ⟨_, _, _, hys, _⟩ => (nomatch hys)⟩
      | ok more =>
        constructor
        · rintro ⟨⟩
          exact ⟨y, more, rfl, rfl, rfl⟩
        · rintro ⟨_, _, ⟨⟩, ⟨⟩, rfl⟩
          rfl

/-- What was read was read of an element. -/
theorem exists_of_mem_mapM {α β ε : Type} {f : α → Except ε β} {xs : List α}
    {ys : List β} (h : xs.mapM f = .ok ys) {y : β}
    (hy : y ∈ ys) : ∃ x ∈ xs, f x = .ok y := by
  have hread := mapM_eq_ok_iff.1 h
  clear h
  induction hread with
  | nil => exact absurd hy List.not_mem_nil
  | @cons x _ xs _ hx _ ih =>
    rcases List.mem_cons.1 hy with rfl | hy
    · exact ⟨x, List.mem_cons_self, hx⟩
    · obtain ⟨x', hx', hread'⟩ := ih hy
      exact ⟨x', List.mem_cons_of_mem _ hx', hread'⟩

namespace Header

theorem IsName.control_not_mem {name : List Char} {c : Char} (h : IsName name)
    (hc : Text.isControlOrBlank c = true) :
    c ∉ name := by
  intro hmem
  rw [h.clean c hmem] at hc
  cases hc

theorem IsName.oneLine {name : List Char}
    (h : IsName name) : Text.OneLine name :=
  ⟨h.control_not_mem (by decide), h.control_not_mem (by decide)⟩

theorem WellFormed.count_line {h : Header} (hh : h.WellFormed) :
    h.line.count '\n' = h.value.toList.count '\n' := by
  have hname : h.name.toList.count '\n' = 0 := List.count_eq_zero.2 hh.name.oneLine.2
  simp [line, hname]

end Header

namespace Head

/-- What a receiver that cuts texts into lines in its own way makes of the bytes
of a head: the start line, and the headers up to the first empty line. -/
def seenBy (cut : List Char → List (List Char))
    (raw : Bytes) : Except Flaw Head :=
  match Bytes.text? raw with
  | none => .error .notText
  | some text =>
    match (cut text.toList).takeWhile (· ≠ []) with
    | [] => .error .missingStartLine
    | start :: ls =>
      (ls.mapM headerOfLine).map fun headers => ⟨String.ofList start, ⟨headers⟩⟩

/-- **What a receiver sees was in its lines**, the start line and each value in
one of them. -/
theorem exists_line_of_seenBy {cut : List Char → List (List Char)} {raw : Bytes}
    {head : Head} (h : seenBy cut raw = .ok head) :
    ∃ text, Bytes.text? raw = some text ∧ head.start.toList ∈ cut text.toList ∧
      ∀ one ∈ head.headers.list, ∃ line ∈ cut text.toList,
        one.value.toList <:+: line := by
  rw [seenBy.eq_def] at h
  split at h
  · cases h
  · rename_i text htext
    split at h
    · cases h
    · rename_i start ls hlines
      cases hread : ls.mapM headerOfLine with
      | error flaw =>
        rw [hread] at h
        cases h
      | ok headers =>
        rw [hread] at h
        cases h
        have hmem : ∀ l ∈ start :: ls, l ∈ cut text.toList := by
          rw [← hlines]
          exact fun l hl => List.takeWhile_subset _ hl
        refine ⟨text, htext, ?_, ?_⟩
        · rw [String.toList_ofList]
          exact hmem start List.mem_cons_self
        · intro one hone
          obtain ⟨line, hline, hok⟩ := exists_of_mem_mapM hread hone
          exact ⟨line, hmem line (List.mem_cons_of_mem _ hline),
            value_infix_of_headerOfLine hok⟩

variable {start : List Char} {hs : Headers}

/-- **A receiver that cuts a head where its lines were joined sees the head that
was sent.** -/
theorem seenBy_ofLines {cut : List Char → List (List Char)}
    (hstart : start ≠ []) (hhs : ∀ h ∈ hs.list, h.WellFormed)
    (hcut : ∃ rest, cut (Text.joined (start :: hs.list.map Header.line) ++
      Text.crlf) = start :: hs.list.map Header.line ++ [] :: rest) :
    seenBy cut (ofLines (start :: hs.list.map Header.line)) =
      .ok ⟨String.ofList start, hs⟩ := by
  obtain ⟨rest, hcut⟩ := hcut
  have hbytes : ∀ ls, ofLines ls =
      Bytes.ofText (String.ofList (Text.joined ls ++ Text.crlf)) := by
    intro ls
    rw [String.ofList_append, Bytes.ofText_append]
    rfl
  have hfull : ∀ l ∈ start :: hs.list.map Header.line, decide (l ≠ []) = true := by
    intro l hl
    rw [decide_eq_true_eq]
    rcases List.mem_cons.1 hl with rfl | hl
    · exact hstart
    · obtain ⟨h, hh, rfl⟩ := List.mem_map.1 hl
      exact (hhs h hh).isHeadLine.ne_nil
  have hread : (hs.list.map Header.line).mapM headerOfLine = .ok hs.list := by
    rw [mapM_eq_ok_iff, List.forall₂_map_left_iff, List.forall₂_same]
    exact fun h hh => headerOfLine_line (hhs h hh)
  rw [seenBy.eq_def, hbytes, Bytes.text?_ofText]
  dsimp only
  rw [String.toList_ofList, hcut, List.takeWhile_append_of_pos hfull,
    List.takeWhile_cons_of_neg (by simp), List.append_nil]
  dsimp only
  rw [hread]
  rfl

theorem seenBy_lines (hstart : Text.IsHeadLine start)
    (hhs : ∀ h ∈ hs.list, h.WellFormed) :
    seenBy Text.lines (ofLines (start :: hs.list.map Header.line)) =
      .ok ⟨String.ofList start, hs⟩ := by
  refine seenBy_ofLines hstart.ne_nil hhs ⟨[[]], ?_⟩
  exact Text.lines_joined
    (fun l hl => (isHeadLine_of_mem hstart hhs l hl).unbroken) Text.crlf

/-- **A receiver that ends lines at line feeds sees the head that was sent
exactly if no line of it has a line feed in it**: neither the start line nor the
value of a header. -/
theorem seenBy_feedLines_eq_iff (hstart : start ≠ [])
    (hhs : ∀ h ∈ hs.list, h.WellFormed) :
    seenBy Text.feedLines (ofLines (start :: hs.list.map Header.line)) =
      .ok ⟨String.ofList start, hs⟩ ↔
      '\n' ∉ start ∧ ∀ h ∈ hs.list, '\n' ∉ h.value.toList := by
  constructor
  · intro hseen
    obtain ⟨text, -, hfirst, hvalues⟩ := exists_line_of_seenBy hseen
    rw [String.toList_ofList] at hfirst
    refine ⟨Text.newline_not_mem_of_mem_feedLines hfirst, ?_⟩
    intro h hh hfeed
    obtain ⟨line, hline, hpart⟩ := hvalues h hh
    exact Text.newline_not_mem_of_mem_feedLines hline (hpart.subset hfeed)
  · rintro ⟨hfirst, hvalues⟩
    refine seenBy_ofLines hstart hhs ⟨[[]], Text.feedLines_joined ?_ Text.crlf⟩
    intro l hl
    rcases List.mem_cons.1 hl with rfl | hl
    · exact hfirst
    · obtain ⟨h, hh, rfl⟩ := List.mem_map.1 hl
      rw [← List.count_eq_zero, (hhs h hh).count_line, List.count_eq_zero]
      exact hvalues h hh

theorem count_lf_ofLines (ls : List (List Char)) :
    (ofLines ls).count Bytes.lf = (ls.map (·.count '\n')).sum + ls.length + 1 := by
  have hcrlf : Bytes.crlf.count Bytes.lf = 1 := by decide
  rw [ofLines, List.count_append, Bytes.count_lf_ofText, String.toList_ofList,
    Text.count_joined, hcrlf]

end Head

/-! ## Requests -/

namespace Request

/-- The line feeds in the target and the values of a request. -/
def feeds (r : Request) : Nat :=
  r.target.toList.count '\n' + (r.headers.list.map fun h => h.value.toList.count '\n').sum

/-- Neither the target nor the value of a header has a line feed in it. -/
def Feedless (r : Request) : Prop :=
  '\n' ∉ r.target.toList ∧ ∀ h ∈ r.headers.list, '\n' ∉ h.value.toList

instance (r : Request) : Decidable r.Feedless :=
  inferInstanceAs (Decidable ('\n' ∉ r.target.toList ∧ ∀ h ∈ r.headers.list,
    '\n' ∉ h.value.toList))

theorem feeds_eq_zero_iff {r : Request} : r.feeds = 0 ↔ r.Feedless := by
  rw [feeds, Nat.add_eq_zero_iff, List.count_eq_zero,
    List.sum_eq_zero_iff_forall_eq_nat, List.forall_mem_map, Feedless]
  simp only [List.count_eq_zero]

theorem WellFormed.count_start {r : Request} (h : r.WellFormed) :
    r.start.count '\n' = r.target.toList.count '\n' := by
  have hmethod : r.method.toList.count '\n' = 0 := List.count_eq_zero.2 fun hfeed =>
    absurd (List.all_eq_true.1 h.method_letters _ hfeed) (by decide)
  have hversion : r.version.text.toList.count '\n' = 0 := by
    cases r.version <;> decide
  simp [start, hmethod, hversion]

/-- **The line feeds of a request** are those of its line ends and those in its
target and values. -/
theorem count_lf_encode {r : Request} (h : r.WellFormed) :
    r.encode.count Bytes.lf = r.headers.length + 2 + r.feeds := by
  have hlines : (r.headers.list.map Header.line).map (·.count '\n') =
      r.headers.list.map fun h => h.value.toList.count '\n' := by
    rw [List.map_map]
    exact List.map_congr_left fun one hone => (h.headers one hone).count_line
  rw [encode_eq, Head.count_lf_ofLines, lines, List.map_cons, List.sum_cons,
    hlines, h.count_start, feeds, List.length_cons, List.length_map, Headers.length]
  omega

/-- **A request without line feeds in its target and values is sent without
them.** -/
theorem Feedless.prepare {r : Request} (h : r.Feedless) (client : Ip)
    {id : String} (hid : Text.Plain id) :
    (r.prepare client id).Feedless := by
  have hplain : ∀ s, Text.Plain s → '\n' ∉ s.toList :=
    fun s hs hfeed => absurd (hs _ hfeed) (by decide)
  have hclient := hplain client.text client.plain_text.1
  refine ⟨h.1, forall_mem_prepare h.2 hclient (fun _ _ => hclient) ?_ (hplain id hid)⟩
  intro one hone _
  simp [hone, hclient]

end Request

/-! ## Heads that were read -/

namespace Head

/-- Every line of the bytes, as they are cut at CRLF, is one line. -/
def Unmixed (raw : Bytes) : Prop :=
  ∀ text ∈ Bytes.text? raw, ∀ l ∈ Text.lines text.toList, Text.OneLine l

/-- **What is read of lines without carriage returns and line feeds has
none.** -/
theorem Unmixed.oneLine {raw : Bytes} {head : Head} (hraw : Unmixed raw)
    (h : parse raw = .ok head) :
    Text.OneLine head.start.toList ∧ ∀ one ∈ head.headers.list,
      Text.OneLine one.value.toList := by
  obtain ⟨text, htext, hstart, hheaders⟩ := exists_line_of_parse h
  have hlines : ∀ l ∈ Text.lines (Text.dropFinalLineEnds text.toList),
      Text.OneLine l := fun l hl =>
    hraw text htext l (Text.lines_dropFinalLineEnds_subset _ hl)
  refine ⟨hlines _ hstart, fun one hone => ?_⟩
  obtain ⟨l, hl, hread⟩ := hheaders one hone
  exact (hlines l hl).of_subset (value_infix_of_headerOfLine hread).subset

end Head

theorem Request.oneLine_of_parse {raw : Bytes} {r : Request}
    (hraw : Head.Unmixed raw) (h : parse raw = .ok r) :
    Text.OneLine r.target.toList ∧ ∀ one ∈ r.headers.list,
      Text.OneLine one.value.toList := by
  obtain ⟨head, hhead, hof⟩ := Head.exists_of_bind_parse h
  obtain ⟨hstart, hheaders⟩ := hraw.oneLine hhead
  obtain ⟨-, -, -, -, hlist⟩ := ofHead_cases hof
  rw [(start_of_ofHead hof).1] at hstart
  refine ⟨hstart.of_subset fun c hc => ?_, hlist ▸ hheaders⟩
  simp [start, hc]

theorem Response.oneLine_of_parse {raw : Bytes} {r : Response}
    (hraw : Head.Unmixed raw) (h : parse raw = .ok r) :
    Text.OneLine r.reason.toList ∧ ∀ one ∈ r.headers.list,
      Text.OneLine one.value.toList := by
  obtain ⟨head, hhead, hof⟩ := Head.exists_of_bind_parse h
  obtain ⟨hstart, hheaders⟩ := hraw.oneLine hhead
  obtain ⟨-, hreason, hlist⟩ := ofHead_cases hof
  exact ⟨hstart.of_subset hreason.subset, hlist ▸ hheaders⟩

/-- **What line feeds stand in the heads that are read and in what the backend
gets.** The name of a header is on one line. A target, a reason phrase and a
value have no CRLF in them, and where no line of the head has a carriage return
or a line feed of its own, they are on one line too. The bytes of a request at
the backend have two line feeds more than it has headers, and those of its
target and values. A receiver that ends lines at CRLF sees the head that was
sent, and one that ends them at line feeds sees the same exactly if target and
values have none; so it is if the client sent none. -/
theorem Head.line_feeds_of_parse (raw : Bytes) :
    (∀ r, Request.parse raw = .ok r →
      (∀ h ∈ r.headers.list, Text.OneLine h.name.toList ∧
        Unbroken '\r' '\n' h.value.toList) ∧
      Unbroken '\r' '\n' r.target.toList ∧
      (Unmixed raw →
        Text.OneLine r.target.toList ∧
        ∀ h ∈ r.headers.list, Text.OneLine h.value.toList) ∧
      ∀ (client : Ip) (id : String), Text.Plain id →
        let sent := r.prepare client id
        sent.encode.count Bytes.lf = sent.headers.length + 2 + sent.feeds ∧
        (sent.feeds = 0 ↔ sent.Feedless) ∧
        (r.Feedless → sent.Feedless) ∧
        seenBy Text.lines sent.encode = .ok ⟨String.ofList sent.start, sent.headers⟩ ∧
        (seenBy Text.feedLines sent.encode = seenBy Text.lines sent.encode ↔
          sent.Feedless)) ∧
    ∀ r, Response.parse raw = .ok r →
      (∀ h ∈ r.headers.list, Text.OneLine h.name.toList ∧
        Unbroken '\r' '\n' h.value.toList) ∧
      Unbroken '\r' '\n' r.reason.toList ∧
      (Unmixed raw →
        Text.OneLine r.reason.toList ∧
        ∀ h ∈ r.headers.list, Text.OneLine h.value.toList) := by
  constructor
  · intro r hread
    have hwell := Request.wellFormed_of_parse hread
    refine ⟨fun h hh => ⟨(hwell.headers h hh).name.oneLine,
      (hwell.headers h hh).value.unbroken⟩, hwell.unbroken,
      fun hraw => Request.oneLine_of_parse hraw hread, ?_⟩
    intro client id hid sent
    have hsent : sent.WellFormed := hwell.prepare client (Header.isValue_of_plain hid)
    have hlines : seenBy Text.lines sent.encode =
        .ok ⟨String.ofList sent.start, sent.headers⟩ := by
      rw [Request.encode_eq]
      exact seenBy_lines hsent.isHeadLine_start hsent.headers
    refine ⟨Request.count_lf_encode hsent, Request.feeds_eq_zero_iff,
      fun h => h.prepare client hid, hlines, ?_⟩
    rw [hlines, Request.encode_eq, Request.lines,
      seenBy_feedLines_eq_iff hsent.isHeadLine_start.ne_nil hsent.headers,
      ← List.count_eq_zero, hsent.count_start, List.count_eq_zero]
    rfl
  · intro r hread
    have hwell := Response.wellFormed_of_parse hread
    exact ⟨fun h hh => ⟨(hwell.headers h hh).name.oneLine,
      (hwell.headers h hh).value.unbroken⟩, hwell.unbroken,
      fun hraw => Response.oneLine_of_parse hraw hread⟩

/-- A request whose value has a line feed and a header behind it. -/
def Request.smuggling : Request :=
  ⟨"GET", "/", .http11, ⟨[⟨"A", "b\nTransfer-Encoding: chunked"⟩]⟩⟩

/-- A request as it is read, and as two receivers see it at the backend. -/
theorem Head.line_feeds_of_parse_smuggling :
    let sent :=
      Request.smuggling.prepare .loopback "8f14e45f-ceea-467a-9af3-1d2f4a6b7c89"
    sent.encode.count Bytes.lf = 6 ∧
      seenBy Text.lines sent.encode = .ok ⟨"GET / HTTP/1.1", sent.headers⟩ ∧
      seenBy Text.feedLines sent.encode ≠ seenBy Text.lines sent.encode := by
  intro sent
  have hread : Request.parse (Bytes.ofText
      "GET / HTTP/1.1\r\nA: b\nTransfer-Encoding: chunked\r\n\r\n") =
        .ok Request.smuggling := by
    decide +kernel
  obtain ⟨-, -, -, hsent⟩ := (line_feeds_of_parse _).1 _ hread
  obtain ⟨hcount, -, -, hlines, hseen⟩ :=
    hsent .loopback "8f14e45f-ceea-467a-9af3-1d2f4a6b7c89" (by decide)
  have hfeedless : ¬ sent.Feedless := by decide +kernel
  exact ⟨hcount, hlines, fun h => hfeedless (hseen.1 h)⟩

/-- **A client writes headers that the gateway does not see**: a request without
a body is sent on with one line feed more than its lines have, and a backend
that ends lines at line feeds waits for a body in chunks. A target and a reason
phrase with a line feed are accepted too. -/
theorem Head.smuggled_by_line_feed :
    (∃ raw r, Request.parse raw = .ok r ∧
      (∃ h ∈ r.headers.list, '\n' ∈ h.value.toList) ∧ r.framing = .ok .empty ∧
      let sent := r.prepare .loopback "8f14e45f-ceea-467a-9af3-1d2f4a6b7c89"
      sent.encode.count Bytes.lf ≠ sent.headers.length + 2 ∧
      ∃ head, seenBy Text.feedLines sent.encode = .ok head ∧
        head.headers ≠ sent.headers ∧
        head.headers.declaredFraming = .ok (some .chunked)) ∧
    (∃ raw r, Request.parse raw = .ok r ∧ '\n' ∈ r.target.toList) ∧
    ∃ raw r, Response.parse raw = .ok r ∧ '\n' ∈ r.reason.toList := by
  refine ⟨⟨Bytes.ofText "GET / HTTP/1.1\r\nA: b\nTransfer-Encoding: chunked\r\n\r\n",
    Request.smuggling, ?_⟩, ⟨Bytes.ofText "GET /\nB:c HTTP/1.1\r\n\r\n",
      ⟨"GET", "/\nB:c", .http11, {}⟩, ?_⟩,
    ⟨Bytes.ofText "HTTP/1.1 200 a\nb\r\n\r\n", ⟨.http11, 200, "a\nb", {}⟩, ?_⟩⟩
  · refine ⟨by decide +kernel, by decide, rfl, by decide +kernel,
      ⟨"GET / HTTP/1.1", ⟨[⟨"A", "b"⟩, ⟨"Transfer-Encoding", "chunked"⟩,
        ⟨"X-Forwarded-For", "127.0.0.1"⟩,
        ⟨"X-Request-Id", "8f14e45f-ceea-467a-9af3-1d2f4a6b7c89"⟩]⟩⟩, ?_⟩
    decide +kernel
  · decide +kernel
  · decide +kernel

end Gateway
