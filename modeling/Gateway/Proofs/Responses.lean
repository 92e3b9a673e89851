import Gateway.Proofs.NextHop
import Gateway.Proofs.Numerals

/-!
# Responses at the client

A response that is made ready for a client reads back as the head that was
meant, with the framing that the gateway found in it. Where the client's
connection goes on, nothing in the head says that it does not.

* `Response.wellFormed_of_parse`, `Response.parse_encode`: a head that was read
  is well-formed, and a well-formed head reads back as it was;
* `Response.WellFormed.prepare`, `Response.framing_prepare`: the edits of the
  headers keep both;
* `Response.getAll_connection_prepare`: what such a head says about the
  connection.
-/

namespace Gateway

/-! ## Status codes -/

namespace Text

/-- **The digits of a number read back**, to a base up to 16. -/
theorem digits?_toDigits {base : Nat} (hbase : 1 < base) (hle : base ≤ 16)
    (n : Nat) :
    digits? base (Nat.toDigits base n) = some n := by
  have hvalue : ∀ d, d < base →
      digitValue? base (Nat.digitChar d) = some d := fun d hd =>
    (digitValue?_eq_some_iff hle).2 ⟨hd, .inl rfl⟩
  have hfold : (Nat.toDigits base n).foldlM (fun n c =>
      (digitValue? base c).map (n * base + ·)) 0 = some n := by
    induction n using Nat.strongRecOn with
    | ind n ih =>
      rcases Nat.lt_or_ge n base with hlt | hge
      · rw [Nat.toDigits_of_lt_base hlt, List.foldlM_cons, hvalue n hlt]
        simp
      · have hmod : n % base < base := Nat.mod_lt _ (by omega)
        rw [Nat.toDigits_of_base_le hbase hge, List.foldlM_append,
          ih (n / base) (Nat.div_lt_self (by omega) hbase)]
        simp only [Option.bind_eq_bind, Option.bind_some, List.foldlM_cons,
          List.foldlM_nil, hvalue _ hmod, Option.map_some, Nat.div_add_mod']
        rfl
  rw [digits?.eq_def]
  split
  · rename_i hnil
    exact absurd hnil Nat.toDigits_ne_nil
  · exact hfold

/-- A number reads back from its digits, if it fits the limit. -/
theorem unsigned?_toDigits {n limit : Nat} (h : n ≤ limit) :
    unsigned? 10 limit (Nat.toDigits 10 n) = some n := by
  rw [unsigned?.eq_def]
  dsimp only
  split
  · rename_i rest hdigits
    obtain ⟨d, hd, hplus⟩ :=
      mem_toDigits (n := n) (by decide) (hdigits ▸ List.mem_cons_self)
    exact absurd hplus ((by decide : ∀ d, d < 10 → '+' ≠ Nat.digitChar d) d hd)
  · rw [digits?_toDigits (by decide) (by decide), Option.filter_some,
      decide_eq_true h]
    rfl

end Text

namespace Response

/-- A status code that is read has three digits. -/
theorem range_of_statusOf {word : List Char} {n : Nat}
    (h : statusOf word = .ok n) : 100 ≤ n ∧ n < 1000 := by
  rw [statusOf] at h
  split at h
  · split at h
    · rename_i hrange
      cases h
      exact hrange.2
    · cases h
  · cases h

/-- **A status code reads back.** -/
theorem statusOf_toDigits {n : Nat} (h : 100 ≤ n ∧ n < 1000) :
    statusOf (Nat.toDigits 10 n) = .ok n := by
  have hlength : (Nat.toDigits 10 n).length = 3 := by
    have hle := (Nat.length_toDigits_le_iff (b := 10) (n := n) (k := 3)
      (by decide) (by decide)).2 h.2
    have hgt := mt (Nat.length_toDigits_le_iff (b := 10) (n := n) (k := 2)
      (by decide) (by decide)).1
    omega
  have hmax : n ≤ Text.max16 := Nat.le_trans (Nat.le_of_lt h.2) (by decide)
  rw [statusOf, Text.unsigned?_toDigits hmax]
  exact if_pos ⟨hlength, h⟩

/-! ## Start lines -/

/-- A response that reads back from its bytes. -/
structure WellFormed (r : Response) : Prop where
  /-- The status code has three digits. -/
  range : 100 ≤ r.status ∧ r.status < 1000
  /-- The reason phrase has no line end in it. -/
  unbroken : Unbroken '\r' '\n' r.reason.toList
  /-- The headers read back. -/
  headers : r.headers.WellFormed

/-- The start line without its line end. -/
def start (r : Response) : List Char :=
  r.version.text.toList ++ ' ' :: (Nat.toDigits 10 r.status ++ ' ' :: r.reason.toList)

/-- The lines of a response. -/
def lines (r : Response) : List (List Char) :=
  r.start :: r.headers.list.map Header.line

theorem not_mem_toDigits {c : Char} (hc : c = ' ' ∨ c = '\r')
    (n : Nat) : c ∉ Nat.toDigits 10 n := by
  intro hmem
  obtain ⟨d, hd, rfl⟩ := Text.mem_toDigits (by decide) hmem
  have hdigits : ∀ d, d < 10 →
      ¬ (Nat.digitChar d = ' ' ∨ Nat.digitChar d = '\r') := by decide
  exact hdigits d hd hc

/-- **A start line reads back.** -/
theorem ofHead_start {r : Response} (h : r.WellFormed) :
    ofHead ⟨String.ofList r.start, r.headers⟩ = .ok r := by
  have hversion : ' ' ∉ r.version.text.toList := by cases r.version <;> decide
  rw [ofHead, String.toList_ofList, start, Text.cut?_append hversion]
  dsimp only
  rw [String.ofList_toList, Version.ofText_text,
    Text.cut?_append (not_mem_toDigits (.inl rfl) _)]
  simp only [bind, Except.bind, Option.getD_some, statusOf_toDigits h.range,
    String.ofList_toList]
  rfl

/-- What is read of a start line. -/
theorem ofHead_cases {head : Head} {r : Response} (h : ofHead head = .ok r) :
    (100 ≤ r.status ∧ r.status < 1000) ∧ r.reason.toList <:+ head.start.toList ∧
      r.headers = head.headers := by
  rw [ofHead] at h
  split at h
  · cases hv : Version.ofText head.start with
    | error flaw =>
      rw [hv] at h
      cases h
    | ok version =>
      rw [hv] at h
      cases h
  · rename_i version rest hcut
    cases hv : Version.ofText (String.ofList version) with
    | error flaw =>
      rw [hv] at h
      cases h
    | ok version' =>
      rw [hv] at h
      simp only [bind, Except.bind] at h
      cases hs : statusOf ((Text.cut? ' ' rest).getD (rest, [])).1 with
      | error flaw =>
        rw [hs] at h
        cases h
      | ok status =>
        rw [hs] at h
        cases h
        refine ⟨range_of_statusOf hs, ?_, rfl⟩
        rw [String.toList_ofList, Text.cut?_eq_some hcut]
        have hrest : rest <:+ version ++ ' ' :: rest :=
          (List.suffix_cons ' ' rest).trans (List.suffix_append version _)
        cases hreason : Text.cut? ' ' rest with
        | none => exact List.nil_suffix
        | some parts =>
          obtain ⟨code, reason⟩ := parts
          refine List.IsSuffix.trans ?_ hrest
          rw [Text.cut?_eq_some hreason]
          exact (List.suffix_cons ' ' reason).trans (List.suffix_append code _)

theorem WellFormed.isHeadLine_start {r : Response}
    (h : r.WellFormed) : Text.IsHeadLine r.start := by
  have hversion : Unbroken '\r' '\n' r.version.text.toList := by
    cases r.version <;> exact unbroken_of_not_mem (by decide)
  have hstatus : Unbroken '\r' '\n' (Nat.toDigits 10 r.status) :=
    unbroken_of_not_mem (not_mem_toDigits (.inr rfl) _)
  refine ⟨List.append_ne_nil_of_right_ne_nil _ (List.cons_ne_nil _ _), ?_⟩
  exact hversion.append_cons (by decide) (by decide)
    (hstatus.append_cons (by decide) (by decide) h.unbroken)

theorem encode_eq (r : Response) : r.encode = Head.ofLines r.lines := by
  have hstart : r.startLine = String.ofList (r.start ++ Text.crlf) := by
    apply String.toList_injective
    rw [String.toList_ofList]
    simp [startLine, start, Text.crlf]
  rw [encode, hstart, lines, Head.ofLines_cons]

/-! ## Reading back -/

/-- **A response that was read is well-formed.** -/
theorem wellFormed_of_parse {raw : Bytes} {r : Response}
    (h : parse raw = .ok r) : r.WellFormed := by
  obtain ⟨head, hhead, hof⟩ := Head.exists_of_bind_parse h
  obtain ⟨hstart, hheaders⟩ := Head.unbroken_of_parse hhead
  obtain ⟨hrange, hreason, hlist⟩ := ofHead_cases hof
  refine ⟨hrange, hstart.infix hreason.isInfix, ?_⟩
  rw [hlist]
  exact hheaders

/-- **A well-formed response reads back as it was**, if it has no more headers
than a head may have. -/
theorem parse_encode {r : Response} (h : r.WellFormed)
    (hroom : r.headers.length ≤ Head.maxHeaders) :
    parse r.encode = .ok r := by
  rw [parse, encode_eq, lines, Head.parse_ofLines h.isHeadLine_start h.headers hroom]
  dsimp only [bind, Except.bind]
  exact ofHead_start h

/-- **A reader of heads finds a well-formed response**, whatever follows it. -/
theorem headOf?_encode {r : Response} (h : r.WellFormed) {max : Nat}
    (hmax : r.encode.length ≤ max) (rest : Bytes) :
    Reader.headOf? max (r.encode ++ rest) = some (r.encode, rest) := by
  rw [encode_eq] at hmax ⊢
  exact Head.headOf?_ofLines (List.cons_ne_nil _ _)
    (Head.isHeadLine_of_mem h.isHeadLine_start h.headers) hmax rest

/-! ## Edits -/

/-- A response that is made ready for a client has the headers that do not end
here, and perhaps one more. -/
theorem headers_prepare (r : Response) (reuse : Bool) (client : Version) :
    (r.prepare reuse client).headers =
      r.headers.stripConnectionBound.dropOverriddenLength ∨
      ∃ value, (value = "keep-alive" ∨ value = "close" ∧ reuse = false) ∧
        (r.prepare reuse client).headers =
          r.headers.stripConnectionBound.dropOverriddenLength.push "Connection" value := by
  rw [prepare]
  dsimp only
  split
  · rename_i hclose
    exact .inr ⟨_, .inr ⟨rfl, by simpa using hclose⟩, rfl⟩
  · split
    · exact .inr ⟨_, .inl rfl, rfl⟩
    · exact .inl rfl

/-- **A response that is made ready for a client stays well-formed.** -/
theorem WellFormed.prepare {r : Response} (h : r.WellFormed) (reuse : Bool)
    (client : Version) :
    (r.prepare reuse client).WellFormed := by
  refine ⟨h.range, h.unbroken, ?_⟩
  rcases r.headers_prepare reuse client with hnew | ⟨value, hvalue, hnew⟩
  · rw [hnew]
    exact h.headers.stripped
  · rw [hnew]
    refine h.headers.stripped.push (by decide) (Header.isValue_of_plain ?_)
    rcases hvalue with rfl | ⟨rfl, -⟩
    · decide
    · decide

/-- **A response that is made ready for a client keeps its framing.** -/
theorem framing_prepare (r : Response) (reuse : Bool) (client : Version)
    (requestWasHead : Bool) :
    (r.prepare reuse client).framing requestWasHead = r.framing requestWasHead := by
  have hnames : ∀ name ∈ Headers.framingNames, Text.alike "Connection" name =
      false := by decide +kernel
  have hdeclared : (r.prepare reuse client).headers.declaredFraming =
      r.headers.declaredFraming := by
    apply Headers.declaredFraming_of_stripped
    intro name hname
    rcases r.headers_prepare reuse client with hnew | ⟨value, -, hnew⟩
    · rw [hnew]
    · rw [hnew, Headers.getAll_push (hnames name hname)]
  rw [framing, framing, hdeclared]
  rfl

end Response

namespace Headers

theorem getAll_stripped_connection (hs : Headers) :
    hs.stripConnectionBound.dropOverriddenLength.getAll "connection" = [] := by
  rw [getAll, List.map_eq_nil_iff, List.filter_eq_nil_iff]
  intro h hh hnamed
  have hmem : h ∈ hs.stripConnectionBound.list :=
    (sublist_dropOverriddenLength _).subset hh
  rw [stripConnectionBound, list_removeAll, List.mem_filter, Bool.not_eq_true',
    List.any_eq_false] at hmem
  exact hmem.2 "connection" (List.mem_append_left _ List.mem_cons_self) hnamed

end Headers

namespace Response

/-- **A response that is made ready for a client says one word about the
connection at most.** -/
theorem getAll_connection_prepare (r : Response) (reuse : Bool)
    (client : Version) :
    (r.prepare reuse client).headers.getAll "connection" =
      if !reuse then ["close"] else if client = .http10 then ["keep-alive"] else [] := by
  have hnone := r.headers.getAll_stripped_connection
  have halike : Text.alike "Connection" "connection" = true := by decide +kernel
  rw [prepare]
  dsimp only
  split
  · rw [Headers.getAll_push_self halike, hnone, List.nil_append]
  · split
    · rw [Headers.getAll_push_self halike, hnone, List.nil_append]
    · exact hnone

/-- **Where the client's connection goes on, no header closes it.** -/
theorem hasElement_close_prepare (r : Response) (client : Version) :
    (r.prepare true client).headers.hasElement "connection" "close" = false := by
  rw [Headers.hasElement, Headers.elements, getAll_connection_prepare]
  cases client <;> decide +kernel

end Response

end Gateway
