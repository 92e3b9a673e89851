import Gateway.Proofs.NextHop

/-!
# What a request takes along

A request goes on to a backend with the headers that the client gave it, in
their order and their spelling. Those that end at this connection stay behind,
whether they always do or the client names them in a header about the
connection; so do an expectation, and a length that does not count. Then the
client's address is put at the end of the chain of addresses, and an identifier
is added if there is none.

* `Headers.GoesOn` says which headers go on, and `Headers.stripped_eq_goingOn`
  that the edits leave exactly these;
* `Headers.IsElement.elementsOf_append`: an element that is put at the end of a
  list-valued header is its last one;
* `Headers.Extends.elements_eq`: so the client is the last of the addresses, and
  the others are those from before;
* `Headers.stripConnectionBound_idem`: headers that end here are left out once
  and for all;
* `Request.prepare_edits`: all that becomes of a request.
-/

namespace Gateway

namespace Headers

variable {hs : Headers} {name : String}

/-! ## Headers that go on -/

/-- A header goes on to the next hop. -/
structure GoesOn (hs : Headers) (h : Header) : Prop where
  /-- It is none of those that always end at this connection. -/
  unbound : ∀ name ∈ connectionBound, h.named name = false
  /-- No element of a header about the connection names it, but for those that
  name what frames the body. -/
  unlisted : ∀ name ∈ hs.elements "connection",
    (∀ framing ∈ framingNames, Text.alike name framing = false) →
    h.named name = false
  /-- It is no length where a transfer coding decides. -/
  counting : h.named "content-length" = true → hs.contains "transfer-encoding" = false
  /-- It is no expectation. -/
  unexpecting : h.named "expect" = false

instance (hs : Headers) (h : Header) : Decidable (hs.GoesOn h) :=
  decidable_of_iff
    ((∀ name ∈ connectionBound, h.named name = false) ∧
      (∀ name ∈ hs.elements "connection",
        (∀ framing ∈ framingNames, Text.alike name framing = false) →
        h.named name = false) ∧
      (h.named "content-length" = true →
        hs.contains "transfer-encoding" = false) ∧ h.named "expect" = false)
    ⟨fun ⟨hunbound, hunlisted, hcounting,
      hunexpecting⟩ => ⟨hunbound, hunlisted, hcounting, hunexpecting⟩,
      fun h => ⟨h.unbound, h.unlisted, h.counting, h.unexpecting⟩⟩

/-- The headers without those that do not go on. -/
def goingOn (hs : Headers) : Headers :=
  ⟨hs.list.filter fun h => hs.GoesOn h⟩

theorem not_bound_iff {h : Header} :
    (!(connectionBound ++ hs.listedAsBound).any fun name => h.named name) = true ↔
      (∀ name ∈ connectionBound, h.named name = false) ∧
      ∀ name ∈ hs.elements "connection",
        (∀ framing ∈ framingNames, Text.alike name framing = false) →
        h.named name = false := by
  simp only [listedAsBound, Bool.not_eq_true', List.any_eq_false,
    List.forall_mem_append, List.mem_filter, and_imp, Bool.not_eq_true]

/-- **The edits leave the headers that go on**, in their order and their
spelling. -/
theorem stripped_eq_goingOn (hs : Headers) :
    hs.stripConnectionBound.dropOverriddenLength.remove "expect" = hs.goingOn := by
  have hfilter : ∀ counts : Header → Bool,
      (∀ h, counts h = true ↔ (h.named "content-length" = true →
        hs.contains "transfer-encoding" = false)) →
      ((hs.stripConnectionBound.list.filter counts).filter fun h =>
        !h.named "expect") = hs.goingOn.list := by
    intro counts hcounts
    rw [stripConnectionBound, list_removeAll, List.filter_filter,
      List.filter_filter, goingOn]
    refine List.filter_congr fun h _ => ?_
    rw [Bool.eq_iff_iff, decide_eq_true_iff, Bool.and_eq_true, Bool.and_eq_true,
      not_bound_iff, hcounts, Bool.not_eq_true']
    exact ⟨fun ⟨⟨hexpect, hcounting⟩, hunbound,
      hunlisted⟩ => ⟨hunbound, hunlisted, hcounting, hexpect⟩,
      fun h => ⟨⟨h.unexpecting, h.counting⟩, h.unbound, h.unlisted⟩⟩
  refine congrArg Headers.mk ?_
  rw [dropOverriddenLength, contains_stripConnectionBound]
  cases hcoding : hs.contains "transfer-encoding" with
  | false =>
    have hall := hfilter (fun _ => true) fun h => by simp [hcoding]
    rwa [List.filter_true] at hall
  | true =>
    exact hfilter (fun h => !h.named "content-length") fun h => by simp [hcoding]

/-- **Headers that end here are left out once and for all.** -/
theorem stripConnectionBound_idem (hs : Headers) :
    hs.stripConnectionBound.stripConnectionBound = hs.stripConnectionBound := by
  have hleft : ∀ h ∈ hs.stripConnectionBound.list, ∀ name ∈ connectionBound,
      h.named name = false := by
    intro h hmem
    exact (not_bound_iff.1 (List.mem_filter.1 hmem).2).1
  -- no header about the connection is left that could list others
  have hnone : hs.stripConnectionBound.elements "connection" = [] := by
    rw [elements, getAll, List.filter_eq_nil_iff.2, List.map_nil, List.flatMap_nil]
    intro h hmem
    rw [hleft h hmem "connection" List.mem_cons_self]
    decide
  refine congrArg Headers.mk (List.filter_eq_self.2 fun h hmem =>
    not_bound_iff.2 ⟨hleft h hmem, ?_⟩)
  rw [hnone]
  exact fun name hname => absurd hname List.not_mem_nil

/-! ## Elements -/

/-- The elements of one value: its parts between commas without the blanks
around them, unless blank. -/
def elementsOf (value : List Char) : List String :=
  (((Text.pieces ',' value).map Text.trim).filter (· ≠ [])).map String.ofList

theorem elements_eq (hs : Headers) (name : String) :
    hs.elements name = (hs.getAll name).flatMap fun value => elementsOf value.toList :=
  rfl

theorem elementsOf_append_cons (value rest : List Char) :
    elementsOf (value ++ ',' :: rest) = elementsOf value ++ elementsOf rest := by
  rw [elementsOf, Text.pieces_append_cons, List.map_append, List.filter_append,
    List.map_append]
  rfl

theorem elementsOf_of_blank {value : List Char}
    (h : ∀ c ∈ value, Text.isBlank c = true) : elementsOf value = [] := by
  have hcomma : ',' ∉ value := fun hc => absurd (h _ hc) (by decide)
  rw [elementsOf, Text.pieces_of_not_mem hcomma, List.map_singleton,
    Text.trim_eq_nil_iff.2 h]
  rfl

/-- A text that can be an element of a list-valued header. -/
structure IsElement (s : String) : Prop where
  /-- It has no blanks. -/
  plain : Text.Plain s
  /-- It has no comma. -/
  comma_not_mem : ',' ∉ s.toList
  /-- It is not empty. -/
  ne_empty : s ≠ ""

/-- An element with blanks in front of it, or without, is the only one. -/
theorem IsElement.elementsOf_eq {s : String} (h : IsElement s)
    (blanks : List Char) (hblanks : ∀ c ∈ blanks, Text.isBlank c = true) :
    elementsOf (blanks ++ s.toList) = [s] := by
  have hcomma : ',' ∉ blanks ++ s.toList := fun hc =>
    (List.mem_append.1 hc).elim (fun hc => absurd (hblanks _ hc) (by decide))
      h.comma_not_mem
  have htrim : Text.trim (blanks ++ s.toList) = s.toList := by
    clear hcomma
    induction blanks with
    | nil =>
      exact Text.trim_of_trimmed (Header.isValue_of_plain h.plain).trimmed
    | cons c blanks ih =>
      rw [List.forall_mem_cons] at hblanks
      rw [List.cons_append, Text.trim_cons_of_blank hblanks.1, ih hblanks.2]
  have hne : s.toList ≠ [] := fun hnil => h.ne_empty (String.toList_injective hnil)
  rw [elementsOf, Text.pieces_of_not_mem hcomma, List.map_singleton, htrim,
    List.filter_singleton, decide_eq_true hne, cond_true, List.map_singleton,
    String.ofList_toList]

/-- **An element that is put at the end of a value is its last one.** -/
theorem IsElement.elementsOf_append {s : String} (h : IsElement s)
    (chain : String) :
    elementsOf (chain ++ ", " ++ s).toList = elementsOf chain.toList ++ [s] := by
  rw [String.toList_append, String.toList_append, List.append_assoc]
  exact (elementsOf_append_cons chain.toList (' ' :: s.toList)).trans
    (congrArg _ (h.elementsOf_eq [' '] (List.forall_mem_singleton.2 (by decide))))

theorem isElement_text (client : Ip) : IsElement client.text where
  plain := client.plain_text.1
  comma_not_mem hc := client.forall_mem_text (P := (· ≠ ',')) (by decide)
    (by decide) (by decide) _ hc rfl
  ne_empty := client.text_ne_empty

theorem getAll_of_last {front back : List Header} {h : Header}
    (hn : h.named name = true)
    (hback : ∀ later ∈ back, later.named name = false) :
    getAll ⟨front ++ h :: back⟩ name = getAll ⟨front⟩ name ++ [h.value] := by
  have hnone : back.filter (Header.named name) = [] :=
    List.filter_eq_nil_iff.2 fun later hlater => by rw [hback later hlater]; decide
  rw [getAll, getAll, List.filter_append, List.filter_cons_of_pos hn, hnone,
    List.map_append, List.map_singleton]

/-- **The client is the last of the addresses**, behind those from before. -/
theorem Extends.elements_eq {client : Ip} {old new : List Header}
    (h : Extends client old new) :
    elements ⟨new⟩ "x-forwarded-for" =
      elements ⟨old⟩ "x-forwarded-for" ++ [client.text] := by
  have hclient := isElement_text client
  have hlast : ∀ {front back : List Header} {chain : Header},
      chain.named "x-forwarded-for" = true →
      (∀ later ∈ back, later.named "x-forwarded-for" = false) →
      elements ⟨front ++ chain :: back⟩ "x-forwarded-for" =
        elements ⟨front⟩ "x-forwarded-for" ++ elementsOf chain.value.toList := by
    intro front back chain hn hback
    rw [Headers.elements_eq, Headers.elements_eq, getAll_of_last hn hback,
      List.flatMap_append, List.flatMap_singleton]
  cases h with
  | append hn hback hword =>
    rw [hlast hn hback, hlast (by exact hn) hback, hclient.elementsOf_append,
      List.append_assoc]
  | replace hn hback hblank =>
    rw [hlast hn hback, hlast (by exact hn) hback, elementsOf_of_blank hblank,
      List.append_nil]
    exact congrArg _ (hclient.elementsOf_eq [] (List.forall_mem_nil _))
  | begin =>
    have halike : Text.alike "X-Forwarded-For" "x-forwarded-for" = true := by
      decide +kernel
    have hn : Header.named "x-forwarded-for" ⟨"X-Forwarded-For", client.text⟩ =
        true := halike
    rw [hlast hn fun _ h => absurd h List.not_mem_nil]
    exact congrArg _ (hclient.elementsOf_eq [] (List.forall_mem_nil _))

end Headers

/-! ## Requests -/

/-- **What becomes of a request on its way to a backend.** It keeps its method,
target and version. Its headers are those that go on, in their order and their
spelling, with the client at the end of the chain of addresses, and with the
identifier behind them if none of them is one. So the addresses are those that
go on and then the client's. To leave out headers that end here a second time
changes nothing. -/
theorem Request.prepare_edits (r : Request) (client : Ip) (id : String) :
    let kept := r.headers.list.filter fun h => r.headers.GoesOn h
    let sent := r.prepare client id
    (sent.method = r.method ∧ sent.target = r.target ∧ sent.version = r.version) ∧
      (∃ extended, Headers.Extends client kept extended ∧
        sent.headers.list =
          extended ++ if ∃ h ∈ kept, h.named "x-request-id" = true then []
            else [⟨"X-Request-Id", id⟩]) ∧
      sent.headers.elements "x-forwarded-for" =
        Headers.elements ⟨kept⟩ "x-forwarded-for" ++ [client.text] ∧
      r.headers.stripConnectionBound.stripConnectionBound =
        r.headers.stripConnectionBound := by
  intro kept sent
  have hheaders : sent.headers =
      (r.headers.goingOn.appendForwardedFor client).addRequestId id := by
    rw [← Headers.stripped_eq_goingOn]
    rfl
  have hextends := Headers.extends_appendForwardedFor r.headers.goingOn client
  refine ⟨⟨rfl, rfl, rfl⟩, ⟨_, hextends, ?_⟩, ?_, r.headers.stripConnectionBound_idem⟩
  · have hid : (r.headers.goingOn.appendForwardedFor client).contains
        "x-request-id" = true ↔
        ∃ h ∈ kept, h.named "x-request-id" = true := by
      rw [Headers.contains_iff, Headers.getAll_appendForwardedFor
        (by decide +kernel), ← Headers.contains_iff, Headers.contains,
        List.any_eq_true]
      rfl
    rw [hheaders, Headers.addRequestId]
    simp only [hid]
    split
    · exact (List.append_nil _).symm
    · rfl
  · rw [hheaders, Headers.elements, Headers.getAll_addRequestId (by decide +kernel)]
    exact hextends.elements_eq

/-- A client lists as bound the header about its connection, the length that
frames its body, and its addresses. -/
example :
    (Request.prepare ⟨"PUT", "/", .http11,
      ⟨[⟨"X-Forwarded-For", "10.0.0.1"⟩, ⟨"Content-Length", "2"⟩,
        ⟨"Connection", "x-forwarded-FOR, connection,, content-length"⟩,
        ⟨"X-REQUEST-ID", ""⟩]⟩⟩ .loopback "r").headers =
      ⟨[⟨"Content-Length", "2"⟩, ⟨"X-REQUEST-ID", ""⟩,
        ⟨"X-Forwarded-For", "127.0.0.1"⟩]⟩ := by
  decide +kernel

end Gateway
