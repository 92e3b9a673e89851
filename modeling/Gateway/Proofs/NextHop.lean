import Gateway.Message.NextHop
import Gateway.Proofs.Encoding

/-!
# Requests at the next hop

A request that is made ready for a backend stays well-formed, so that the
backend reads the head that was meant, and it keeps the framing that the gateway
found in it, so that the backend looks for the end of the body in the same
place. What the client wrote into its headers changes neither.

* `Request.WellFormed.prepare`: the edits of the headers keep them well-formed;
* `Request.framing_prepare`: they keep the framing;
* `Request.next_hop_agrees`: what the next hop reads.
-/

namespace Gateway

/-! ## Addresses as values -/

namespace Text

/-- A text without blanks. -/
def Plain (s : String) : Prop :=
  ∀ c ∈ s.toList, isBlank c = false

instance (s : String) : Decidable (Plain s) :=
  List.decidableBAll (fun c => isBlank c = false) s.toList

/-- What holds of the characters of texts and of a separator holds of those of
the row. -/
theorem forall_mem_intercalate {P : Char → Prop} {sep : String}
    (hsep : ∀ c ∈ sep.toList, P c) {ss : List String}
    (h : ∀ s ∈ ss, ∀ c ∈ s.toList, P c) :
    ∀ c ∈ (sep.intercalate ss).toList, P c := by
  induction ss with
  | nil =>
    rw [String.intercalate_nil]
    exact fun c hc => absurd hc List.not_mem_nil
  | cons s ss ih =>
    have hs := h s List.mem_cons_self
    have hss := ih fun t ht => h t (List.mem_cons_of_mem _ ht)
    cases ss with
    | nil =>
      rw [String.intercalate_singleton]
      exact hs
    | cons t ss =>
      rw [String.intercalate_cons_cons, String.toList_append,
        String.toList_append, List.forall_mem_append, List.forall_mem_append]
      exact ⟨⟨hs, hsep⟩, hss⟩

/-- Texts that are not empty make none that is. -/
theorem intercalate_ne_empty (sep : String) {ss : List String}
    (h : ∀ s ∈ ss, s ≠ "") (hne : ss ≠ []) :
    sep.intercalate ss ≠ "" := by
  cases ss with
  | nil => exact absurd rfl hne
  | cons s ss =>
    have hs := h s List.mem_cons_self
    cases ss with
    | nil =>
      rw [String.intercalate_singleton]
      exact hs
    | cons t ss =>
      rw [String.intercalate_cons_cons]
      simp [hs]

/-- The digits of a number are digits. -/
theorem mem_toDigits {base n : Nat} (hbase : 1 < base) {c : Char}
    (h : c ∈ Nat.toDigits base n) :
    ∃ d, d < base ∧ c = Nat.digitChar d := by
  induction n using Nat.strongRecOn with
  | ind n ih =>
    rcases Nat.lt_or_ge n base with hlt | hge
    · rw [Nat.toDigits_of_lt_base hlt, List.mem_singleton] at h
      exact ⟨n, hlt, h⟩
    · rw [Nat.toDigits_of_base_le hbase hge, List.mem_append,
        List.mem_singleton] at h
      rcases h with h | h
      · exact ih (n / base) (Nat.div_lt_self (by omega) hbase) h
      · exact ⟨n % base, Nat.mod_lt _ (by omega), h⟩

end Text

section Characters

variable {P : Char → Prop} (hdigits : ∀ d < 16, P (Nat.digitChar d))
  (hdot : P '.') (hcolon : P ':')

include hdigits

theorem Text.forall_mem_toDigits {base : Nat} (hbase : 1 < base)
    (hle : base ≤ 16) (n : Nat) :
    ∀ c ∈ Nat.toDigits base n, P c := by
  intro c hc
  obtain ⟨d, hd, rfl⟩ := mem_toDigits hbase hc
  exact hdigits d (Nat.lt_of_lt_of_le hd hle)

include hdot

theorem Ipv4.forall_mem_text (a : Ipv4) : ∀ c ∈ a.text.toList, P c := by
  refine Text.forall_mem_intercalate (by simpa using hdot) ?_
  intro s hs
  obtain ⟨b, -, rfl⟩ := List.mem_map.1 hs
  rw [Nat.toString_eq_ofList_toDigits, String.toList_ofList]
  exact Text.forall_mem_toDigits hdigits (by decide) (by decide) _

include hcolon

/-- What holds of digits, dots and colons holds of the characters of an address
of version 6. -/
theorem Ipv6.forall_mem_text (a : Ipv6) : ∀ c ∈ a.text.toList, P c := by
  have hjoin : ∀ gs : List UInt16,
      ∀ c ∈ (String.intercalate ":" (gs.map groupText)).toList, P c := by
    intro gs
    refine Text.forall_mem_intercalate (by simpa using hcolon) ?_
    intro s hs
    obtain ⟨g, -, rfl⟩ := List.mem_map.1 hs
    rw [groupText, String.toList_ofList]
    exact Text.forall_mem_toDigits hdigits (by decide) (by decide) _
  rw [text.eq_def]
  split
  · rw [String.toList_append, List.forall_mem_append]
    refine ⟨?_, Ipv4.forall_mem_text hdigits hdot _⟩
    have hf : P 'f' := hdigits 15 (by decide)
    simpa using And.intro hcolon (And.intro hf hcolon)
  · dsimp only
    split
    · rw [String.toList_append, String.toList_append, List.forall_mem_append,
        List.forall_mem_append]
      exact ⟨⟨hjoin _, by simpa using hcolon⟩, hjoin _⟩
    · exact hjoin _

theorem Ip.forall_mem_text (a : Ip) : ∀ c ∈ a.text.toList, P c := by
  cases a with
  | v4 a => exact a.forall_mem_text hdigits hdot
  | v6 a => exact a.forall_mem_text hdigits hdot hcolon

end Characters

/-- The text of an address is not empty. -/
theorem Ip.text_ne_empty (a : Ip) : a.text ≠ "" := by
  cases a with
  | v4 a =>
    refine Text.intercalate_ne_empty _ ?_ (by simp)
    intro s hs
    obtain ⟨b, -, rfl⟩ := List.mem_map.1 hs
    rw [Nat.toString_eq_ofList_toDigits]
    simp
  | v6 a =>
    rw [text, Ipv6.text.eq_def]
    split
    · simp
    · dsimp only
      split
      · simp
      · refine Text.intercalate_ne_empty _ ?_ (by simp)
        intro s hs
        obtain ⟨g, -, rfl⟩ := List.mem_map.1 hs
        rw [Ipv6.groupText]
        simp

theorem Ip.plain_text (a : Ip) : Text.Plain a.text ∧ a.text ≠ "" :=
  ⟨a.forall_mem_text (by decide) (by decide) (by decide), a.text_ne_empty⟩

namespace Header

theorem isValue_of_plain {s : String}
    (h : Text.Plain s) : IsValue s.toList where
  trimmed := ⟨fun c hc => h c (List.mem_of_head? hc),
    fun c hc => h c (List.mem_of_getLast? hc)⟩
  unbroken := unbroken_of_not_mem fun hcr => absurd (h _ hcr) (by decide)

/-- A value that is not blank goes on with another element. -/
theorem IsValue.append_element {chain : String} (h : IsValue chain.toList)
    (hne : chain.toList ≠ []) {s : String} (hs : Text.Plain s) (hs0 : s ≠ "") :
    IsValue (chain ++ ", " ++ s).toList := by
  have hs1 : s.toList ≠ [] := fun hnil => hs0 (String.toList_injective hnil)
  have hback : Unbroken '\r' '\n' (' ' :: s.toList) :=
    Unbroken.append_cons List.isChain_nil (by decide) (by decide)
      (isValue_of_plain hs).unbroken
  refine ⟨⟨?_, ?_⟩, ?_⟩
  · intro c hc
    rw [String.append_assoc, String.toList_append,
      List.head?_append_of_ne_nil _ hne] at hc
    exact h.trimmed.head c hc
  · intro c hc
    rw [String.toList_append, List.getLast?_append_of_ne_nil _ hs1] at hc
    exact hs c (List.mem_of_getLast? hc)
  · rw [String.append_assoc, String.toList_append, String.toList_append]
    exact h.unbroken.append_cons (by decide) (by decide) hback

end Header

/-! ## Edits of headers -/

namespace Headers

variable {hs : Headers} {name other : String}

/-- An update changes the value of the last header of the name. -/
theorem updateLast?_spec {f : String → String} {new : Headers}
    (h : hs.updateLast? name f = some new) :
    ∃ front header back, hs.list = front ++ header :: back ∧
      header.named name = true ∧
      (∀ later ∈ back, later.named name = false) ∧
      new.list = front ++ { header with value := f header.value } :: back := by
  -- the reversed list has the last header in front
  have key : ∀ {old new : List Header}, updateLast?.go name f old = some new →
      ∃ front header back, old = front ++ header :: back ∧ header.named name = true ∧
        (∀ earlier ∈ front, earlier.named name = false) ∧
        new = front ++ { header with value := f header.value } :: back := by
    intro old
    induction old with
    | nil =>
      intro new h
      cases h
    | cons header rest ih =>
      intro new h
      rw [updateLast?.go] at h
      by_cases hn : header.named name = true
      · rw [if_pos hn] at h
        cases h
        exact ⟨[], header, rest, rfl, hn,
          fun _ hnone => absurd hnone List.not_mem_nil, rfl⟩
      · rw [if_neg hn, Option.map_eq_some_iff] at h
        obtain ⟨more, hmore, rfl⟩ := h
        obtain ⟨front, found, back, rfl, hfound, hfront, rfl⟩ := ih hmore
        exact ⟨header :: front, found, back, rfl, hfound,
          List.forall_mem_cons.2 ⟨Bool.not_eq_true _ ▸ hn, hfront⟩, rfl⟩
  rw [updateLast?, Option.map_eq_some_iff] at h
  obtain ⟨more, hmore, rfl⟩ := h
  obtain ⟨front, header, back, hold, hn, hfront, rfl⟩ := key hmore
  refine ⟨back.reverse, header, front.reverse, ?_, hn, fun later hlater => ?_, by simp⟩
  · rw [← List.reverse_reverse hs.list, hold]
    simp
  · exact hfront later (List.mem_reverse.1 hlater)

/-- Without a header of the name there is nothing to update. -/
theorem not_named_of_updateLast?_eq_none {f : String → String}
    (h : hs.updateLast? name f = none) :
    ∀ header ∈ hs.list, header.named name = false := by
  have key : ∀ {old : List Header}, updateLast?.go name f old = none →
      ∀ header ∈ old, header.named name = false := by
    intro old h
    fun_induction updateLast?.go name f old with
    | case1 => exact fun _ hnone => absurd hnone List.not_mem_nil
    | case2 => cases h
    | case3 header rest hn ih =>
      exact List.forall_mem_cons.2 ⟨Bool.not_eq_true _ ▸ hn,
        ih (Option.map_eq_none_iff.1 h)⟩
  rw [updateLast?, Option.map_eq_none_iff] at h
  exact fun header hheader => key h header (List.mem_reverse.2 hheader)

/-- What becomes of a chain of addresses. -/
inductive Extends (client : Ip) : (old new : List Header) → Prop where
  /-- The last chain goes on with the client. -/
  | append {front back : List Header} {chain : Header} :
      chain.named "x-forwarded-for" = true →
      (∀ later ∈ back, later.named "x-forwarded-for" = false) →
      (∃ c ∈ chain.value.toList, Text.isBlank c = false) →
      Extends client (front ++ chain :: back)
        (front ++ { chain with value := chain.value ++ ", " ++ client.text } :: back)
  /-- The last chain is blank, and the client stands in its place. -/
  | replace {front back : List Header} {chain : Header} :
      chain.named "x-forwarded-for" = true →
      (∀ later ∈ back, later.named "x-forwarded-for" = false) →
      (∀ c ∈ chain.value.toList, Text.isBlank c = true) →
      Extends client (front ++ chain :: back) (front ++ { chain with
        value := client.text } :: back)
  /-- There is no chain, and the client begins one. -/
  | begin {old : List Header} : (∀ h ∈ old, h.named "x-forwarded-for" = false) →
      Extends client old (old ++ [⟨"X-Forwarded-For", client.text⟩])

/-- **The client is added at the end of the chain of addresses.** -/
theorem extends_appendForwardedFor (hs : Headers) (client : Ip) :
    Extends client hs.list (hs.appendForwardedFor client).list := by
  rw [appendForwardedFor]
  generalize hf : (fun chain : String =>
    if Text.trim chain.toList = [] then client.text
    else chain ++ ", " ++ client.text) = extended
  cases hupdate : hs.updateLast? "x-forwarded-for" extended with
  | none => exact .begin (not_named_of_updateLast?_eq_none hupdate)
  | some new =>
    obtain ⟨front, chain, back, hold, hn, hback, hnew⟩ := updateLast?_spec hupdate
    rw [Option.getD_some, hold, hnew, ← hf]
    dsimp only
    by_cases hblank : Text.trim chain.value.toList = []
    · rw [if_pos hblank]
      exact .replace hn hback (Text.trim_eq_nil_iff.1 hblank)
    · rw [if_neg hblank]
      rw [Text.trim_eq_nil_iff] at hblank
      exact .append hn hback (by simpa using hblank)

theorem addRequestId_cases (hs : Headers) (id : String) :
    hs.addRequestId id = hs ∨ hs.addRequestId id = hs.push "X-Request-Id" id := by
  rw [addRequestId]
  split
  · exact .inl rfl
  · exact .inr rfl

/-- The headers are well-formed. -/
def WellFormed (hs : Headers) : Prop :=
  ∀ h ∈ hs.list, h.WellFormed

theorem WellFormed.of_sublist {new : Headers} (h : hs.WellFormed)
    (hsub : new.list.Sublist hs.list) :
    new.WellFormed :=
  fun one hone => h one (hsub.subset hone)

theorem sublist_dropOverriddenLength (hs : Headers) :
    hs.dropOverriddenLength.list.Sublist hs.list := by
  rw [dropOverriddenLength]
  split
  · exact List.filter_sublist
  · exact List.Sublist.refl _

theorem WellFormed.stripped (h : hs.WellFormed) :
    hs.stripConnectionBound.dropOverriddenLength.WellFormed :=
  h.of_sublist ((sublist_dropOverriddenLength _).trans List.filter_sublist)

theorem forall_mem_push {P : Header → Prop} {value : String}
    (h : ∀ one ∈ hs.list, P one) (hnew : P ⟨name, value⟩) :
    ∀ one ∈ (hs.push name value).list, P one := by
  intro one hone
  rw [list_push] at hone
  rcases List.mem_append.1 hone with hone | hone
  · exact h one hone
  · rw [List.mem_singleton.1 hone]
    exact hnew

theorem WellFormed.push {value : String} (h : hs.WellFormed)
    (hname : Header.IsName name.toList) (hvalue : Header.IsValue value.toList) :
    (hs.push name value).WellFormed :=
  forall_mem_push h ⟨hname, hvalue⟩

/-- The client is added as a header, as the value of one, or at the end of its
value. -/
theorem forall_mem_appendForwardedFor {P : Header → Prop} {client : Ip}
    (h : ∀ one ∈ hs.list, P one) (hnew : P ⟨"X-Forwarded-For", client.text⟩)
    (hset : ∀ one, P one → P ⟨one.name, client.text⟩)
    (hchain : ∀ one, P one → one.value.toList ≠ [] →
      P ⟨one.name, one.value ++ ", " ++ client.text⟩) :
    ∀ one ∈ (hs.appendForwardedFor client).list, P one := by
  have hextends := extends_appendForwardedFor hs client
  generalize hs.list = old at h hextends
  generalize (hs.appendForwardedFor client).list = new at hextends ⊢
  cases hextends with
  | append _ _ hword =>
    rw [List.forall_mem_append, List.forall_mem_cons] at h ⊢
    exact ⟨h.1, hchain _ h.2.1 (List.ne_nil_of_mem hword.choose_spec.1), h.2.2⟩
  | replace =>
    rw [List.forall_mem_append, List.forall_mem_cons] at h ⊢
    exact ⟨h.1, hset _ h.2.1, h.2.2⟩
  | begin =>
    rw [List.forall_mem_append, List.forall_mem_singleton]
    exact ⟨h, hnew⟩

theorem forall_mem_addRequestId {P : Header → Prop} {id : String}
    (h : ∀ one ∈ hs.list, P one) (hid : P ⟨"X-Request-Id", id⟩) :
    ∀ one ∈ (hs.addRequestId id).list, P one := by
  rcases addRequestId_cases hs id with hnew | hnew
  · rw [hnew]
    exact h
  · rw [hnew]
    exact forall_mem_push h hid

end Headers

/-- **What a request's headers keep when it is made ready for a backend**: what
holds of them all, and goes on with the client in a chain of addresses and with
the identifier. -/
theorem Request.forall_mem_prepare {P : Header → Prop} {r : Request}
    {client : Ip} {id : String} (h : ∀ one ∈ r.headers.list, P one)
    (hnew : P ⟨"X-Forwarded-For", client.text⟩)
    (hset : ∀ one, P one → P ⟨one.name, client.text⟩)
    (hchain : ∀ one, P one → one.value.toList ≠ [] →
      P ⟨one.name, one.value ++ ", " ++ client.text⟩)
    (hid : P ⟨"X-Request-Id", id⟩) :
    ∀ one ∈ (r.prepare client id).headers.list, P one := by
  have hsub : (r.headers.stripConnectionBound.dropOverriddenLength.remove
      "expect").list.Sublist r.headers.list :=
    List.filter_sublist.trans
      ((Headers.sublist_dropOverriddenLength _).trans List.filter_sublist)
  exact Headers.forall_mem_addRequestId
    (Headers.forall_mem_appendForwardedFor
      (fun one hone => h one (hsub.subset hone)) hnew hset hchain) hid

/-- **A request that is made ready for a backend stays well-formed.** -/
theorem Request.WellFormed.prepare {r : Request} (h : r.WellFormed)
    (client : Ip) {id : String} (hid : Header.IsValue id.toList) :
    (r.prepare client id).WellFormed := by
  obtain ⟨hplain, hne⟩ := client.plain_text
  refine ⟨h.method_ne_nil, h.method_letters, h.target_ne_nil, h.blank_not_mem,
    h.unbroken, ?_⟩
  have hforwarded : Header.IsName "X-Forwarded-For".toList := by decide
  have hrequestId : Header.IsName "X-Request-Id".toList := by decide
  exact forall_mem_prepare h.headers ⟨hforwarded, Header.isValue_of_plain hplain⟩
    (fun one hone => ⟨hone.name, Header.isValue_of_plain hplain⟩)
    (fun one hone hchain => ⟨hone.name,
      hone.value.append_element hchain hplain hne⟩) ⟨hrequestId, hid⟩

/-! ## Framing -/

namespace Headers

variable {hs : Headers} {name other : String}

/-- Names that are alike are alike to the same names. -/
theorem alike_congr {s t : String} (h : Text.alike s t = true) (u : String) :
    Text.alike s u = Text.alike t u := by
  rw [Text.alike_iff] at h
  rw [Text.alike, Text.alike, h]

theorem alike_of_named {h : Header} (h1 : h.named name = true)
    (h2 : h.named other = true) :
    Text.alike name other = true := by
  rw [Header.named, Text.alike_iff] at h1 h2
  rw [Text.alike_iff, ← h1, h2]

theorem not_named_of_named {h : Header} (hne : Text.alike other name = false)
    (hother : h.named other = true) :
    h.named name = false := by
  rw [Bool.eq_false_iff]
  intro hname
  rw [alike_of_named hother hname] at hne
  cases hne

/-- Removing other names keeps the values of a name. -/
theorem getAll_removeAll {names : List String}
    (h : ∀ n ∈ names, Text.alike n name = false) (hs : Headers) :
    (hs.removeAll names).getAll name = hs.getAll name := by
  rw [getAll, getAll, list_removeAll, List.filter_filter]
  refine congrArg _ (List.filter_congr ?_)
  intro header _
  cases hname : header.named name with
  | false => rfl
  | true =>
    rw [Bool.true_and, Bool.not_eq_true', List.any_eq_false]
    intro n hn hnamed
    rw [not_named_of_named (h n hn) hnamed] at hname
    cases hname

/-- Removing another name keeps the values of a name. -/
theorem getAll_remove (h : Text.alike other name = false) (hs : Headers) :
    (hs.remove other).getAll name = hs.getAll name := by
  have hremove : hs.remove other = hs.removeAll [other] := by
    refine congrArg Headers.mk (List.filter_congr ?_)
    intro header _
    rw [List.any_cons, List.any_nil, Bool.or_false]
  rw [hremove, getAll_removeAll]
  intro n hn
  rw [List.mem_singleton.1 hn]
  exact h

theorem getAll_push (h : Text.alike other name = false) (hs : Headers)
    (value : String) :
    (hs.push other value).getAll name = hs.getAll name := by
  have hnamed : Header.named name ⟨other, value⟩ = false := h
  rw [getAll, getAll, list_push, List.filter_append, List.filter_singleton, hnamed]
  exact congrArg _ (List.append_nil _)

theorem getAll_push_self (h : Text.alike other name = true) (hs : Headers)
    (value : String) :
    (hs.push other value).getAll name = hs.getAll name ++ [value] := by
  have hnamed : Header.named name ⟨other, value⟩ = true := h
  rw [getAll, getAll, list_push, List.filter_append, List.filter_singleton,
    hnamed, List.map_append]
  rfl

/-- The client is added under another name. -/
theorem getAll_appendForwardedFor
    (h : Text.alike "x-forwarded-for" name = false) (hs : Headers) (client : Ip) :
    (hs.appendForwardedFor client).getAll name = hs.getAll name := by
  have hchain : ∀ (chain : Header) (value : String),
      chain.named "x-forwarded-for" = true →
      chain.named name = false ∧ Header.named name { chain with
        value := value } = false :=
    fun chain value hn => ⟨not_named_of_named h hn, not_named_of_named h hn⟩
  have hextends := extends_appendForwardedFor hs client
  rw [getAll, getAll]
  generalize hs.list = old at hextends ⊢
  generalize (hs.appendForwardedFor client).list = new at hextends ⊢
  cases hextends with
  | @append _ _ chain hn =>
    obtain ⟨hold, hnew⟩ := hchain chain (chain.value ++ ", " ++ client.text) hn
    simp only [List.filter_append, List.filter_cons, hold, hnew,
      Bool.false_eq_true, if_false]
  | @replace _ _ chain hn =>
    obtain ⟨hold, hnew⟩ := hchain chain client.text hn
    simp only [List.filter_append, List.filter_cons, hold, hnew,
      Bool.false_eq_true, if_false]
  | begin =>
    have halike : Text.alike "X-Forwarded-For" "x-forwarded-for" = true := by
      decide +kernel
    have hnew : Header.named name ⟨"X-Forwarded-For", client.text⟩ = false :=
      (alike_congr halike name).trans h
    simp only [List.filter_append, List.filter_cons, List.filter_nil, hnew,
      Bool.false_eq_true, if_false, List.append_nil]

theorem getAll_addRequestId (h : Text.alike "x-request-id" name = false)
    (hs : Headers) (id : String) :
    (hs.addRequestId id).getAll name = hs.getAll name := by
  rcases addRequestId_cases hs id with hnew | hnew
  · rw [hnew]
  · rw [hnew]
    exact getAll_push ((alike_congr (by decide +kernel) name).trans h) hs _

/-- An element of a list-valued header is a part between commas that is not
blank, without the blanks around it. -/
theorem mem_elements_iff {hs : Headers} {element : String} :
    element ∈ hs.elements name ↔
      ∃ value ∈ hs.getAll name, ∃ part ∈ Text.pieces ',' value.toList,
      Text.trim part ≠ [] ∧ String.ofList (Text.trim part) = element := by
  rw [elements, List.mem_flatMap]
  refine exists_congr fun value => and_congr_right fun _ => ?_
  simp only [List.mem_map, List.mem_filter, decide_eq_true_iff]
  constructor
  · rintro ⟨_, ⟨⟨part, hpart, rfl⟩, hne⟩, rfl⟩
    exact ⟨part, hpart, hne, rfl⟩
  · rintro ⟨part, hpart, hne, rfl⟩
    exact ⟨_, ⟨⟨part, hpart, rfl⟩, hne⟩, rfl⟩

theorem contains_iff (hs : Headers) (name : String) :
    hs.contains name = true ↔ hs.getAll name ≠ [] := by
  rw [contains, getAll, List.any_eq_true, Ne, List.map_eq_nil_iff,
    List.filter_eq_nil_iff]
  simp

/-- **What frames the body is not bound to the connection**, whatever a list of
such headers says. -/
theorem getAll_stripConnectionBound (h : name ∈ framingNames) (hs : Headers) :
    hs.stripConnectionBound.getAll name = hs.getAll name := by
  have hbound : ∀ n ∈ connectionBound, ∀ name ∈ framingNames,
      Text.alike n name = false := by
    decide +kernel
  apply getAll_removeAll
  intro n hn
  rcases List.mem_append.1 hn with hn | hn
  · exact hbound n hn name h
  -- what a client lists as bound is taken out of the list if it frames the body
  · rw [listedAsBound, List.mem_filter, Bool.not_eq_true', List.any_eq_false] at hn
    rw [Bool.eq_false_iff]
    exact hn.2 name h

/-- A transfer coding does not end here. -/
theorem contains_stripConnectionBound (hs : Headers) :
    hs.stripConnectionBound.contains "transfer-encoding" =
      hs.contains "transfer-encoding" := by
  rw [Bool.eq_iff_iff, contains_iff, contains_iff,
    getAll_stripConnectionBound List.mem_cons_self]

/-- A length goes only where there is a transfer coding, which stays. -/
theorem getAll_dropOverriddenLength (hs : Headers) :
    hs.dropOverriddenLength.getAll "transfer-encoding" = hs.getAll "transfer-encoding" ∧
      (hs.contains "transfer-encoding" = false → hs.dropOverriddenLength = hs) := by
  rw [dropOverriddenLength]
  split
  · rename_i hc
    exact ⟨getAll_remove (by decide +kernel) hs, fun hno => by rw [hc] at hno; cases hno⟩
  · exact ⟨rfl, fun _ => rfl⟩

/-- Headers with the same values for what frames the body announce the same
framing; where there is a transfer coding, the length does not count. -/
theorem declaredFraming_congr {hs new : Headers}
    (hcoding : new.getAll "transfer-encoding" = hs.getAll "transfer-encoding")
    (hlength : hs.contains "transfer-encoding" = false →
      new.getAll "content-length" = hs.getAll "content-length") :
    new.declaredFraming = hs.declaredFraming := by
  have hcontains : new.contains "transfer-encoding" =
      hs.contains "transfer-encoding" := by
    rw [Bool.eq_iff_iff, contains_iff, contains_iff, hcoding]
  rw [declaredFraming, declaredFraming, hcontains, elements, elements, elements,
    elements, hcoding]
  by_cases hc : hs.contains "transfer-encoding" = true
  · rw [if_pos hc, if_pos hc]
  · rw [if_neg hc, if_neg hc, hlength (Bool.not_eq_true _ ▸ hc)]

/-- **Headers keep their framing** without those that are bound to the
connection and without a length that does not count, whatever becomes of the
others. -/
theorem declaredFraming_of_stripped {hs new : Headers}
    (hkeep : ∀ name ∈ framingNames, new.getAll name =
      hs.stripConnectionBound.dropOverriddenLength.getAll name) :
    new.declaredFraming = hs.declaredFraming := by
  have hcoding : "transfer-encoding" ∈ framingNames := List.mem_cons_self
  have hlength : "content-length" ∈ framingNames :=
    List.mem_cons_of_mem _ List.mem_cons_self
  obtain ⟨hdrop, hno⟩ := hs.stripConnectionBound.getAll_dropOverriddenLength
  apply declaredFraming_congr
  -- a length is dropped only where a transfer coding overrides it
  · rw [hkeep _ hcoding, hdrop, getAll_stripConnectionBound hcoding]
  · intro hc
    rw [hkeep _ hlength, hno (hs.contains_stripConnectionBound.trans hc),
      getAll_stripConnectionBound hlength]

end Headers

namespace Request

/-- **A request that is made ready for a backend keeps its framing.** -/
theorem framing_prepare (r : Request) (client : Ip) (id : String) :
    (r.prepare client id).framing = r.framing := by
  have hnames : ∀ name ∈ Headers.framingNames, Text.alike "expect" name = false ∧
      Text.alike "x-forwarded-for" name = false ∧
      Text.alike "x-request-id" name = false := by
    decide +kernel
  rw [framing, framing, Headers.declaredFraming_of_stripped]
  intro name hname
  obtain ⟨hexpect, hforwarded, hid⟩ := hnames name hname
  rw [prepare, Headers.getAll_addRequestId hid,
    Headers.getAll_appendForwardedFor hforwarded, Headers.getAll_remove hexpect]

/-- **The next hop sees the request that the gateway saw.** A request was read,
the end of its body was found, and it was made ready for a backend, with
whatever headers the client gave it. If the backend takes so many headers and so
many bytes, then it reads its head and nothing behind it, in whatever pieces the
bytes come; the request that it reads is the one that was sent; and it finds the
end of the body as the gateway did. -/
theorem next_hop_agrees {raw : Bytes} {r : Request} {framing : Framing}
    (hread : parse raw = .ok r) (hframing : r.framing = .ok framing)
    (client : Ip) {id : String} (hid : Header.IsValue id.toList)
    (hroom : (r.prepare client id).headers.length ≤ Head.maxHeaders) {max : Nat}
    (hmax : (r.prepare client id).encode.length ≤ max) {rest : Bytes}
    {reader : Reader}
    (hbytes : reader.remaining = (r.prepare client id).encode ++ rest) :
    (∃ t, reader.readHead max = (.ok (some (r.prepare client id).encode), t) ∧
      t.remaining = rest) ∧
      parse (r.prepare client id).encode = .ok (r.prepare client id) ∧
      (r.prepare client id).framing = .ok framing := by
  have hwell := (wellFormed_of_parse hread).prepare client hid
  have hhead := headOf?_encode hwell hmax rest
  rw [← hbytes] at hhead
  obtain ⟨t, ht, hrest, -⟩ := Reader.readHead_of_headOf? hhead
  refine ⟨⟨t, ht, hrest⟩, parse_encode hwell hroom, ?_⟩
  rw [framing_prepare, hframing]

/-- A request with two framings, which lists both as bound to its connection. -/
def conflicting : Request :=
  ⟨"PUT", "/", .http11, ⟨[⟨"Transfer-Encoding", "Chunked"⟩, ⟨"Content-Length", "5"⟩,
    ⟨"Connection", "TRANSFER-encoding, content-Length"⟩]⟩⟩

/-- It goes on with the framing that counts, as the next hop reads it out of two
pieces. -/
theorem next_hop_agrees_conflicting :
    let sent := conflicting.prepare .loopback "8f14e45f-ceea-467a-9af3-1d2f4a6b7c89"
    let reader : Reader := ⟨sent.encode.take 3,
      ⟨[sent.encode.drop 3, Bytes.ofText "0\r\n\r\n"], .eof⟩⟩
    sent.headers.contains "content-length" = false ∧
      (∃ t, reader.readHead 200 = (.ok (some sent.encode), t) ∧
        t.remaining = Bytes.ofText "0\r\n\r\n") ∧
      parse sent.encode = .ok sent ∧ sent.framing = .ok .chunked := by
  have hread : parse (Bytes.ofText
      ("PUT / HTTP/1.1\r\nTransfer-Encoding:Chunked\r\nContent-Length: 5\r\n" ++
        "Connection: TRANSFER-encoding, content-Length\r\n\r\n")) =
        .ok conflicting := by
    decide +kernel
  have hframing : conflicting.framing = .ok .chunked := rfl
  have hid : Header.IsValue "8f14e45f-ceea-467a-9af3-1d2f4a6b7c89".toList :=
    Header.isValue_of_plain (by decide)
  intro sent reader
  have hbytes : reader.remaining = sent.encode ++ Bytes.ofText "0\r\n\r\n" := by
    rw [Reader.remaining, Source.remaining, List.flatten_cons,
      ← List.append_assoc, List.take_append_drop]
    rfl
  obtain ⟨hlength, hroom, hmax⟩ : sent.headers.contains "content-length" = false ∧
      sent.headers.length ≤ Head.maxHeaders ∧ sent.encode.length ≤ 200 := by
    decide +kernel
  exact ⟨hlength, next_hop_agrees hread hframing .loopback hid hroom hmax hbytes⟩

end Request

end Gateway
