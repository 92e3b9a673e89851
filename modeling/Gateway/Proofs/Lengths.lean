import Gateway.Proofs.ChunkedBody
import Gateway.Proofs.Numerals
import Gateway.Proofs.Responses

/-!
# Lengths of bodies

A body's length is written in headers and in front of chunks. Both are numbers
in text, with blanks around them and, in headers, with commas between them. What
is read is a spelling of the number, and every spelling is read; a header that
spells nothing at all, of commas and blanks alone, is as good as none. A strict
reader takes digits alone, with spaces and tabs around them, which is not all
that is read here.

* `Text.Vacant`, `Headers.elements_eq_nil_iff`: values without elements;
* `Headers.agreedLength_eq_some_iff`, `Pipe.chunkSize_eq_ok_iff`: which lengths
  are read;
* `Text.Strict`, `Headers.StrictLengths`: what a strict reader takes, and that
  it is what is `Text.Ordinary`;
* `Framing.read_iff_spelled`: the lengths of headers and of chunks together;
* `Headers.declaredFraming_eq_none_iff_vacant`: when the headers say nothing
  about a body.
-/

namespace Gateway

/-! ## Lengths in headers -/

namespace Text

/-- Nothing but commas and blanks. -/
def Vacant (cs : List Char) : Prop :=
  ∀ c ∈ cs, c = ',' ∨ isBlank c = true

instance (cs : List Char) : Decidable (Vacant cs) :=
  List.decidableBAll _ cs

end Text

/-- The framing of a body of `n` bytes. -/
def Framing.ofLength (n : Nat) : Framing :=
  if n = 0 then .empty else .length n

theorem Framing.ofLength_cases (n : Nat) :
    (n = 0 ∧ Framing.ofLength n = .empty) ∨
      n ≠ 0 ∧ Framing.ofLength n = .length n := by
  rw [ofLength]
  by_cases h : n = 0
  · exact .inl ⟨h, if_pos h⟩
  · exact .inr ⟨h, if_neg h⟩

namespace Headers

variable {hs : Headers} {name : String} {es : List String} {n : Nat}

/-- **A list-valued header has no elements** if its values are nothing but
commas and blanks. -/
theorem elements_eq_nil_iff :
    hs.elements name = [] ↔ ∀ value ∈ hs.getAll name, Text.Vacant value.toList := by
  rw [elements, List.flatMap_eq_nil_iff]
  refine forall₂_congr fun value _ => ?_
  rw [List.map_eq_nil_iff, List.filter_eq_nil_iff, List.forall_mem_map,
    Text.Vacant, ← Text.forall_pieces_iff]
  refine forall₂_congr fun piece _ => ?_
  rw [decide_eq_true_eq, not_not, Text.trim_eq_nil_iff]

theorem lengthOf_eq_ok_iff {e : String} :
    agreedLength.lengthOf e = .ok n ↔
      Text.Spelled 10 e.toList n ∧ n ≤ Text.max64 := by
  rw [← Text.unsigned?_eq_some_iff (by decide), agreedLength.lengthOf]
  cases Text.unsigned? 10 Text.max64 e.toList with
  | none => simp
  | some m => simp

theorem lengthOf_of_not_spelled {e : String}
    (h : ∀ n ≤ Text.max64, ¬ Text.Spelled 10 e.toList n) :
    agreedLength.lengthOf e = .error .invalidLength := by
  rw [agreedLength.lengthOf]
  cases hread : Text.unsigned? 10 Text.max64 e.toList with
  | none => rfl
  | some m =>
    obtain ⟨hspelled, hle⟩ := (Text.unsigned?_eq_some_iff (by decide)).1 hread
    exact absurd hspelled (h m hle)

/-- What the lengths behind the first one have to say. -/
def agreesOn (n : Nat) (other : String) : Except Flaw Unit := do
  if (← agreedLength.lengthOf other) ≠ n then throw .conflictingLengths

/-- A length agrees on a number if it says the same. -/
theorem agreesOn_eq_ok_iff {e : String} :
    agreesOn n e = .ok () ↔ agreedLength.lengthOf e = .ok n := by
  rw [agreesOn]
  cases agreedLength.lengthOf e with
  | error flaw => simp [bind, Except.bind]
  | ok m =>
    by_cases hm : m = n
    · simp [bind, Except.bind, pure, Except.pure, hm]
    · simp [bind, Except.bind, throw, throwThe, MonadExceptOf.throw, hm]

/-- All lengths agree on a number if each of them does. -/
theorem forM_agreesOn_iff :
    es.forM (agreesOn n) = .ok () ↔ ∀ e ∈ es, agreedLength.lengthOf e = .ok n := by
  induction es with
  | nil => simp [List.forM, pure, Except.pure]
  | cons e es ih =>
    rw [List.forall_mem_cons, ← ih, ← agreesOn_eq_ok_iff, List.forM]
    cases agreesOn n e with
    | error flaw => simp [bind, Except.bind]
    | ok _ => simp [bind, Except.bind]

theorem agreedLength_cons (first : String) (rest : List String) :
    agreedLength (first :: rest) =
      agreedLength.lengthOf first >>= fun n =>
        rest.forM (agreesOn n) >>= fun _ => pure (some n) := rfl

/-- **Lengths agree on a number** if there are any and each of them spells
it. -/
theorem agreedLength_eq_some_iff :
    agreedLength es = .ok (some n) ↔
      es ≠ [] ∧ n ≤ Text.max64 ∧ ∀ e ∈ es, Text.Spelled 10 e.toList n := by
  cases es with
  | nil => simp [agreedLength]
  | cons first rest =>
    have hread : (∀ e ∈ first :: rest, agreedLength.lengthOf e = .ok n) ↔
        n ≤ Text.max64 ∧ ∀ e ∈ first :: rest, Text.Spelled 10 e.toList n := by
      simp only [lengthOf_eq_ok_iff]
      exact ⟨fun h => ⟨(h first List.mem_cons_self).2, fun e he => (h e he).1⟩,
        fun h e he => ⟨h.2 e he, h.1⟩⟩
    rw [agreedLength_cons, ← hread, List.forall_mem_cons]
    cases agreedLength.lengthOf first with
    | error flaw => simp [bind, Except.bind]
    | ok m =>
      constructor
      · intro h
        cases hrest : rest.forM (agreesOn m) with
        | error flaw =>
          simp only [bind, Except.bind, hrest] at h
          cases h
        | ok _ =>
          simp only [bind, Except.bind, hrest] at h
          cases h
          exact ⟨List.cons_ne_nil first rest, rfl, forM_agreesOn_iff.1 hrest⟩
      · rintro ⟨-, hm, hrest⟩
        cases hm
        simp only [bind, Except.bind, forM_agreesOn_iff.2 hrest]
        rfl

/-- Where there are no lengths, there is no number to agree on. -/
theorem agreedLength_eq_none_iff : agreedLength es = .ok none ↔ es = [] := by
  cases es with
  | nil => simp [agreedLength]
  | cons first rest =>
    rw [agreedLength_cons]
    cases agreedLength.lengthOf first with
    | error flaw => simp [bind, Except.bind]
    | ok m =>
      cases hrest : rest.forM (agreesOn m) with
      | error flaw => simp [bind, Except.bind, hrest]
      | ok _ => simp [bind, Except.bind, hrest, pure, Except.pure]

theorem flaw_of_lengthOf {e : String} {flaw : Flaw}
    (h : agreedLength.lengthOf e = .error flaw) :
    flaw = .invalidLength := by
  rw [agreedLength.lengthOf] at h
  split at h
  · cases h
  · cases h
    rfl

/-- A length that does not agree is none, or it is another one. -/
theorem flaw_of_agreesOn {e : String} {flaw : Flaw}
    (h : agreesOn n e = .error flaw) :
    flaw = .invalidLength ∨ flaw = .conflictingLengths := by
  rw [agreesOn] at h
  cases he : agreedLength.lengthOf e with
  | error flaw' =>
    rw [he] at h
    cases h
    exact .inl (flaw_of_lengthOf he)
  | ok m =>
    rw [he] at h
    by_cases hm : m = n
    · simp [bind, Except.bind, pure, Except.pure, hm] at h
    · simp [bind, Except.bind, throw, throwThe, MonadExceptOf.throw, hm] at h
      exact .inr h.symm

/-- Lengths that do not all agree are refused for one of them. -/
theorem exists_of_forM_agreesOn {flaw : Flaw}
    (h : es.forM (agreesOn n) = .error flaw) :
    ∃ e ∈ es, agreesOn n e = .error flaw := by
  induction es with
  | nil => cases h
  | cons e es ih =>
    rw [List.forM] at h
    cases he : agreesOn n e with
    | error flaw' =>
      rw [he] at h
      cases h
      exact ⟨e, List.mem_cons_self, he⟩
    | ok _ =>
      rw [he] at h
      obtain ⟨other, hother, hflaw⟩ := ih h
      exact ⟨other, List.mem_cons_of_mem _ hother, hflaw⟩

/-- Lengths that are refused are no lengths, or they differ. -/
theorem flaw_of_agreedLength {flaw : Flaw} (h : agreedLength es = .error flaw) :
    flaw = .invalidLength ∨ flaw = .conflictingLengths := by
  cases es with
  | nil => cases h
  | cons first rest =>
    rw [agreedLength_cons] at h
    cases hfirst : agreedLength.lengthOf first with
    | error flaw' =>
      rw [hfirst] at h
      cases h
      exact .inl (flaw_of_lengthOf hfirst)
    | ok m =>
      rw [hfirst] at h
      cases hrest : rest.forM (agreesOn m) with
      | error flaw' =>
        simp only [bind, Except.bind, hrest] at h
        cases h
        obtain ⟨e, -, he⟩ := exists_of_forM_agreesOn hrest
        exact flaw_of_agreesOn he
      | ok _ =>
        simp only [bind, Except.bind, hrest] at h
        cases h

theorem agreedLength_of_not_spelled (hne : es ≠ [])
    (h : ∀ e ∈ es, ∀ n ≤ Text.max64, ¬ Text.Spelled 10 e.toList n) :
    agreedLength es = .error .invalidLength := by
  cases es with
  | nil => exact absurd rfl hne
  | cons first rest =>
    rw [agreedLength_cons, lengthOf_of_not_spelled (h first List.mem_cons_self)]
    rfl

theorem declaredFraming_of_uncoded (h : hs.contains "transfer-encoding" = false) :
    hs.declaredFraming = (agreedLength (hs.elements "content-length")).map
      (·.map Framing.ofLength) := by
  rw [declaredFraming, h]
  rfl

theorem declaredFraming_ne_none (h : hs.contains "transfer-encoding" = true) :
    hs.declaredFraming ≠ .ok none := by
  rw [declaredFraming, h, if_pos rfl]
  split
  · split <;> simp
  · simp

/-- **Lengths frame a body** if there are any and each of them spells the same
number. -/
theorem declaredFraming_eq_some_iff
    (h : hs.contains "transfer-encoding" = false) {f : Framing} :
    hs.declaredFraming = .ok (some f) ↔
      hs.elements "content-length" ≠ [] ∧
      ∃ n, n < 2 ^ 64 ∧ f = .ofLength n ∧ ∀ e ∈ hs.elements "content-length",
        Text.Spelled 10 e.toList n := by
  rw [declaredFraming_of_uncoded h]
  constructor
  · intro hread
    cases hagreed : agreedLength (hs.elements "content-length") with
    | error flaw =>
      rw [hagreed] at hread
      cases hread
    | ok length =>
      rw [hagreed] at hread
      cases length with
      | none => cases hread
      | some n =>
        cases hread
        obtain ⟨hne, hle, hspelled⟩ := agreedLength_eq_some_iff.1 hagreed
        exact ⟨hne, n, Nat.lt_succ_of_le hle, rfl, hspelled⟩
  · rintro ⟨hne, n, hlt, rfl, hspelled⟩
    rw [agreedLength_eq_some_iff.2 ⟨hne, Nat.le_of_lt_succ hlt, hspelled⟩]
    rfl

/-- **Nothing is said about a body** by headers without a coding and without a
length that holds anything. -/
theorem declaredFraming_eq_none_iff :
    hs.declaredFraming = .ok none ↔
      hs.contains "transfer-encoding" = false ∧
      hs.elements "content-length" = [] := by
  cases hc : hs.contains "transfer-encoding" with
  | true => simp [declaredFraming_ne_none hc]
  | false =>
    rw [declaredFraming_of_uncoded hc, ← agreedLength_eq_none_iff]
    cases agreedLength (hs.elements "content-length") with
    | error flaw => simp [Except.map]
    | ok length => simp [Except.map]

end Headers

/-! ## Sizes of chunks -/

namespace Pipe

/-- The part of a size line that says the size: what stands in front of the
first semicolon, without the blanks around it. -/
def sizeField (text : List Char) : List Char :=
  Text.trim (text.takeWhile (· ≠ ';'))

/-- Line ends behind a size line do not count. -/
theorem sizeField_append {ending : List Char}
    (hending : ∀ c ∈ ending, c = '\r' ∨ c = '\n') (bare : List Char) :
    sizeField (bare ++ ending) = sizeField bare := by
  rw [sizeField, sizeField]
  by_cases hsep : ∀ c ∈ bare, decide (c ≠ ';') = true
  -- the line end belongs to the field if no semicolon stands in front of it
  · have hplain : ∀ c ∈ ending, decide (c ≠ ';') = true := by
      intro c hc
      rcases hending c hc with rfl | rfl <;> decide
    have hblank : ∀ c ∈ ending, Text.isBlank c = true := by
      intro c hc
      rcases hending c hc with rfl | rfl <;> decide
    rw [List.takeWhile_append_of_pos hsep, List.takeWhile_eq_self_iff.2 hsep,
      List.takeWhile_eq_self_iff.2 hplain, Text.trim_append_of_blank hblank]
  · rw [List.takeWhile_append, if_neg]
    intro hlength
    exact hsep (List.takeWhile_eq_self_iff.1 ((List.takeWhile_prefix _).eq_of_length hlength))

/-- The line end is among the blanks that go. -/
theorem sizeField_eq (text : List Char) :
    Text.trim ((text.reverse.dropWhile fun c =>
      c == '\r' || c == '\n').reverse.takeWhile (· ≠ ';')) = sizeField text := by
  have hsplit : text =
      (text.reverse.dropWhile fun c => c == '\r' || c == '\n').reverse ++
        (text.reverse.takeWhile fun c => c == '\r' || c == '\n').reverse := by
    rw [← List.reverse_append, List.takeWhile_append_dropWhile, List.reverse_reverse]
  conv_rhs => rw [hsplit]
  refine (sizeField_append ?_ _).symm
  intro c hc
  have := List.all_eq_true.1 List.all_takeWhile c (List.mem_reverse.1 hc)
  simpa using this

/-- **The size of a chunk is read from its spellings**, of sixteen characters at
most. -/
theorem chunkSize_eq_ok_iff {line : Bytes} {n : Nat} :
    chunkSize line = .ok n ↔
      ∃ text, line.text? = some text ∧ (sizeField text.toList).length ≤ 16 ∧
      Text.Spelled 16 (sizeField text.toList) n := by
  rw [chunkSize]
  cases line.text? with
  | none => simp
  | some text =>
    simp only [sizeField_eq, Option.some.injEq, exists_eq_left']
    generalize sizeField text.toList = field
    split
    · rename_i hbad
      refine ⟨fun h => (nomatch h), fun ⟨hlength, hspelled⟩ => ?_⟩
      rcases hbad with hnil | hlong
      · exact absurd hnil hspelled.ne_nil
      · omega
    · rename_i hgood
      rw [not_or, Nat.not_lt] at hgood
      -- sixteen digits always fit
      have hfits : Text.Spelled 16 field n → n ≤ Text.max64 := fun h =>
        Nat.le_of_lt_succ (Nat.lt_of_lt_of_le (h.lt (by decide))
          (Nat.pow_le_pow_right (by decide) hgood.2))
      rw [and_iff_right hgood.2, ← and_iff_left_of_imp hfits,
        ← Text.unsigned?_eq_some_iff (by decide)]
      cases Text.unsigned? 16 Text.max64 field with
      | none => simp
      | some m => simp

end Pipe

/-! ## What is passed on -/

theorem Headers.getAll_stripped_of_uncoded {hs : Headers}
    (h : hs.contains "transfer-encoding" = false) {name : String}
    (hname : name ∈ framingNames) :
    hs.stripConnectionBound.dropOverriddenLength.getAll name = hs.getAll name := by
  have hstripped := hs.contains_stripConnectionBound.trans h
  rw [hs.stripConnectionBound.getAll_dropOverriddenLength.2 hstripped,
    getAll_stripConnectionBound hname]

theorem Request.elements_prepare {r : Request}
    (h : r.headers.contains "transfer-encoding" = false) (client : Ip)
    (id : String) :
    (r.prepare client id).headers.elements "content-length" =
      r.headers.elements "content-length" := by
  rw [Headers.elements, Headers.elements, prepare,
    Headers.getAll_addRequestId (by decide +kernel),
    Headers.getAll_appendForwardedFor (by decide +kernel),
    Headers.getAll_remove (by decide +kernel), Headers.getAll_stripped_of_uncoded
      h (List.mem_cons_of_mem _ List.mem_cons_self)]

theorem Response.elements_prepare {r : Response}
    (h : r.headers.contains "transfer-encoding" = false) (reuse : Bool)
    (client : Version) :
    (r.prepare reuse client).headers.elements "content-length" =
      r.headers.elements "content-length" := by
  have hstripped := Headers.getAll_stripped_of_uncoded h
    (List.mem_cons_of_mem _ List.mem_cons_self)
  rw [Headers.elements, Headers.elements]
  rcases r.headers_prepare reuse client with hnew | ⟨value, -, hnew⟩
  · rw [hnew, hstripped]
  · rw [hnew, Headers.getAll_push (by decide +kernel), hstripped]

/-! ## Strict spellings -/

namespace Text

/-- What a strict reader takes for a number: its digits, with spaces and tabs
around them. -/
def Strict (base : Nat) (cs : List Char) (n : Nat) : Prop :=
  ∃ front digits back, cs = front ++ (digits ++ back) ∧ Denotes base digits n ∧
    (∀ c ∈ front, c = ' ' ∨ c = '\t') ∧ ∀ c ∈ back, c = ' ' ∨ c = '\t'

/-- No plus sign, and no blanks but spaces and tabs. -/
def Ordinary (cs : List Char) : Prop :=
  ∀ c ∈ cs, c ≠ '+' ∧ (isBlank c = true → c = ' ' ∨ c = '\t')

instance (cs : List Char) : Decidable (Ordinary cs) :=
  List.decidableBAll (fun c => c ≠ '+' ∧ (isBlank c = true → c = ' ' ∨ c = '\t')) cs

theorem ordinary_of_spaces {cs : List Char}
    (h : ∀ c ∈ cs, c = ' ' ∨ c = '\t') : Ordinary cs := by
  intro c hc
  refine ⟨?_, fun _ => h c hc⟩
  rcases h c hc with rfl | rfl <;> decide

/-- Digits are ordinary. -/
theorem Denotes.ordinary {base n : Nat} {cs : List Char} (hbase : base ≤ 16)
    (h : Denotes base cs n) :
    Ordinary cs := by
  have hvalues : ∀ d, d < 16 →
      Ordinary [Nat.digitChar d, (Nat.digitChar d).toUpper] := by decide
  obtain ⟨-, ds, hds, -⟩ := h
  induction hds with
  | nil => exact fun c hc => absurd hc List.not_mem_nil
  | @cons _ d _ _ hfirst _ ih =>
    obtain ⟨hd, rfl | rfl⟩ := hfirst
    · exact List.forall_mem_cons.2
        ⟨hvalues d (Nat.lt_of_lt_of_le hd hbase) _ (by simp), ih⟩
    · exact List.forall_mem_cons.2
        ⟨hvalues d (Nat.lt_of_lt_of_le hd hbase) _ (by simp), ih⟩

theorem Strict.ordinary {base n : Nat} {cs : List Char} (hbase : base ≤ 16)
    (h : Strict base cs n) : Ordinary cs := by
  obtain ⟨front, digits, back, rfl, hdigits, hfront, hback⟩ := h
  rw [Ordinary, List.forall_mem_append, List.forall_mem_append]
  exact ⟨ordinary_of_spaces hfront, hdigits.ordinary hbase, ordinary_of_spaces hback⟩

/-- **A strict reader takes an ordinary spelling**, with the blanks around
it. -/
theorem Ordinary.strict {base n : Nat} {cs : List Char} (h : Ordinary cs)
    (hspelled : Spelled base (trim cs) n) :
    Strict base cs n := by
  obtain ⟨front, back, hsplit, hfront, hback⟩ := exists_trim cs
  generalize trim cs = inner at hspelled hsplit
  subst hsplit
  rw [Ordinary, List.forall_mem_append, List.forall_mem_append] at h
  obtain ⟨hfirst, hinner, hlast⟩ := h
  refine ⟨front, inner, back, rfl, ?_, fun c hc => (hfirst c hc).2 (hfront c hc),
    fun c hc => (hlast c hc).2 (hback c hc)⟩
  -- a spelling without a sign is made of digits
  rcases hspelled with hdenotes | ⟨digits, rfl, -⟩
  · exact hdenotes
  · exact absurd rfl (hinner '+' List.mem_cons_self).1

theorem ordinary_iff_pieces {cs : List Char} :
    Ordinary cs ↔ ∀ piece ∈ pieces ',' cs, Ordinary piece := by
  refine Iff.trans ?_ forall_pieces_iff.symm
  refine forall₂_congr fun c _ => (or_iff_right_of_imp ?_).symm
  rintro rfl
  decide

/-- A line without its line end, which is an LF or a CRLF. -/
def dropLineEnd (line : List Char) : List Char :=
  match line.reverse with
  | '\n' :: '\r' :: rest => rest.reverse
  | '\n' :: rest => rest.reverse
  | _ => line

/-- The line end goes and nothing else. -/
theorem exists_dropLineEnd (line : List Char) :
    ∃ ending, line = dropLineEnd line ++ ending ∧ ∀ c ∈ ending, c = '\r' ∨
      c = '\n' := by
  rw [dropLineEnd]
  split
  · rename_i rest hrev
    refine ⟨['\r', '\n'], ?_, by simp⟩
    rw [← List.reverse_reverse line, hrev]
    simp
  · rename_i rest _ hrev
    refine ⟨['\n'], ?_, by simp⟩
    rw [← List.reverse_reverse line, hrev]
    simp
  · exact ⟨[], (List.append_nil line).symm, by simp⟩

end Text

namespace Headers

/-- What a strict reader takes for lengths of `n`: between commas stand its
digits, with spaces and tabs around them, or spaces and tabs alone. -/
def StrictLengths (hs : Headers) (n : Nat) : Prop :=
  ∀ value ∈ hs.getAll "content-length", ∀ piece ∈ Text.pieces ',' value.toList,
    (∀ c ∈ piece, c = ' ' ∨ c = '\t') ∨ Text.Strict 10 piece n

theorem StrictLengths.ordinary {hs : Headers} {n : Nat} (h : hs.StrictLengths n) :
    ∀ value ∈ hs.getAll "content-length", Text.Ordinary value.toList := by
  intro value hvalue
  rw [Text.ordinary_iff_pieces]
  intro piece hpiece
  rcases h value hvalue piece hpiece with hspaces | hstrict
  · exact Text.ordinary_of_spaces hspaces
  · exact hstrict.ordinary (by decide)

/-- **A strict reader takes ordinary lengths** if all elements are spellings of
the number. -/
theorem strictLengths_of_ordinary {hs : Headers} {n : Nat}
    (h : ∀ value ∈ hs.getAll "content-length", Text.Ordinary value.toList)
    (hspelled : ∀ e ∈ hs.elements "content-length", Text.Spelled 10 e.toList n) :
      hs.StrictLengths n := by
  intro value hvalue piece hpiece
  have hord := Text.ordinary_iff_pieces.1 (h value hvalue) piece hpiece
  by_cases hnil : Text.trim piece = []
  · exact .inl fun c hc => (hord c hc).2 (Text.trim_eq_nil_iff.1 hnil c hc)
  · have helement :=
      hspelled _ (mem_elements_iff.2 ⟨value, hvalue, piece, hpiece, hnil, rfl⟩)
    rw [String.toList_ofList] at helement
    exact .inr (hord.strict helement)

end Headers

namespace Pipe

/-- What stands in front of the first semicolon of a size line, without the line
end. -/
def bareField (text : List Char) : List Char :=
  (Text.dropLineEnd text).takeWhile (· ≠ ';')

theorem trim_bareField (text : List Char) :
    Text.trim (bareField text) = sizeField text := by
  obtain ⟨ending, hsplit, hending⟩ := Text.exists_dropLineEnd text
  conv_rhs => rw [hsplit]
  exact (sizeField_append hending _).symm

end Pipe

/-! ## Spellings of lengths -/

/-- **A length is read exactly if it is spelled**: in digits, behind one plus
sign or none. In headers without a transfer coding this holds of every element,
and all of them spell one number below `2 ^ 64`; in a size line it holds of what
stands in front of the first semicolon, without blanks around it, in sixteen
characters at most. A strict reader takes what was read for the same number, in
digits alone, exactly if no plus sign and no blanks but spaces and tabs are in
it. What was read goes on as it was spelled, in requests, in responses and in
the size lines of a relay. -/
theorem Framing.read_iff_spelled (hs : Headers) (line : Bytes) :
    (hs.contains "transfer-encoding" = false → ∀ f,
      (hs.declaredFraming = .ok (some f) ↔
        hs.elements "content-length" ≠ [] ∧
        ∃ n, n < 2 ^ 64 ∧ f = .ofLength n ∧ ∀ e ∈ hs.elements "content-length",
          Text.Spelled 10 e.toList n) ∧
      (hs.declaredFraming = .ok (some f) →
        ((∃ n, n < 2 ^ 64 ∧ f = .ofLength n ∧ hs.StrictLengths n) ↔
          ∀ value ∈ hs.getAll "content-length", Text.Ordinary value.toList))) ∧
    (∀ n, (Pipe.chunkSize line = .ok n ↔
        ∃ text, line.text? = some text ∧ (Pipe.sizeField text.toList).length ≤ 16 ∧
          Text.Spelled 16 (Pipe.sizeField text.toList) n) ∧
      (Pipe.chunkSize line = .ok n → ∃ text, line.text? = some text ∧
        (Text.Strict 16 (Pipe.bareField text.toList) n ↔
          Text.Ordinary (Pipe.bareField text.toList)))) ∧
    (∀ (r : Request) (client : Ip) (id : String), r.headers = hs →
      hs.contains "transfer-encoding" = false →
      (r.prepare client id).headers.elements "content-length" =
        hs.elements "content-length") ∧
    (∀ (r : Response) (reuse : Bool) (client : Version), r.headers = hs →
      hs.contains "transfer-encoding" = false →
      (r.prepare reuse client).headers.elements "content-length" =
        hs.elements "content-length") ∧
    ∀ (p q : Pipe) (n : Nat), Pipe.copyChunkSize p = .ok n q →
      ∃ copied, p.Moved copied q ∧ Pipe.chunkSize copied = .ok n := by
  refine ⟨fun h f => ⟨Headers.declaredFraming_eq_some_iff h, fun hread => ?_⟩,
    fun n => ⟨Pipe.chunkSize_eq_ok_iff, fun hread => ?_⟩, ?_, ?_, ?_⟩
  · obtain ⟨-, n, hn, hf, hspelled⟩ := (Headers.declaredFraming_eq_some_iff h).1 hread
    exact ⟨fun ⟨_, _, _, hstrict⟩ => hstrict.ordinary,
      fun hord => ⟨n, hn, hf, Headers.strictLengths_of_ordinary hord hspelled⟩⟩
  · obtain ⟨text, htext, -, hspelled⟩ := Pipe.chunkSize_eq_ok_iff.1 hread
    rw [← Pipe.trim_bareField] at hspelled
    exact ⟨text, htext, fun h => h.ordinary (by decide), fun h => h.strict hspelled⟩
  · rintro r client id rfl h
    exact Request.elements_prepare h client id
  · rintro r reuse client rfl h
    exact Response.elements_prepare h reuse client
  · intro p q n h
    obtain ⟨copied, -, hsize, hmoved⟩ := Pipe.moved_of_copyChunkSize h
    exact ⟨copied, hmoved, hsize⟩

/-- One number in three spellings, and a size line with an extension. -/
theorem Framing.read_iff_spelled_mixed :
    let hs : Headers :=
      ⟨[⟨"Content-Length", "007, 7"⟩, ⟨"CONTENT-length", ",+7\u00a0"⟩]⟩
    let line := Bytes.ofText "\t1A ;x=\"+\"\r\n"
    let p : Pipe := ⟨⟨line, {}⟩, {}, 0⟩
    (∃ n, n < 2 ^ 64 ∧ Framing.length 7 = .ofLength n ∧
      ∀ e ∈ ["007", "7", "+7"], Text.Spelled 10 e.toList n) ∧
      (¬ ∃ n, n < 2 ^ 64 ∧ Framing.length 7 = .ofLength n ∧ hs.StrictLengths n) ∧
      Text.Strict 16 (Pipe.bareField "\t1A ;x=\"+\"\r\n".toList) 26 ∧
      ((⟨"PUT", "/", .http11, hs⟩ : Request).prepare .loopback
        "r").headers.elements "content-length" = ["007", "7", "+7"] ∧
      ((⟨.http11, 200, "OK", hs⟩ : Response).prepare false
        .http10).headers.elements "content-length" = ["007", "7", "+7"] ∧
      ∃ q, Pipe.copyChunkSize p = .ok 26 q ∧ ∃ copied, p.Moved copied q ∧
        Pipe.chunkSize copied = .ok 26 := by
  intro hs line p
  have huncoded : hs.contains "transfer-encoding" = false := by decide +kernel
  have helements : hs.elements "content-length" = ["007", "7", "+7"] := by
    decide +kernel
  have hread : hs.declaredFraming = .ok (some (.length 7)) := by decide +kernel
  have hodd : ¬ ∀ value ∈ hs.getAll "content-length",
      Text.Ordinary value.toList := by decide +kernel
  obtain ⟨hheaders, hlines, hrequests, hresponses, hrelays⟩ :=
    Framing.read_iff_spelled hs line
  obtain ⟨hspells, hstrict⟩ := hheaders huncoded (.length 7)
  have hline : IsShortLine line :=
    ⟨⟨Bytes.ofText "\t1A ;x=\"+\"\r", by decide +kernel, by decide +kernel⟩,
      by decide +kernel⟩
  have hsize : Pipe.chunkSize line = .ok 26 := by decide +kernel
  obtain ⟨q, hq, -⟩ := (Pipe.passes_copyChunkSize (p := p) hline hsize
    (List.append_nil line).symm).moved rfl
  obtain ⟨text, htext, hordinary⟩ := (hlines 26).2 hsize
  rw [Bytes.text?_ofText, Option.some_inj] at htext
  subst htext
  have hspelled := (hspells.1 hread).2
  rw [helements] at hspelled
  exact ⟨hspelled, fun h => hodd ((hstrict hread).1 h), hordinary.2 (by decide +kernel),
    (hrequests _ .loopback "r" rfl huncoded).trans helements,
    (hresponses _ false .http10 rfl huncoded).trans helements, q, hq,
    hrelays p q 26 hq⟩

/-- **Not only digits are read**: a plus sign in front of them is, and a blank
that is neither a space nor a tab. -/
theorem Framing.read_without_digits :
    let hs : Headers := ⟨[⟨"Content-Length", "+5"⟩]⟩
    (hs.declaredFraming = .ok (some (.length 5)) ∧ ∀ n, ¬ hs.StrictLengths n) ∧
      (Pipe.chunkSize (Bytes.ofText "+5\r\n") = .ok 5 ∧
        ∀ n, ¬ Text.Strict 16 (Pipe.bareField "+5\r\n".toList) n) ∧
      Pipe.chunkSize (Bytes.ofText "\u00a05\r\n") = .ok 5 ∧
      ∀ n, ¬ Text.Strict 16 (Pipe.bareField "\u00a05\r\n".toList) n := by
  refine ⟨⟨by decide +kernel, fun n h => ?_⟩,
    ⟨by decide +kernel, fun n h => ?_⟩, by decide +kernel, fun n h => ?_⟩
  · exact absurd h.ordinary (by decide +kernel)
  · exact absurd (h.ordinary (by decide)) (by decide +kernel)
  · exact absurd (h.ordinary (by decide)) (by decide +kernel)

/-! ## Headers without a length -/

/-- **A request has no body** if all its lengths say so, which they do where
there are none. -/
theorem Request.framing_eq_empty_iff {r : Request}
    (h : r.headers.contains "transfer-encoding" = false) :
    r.framing = .ok .empty ↔ ∀ e ∈ r.headers.elements "content-length",
      Text.Spelled 10 e.toList 0 := by
  by_cases hnil : r.headers.elements "content-length" = []
  · rw [framing, Headers.declaredFraming_eq_none_iff.2 ⟨h, hnil⟩, hnil]
    simp [Except.map]
  · have hempty : r.framing = .ok .empty ↔
        r.headers.declaredFraming = .ok (some .empty) := by
      have hnone : r.headers.declaredFraming ≠ .ok none := fun hd =>
        hnil (Headers.declaredFraming_eq_none_iff.1 hd).2
      rw [framing]
      cases hd : r.headers.declaredFraming with
      | error flaw => simp [Except.map]
      | ok declared =>
        cases declared with
        | none => exact absurd hd hnone
        | some f => simp [Except.map]
    rw [hempty, Headers.declaredFraming_eq_some_iff h]
    constructor
    · rintro ⟨-, n, -, hn, hspelled⟩
      rcases Framing.ofLength_cases n with ⟨rfl, -⟩ | ⟨-, hlength⟩
      · exact hspelled
      · rw [hlength] at hn
        cases hn
    · exact fun hspelled => ⟨hnil, 0, by decide, rfl, hspelled⟩

/-- **A response ends with the connection** if no length says where it does. -/
theorem Response.framing_eq_untilClose_iff {r : Response}
    {requestWasHead : Bool} (h : r.headers.contains "transfer-encoding" = false)
    (hbody : r.hasNoBody requestWasHead = false) :
    r.framing requestWasHead = .ok .untilClose ↔
      r.headers.elements "content-length" = [] := by
  have hnone : r.headers.declaredFraming = .ok none ↔
      r.headers.elements "content-length" = [] := by
    rw [Headers.declaredFraming_eq_none_iff, h, eq_self_iff_true, true_and]
  rw [← hnone, framing, hbody, if_neg Bool.false_ne_true,
    Headers.declaredFraming_of_uncoded h]
  cases hagreed : Headers.agreedLength (r.headers.elements "content-length") with
  | error flaw =>
    rcases Headers.flaw_of_agreedLength hagreed with rfl | rfl
    · simp [Except.map]
    · simp [Except.map]
  | ok length =>
    cases length with
    | none => simp [Except.map]
    | some n =>
      rcases Framing.ofLength_cases n with ⟨-, hn⟩ | ⟨-, hn⟩
      · simp [Except.map, hn]
      · simp [Except.map, hn]

theorem Headers.vacant_of_not_contains {hs : Headers} {name : String}
    (h : hs.contains name = false) :
    ∀ value ∈ hs.getAll name, Text.Vacant value.toList := by
  have hnil : hs.getAll name = [] := by
    by_contra hne
    rw [(contains_iff hs name).2 hne] at h
    cases h
  rw [hnil]
  exact fun _ hnone => absurd hnone List.not_mem_nil

/-- **Nothing is said about a body** exactly if there is no transfer coding and
every length is vacant: nothing but commas and blanks. This is that neither
header is there unless lengths are there and all of them are vacant. A vacant
length is as good as none: a request has no body unless a length says something
other than 0, and a response that can have one ends with the connection exactly
if all its lengths are vacant. Lengths that are not all vacant are refused where
none of them is a number. -/
theorem Headers.declaredFraming_eq_none_iff_vacant (hs : Headers) :
    (hs.declaredFraming = .ok none ↔
      hs.contains "transfer-encoding" = false ∧
      ∀ value ∈ hs.getAll "content-length", Text.Vacant value.toList) ∧
    ((hs.declaredFraming = .ok none ↔
        hs.contains "transfer-encoding" = false ∧
        hs.contains "content-length" = false) ↔
      (hs.contains "transfer-encoding" = false → hs.contains "content-length" = true →
        ∃ value ∈ hs.getAll "content-length", ¬ Text.Vacant value.toList)) ∧
    (hs.contains "transfer-encoding" = false →
      (∃ value ∈ hs.getAll "content-length", ¬ Text.Vacant value.toList) →
      (∀ e ∈ hs.elements "content-length", ∀ n < 2 ^ 64, ¬ Text.Spelled 10 e.toList n) →
      hs.declaredFraming = .error .invalidLength) ∧
    (∀ r : Request, r.headers = hs → hs.contains "transfer-encoding" = false →
      (r.framing = .ok .empty ↔
        ∀ e ∈ hs.elements "content-length", Text.Spelled 10 e.toList 0)) ∧
    ∀ (r : Response) (requestWasHead : Bool), r.headers = hs →
      hs.contains "transfer-encoding" = false →
      r.hasNoBody requestWasHead = false →
      (r.framing requestWasHead = .ok .untilClose ↔
        ∀ value ∈ hs.getAll "content-length", Text.Vacant value.toList) := by
  have hvacant : hs.declaredFraming = .ok none ↔
      hs.contains "transfer-encoding" = false ∧
      ∀ value ∈ hs.getAll "content-length", Text.Vacant value.toList := by
    rw [declaredFraming_eq_none_iff, elements_eq_nil_iff]
  refine ⟨hvacant, ?_, ?_, ?_, ?_⟩
  · rw [hvacant, and_congr_right_iff]
    refine forall_congr' fun _ => ?_
    cases hlength : hs.contains "content-length" with
    | false => simpa using vacant_of_not_contains hlength
    | true => simp
  · rintro huncoded ⟨value, hvalue, hvacant⟩ hnone
    have hne : hs.elements "content-length" ≠ [] :=
      fun hnil => hvacant (elements_eq_nil_iff.1 hnil value hvalue)
    rw [declaredFraming_of_uncoded huncoded,
      agreedLength_of_not_spelled hne fun e he n hn =>
        hnone e he n (Nat.lt_succ_of_le hn)]
    rfl
  · rintro r rfl huncoded
    exact Request.framing_eq_empty_iff huncoded
  · rintro r requestWasHead rfl huncoded hbody
    rw [Response.framing_eq_untilClose_iff huncoded hbody, elements_eq_nil_iff]

/-- Vacant lengths in two headers, a number beside them, and what is no
number. -/
theorem Headers.declaredFraming_eq_none_iff_vacant_two :
    let vacant : Headers := ⟨[⟨"Content-Length", ",\u2003,"⟩, ⟨"content-length", ""⟩]⟩
    let zero : Headers := ⟨[⟨"Content-Length", ""⟩, ⟨"Content-Length", "0 ,+00"⟩]⟩
    let minus : Headers := ⟨[⟨"Content-Length", ","⟩, ⟨"Content-Length", "-0"⟩]⟩
    vacant.declaredFraming = .ok none ∧
      (⟨.http11, 200, "OK", vacant⟩ : Response).framing false = .ok .untilClose ∧
      (∀ e ∈ zero.elements "content-length", Text.Spelled 10 e.toList 0) ∧
      minus.declaredFraming = .error .invalidLength := by
  intro vacant zero minus
  have hvacant : vacant.contains "transfer-encoding" = false ∧
      ∀ value ∈ vacant.getAll "content-length", Text.Vacant value.toList := by
    decide +kernel
  have hzero : zero.contains "transfer-encoding" = false := by decide +kernel
  have hminus : minus.contains "transfer-encoding" = false ∧
      (∃ value ∈ minus.getAll "content-length", ¬ Text.Vacant value.toList) ∧
      minus.elements "content-length" = ["-0"] := by decide +kernel
  have hspells := ((zero.declaredFraming_eq_none_iff_vacant).2.2.2.1
    ⟨"PUT", "/", .http11, zero⟩ rfl hzero).1 (by decide +kernel)
  refine ⟨(vacant.declaredFraming_eq_none_iff_vacant).1.2 hvacant,
    ((vacant.declaredFraming_eq_none_iff_vacant).2.2.2.2
      ⟨.http11, 200, "OK", vacant⟩ false rfl hvacant.1 (by decide)).2 hvacant.2, hspells,
    (minus.declaredFraming_eq_none_iff_vacant).2.2.1 hminus.1 hminus.2.1 ?_⟩
  rw [hminus.2.2]
  intro e he n _ hspelled
  rw [List.mem_singleton.1 he] at hspelled
  -- a minus sign is neither a digit nor a plus sign
  rcases hspelled with hdigits | ⟨_, hplus, -⟩
  · exact Text.not_denotes_of_digitValue? (by decide) rfl hdigits
  · cases hplus

/-- **A length can be there and say nothing**: then a request has no body, and a
response ends with the connection. -/
theorem Headers.declaredFraming_of_comma :
    (∃ r, Request.parse (Bytes.ofText "POST / HTTP/1.1\r\nContent-Length: ,\r\n\r\n") = .ok r ∧
      r.headers.contains "content-length" = true ∧
      r.headers.declaredFraming = .ok none ∧ r.framing = .ok .empty) ∧
    ∃ r, Response.parse (Bytes.ofText "HTTP/1.1 200 OK\r\nContent-Length:\r\n\r\n") = .ok r ∧
      r.headers.contains "content-length" = true ∧
      r.headers.declaredFraming = .ok none ∧
      r.framing false = .ok .untilClose :=
  ⟨⟨⟨"POST", "/", .http11, ⟨[⟨"Content-Length", ","⟩]⟩⟩, by decide +kernel⟩,
    ⟨.http11, 200, "OK", ⟨[⟨"Content-Length", ""⟩]⟩⟩, by decide +kernel⟩

end Gateway
