import Gateway.Wire.Reader

/-!
# Reading does not depend on the pieces

What a reader finds is a function of its view, the bytes buffered and to come,
whatever the pieces in which they arrive. The buffer never holds more than a
part of the view from its front, and the search, which starts where the last one
ended, finds what a search of the whole buffer would find.

* `readLine_of_isLine`: a line within the limit at the front of the view is
  read, and nothing more;
* `isLine_of_readLine`: what is read as a line is one;
* `readHead_eq_readHeadAnew`: to go on with a search is to search anew;
* `readHead_spec`: the answer to the request for a head, and what is left, are
  those of the view.
-/

namespace Gateway

namespace Reader

/-! ## Lines -/

/-- A line is a run of bytes up to and with its first line feed. -/
def IsLine (line : Bytes) : Prop :=
  ∃ text, Bytes.lf ∉ text ∧ line = text ++ [Bytes.lf]

theorem IsLine.not_mem_of_append {front back : Bytes}
    (h : IsLine (front ++ back)) (hb : back ≠ []) :
    Bytes.lf ∉ front := by
  obtain ⟨text, htext, he⟩ := h
  rcases List.eq_nil_or_concat back with rfl | ⟨init, last, rfl⟩
  · exact absurd rfl hb
  · rw [List.concat_eq_append, ← List.append_assoc] at he
    obtain ⟨rfl, -⟩ := List.append_inj' he rfl
    exact fun hmem => htext (List.mem_append_left _ hmem)

theorem lineEnd?_eq_none_iff {bs : Bytes} :
    lineEnd? bs = none ↔ Bytes.lf ∉ bs := by
  rw [lineEnd?, Option.map_eq_none_iff, List.findIdx?_eq_none_iff]
  constructor
  · intro h hmem
    simpa using h _ hmem
  · intro h b hb
    simpa using fun he : b = Bytes.lf => h (he ▸ hb)

theorem lineEnd?_of_isLine {line rest : Bytes} (h : IsLine line) :
    lineEnd? (line ++ rest) = some line.length := by
  obtain ⟨text, htext, rfl⟩ := h
  have hnone := lineEnd?_eq_none_iff.2 htext
  rw [lineEnd?, Option.map_eq_none_iff] at hnone
  rw [lineEnd?, List.append_assoc, List.findIdx?_append, hnone,
    List.singleton_append, List.findIdx?_cons]
  simp

/-- A found line end closes a line. -/
theorem isLine_of_lineEnd? {bs : Bytes} {n : Nat}
    (h : lineEnd? bs = some n) : IsLine (bs.take n) := by
  rw [lineEnd?, Option.map_eq_some_iff] at h
  obtain ⟨i, hi, rfl⟩ := h
  obtain ⟨hlt, hlf, hbefore⟩ := List.findIdx?_eq_some_iff_getElem.1 hi
  refine ⟨bs.take i, ?_, ?_⟩
  · intro hmem
    obtain ⟨j, hj, he⟩ := List.mem_take_iff_getElem.1 hmem
    exact hbefore j (by omega) (by simp [he])
  · rw [List.take_add_one, List.getElem?_eq_getElem hlt, beq_iff_eq.1 hlf]
    rfl

/-- Where no line feed was seen, the search that starts behind finds the same
line end. -/
theorem lineEndFrom?_eq {scanned : Nat} {bs : Bytes} (hle : scanned ≤ bs.length)
    (h : Bytes.lf ∉ bs.take scanned) :
    lineEndFrom? scanned bs = lineEnd? bs := by
  have hnone := lineEnd?_eq_none_iff.2 h
  rw [lineEnd?, Option.map_eq_none_iff] at hnone
  conv => rhs; rw [← List.take_append_drop scanned bs]
  rw [lineEndFrom?, lineEnd?, lineEnd?, List.findIdx?_append, hnone,
    List.length_take_of_le hle, Option.none_or, Option.map_map, Option.map_map]
  congr 1
  funext i
  simp only [Function.comp]
  omega

theorem readLine_go_of_lineEnd? {max n scanned : Nat} {buffer : Bytes}
    (r : Reader) (hle : scanned ≤ buffer.length)
    (hseen : Bytes.lf ∉ buffer.take scanned) (h : lineEnd? buffer = some n)
    (pieces : List Bytes) :
    readLine.go max r buffer scanned pieces =
      (.ok (some (buffer.take n)), ⟨buffer.drop n, ⟨pieces, r.source.ending⟩⟩) := by
  rw [readLine.go.eq_def, lineEndFrom?_eq hle hseen, h]

/-- While the line is open and not too long, the next piece is taken in. -/
theorem readLine_go_of_open {max scanned : Nat} {buffer : Bytes} (r : Reader)
    (hle : scanned ≤ buffer.length) (hseen : Bytes.lf ∉ buffer.take scanned)
    (h : Bytes.lf ∉ buffer) (hshort : buffer.length ≤ max) (piece : Bytes)
    (more : List Bytes) :
    readLine.go max r buffer scanned (piece :: more) =
      readLine.go max r (buffer ++ piece) buffer.length more := by
  rw [readLine.go.eq_def, lineEndFrom?_eq hle hseen, lineEnd?_eq_none_iff.2 h]
  simp only [Nat.not_lt.2 hshort, if_false]

/-- **A line within the limit at the front of the view is read**, in whatever
pieces it arrives. -/
theorem readLine_of_isLine {max : Nat} {r : Reader} {line rest : Bytes}
    (hline : IsLine line) (hmax : line.length ≤ max)
    (hr : r.remaining = line ++ rest) :
    ∃ t, r.readLine max = (.ok (some line), t) ∧ t.remaining = rest ∧
      t.source.ending = r.source.ending := by
  have found : ∀ pieces back scanned, scanned ≤ (line ++ back).length →
      Bytes.lf ∉ (line ++ back).take scanned → rest = back ++ pieces.flatten →
      ∃ t, readLine.go max r (line ++ back) scanned pieces = (.ok (some line), t) ∧
        t.remaining = rest ∧ t.source.ending = r.source.ending := by
    intro pieces back scanned hle hseen hrest
    refine ⟨⟨back, ⟨pieces, r.source.ending⟩⟩, ?_, hrest.symm, rfl⟩
    rw [readLine_go_of_lineEnd? r hle hseen (lineEnd?_of_isLine hline),
      List.take_left, List.drop_left]
  -- the buffer holds no line feed where it was searched, and with the pieces to
  -- come it is the view
  have key : ∀ pieces buffer scanned, scanned ≤ buffer.length →
      Bytes.lf ∉ buffer.take scanned →
      buffer ++ pieces.flatten = line ++ rest →
      ∃ t, readLine.go max r buffer scanned pieces = (.ok (some line), t) ∧
      t.remaining = rest ∧
      t.source.ending = r.source.ending := by
    intro pieces
    induction pieces with
    | nil =>
      intro buffer scanned hle hseen hview
      rw [List.flatten_nil, List.append_nil] at hview
      subst hview
      exact found [] rest scanned hle hseen (List.append_nil _).symm
    | cons piece more ih =>
      intro buffer scanned hle hseen hview
      rcases List.append_eq_append_iff.1 hview with ⟨back, hback, hrest⟩
        | ⟨back, rfl, hrest⟩
      · by_cases hne : back = []
        · subst hne
          rw [List.append_nil] at hback
          subst hback
          have := found (piece :: more) [] scanned
          rw [List.append_nil] at this
          exact this hle hseen hrest.symm
        · -- a part of the line is missing, so none of its line feeds has arrived
          have hno := IsLine.not_mem_of_append (hback ▸ hline) hne
          have hshort : buffer.length ≤ max := by
            rw [hback, List.length_append] at hmax
            omega
          rw [readLine_go_of_open r hle hseen hno hshort]
          refine ih _ _ (by simp) ?_ ?_
          · rwa [List.take_left]
          · rwa [List.append_assoc, ← List.flatten_cons]
      · exact found (piece :: more) back scanned hle hseen hrest
  exact key r.source.pieces r.buffer 0 (Nat.zero_le _) (by simp) hr

/-- **What is read as a line is one.** -/
theorem isLine_of_readLine {max : Nat} {r t : Reader} {line : Bytes}
    (h : r.readLine max = (.ok (some line), t)) : IsLine line := by
  have key : ∀ pieces buffer scanned, scanned ≤ buffer.length →
      Bytes.lf ∉ buffer.take scanned →
      readLine.go max r buffer scanned pieces = (.ok (some line), t) →
        IsLine line := by
    intro pieces buffer scanned hle hseen hg
    fun_induction readLine.go max r buffer scanned pieces with
    | case1 buffer scanned pieces left n hend =>
      rw [lineEndFrom?_eq hle hseen] at hend
      cases hg
      exact isLine_of_lineEnd? hend
    | case2 => cases hg
    | case3 buffer scanned hend hshort piece more ih =>
      rw [lineEndFrom?_eq hle hseen] at hend
      refine ih (by simp) ?_ hg
      rw [List.take_left]
      exact lineEnd?_eq_none_iff.1 hend
    | case4 => cases hg
    | case5 => cases hg
    | case6 => cases hg
  exact key r.source.pieces r.buffer 0 (Nat.zero_le _) (by simp) h

/-- Reading a line keeps how the sender ends. -/
theorem ending_readLine (max : Nat) (r : Reader) :
    (r.readLine max).2.source.ending = r.source.ending := by
  have key : ∀ pieces buffer scanned,
      (readLine.go max r buffer scanned pieces).2.source.ending = r.source.ending := by
    intro pieces buffer scanned
    fun_induction readLine.go max r buffer scanned pieces with
    | case3 buffer scanned hend hshort piece more ih => exact ih
    | case1 => rfl
    | case2 => rfl
    | case4 => rfl
    | case5 => rfl
    | case6 => rfl
  exact key r.source.pieces r.buffer 0

/-- Reading a line stops only as its sender ends. -/
theorem ending_of_readLine_error {max : Nat} {r t : Reader} {stop : Stop}
    (h : r.readLine max = (.error (.stopped stop), t)) :
    r.source.ending.read = .error stop := by
  have key : ∀ pieces buffer scanned, readLine.go max r buffer scanned pieces =
      (.error (.stopped stop), t) →
      r.source.ending.read = .error stop := by
    intro pieces buffer scanned h
    fun_induction readLine.go max r buffer scanned pieces with
    | case3 buffer scanned hend hshort piece more ih => exact ih h
    | case1 => cases h
    | case2 => cases h
    | case4 => cases h
    | case5 buffer scanned hend hshort fault hending =>
      cases h
      rw [hending]
      rfl
    | case6 buffer scanned hend hshort hending =>
      cases h
      rw [hending]
      rfl
  exact key r.source.pieces r.buffer 0 h

/-! ## Where a head ends -/

/-- The empty line that ends a head, with the line end before it. -/
def headMark : Bytes := [13, 10, 13, 10]

/-- The search for the end of a head goes byte by byte. -/
theorem headEnd?_cons (b : UInt8) (rest : Bytes) :
    headEnd? (b :: rest) =
      if headMark <+: b :: rest then some 4 else (headEnd? rest).map (· + 1) := by
  have shift : ∀ passed bs, headEnd?.go passed bs = (headEnd? bs).map (passed + ·) := by
    intro passed bs
    rw [headEnd?]
    suffices h : ∀ more, headEnd?.go (passed + more) bs =
        (headEnd?.go more bs).map (passed + ·) from h 0
    intro more
    fun_induction headEnd?.go more bs with
    | case1 more tail => rw [headEnd?.go]; simp [Nat.add_assoc]
    | case2 more c tail hne ih =>
      rw [headEnd?.go, ← ih, Nat.add_assoc]; exact hne
    | case3 => rfl
  split
  · rename_i h
    obtain ⟨more, hmore⟩ := h
    rw [← hmore]
    rfl
  · rename_i h
    rw [headEnd?, headEnd?.go.eq_def]
    split
    · rename_i he
      exact absurd ⟨_, he.symm⟩ h
    · rename_i he
      cases he
      rw [shift]
      congr 1
      funext n
      omega
    · rename_i he
      cases he

/-- A head that ends within the first `m` bytes is found there, and nothing else
is. -/
theorem headEnd?_take_eq_some_iff {bs : Bytes} {n m : Nat} (hle : n ≤ m) :
    headEnd? (bs.take m) = some n ↔ headEnd? bs = some n := by
  induction bs generalizing n m with
  | nil => rw [List.take_nil]
  | cons b rest ih =>
    cases m with
    | zero =>
      constructor
      · intro h
        have := headEnd?_bounds h
        omega
      · intro h
        have := headEnd?_bounds h
        omega
    | succ m =>
      rw [List.take_succ_cons, headEnd?_cons, headEnd?_cons]
      by_cases hp : headMark <+: b :: rest
      -- the mark is at the front, and is cut off if `m` is too small for it
      · rw [if_pos hp]
        by_cases hm : 4 ≤ m + 1
        · have : headMark <+: b :: rest.take m := by
            have := List.prefix_take_iff.2 (⟨hp, hm⟩ : headMark <+: b :: rest ∧
              headMark.length ≤ m + 1)
            rwa [List.take_succ_cons] at this
          rw [if_pos this]
        · have hno : ¬ headMark <+: b :: rest.take m := by
            intro h
            have := h.length_le
            simp only [headMark, List.length_cons, List.length_nil,
              List.length_take] at this
            omega
          rw [if_neg hno]
          constructor
          · intro h
            obtain ⟨k, hk, rfl⟩ := Option.map_eq_some_iff.1 h
            have := headEnd?_bounds hk
            omega
          · intro h
            cases h
            omega
      · have hno : ¬ headMark <+: b :: rest.take m := by
          intro h
          rw [← List.take_succ_cons] at h
          exact hp (h.trans (List.take_prefix _ _))
        rw [if_neg hp, if_neg hno, Option.map_eq_some_iff, Option.map_eq_some_iff]
        constructor
        · rintro ⟨k, hk, rfl⟩
          exact ⟨k, (ih (by omega)).1 hk, rfl⟩
        · rintro ⟨k, hk, rfl⟩
          exact ⟨k, (ih (by omega)).2 hk, rfl⟩

theorem headEnd?_append {bs more : Bytes} {n : Nat} (h : headEnd? bs = some n) :
    headEnd? (bs ++ more) = some n := by
  rw [← headEnd?_take_eq_some_iff (headEnd?_bounds h).2, List.take_left]
  exact h

theorem length_lt_of_headEnd?_append {bs more : Bytes} {n : Nat}
    (hno : headEnd? bs = none)
    (h : headEnd? (bs ++ more) = some n) : bs.length < n := by
  rcases Nat.lt_or_ge bs.length n with hlt | hge
  · exact hlt
  · rw [← headEnd?_take_eq_some_iff hge, List.take_left, hno] at h
    cases h

/-- Where no head ended within `scanned + 3` bytes, the search that starts
behind `scanned` bytes finds the same end: the empty line can begin in the last
three that were seen. -/
theorem headEndFrom?_eq {scanned : Nat} {bs : Bytes}
    (h : headEnd? (bs.take (scanned + 3)) = none) :
    headEndFrom? scanned bs = headEnd? bs := by
  rw [headEndFrom?]
  induction scanned generalizing bs with
  | zero => simp
  | succ k ih =>
    cases bs with
    | nil => rfl
    | cons b rest =>
      rw [show k + 1 + 3 = k + 3 + 1 by omega, List.take_succ_cons,
        headEnd?_cons] at h
      split at h
      · cases h
      · rename_i hno
        have hp : ¬ headMark <+: b :: rest := by
          intro hp
          apply hno
          have := List.prefix_take_iff.2
            (⟨hp, by simp [headMark]⟩ : headMark <+: b :: rest ∧
              headMark.length ≤ k + 3 + 1)
          rwa [List.take_succ_cons] at this
        rw [headEnd?_cons, if_neg hp, List.drop_succ_cons,
          ← ih (Option.map_eq_none_iff.1 h), Option.map_map]
        congr 1
        funext n
        simp only [Function.comp]
        omega

/-! ## Line ends in front of a head -/

theorem dropLineEnds_eq_self {bs : Bytes}
    (h : ¬ Bytes.crlf <+: bs) : dropLineEnds bs = bs := by
  rw [dropLineEnds.eq_def]
  split
  · exact absurd ⟨_, rfl⟩ h
  · rfl

theorem not_crlf_prefix_dropLineEnds (bs : Bytes) :
    ¬ Bytes.crlf <+: dropLineEnds bs := by
  fun_induction dropLineEnds bs with
  | case1 rest ih => exact ih
  | case2 bs hne =>
    rintro ⟨rest, rfl⟩
    exact hne rest rfl

theorem dropLineEnds_append (bs more : Bytes) :
    dropLineEnds (bs ++ more) = dropLineEnds (dropLineEnds bs ++ more) := by
  fun_induction dropLineEnds bs with
  | case1 rest ih => rw [List.cons_append, List.cons_append, dropLineEnds, ih]
  | case2 bs hne => rfl

/-- Two bytes that are no line end show that a head has begun. -/
theorem dropLineEnds_append_of_two {bs : Bytes} (h : ¬ Bytes.crlf <+: bs)
    (h2 : 2 ≤ bs.length) (more : Bytes) :
    dropLineEnds (bs ++ more) = bs ++ more := by
  apply dropLineEnds_eq_self
  intro hp
  exact h (List.prefix_of_prefix_length_le hp (List.prefix_append bs more) h2)

/-! ## Heads -/

/-- The head of at most `max` bytes at the front, with what follows it: the line
ends in front of it are skipped, and the head ends with its first empty line. -/
def headOf? (max : Nat) (bs : Bytes) : Option (Bytes × Bytes) :=
  (headEnd? (dropLineEnds bs)).bind fun n =>
    if n ≤ max then some ((dropLineEnds bs).take n, (dropLineEnds bs).drop n)
    else none

/-- The answer to the request for a head, and what is left, where the bytes are
all known and no line end stands in front of them. -/
def headAnswer (max : Nat) (ending : Ending) (bs : Bytes) :
    Except HeadError (Option Bytes) × Bytes :=
  match headEnd? bs with
  | some n =>
    if n ≤ max then (.ok (some (bs.take n)), bs.drop n) else (.error (.tooLarge max), bs)
  | none =>
    if max < bs.length then (.error (.tooLarge max), bs)
    else match ending with
      | .eof => (if bs = [] then .ok none else .error .closed, bs)
      | .failed fault => (.error (.failed fault), bs)
      | .silent => (.error .silent, bs)

/-- A head that has arrived is the answer, whatever follows it. -/
theorem headAnswer_of_headEnd? {max n : Nat} {held : Bytes}
    (h : headEnd? (dropLineEnds held) = some n) (ending : Ending) (more : Bytes) :
    headAnswer max ending (dropLineEnds (held ++ more)) =
      if n ≤ max then (.ok (some ((dropLineEnds held).take n)),
        (dropLineEnds held).drop n ++ more)
      else (.error (.tooLarge max), dropLineEnds held ++ more) := by
  have hb := headEnd?_bounds h
  rw [dropLineEnds_append,
    dropLineEnds_append_of_two (not_crlf_prefix_dropLineEnds held) (by omega),
    headAnswer.eq_def, headEnd?_append h]
  simp only [List.take_append_of_le_length hb.2, List.drop_append_of_le_length hb.2]

/-- Too many bytes without the end of a head are too many, whatever follows
them. -/
theorem headAnswer_of_long {max : Nat} {held : Bytes}
    (hno : headEnd? (dropLineEnds held) = none) (hmax : 0 < max)
    (hlong : max < (dropLineEnds held).length) (ending : Ending) (more : Bytes) :
    headAnswer max ending (dropLineEnds (held ++ more)) =
      (.error (.tooLarge max), dropLineEnds held ++ more) := by
  rw [dropLineEnds_append,
    dropLineEnds_append_of_two (not_crlf_prefix_dropLineEnds held) (by omega),
    headAnswer.eq_def]
  cases hend : headEnd? (dropLineEnds held ++ more) with
  | some n =>
    have := length_lt_of_headEnd?_append hno hend
    simp only [if_neg (show ¬ n ≤ max by omega)]
  | none =>
    have : max < (dropLineEnds held ++ more).length := by
      rw [List.length_append]
      omega
    simp only [if_pos this]

/-- The search of the buffer from where the last one ended is a search of the
whole buffer. -/
theorem headEndFrom?_dropLineEnds {held : Bytes} {scanned : Nat}
    (h : scanned = 0 ∨ headEnd? (held.take (scanned + 3)) = none) :
    headEndFrom? (if (dropLineEnds held).length = held.length then scanned
      else 0) (dropLineEnds held) = headEnd? (dropLineEnds held) := by
  have whole : headEndFrom? 0 (dropLineEnds held) = headEnd? (dropLineEnds held) := by
    simp [headEndFrom?]
  split
  · rename_i hlen
    obtain ⟨skipped, hs⟩ := exists_dropLineEnds held
    have hsame : dropLineEnds held = held := by
      have hl := congrArg List.length hs
      rw [List.length_append] at hl
      rw [List.eq_nil_of_length_eq_zero (show skipped.length = 0 by omega),
        List.nil_append] at hs
      exact hs.symm
    rcases h with rfl | h
    · exact whole
    · rw [hsame]
      exact headEndFrom?_eq h
  · exact whole

/-! ## Searching anew -/

/-- Reading a head with a search of the whole buffer after every piece. -/
def readHeadAnew (max : Nat) (r : Reader) :
    Except HeadError (Option Bytes) × Reader :=
  go r.buffer r.source.pieces
where
  /-- Takes piece after piece into the buffer. -/
  go (held : Bytes) (pieces : List Bytes) : Except HeadError (Option Bytes) × Reader :=
    let buffer := dropLineEnds held
    let left (buffer : Bytes) : Reader := ⟨buffer, ⟨pieces, r.source.ending⟩⟩
    match headEnd? buffer with
    | some n =>
      if max < n then (.error (.tooLarge max), left buffer)
      else (.ok (some (buffer.take n)), left (buffer.drop n))
    | none =>
      if max < buffer.length then (.error (.tooLarge max), left buffer)
      else match pieces with
        | piece :: rest => go (buffer ++ piece) rest
        | [] => match r.source.ending with
          | .eof =>
            (if buffer = [] then .ok none else .error .closed, left buffer)
          | .failed fault => (.error (.failed fault), left buffer)
          | .silent => (.error .silent, left buffer)

/-- **To go on with a search is to search anew**, for every limit and from piece
to piece. -/
theorem readHead_eq_readHeadAnew (max : Nat) (r : Reader) :
    r.readHead max = r.readHeadAnew max := by
  -- the search starts at the front, or no head ends within the bytes that were
  -- searched
  have key : ∀ pieces held scanned, scanned = 0 ∨
      headEnd? (held.take (scanned + 3)) = none →
      readHead.go max r held scanned pieces = readHeadAnew.go max r held pieces := by
    intro pieces
    induction pieces with
    | nil =>
      intro held scanned hseen
      rw [readHead.go.eq_def, readHeadAnew.go.eq_def]
      cases hend : headEnd? (dropLineEnds held) with
      | some n => simp only [headEndFrom?_dropLineEnds hseen, hend]
      | none =>
        cases r.source.ending <;> simp only [headEndFrom?_dropLineEnds hseen, hend]
    | cons piece rest ih =>
      intro held scanned hseen
      rw [readHead.go.eq_def, readHeadAnew.go.eq_def]
      cases hend : headEnd? (dropLineEnds held) with
      | some n => simp only [headEndFrom?_dropLineEnds hseen, hend]
      | none =>
        simp only [headEndFrom?_dropLineEnds hseen, hend]
        rw [ih]
        rcases Nat.lt_or_ge (dropLineEnds held).length 3 with h3 | h3
        · exact .inl (by omega)
        · rw [Nat.sub_add_cancel h3, List.take_left]
          exact .inr hend
  exact key r.source.pieces r.buffer 0 (.inl rfl)

/-! ## Heads that are read -/

/-- Once the end of a head shows, or too many bytes have arrived without it, the
pieces to come do not count. -/
theorem readHeadAnew_go_of_settled {max : Nat} (hmax : 0 < max) (r : Reader)
    {held : Bytes} (pieces : List Bytes)
    (hsettled : headEnd? (dropLineEnds held) ≠ none ∨ max < (dropLineEnds held).length) :
    ∃ t, readHeadAnew.go max r held pieces =
        ((headAnswer max r.source.ending (dropLineEnds (held ++ pieces.flatten))).1, t) ∧
      t.remaining = (headAnswer max r.source.ending
        (dropLineEnds (held ++ pieces.flatten))).2 ∧
      t.source.ending = r.source.ending := by
  rw [readHeadAnew.go.eq_def]
  cases hend : headEnd? (dropLineEnds held) with
  | some n =>
    rw [headAnswer_of_headEnd? hend]
    by_cases hn : n ≤ max
    · simp only [hend, hn, Nat.not_lt.2 hn, if_true, if_false]
      exact ⟨_, rfl, rfl, rfl⟩
    · simp only [hend, hn, Nat.not_le.1 hn, if_true, if_false]
      exact ⟨_, rfl, rfl, rfl⟩
  | none =>
    have hlong := hsettled.resolve_left (not_not_intro hend)
    rw [headAnswer_of_long hend hmax hlong]
    simp only [hend, hlong, if_true]
    exact ⟨_, rfl, rfl, rfl⟩

/-- **The answer to the request for a head, and what is left, are those of the
view.** -/
theorem readHead_spec {max : Nat} (hmax : 0 < max) (r : Reader) :
    ∃ t, r.readHead max =
      ((headAnswer max r.source.ending (dropLineEnds r.remaining)).1, t) ∧
      t.remaining = (headAnswer max r.source.ending (dropLineEnds r.remaining)).2 ∧
      t.source.ending = r.source.ending := by
  have key : ∀ pieces held, ∃ t, readHeadAnew.go max r held pieces =
        ((headAnswer max r.source.ending (dropLineEnds (held ++ pieces.flatten))).1, t) ∧
      t.remaining = (headAnswer max r.source.ending
        (dropLineEnds (held ++ pieces.flatten))).2 ∧
      t.source.ending = r.source.ending := by
    intro pieces
    induction pieces with
    | nil =>
      intro held
      by_cases hsettled : headEnd? (dropLineEnds held) ≠ none ∨
        max < (dropLineEnds held).length
      · exact readHeadAnew_go_of_settled hmax r [] hsettled
      · obtain ⟨hend, hlong⟩ := not_or.1 hsettled
        rw [readHeadAnew.go.eq_def, List.flatten_nil, List.append_nil,
          headAnswer.eq_def]
        simp only [Decidable.not_not.1 hend, hlong, if_false]
        cases r.source.ending with
        | eof => exact ⟨_, rfl, by simp [remaining, Source.remaining], rfl⟩
        | failed fault =>
          exact ⟨_, rfl, by simp [remaining, Source.remaining], rfl⟩
        | silent => exact ⟨_, rfl, by simp [remaining, Source.remaining], rfl⟩
    | cons piece more ih =>
      intro held
      by_cases hsettled : headEnd? (dropLineEnds held) ≠ none ∨
        max < (dropLineEnds held).length
      · exact readHeadAnew_go_of_settled hmax r (piece :: more) hsettled
      · obtain ⟨hend, hlong⟩ := not_or.1 hsettled
        rw [readHeadAnew.go.eq_def]
        simp only [Decidable.not_not.1 hend, hlong, if_false]
        have := ih (dropLineEnds held ++ piece)
        rwa [List.append_assoc, ← List.flatten_cons, ← dropLineEnds_append] at this
  rw [readHead_eq_readHeadAnew]
  exact key r.source.pieces r.buffer

/-- **A head within the limit is read**, in whatever pieces it arrives, and
nothing more. -/
theorem readHead_of_headOf? {max : Nat} {r : Reader} {head rest : Bytes}
    (h : headOf? max r.remaining = some (head, rest)) :
    ∃ t, r.readHead max = (.ok (some head), t) ∧ t.remaining = rest ∧
      t.source.ending = r.source.ending := by
  rw [headOf?, Option.bind_eq_some_iff] at h
  obtain ⟨n, hn, h⟩ := h
  split at h
  · rename_i hle
    cases h
    have hb := headEnd?_bounds hn
    have := readHead_spec (show 0 < max by omega) r
    simpa only [headAnswer, hn, hle, if_true] using this
  · cases h

/-- **Only a head within the limit is read.** -/
theorem headOf?_of_readHead {max : Nat} (hmax : 0 < max) {r t : Reader}
    {head : Bytes} (h : r.readHead max = (.ok (some head), t)) :
    headOf? max r.remaining = some (head, t.remaining) := by
  obtain ⟨t', ht, hr, -⟩ := readHead_spec hmax r
  rw [h, Prod.mk.injEq] at ht
  obtain ⟨hans, rfl⟩ := ht
  rw [hr, headOf?]
  rw [headAnswer.eq_def] at hans ⊢
  cases hend : headEnd? (dropLineEnds r.remaining) with
  | some n =>
    simp only [hend] at hans ⊢
    split at hans
    · rename_i hle
      cases hans
      simp only [Option.bind_some, hle, if_true]
    · cases hans
  | none =>
    simp only [hend] at hans
    split at hans
    · cases hans
    · split at hans
      · split at hans <;> cases hans
      · cases hans
      · cases hans

end Reader

end Gateway
