import Gateway.Proofs.Segmentation

/-!
# The search for a head

What is read as a head is said of all bytes together, buffered and to come: the
line ends in front are skipped, and the head ends with the first empty line
behind them.

* `headEnd?_eq_some_iff`, `headEnd?_eq_none_iff`: the search finds the first
  empty line;
* `headReply_iff`: there is exactly one answer to the request for a head, and
  one rest;
* `readHead_of_view`: a reader gives that answer and leaves that rest, in
  whatever pieces the bytes come.
-/

namespace Gateway

namespace Reader

/-! ## The first empty line -/

/-- The first empty line of the bytes ends behind `n` of them. -/
structure FirstHeadEnd (bs : Bytes) (n : Nat) : Prop where
  /-- An empty line ends there. -/
  ends : ∃ front rest, bs = front ++ headMark ++ rest ∧ n = (front ++ headMark).length
  /-- None ends before. -/
  first : ∀ front rest, bs = front ++ headMark ++ rest →
    n ≤ (front ++ headMark).length

/-- Where the search stops an empty line ends. -/
theorem ends_of_headEnd? {bs : Bytes} {n : Nat} (h : headEnd? bs = some n) :
    ∃ front rest, bs = front ++ headMark ++ rest ∧
      n = (front ++ headMark).length := by
  induction bs generalizing n with
  | nil => cases h
  | cons b bs ih =>
    rw [headEnd?_cons] at h
    split at h
    · rename_i hmark
      cases h
      obtain ⟨rest, hrest⟩ := hmark
      exact ⟨[], rest, hrest.symm, rfl⟩
    · obtain ⟨k, hk, rfl⟩ := Option.map_eq_some_iff.1 h
      obtain ⟨front, rest, rfl, rfl⟩ := ih hk
      exact ⟨b :: front, rest, rfl, rfl⟩

/-- The search stops at an empty line, or before it. -/
theorem headEnd?_le (front rest : Bytes) :
    ∃ n, headEnd? (front ++ headMark ++ rest) = some n ∧
      n ≤ (front ++ headMark).length := by
  induction front with
  | nil => exact ⟨4, rfl, Nat.le_refl 4⟩
  | cons b front ih =>
    obtain ⟨n, hn, hle⟩ := ih
    rw [List.cons_append, List.cons_append, headEnd?_cons, hn, List.length_cons]
    split
    · exact ⟨4, rfl, by simp [headMark]⟩
    · exact ⟨n + 1, rfl, Nat.succ_le_succ hle⟩

/-- **The search finds the first empty line.** -/
theorem headEnd?_eq_some_iff {bs : Bytes} {n : Nat} :
    headEnd? bs = some n ↔ FirstHeadEnd bs n := by
  constructor
  · intro h
    refine ⟨ends_of_headEnd? h, fun front rest hbs => ?_⟩
    obtain ⟨k, hk, hle⟩ := headEnd?_le front rest
    rw [← hbs, h] at hk
    cases hk
    exact hle
  · rintro ⟨⟨front, rest, rfl, rfl⟩, hfirst⟩
    obtain ⟨k, hk, hle⟩ := headEnd?_le front rest
    obtain ⟨front', rest', hbs, rfl⟩ := ends_of_headEnd? hk
    rw [hk, Nat.le_antisymm hle (hfirst front' rest' hbs)]

/-- **It finds none exactly if there is none.** -/
theorem headEnd?_eq_none_iff {bs : Bytes} :
    headEnd? bs = none ↔ ¬ headMark <:+: bs := by
  constructor
  · rintro h ⟨front, rest, rfl⟩
    obtain ⟨k, hk, -⟩ := headEnd?_le front rest
    rw [h] at hk
    cases hk
  · intro h
    rw [Option.eq_none_iff_forall_ne_some]
    intro n hn
    obtain ⟨front, rest, rfl, -⟩ := ends_of_headEnd? hn
    exact h ⟨front, rest, rfl⟩

/-! ## Line ends in front -/

/-- So many line ends. -/
def lineEnds (count : Nat) : Bytes :=
  (List.replicate count Bytes.crlf).flatten

theorem lineEnds_add (m n : Nat) :
    lineEnds (m + n) = lineEnds m ++ lineEnds n := by
  simp [lineEnds, ← List.replicate_append_replicate]

/-- What is skipped in front of a head are line ends. -/
theorem exists_lineEnds (bs : Bytes) :
    ∃ skipped, bs = lineEnds skipped ++ dropLineEnds bs := by
  fun_induction dropLineEnds bs with
  | case1 rest ih =>
    obtain ⟨skipped, h⟩ := ih
    refine ⟨1 + skipped, ?_⟩
    rw [lineEnds_add, List.append_assoc, ← h]
    rfl
  | case2 bs => exact ⟨0, rfl⟩

theorem dropLineEnds_lineEnds (count : Nat) (bs : Bytes) :
    dropLineEnds (lineEnds count ++ bs) = dropLineEnds bs := by
  induction count with
  | zero => rfl
  | succ count ih =>
    rw [Nat.add_comm, lineEnds_add, List.append_assoc]
    exact ih

/-! ## The answer -/

/-- What is answered to the request for a head, and what is left, where `bs` are
all bytes that are there and will come, and no line end stands in front of
them. -/
inductive HeadReply (max : Nat) (ending : Ending) (bs : Bytes) :
    Except HeadError (Option Bytes) → Bytes → Prop where
  /-- A head within the limit is given, and what follows it is left. -/
  | head {n : Nat} : FirstHeadEnd bs n → n ≤ max →
      HeadReply max ending bs (.ok (some (bs.take n))) (bs.drop n)
  /-- A longer one is refused. -/
  | tooLong {n : Nat} : FirstHeadEnd bs n → max < n →
      HeadReply max ending bs (.error (.tooLarge max)) bs
  /-- So are more bytes without an empty line. -/
  | endless : ¬ headMark <:+: bs → max < bs.length →
      HeadReply max ending bs (.error (.tooLarge max)) bs
  /-- The sender has ended and began no head. -/
  | none : ending = .eof → bs = [] → HeadReply max ending bs (.ok none) bs
  /-- The sender has ended within a head. -/
  | closed : ending = .eof → bs ≠ [] → ¬ headMark <:+: bs → bs.length ≤ max →
      HeadReply max ending bs (.error .closed) bs
  /-- The connection has failed before the end of a head. -/
  | failed {fault : Fault} : ending = .failed fault → ¬ headMark <:+: bs →
      bs.length ≤ max →
      HeadReply max ending bs (.error (.failed fault)) bs
  /-- The sender stays silent before the end of a head. -/
  | silent : ending = .silent → ¬ headMark <:+: bs → bs.length ≤ max →
      HeadReply max ending bs (.error .silent) bs

/-- There is an answer. -/
theorem headReply_headAnswer (max : Nat) (ending : Ending) (bs : Bytes) :
    HeadReply max ending bs (headAnswer max ending bs).1
      (headAnswer max ending bs).2 := by
  rw [headAnswer.eq_def]
  split
  · rename_i n hend
    have hfirst := headEnd?_eq_some_iff.1 hend
    split
    · rename_i hle
      exact .head hfirst hle
    · rename_i hgt
      exact .tooLong hfirst (Nat.not_le.1 hgt)
  · rename_i hend
    have hno := headEnd?_eq_none_iff.1 hend
    split
    · rename_i hlong
      exact .endless hno hlong
    · rename_i hshort
      have hle := Nat.not_lt.1 hshort
      split
      · by_cases hnil : bs = []
        · rw [if_pos hnil]
          exact .none rfl hnil
        · rw [if_neg hnil]
          exact .closed rfl hnil hno hle
      · exact .failed rfl hno hle
      · exact .silent rfl hno hle

/-- **There is exactly one answer, and one rest.** -/
theorem headReply_iff {max : Nat} {ending : Ending} {bs rest : Bytes}
    {answer : Except HeadError (Option Bytes)} :
    HeadReply max ending bs answer rest ↔
      (answer, rest) = headAnswer max ending bs := by
  constructor
  · intro h
    rw [headAnswer.eq_def]
    cases h with
    | head hend hle => simp [headEnd?_eq_some_iff.2 hend, hle]
    | tooLong hend hgt => simp [headEnd?_eq_some_iff.2 hend, Nat.not_le.2 hgt]
    | endless hno hgt => simp [headEnd?_eq_none_iff.2 hno, hgt]
    | none he hnil => simp [he, hnil, headEnd?, headEnd?.go]
    | closed he hne hno hle =>
      simp [headEnd?_eq_none_iff.2 hno, Nat.not_lt.2 hle, he, hne]
    | failed he hno hle =>
      simp [headEnd?_eq_none_iff.2 hno, Nat.not_lt.2 hle, he]
    | silent he hno hle =>
      simp [headEnd?_eq_none_iff.2 hno, Nat.not_lt.2 hle, he]
  · intro h
    have hreply := headReply_headAnswer max ending bs
    rwa [← h] at hreply

/-- **What is read as a head does not depend on the pieces.** All bytes that a
reader holds and will get are some line ends and, behind them, bytes that begin
with none; the answer, and what is left, is what becomes of those. So readers
with the same bytes and the same end of them answer alike and leave the same;
and the search that goes on behind the last one answers as one that starts anew
with every piece. -/
theorem readHead_of_view {max : Nat} (hmax : 1 ≤ max) (r : Reader) :
    (∃ skipped bs, r.buffer ++ r.source.pieces.flatten = lineEnds skipped ++ bs ∧
      ¬ Bytes.crlf <+: bs ∧
      HeadReply max r.source.ending bs (r.readHead max).1
        ((r.readHead max).2.buffer ++ (r.readHead max).2.source.pieces.flatten)) ∧
      (∀ other : Reader, other.remaining = r.remaining →
        other.source.ending = r.source.ending →
        (other.readHead max).1 = (r.readHead max).1 ∧
        (other.readHead max).2.remaining = (r.readHead max).2.remaining) ∧
      r.readHead max = r.readHeadAnew max := by
  obtain ⟨t, ht, hrest, -⟩ := readHead_spec hmax r
  refine ⟨?_, fun other hview hending => ?_, readHead_eq_readHeadAnew max r⟩
  · obtain ⟨skipped, hskipped⟩ := exists_lineEnds r.remaining
    refine ⟨skipped, _, hskipped, not_crlf_prefix_dropLineEnds r.remaining, ?_⟩
    rw [ht]
    exact headReply_iff.2 (Prod.ext rfl hrest)
  · obtain ⟨t', ht', hrest', -⟩ := readHead_spec hmax other
    rw [ht, ht', hrest, hrest', hview, hending]
    exact ⟨rfl, rfl⟩

/-- A head of as many bytes as allowed, with its last line ends and the one in
front of it cut apart. -/
theorem readHead_of_view_cut :
    let r : Reader := ⟨Bytes.ofText "\r", ⟨[Bytes.ofText "\nGET /\r",
      Bytes.ofText "\n\r", Bytes.ofText "\nab"], .silent⟩⟩
    1 ≤ 9 ∧ (r.readHead 9).1 = .ok (some (Bytes.ofText "GET /\r\n\r\n")) ∧
      (r.readHead 9).2.remaining = Bytes.ofText "ab" ∧
      r.readHead 9 = r.readHeadAnew 9 := by
  intro r
  have hmax : 1 ≤ 9 := by decide
  obtain ⟨⟨skipped, bs, hview, hfront, hreply⟩, -, hanew⟩ := readHead_of_view hmax r
  obtain rfl : dropLineEnds (r.buffer ++ r.source.pieces.flatten) = bs := by
    rw [hview, dropLineEnds_lineEnds, dropLineEnds_eq_self hfront]
  have hanswer := headReply_iff.1 hreply
  rw [Prod.mk.injEq] at hanswer
  exact ⟨hmax, hanswer.1.trans rfl, hanswer.2.trans rfl, hanew⟩

end Reader

end Gateway
