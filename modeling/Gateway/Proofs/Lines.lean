import Mathlib.Data.List.Chain
import Gateway.Bytes
import Gateway.Text.Split
import Gateway.Proofs.Segmentation

/-!
# Lines

A text is `Unbroken` if no CRLF is in it. The lines of a text are, and lines
with a CRLF behind each are the lines of the text that they make. The same texts
as bytes make a head that ends where its last line does.

* `Text.unbroken_of_mem_lines`, `Text.lines_joined`: cutting into lines and
  joining them;
* `Bytes.unbroken_ofText`: a text without CRLF has none in its bytes either;
* `Reader.headEnd?_joined`: a head of lines that are neither broken nor empty
  ends behind them.
-/

namespace Gateway

/-- No `cr` stands right in front of an `lf`. -/
def Unbroken {α : Type} (cr lf : α) (xs : List α) : Prop :=
  xs.IsChain fun a b => ¬ (a = cr ∧ b = lf)

theorem unbroken_of_not_mem {α : Type} {cr lf : α} {xs : List α}
    (h : cr ∉ xs) : Unbroken cr lf xs := by
  induction xs with
  | nil => exact List.isChain_nil
  | cons x xs ih =>
    rw [List.mem_cons, not_or] at h
    exact List.isChain_cons.2 ⟨fun _ _ hx => h.1 hx.1.symm, ih h.2⟩

theorem Unbroken.append_cons {α : Type} {cr lf c : α} {xs ys : List α}
    (hxs : Unbroken cr lf xs) (hcr : c ≠ cr) (hlf : c ≠ lf)
    (hys : Unbroken cr lf ys) : Unbroken cr lf (xs ++ c :: ys) := by
  refine List.IsChain.append hxs (List.isChain_cons.2 ⟨fun _ _ h => hcr h.1, hys⟩) ?_
  rintro _ - _ ⟨⟩ ⟨-, h⟩
  exact hlf h

/-! ## Texts -/

namespace Text

/-- The line end of a text. -/
def crlf : List Char := ['\r', '\n']

/-- Lines with a line end behind each. -/
def joined (ls : List (List Char)) : List Char :=
  ls.flatMap (· ++ crlf)

theorem joined_cons (l : List Char) (ls : List (List Char)) :
    joined (l :: ls) = l ++ crlf ++ joined ls :=
  List.flatMap_cons

theorem lines_go_cons {c : Char} {rest : List Char}
    (h : ¬ (c = '\r' ∧ '\n' ∈ rest.head?)) (line : List Char) :
    lines.go line (c :: rest) = lines.go (c :: line) rest := by
  rw [lines.go]
  rintro rest' rfl rfl
  exact h ⟨rfl, rfl⟩

/-- The open line goes on to the first line end. -/
theorem lines_go_append {text : List Char} (h : Unbroken '\r' '\n' text)
    (line rest : List Char) :
    lines.go line (text ++ crlf ++ rest) = (line.reverse ++ text) :: lines rest := by
  induction text generalizing line with
  | nil =>
    rw [List.append_nil]
    rfl
  | cons c text ih =>
    obtain ⟨hc, htext⟩ := List.isChain_cons.1 h
    rw [List.cons_append, List.cons_append, lines_go_cons, ih htext,
      List.reverse_cons, List.append_assoc, List.singleton_append]
    rintro ⟨rfl, hnext⟩
    cases text with
    | nil => cases hnext
    | cons d text => exact hc d rfl ⟨rfl, (Option.some.inj hnext)⟩

/-- A text without a line end is one line. -/
theorem lines_of_unbroken {text : List Char}
    (h : Unbroken '\r' '\n' text) : lines text = [text] := by
  suffices key : ∀ line, lines.go line text = [line.reverse ++ text] from key []
  induction text with
  | nil =>
    intro line
    rw [lines.go, List.append_nil]
  | cons c text ih =>
    intro line
    obtain ⟨hc, htext⟩ := List.isChain_cons.1 h
    rw [lines_go_cons, ih htext, List.reverse_cons, List.append_assoc,
      List.singleton_append]
    exact fun ⟨hcr, hnext⟩ => hc _ hnext ⟨hcr, rfl⟩

/-- **Joined lines are cut where they were joined.** -/
theorem lines_joined {ls : List (List Char)}
    (h : ∀ l ∈ ls, Unbroken '\r' '\n' l) (rest : List Char) :
    lines (joined ls ++ rest) = ls ++ lines rest := by
  induction ls with
  | nil => rfl
  | cons l ls ih =>
    rw [joined_cons, List.append_assoc, lines,
      lines_go_append (h l List.mem_cons_self),
      ih fun l hl => h l (List.mem_cons_of_mem _ hl)]
    rfl

/-- **A line of a text has no line end in it.** -/
theorem unbroken_of_mem_lines {text l : List Char}
    (h : l ∈ lines text) : Unbroken '\r' '\n' l := by
  -- the open line has none, and the next character makes none with its end
  suffices key : ∀ line cs, Unbroken '\r' '\n' line.reverse →
      (∀ last ∈ line.head?, ∀ next ∈ cs.head?, ¬ (last = '\r' ∧ next = '\n')) →
      l ∈ lines.go line cs → Unbroken '\r' '\n' l from
    key [] text List.isChain_nil (fun _ hlast => nomatch hlast) h
  intro line cs
  fun_induction lines.go line cs with
  | case1 line =>
    intro hline _ hl
    rw [List.mem_singleton] at hl
    rwa [hl]
  | case2 line rest ih =>
    intro hline _ hl
    rcases List.mem_cons.1 hl with rfl | hl
    · exact hline
    · exact ih List.isChain_nil (fun _ hlast => nomatch hlast) hl
  | case3 line c rest hne ih =>
    intro hline hnext hl
    refine ih ?_ ?_ hl
    · rw [List.reverse_cons]
      refine hline.append (List.isChain_singleton c) ?_
      intro last hlast next hc
      rw [List.getLast?_reverse] at hlast
      exact hnext last hlast next hc
    · rintro last ⟨⟩ next hrest ⟨rfl, rfl⟩
      cases rest with
      | nil => cases hrest
      | cons d rest =>
        cases hrest
        exact hne rest rfl rfl

theorem dropFinalLineEnds_append_crlf (cs : List Char) :
    dropFinalLineEnds (cs ++ crlf) = dropFinalLineEnds cs := by
  rw [dropFinalLineEnds, List.reverse_append]
  rfl

/-- A text that ends with no line end is kept. -/
theorem dropFinalLineEnds_eq_self {cs : List Char} (h : ¬ crlf <:+ cs) :
    dropFinalLineEnds cs = cs := by
  rw [dropFinalLineEnds, dropFinalLineEnds.go.eq_def]
  split
  · rename_i rest hrev
    refine absurd ⟨rest.reverse, ?_⟩ h
    rw [← List.reverse_reverse cs, hrev]
    simp [crlf]
  · rw [List.reverse_reverse]

/-- A line end behind a text ends its last line, and an empty one follows. -/
theorem lines_append_crlf (cs : List Char) :
    lines (cs ++ crlf) = lines cs ++ [[]] := by
  suffices key : ∀ line, lines.go line (cs ++ crlf) =
      lines.go line cs ++ [[]] from key []
  intro line
  fun_induction lines.go line cs with
  | case1 line => rfl
  | case2 line rest ih =>
    rw [List.cons_append, List.cons_append, lines.go, ih, List.cons_append]
  | case3 line c rest hne ih =>
    rw [List.cons_append, lines_go_cons, ih]
    rintro ⟨rfl, hnext⟩
    cases rest with
    | nil => cases hnext
    | cons d rest =>
      cases hnext
      exact hne rest rfl rfl

/-- A text keeps its lines without the line ends at its end, but for empty
ones. -/
theorem lines_dropFinalLineEnds_subset (cs : List Char) :
    lines (dropFinalLineEnds cs) ⊆ lines cs := by
  suffices key : ∀ rev, lines (dropFinalLineEnds.go rev).reverse ⊆ lines rev.reverse by
    have h := key cs.reverse
    rwa [List.reverse_reverse] at h
  intro rev
  fun_induction dropFinalLineEnds.go rev with
  | case1 rest ih =>
    have hcrlf : ('\n' :: '\r' :: rest).reverse = rest.reverse ++ crlf :=
      by simp [crlf]
    rw [hcrlf, lines_append_crlf]
    exact List.Subset.trans ih (List.subset_append_left _ _)
  | case2 rev hne => exact List.Subset.refl _

/-- A line that the text of a head can have. -/
structure IsHeadLine (l : List Char) : Prop where
  /-- It is not empty. -/
  ne_nil : l ≠ []
  /-- It has no line end in it. -/
  unbroken : Unbroken '\r' '\n' l

theorem joined_cases (ls : List (List Char)) :
    joined ls = [] ∨ ∃ front, joined ls = front ++ ['\n'] := by
  rcases List.eq_nil_or_concat ls with rfl | ⟨init, l, rfl⟩
  · exact .inl rfl
  · refine .inr ⟨joined init ++ (l ++ ['\r']), ?_⟩
    rw [List.concat_eq_append, joined, List.flatMap_append, List.flatMap_singleton]
    simp [joined, crlf]

/-- Joined lines with an open one behind them do not end with a line end. -/
theorem IsHeadLine.not_crlf_suffix {l : List Char} (h : IsHeadLine l)
    (ls : List (List Char)) :
    ¬ crlf <:+ joined ls ++ l := by
  rintro ⟨before, hbefore⟩
  rcases List.eq_nil_or_concat l with rfl | ⟨front, c, rfl⟩
  · exact h.ne_nil rfl
  rw [show before ++ crlf = before ++ ['\r'] ++ ['\n'] by
    simp [crlf], List.concat_eq_append, ← List.append_assoc] at hbefore
  obtain ⟨hfront, hc⟩ := List.append_inj' hbefore rfl
  rcases List.eq_nil_or_concat front with rfl | ⟨init, b, rfl⟩
  -- a line of one line feed follows the line feed of the line before it
  · rw [List.append_nil] at hfront
    rcases joined_cases ls with hnil | ⟨joint, hjoint⟩
    · rw [hnil] at hfront
      exact absurd hfront (by simp)
    · rw [hjoint] at hfront
      exact absurd (List.append_inj' hfront rfl).2 (by decide)
  -- a longer line would have the line end in it
  · rw [List.concat_eq_append, ← List.append_assoc] at hfront
    obtain ⟨-, hb⟩ := List.append_inj' hfront rfl
    have hunbroken := h.unbroken
    rw [List.concat_eq_append, List.concat_eq_append, ← hc, ← hb,
      List.append_assoc] at hunbroken
    exact (List.isChain_cons.1 hunbroken.right_of_append).1 '\n' rfl ⟨rfl, rfl⟩

/-- **The lines of a head** are those that were joined to it. -/
theorem lines_of_head {ls : List (List Char)} (hne : ls ≠ [])
    (h : ∀ l ∈ ls, IsHeadLine l) :
    lines (dropFinalLineEnds (joined ls ++ crlf)) = ls := by
  rcases List.eq_nil_or_concat ls with rfl | ⟨init, last, rfl⟩
  · exact absurd rfl hne
  · rw [List.concat_eq_append] at h ⊢
    have hlast := h last (List.mem_append_right _ (List.mem_singleton_self last))
    have hinit : ∀ l ∈ init, Unbroken '\r' '\n' l :=
      fun l hl => (h l (List.mem_append_left _ hl)).unbroken
    rw [dropFinalLineEnds_append_crlf, joined, List.flatMap_append,
      List.flatMap_singleton, ← List.append_assoc, dropFinalLineEnds_append_crlf,
      ← joined, dropFinalLineEnds_eq_self (hlast.not_crlf_suffix init),
      lines_joined hinit, lines_of_unbroken hlast.unbroken]

end Text

/-! ## Bytes -/

namespace Bytes

theorem ofText_eq (s : String) :
    ofText s = s.toList.flatMap String.utf8EncodeChar := by
  rw [ofText, ← String.utf8Encode_toList, List.utf8Encode, List.data_toByteArray]

/-- A byte below 128 is the character of its number. -/
theorem utf8EncodeChar_of_mem {c : Char} {b : UInt8}
    (h : b ∈ String.utf8EncodeChar c) (hb : b < 128) :
    String.utf8EncodeChar c = [b] ∧ c.toNat = b.toNat := by
  have hlow : ∀ n, b = UInt8.ofNat n → n < 256 → n < 128 := by
    rintro n rfl hn
    rw [UInt8.lt_iff_toNat_lt, UInt8.toNat_ofNat_of_lt' hn] at hb
    exact hb
  unfold String.utf8EncodeChar at h ⊢
  dsimp only at h ⊢
  split at h
  · rename_i hv
    rw [List.mem_singleton] at h
    subst h
    rw [if_pos hv, UInt8.toNat_ofNat_of_lt' (Nat.lt_of_le_of_lt hv (by decide))]
    exact ⟨rfl, rfl⟩
  -- the bytes of any other character are at least 128
  · split at h
    · simp only [List.mem_cons, List.not_mem_nil, or_false] at h
      rcases h with h | h <;> · have := hlow _ h (by omega); omega
    · split at h
      · simp only [List.mem_cons, List.not_mem_nil, or_false] at h
        rcases h with h | h | h <;> · have := hlow _ h (by omega); omega
      · simp only [List.mem_cons, List.not_mem_nil, or_false] at h
        rcases h with h | h | h | h <;> · have := hlow _ h (by omega); omega

/-- **A text without a line end has none in its bytes.** -/
theorem unbroken_ofText {s : String} (h : Unbroken '\r' '\n' s.toList) :
    Unbroken cr lf (ofText s) := by
  rw [ofText_eq]
  generalize s.toList = cs at h ⊢
  induction cs with
  | nil => exact List.isChain_nil
  | cons c cs ih =>
    obtain ⟨hc, hcs⟩ := List.isChain_cons.1 h
    rw [List.flatMap_cons]
    refine List.IsChain.append ?_ (ih hcs) ?_
    · by_cases hcr : cr ∈ String.utf8EncodeChar c
      · rw [(utf8EncodeChar_of_mem hcr (by decide)).1]
        exact List.isChain_singleton cr
      · exact unbroken_of_not_mem hcr
    -- a line feed that follows a carriage return was one in the text
    · rintro x hlast y hfirst ⟨rfl, rfl⟩
      have hcr := utf8EncodeChar_of_mem (List.mem_of_getLast? hlast) (by decide)
      cases cs with
      | nil => cases hfirst
      | cons d cs =>
        rw [List.flatMap_cons,
          List.head?_append_of_ne_nil _ String.utf8EncodeChar_ne_nil] at hfirst
        have hlf := utf8EncodeChar_of_mem (List.mem_of_head? hfirst) (by decide)
        exact hc d rfl ⟨Char.toNat_inj.1 hcr.2, Char.toNat_inj.1 hlf.2⟩

theorem ofText_joined (ls : List (List Char)) :
    ofText (String.ofList (Text.joined ls)) =
      (ls.map fun l => ofText (String.ofList l)).flatMap (· ++ crlf) := by
  induction ls with
  | nil => rfl
  | cons l ls ih =>
    rw [Text.joined_cons, String.ofList_append, ofText_append, ih,
      String.ofList_append, ofText_append, List.map_cons, List.flatMap_cons]
    rfl

end Bytes

/-- The bytes of a line are not empty, and they have no line end in them. -/
theorem Text.IsHeadLine.unbroken_ofText {l : List Char} (h : IsHeadLine l) :
    Unbroken Bytes.cr Bytes.lf (Bytes.ofText (String.ofList l)) ∧
      Bytes.ofText (String.ofList l) ≠ [] := by
  constructor
  · apply Bytes.unbroken_ofText
    rw [String.toList_ofList]
    exact h.unbroken
  · rw [Bytes.ofText_eq, String.toList_ofList]
    intro hnil
    obtain ⟨c, cs, rfl⟩ := List.exists_cons_of_ne_nil h.ne_nil
    rw [List.flatMap_cons, List.append_eq_nil_iff] at hnil
    exact String.utf8EncodeChar_ne_nil hnil.1

/-! ## Heads -/

namespace Reader

/-- A line that is not broken and not empty does not begin with a line end, nor
does one begin with it. -/
theorem not_crlf_prefix_of_unbroken {line : Bytes}
    (h : Unbroken Bytes.cr Bytes.lf line) (hne : line ≠ []) (rest : Bytes) :
    ¬ Bytes.crlf <+: line ++ Bytes.crlf ++ rest := by
  cases line with
  | nil => exact absurd rfl hne
  | cons b line =>
    obtain ⟨hb, -⟩ := List.isChain_cons.1 h
    intro hp
    rw [List.cons_append, List.cons_append, Bytes.crlf, List.cons_prefix_cons] at hp
    obtain ⟨hcr, hp⟩ := hp
    cases line with
    | nil =>
      rw [List.nil_append, List.cons_append, List.cons_prefix_cons] at hp
      exact absurd hp.1 (by decide)
    | cons c line =>
      rw [List.cons_append, List.cons_append, List.cons_prefix_cons] at hp
      exact hb c rfl ⟨hcr.symm, hp.1.symm⟩

/-- The search for the end of a head passes a line that is not broken, if no
empty line follows. -/
theorem headEnd?_line {line rest : Bytes} (h : Unbroken Bytes.cr Bytes.lf line)
    (hrest : ¬ Bytes.crlf <+: rest) :
    headEnd? (line ++ Bytes.crlf ++ rest) =
      (headEnd? rest).map (· + (line.length + 2)) := by
  induction line with
  | nil =>
    have hmark : ¬ headMark <+: Bytes.cr :: Bytes.lf :: rest := by
      intro hp
      exact hrest (List.cons_prefix_cons.1 (List.cons_prefix_cons.1 hp).2).2
    have hlf : ¬ headMark <+: Bytes.lf :: rest := by
      intro hp
      exact absurd (List.cons_prefix_cons.1 hp).1 (by decide)
    rw [List.nil_append, Bytes.crlf, List.cons_append, List.cons_append,
      List.nil_append, headEnd?_cons, if_neg hmark, headEnd?_cons, if_neg hlf,
      Option.map_map]
    rfl
  | cons b line ih =>
    have hmark : ¬ headMark <+: b :: line ++ Bytes.crlf ++ rest := by
      intro hp
      exact not_crlf_prefix_of_unbroken h (List.cons_ne_nil _ _) rest
        (List.IsPrefix.trans ⟨Bytes.crlf, rfl⟩ hp)
    rw [List.cons_append, List.cons_append] at hmark ⊢
    rw [headEnd?_cons, if_neg hmark, ih (List.isChain_cons.1 h).2, Option.map_map]
    rfl

/-- It stops behind the empty line that follows. -/
theorem headEnd?_last {line : Bytes} (h : Unbroken Bytes.cr Bytes.lf line)
    (rest : Bytes) :
    headEnd? (line ++ Bytes.crlf ++ (Bytes.crlf ++ rest)) =
      some (line.length + 4) := by
  induction line with
  | nil => exact (headEnd?_cons _ _).trans (if_pos ⟨rest, rfl⟩)
  | cons b line ih =>
    have hmark : ¬ headMark <+: b :: line ++ Bytes.crlf ++ (Bytes.crlf ++ rest) := by
      intro hp
      exact not_crlf_prefix_of_unbroken h
        (List.cons_ne_nil _ _) _ (List.IsPrefix.trans ⟨Bytes.crlf, rfl⟩ hp)
    rw [List.cons_append, List.cons_append] at hmark ⊢
    rw [headEnd?_cons, if_neg hmark, ih (List.isChain_cons.1 h).2]
    rfl

/-- **A head ends behind its lines**, if they are neither broken nor empty and
there is one at least. -/
theorem headEnd?_joined {ls : List Bytes} (hne : ls ≠ [])
    (h : ∀ l ∈ ls, Unbroken Bytes.cr Bytes.lf l ∧ l ≠ []) (rest : Bytes) :
    headEnd? (ls.flatMap (· ++ Bytes.crlf) ++ (Bytes.crlf ++ rest)) =
      some ((ls.flatMap (· ++ Bytes.crlf)).length + 2) := by
  induction ls with
  | nil => exact absurd rfl hne
  | cons l ls ih =>
    obtain ⟨hl, -⟩ := h l List.mem_cons_self
    rw [List.flatMap_cons, List.append_assoc, List.length_append, List.length_append]
    cases ls with
    | nil => exact headEnd?_last hl rest
    | cons next ls =>
      have hls : ∀ l ∈ next :: ls, Unbroken Bytes.cr Bytes.lf l ∧ l ≠ [] :=
        fun l hl => h l (List.mem_cons_of_mem _ hl)
      obtain ⟨hnext, hnext0⟩ := hls next List.mem_cons_self
      have hstart : ¬ Bytes.crlf <+:
          (next :: ls).flatMap (· ++ Bytes.crlf) ++ (Bytes.crlf ++ rest) := by
        rw [List.flatMap_cons, List.append_assoc]
        exact not_crlf_prefix_of_unbroken hnext hnext0 _
      rw [headEnd?_line hl hstart, ih (List.cons_ne_nil _ _) hls,
        Option.map_some, Option.some_inj]
      have : Bytes.crlf.length = 2 := rfl
      omega

end Reader

end Gateway
