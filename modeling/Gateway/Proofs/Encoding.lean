import Mathlib.Data.List.TakeWhile
import Gateway.Message.Request
import Gateway.Proofs.Lines

/-!
# Heads that are written and read back

What a request head that was read looks like is said by `Request.WellFormed`:
the names of its headers are clean, their values are trimmed, and no part of it
has a line end in it. A head like this reads back from its bytes, and its bytes
end where a reader of heads looks for the end.

* `Request.wellFormed_of_parse`: a head that was read is well-formed;
* `Request.parse_encode`: a well-formed head reads back as it was;
* `Head.headEnd?_ofLines`, `Head.headOf?_ofLines`: its end is found behind its
  bytes, whatever follows them.
-/

namespace Gateway

/-! ## Trimmed texts -/

namespace Text

/-- No blank stands at an end of the text. -/
structure Trimmed (cs : List Char) : Prop where
  /-- The first character is not blank. -/
  head : ∀ c ∈ cs.head?, isBlank c = false
  /-- The last character is not blank. -/
  last : ∀ c ∈ cs.getLast?, isBlank c = false

theorem trimEnd_front (cs : List Char) : trimEnd cs <+: cs := by
  have h := List.dropWhile_suffix isBlank (l := cs.reverse)
  rw [← List.reverse_prefix, List.reverse_reverse] at h
  exact h

theorem trim_infix (cs : List Char) : trim cs <:+: cs :=
  (trimEnd_front _).isInfix.trans (List.dropWhile_suffix isBlank).isInfix

theorem exists_trim (cs : List Char) :
    ∃ front back, cs = front ++ (trim cs ++ back) ∧
      (∀ c ∈ front, isBlank c = true) ∧ ∀ c ∈ back, isBlank c = true := by
  have hblank : ∀ cs : List Char, ∀ c ∈ cs.takeWhile isBlank,
      isBlank c = true := fun cs c hc =>
    List.all_eq_true.1 List.all_takeWhile c hc
  refine ⟨cs.takeWhile isBlank,
    ((cs.dropWhile isBlank).reverse.takeWhile isBlank).reverse, ?_, hblank cs,
    fun c hc => hblank _ c (List.mem_reverse.1 hc)⟩
  rw [trim, trimEnd, trimStart, ← List.reverse_append,
    List.takeWhile_append_dropWhile, List.reverse_reverse,
    List.takeWhile_append_dropWhile]

theorem isBlank_of_mem_head?_dropWhile {cs : List Char} {c : Char}
    (h : c ∈ (cs.dropWhile isBlank).head?) :
    isBlank c = false := by
  have hnot := List.head?_dropWhile_not isBlank cs
  rw [Option.mem_def.1 h] at hnot
  exact hnot

/-- What was trimmed is. -/
theorem trimmed_trim (cs : List Char) : Trimmed (trim cs) where
  head := by
    intro c hc
    obtain ⟨back, hback⟩ := trimEnd_front (trimStart cs)
    apply @isBlank_of_mem_head?_dropWhile cs
    rw [← trimStart, ← hback, List.head?_append]
    rw [trim] at hc
    rw [Option.mem_def.1 hc]
    rfl
  last := by
    intro c hc
    rw [trim, trimEnd, List.getLast?_reverse] at hc
    exact isBlank_of_mem_head?_dropWhile hc

/-- Trimming takes nothing off a trimmed text. -/
theorem trim_of_trimmed {cs : List Char} (h : Trimmed cs) : trim cs = cs := by
  have hstart : ∀ {cs : List Char}, (∀ c ∈ cs.head?, isBlank c = false) →
      cs.dropWhile isBlank = cs := by
    intro cs h
    cases cs with
    | nil => rfl
    | cons c cs => exact trimStart_cons_of_not_blank (h c rfl)
  have hend : ∀ c ∈ cs.reverse.head?, isBlank c = false := by
    rw [List.head?_reverse]
    exact h.last
  rw [trim, trimStart, hstart h.head, trimEnd, hstart hend, List.reverse_reverse]

theorem trim_cons_of_blank {c : Char} (hc : isBlank c = true) (cs : List Char) :
    trim (c :: cs) = trim cs := by
  rw [trim, trimStart, List.dropWhile_cons_of_pos hc]
  rfl

/-- A text trims to nothing if it is blank. -/
theorem trim_eq_nil_iff {cs : List Char} :
    trim cs = [] ↔ ∀ c ∈ cs, isBlank c = true := by
  rw [← List.dropWhile_eq_nil_iff]
  constructor
  · intro h
    rw [trim, trimEnd, List.reverse_eq_nil_iff, List.dropWhile_eq_nil_iff] at h
    -- what is left of a text begins with no blank, if anything is left
    cases hleft : cs.dropWhile isBlank with
    | nil => rfl
    | cons c rest =>
      have hc : c ∈ (cs.dropWhile isBlank).head? := by rw [hleft]; rfl
      have hblank := h c (List.mem_reverse.2 (List.mem_of_head? hc))
      rw [isBlank_of_mem_head?_dropWhile hc] at hblank
      cases hblank
  · intro h
    rw [trim, trimStart, h]
    rfl

/-- Blanks behind a text go. -/
theorem trim_append_of_blank {cs tail : List Char}
    (h : ∀ c ∈ tail, isBlank c = true) : trim (cs ++ tail) = trim cs := by
  by_cases hcs : ∀ c ∈ cs, isBlank c = true
  · rw [trim_eq_nil_iff.2 hcs, trim_eq_nil_iff]
    intro c hc
    exact (List.mem_append.1 hc).elim (hcs c) (h c)
  · have hleft : (cs ++ tail).dropWhile isBlank = cs.dropWhile isBlank ++ tail := by
      rw [List.dropWhile_append, if_neg]
      rwa [List.isEmpty_iff, List.dropWhile_eq_nil_iff]
    have hback : ∀ c ∈ tail.reverse, isBlank c = true :=
      fun c hc => h c (List.mem_reverse.1 hc)
    rw [trim, trim, trimStart, trimStart, hleft, trimEnd, trimEnd,
      List.reverse_append, List.dropWhile_append_of_pos hback]

end Text

/-! ## Header lines -/

namespace Text

theorem cut?_append {sep : Char} {before : List Char} (h : sep ∉ before)
    (after : List Char) :
    cut? sep (before ++ sep :: after) = some (before, after) := by
  have hne : ∀ c ∈ before, decide (c ≠ sep) = true := by
    intro c hc
    exact decide_eq_true fun he => h (he ▸ hc)
  rw [cut?, List.dropWhile_append_of_pos hne, List.takeWhile_append_of_pos hne,
    List.dropWhile_cons_of_neg (by simp), List.takeWhile_cons_of_neg (by simp),
    List.append_nil]

/-- The part in front of a cut has no separator. -/
theorem not_mem_of_cut? {sep : Char} {cs before after : List Char}
    (h : cut? sep cs = some (before, after)) :
    sep ∉ before := by
  rw [cut?.eq_def] at h
  split at h
  · cases h
  · cases h
    intro hmem
    have hne : decide (sep ≠ sep) = true :=
      List.all_eq_true.1 List.all_takeWhile sep hmem
    exact absurd rfl (of_decide_eq_true hne)

end Text

namespace Header

/-- A name that a header can have. -/
structure IsName (name : List Char) : Prop where
  /-- It is not empty. -/
  ne_nil : name ≠ []
  /-- It has no blanks and control characters. -/
  clean : ∀ c ∈ name, Text.isControlOrBlank c = false
  /-- It has no colon. -/
  colon_not_mem : ':' ∉ name

instance (name : List Char) : Decidable (IsName name) :=
  have : Decidable (∀ c ∈ name, Text.isControlOrBlank c = false) :=
    List.decidableBAll _ name
  decidable_of_iff (name ≠ [] ∧
    (∀ c ∈ name, Text.isControlOrBlank c = false) ∧ ':' ∉ name) ⟨fun h =>
      ⟨h.1, h.2.1, h.2.2⟩, fun h => ⟨h.ne_nil, h.clean, h.colon_not_mem⟩⟩

/-- A value that a header can have. -/
structure IsValue (value : List Char) : Prop where
  /-- It is trimmed. -/
  trimmed : Text.Trimmed value
  /-- It has no line end in it. -/
  unbroken : Unbroken '\r' '\n' value

/-- A header that reads back from its text. -/
structure WellFormed (h : Header) : Prop where
  /-- The name is one. -/
  name : IsName h.name.toList
  /-- The value is one. -/
  value : IsValue h.value.toList

/-- The text of a header without its line end. -/
def line (h : Header) : List Char :=
  h.name.toList ++ ':' :: ' ' :: h.value.toList

theorem toList_text (h : Header) : h.text.toList = h.line ++ Text.crlf := by
  simp [text, line, Text.crlf]

theorem WellFormed.isHeadLine {h : Header}
    (hh : h.WellFormed) : Text.IsHeadLine h.line where
  ne_nil := List.append_ne_nil_of_right_ne_nil _ (List.cons_ne_nil _ _)
  unbroken := by
    have hname : Unbroken '\r' '\n' h.name.toList :=
      unbroken_of_not_mem fun hcr => absurd (hh.name.clean _ hcr) (by decide)
    have hvalue : Unbroken '\r' '\n' (' ' :: h.value.toList) :=
      Unbroken.append_cons List.isChain_nil (by decide) (by decide) hh.value.unbroken
    exact hname.append_cons (by decide) (by decide) hvalue

end Header

namespace Head

/-- **A header reads back from its line.** -/
theorem headerOfLine_line {h : Header} (hh : h.WellFormed) :
    headerOfLine h.line = .ok h := by
  have hname := hh.name
  have hfirst : ∀ c ∈ h.line.head?, Text.isControlOrBlank c = false := by
    intro c hc
    rw [Header.line, List.head?_append_of_ne_nil _ hname.ne_nil] at hc
    exact hname.clean c (List.mem_of_head? hc)
  have hfold : ¬ (h.line.head? = some ' ' ∨ h.line.head? = some '\t') := by
    rintro (hc | hc) <;> exact absurd (hfirst _ hc) (by decide)
  have hclean : ¬ (h.name.toList = [] ∨ h.name.toList.any Text.isControlOrBlank) := by
    rintro (hnil | hany)
    · exact hname.ne_nil hnil
    · obtain ⟨c, hc, hcontrol⟩ := List.any_eq_true.1 hany
      rw [hname.clean c hc] at hcontrol
      cases hcontrol
  have hcut : Text.cut? ':' h.line = some (h.name.toList, ' ' :: h.value.toList) :=
    Text.cut?_append hname.colon_not_mem _
  have hvalue : Text.trim (' ' :: h.value.toList) = h.value.toList := by
    rw [Text.trim_cons_of_blank (by decide), Text.trim_of_trimmed hh.value.trimmed]
  rw [headerOfLine, if_neg hfold, hcut]
  dsimp only
  rw [if_neg hclean, hvalue, String.ofList_toList, String.ofList_toList]

/-- The value of a header that was read stood in its line. -/
theorem value_infix_of_headerOfLine {line : List Char} {h : Header}
    (hread : headerOfLine line = .ok h) :
    h.value.toList <:+: line := by
  rw [headerOfLine.eq_def] at hread
  split at hread
  · cases hread
  · split at hread
    · cases hread
    · rename_i name value hcut
      split at hread
      · cases hread
      · cases hread
        rw [String.toList_ofList, Text.cut?_eq_some hcut]
        exact (Text.trim_infix value).trans ((List.suffix_cons ':' value).trans
          (List.suffix_append name _)).isInfix

/-- **A header that was read is well-formed.** -/
theorem wellFormed_of_headerOfLine {line : List Char} {h : Header}
    (hline : Unbroken '\r' '\n' line)
    (hread : headerOfLine line = .ok h) : h.WellFormed := by
  have hvalue : Unbroken '\r' '\n' h.value.toList :=
    hline.infix (value_infix_of_headerOfLine hread)
  rw [headerOfLine.eq_def] at hread
  split at hread
  · cases hread
  · split at hread
    · cases hread
    · rename_i name value hcut
      split at hread
      · cases hread
      · rename_i hclean
        cases hread
        rw [not_or] at hclean
        constructor
        · rw [String.toList_ofList]
          refine ⟨hclean.1, ?_, Text.not_mem_of_cut? hcut⟩
          intro c hc
          rw [Bool.eq_false_iff]
          exact fun hcontrol => hclean.2 (List.any_eq_true.2 ⟨c, hc, hcontrol⟩)
        · refine ⟨?_, hvalue⟩
          rw [String.toList_ofList]
          exact Text.trimmed_trim value

end Head

namespace Head

/-- A line that is read adds a header at the end, where there is room for it. -/
theorem addLine_cases {hs more : Headers} {line : List Char}
    (h : addLine hs line = .ok more) :
    ∃ header, headerOfLine line = .ok header ∧ hs.length ≠ maxHeaders ∧
      more.list = hs.list ++ [header] := by
  rw [addLine] at h
  cases hl : headerOfLine line with
  | error flaw =>
    rw [hl] at h
    cases h
  | ok header =>
    rw [hl] at h
    by_cases hfull : hs.length = maxHeaders
    · simp only [bind, Except.bind, if_pos hfull] at h
      cases h
    · simp only [bind, Except.bind, if_neg hfull] at h
      cases h
      exact ⟨header, rfl, hfull, rfl⟩

/-- **Every header that was read stood in a line**, if it was not there
before. -/
theorem exists_line_of_addLines {ls : List (List Char)} {hs more : Headers}
    (h : ls.foldlM addLine hs = .ok more) :
    ∀ one ∈ more.list, one ∈ hs.list ∨ ∃ l ∈ ls, headerOfLine l = .ok one := by
  induction ls generalizing hs with
  | nil =>
    cases h
    exact fun _ => .inl
  | cons l ls ih =>
    rw [List.foldlM_cons] at h
    cases hadd : addLine hs l with
    | error flaw =>
      rw [hadd] at h
      cases h
    | ok hs' =>
      rw [hadd] at h
      obtain ⟨header, hheader, -, hlist⟩ := addLine_cases hadd
      intro one hone
      rcases ih h one hone with hbefore | ⟨l', hl', hread⟩
      · rw [hlist] at hbefore
        rcases List.mem_append.1 hbefore with hbefore | hnew
        · exact .inl hbefore
        · rw [List.mem_singleton.1 hnew]
          exact .inr ⟨l, List.mem_cons_self, hheader⟩
      · exact .inr ⟨l', List.mem_cons_of_mem _ hl', hread⟩

/-- **Headers read back from their lines**, as long as there is room for
them. -/
theorem addLines_line {new : List Header} (hnew : ∀ h ∈ new, h.WellFormed)
    (hs : Headers) (hroom : hs.length + new.length ≤ maxHeaders) :
    (new.map Header.line).foldlM addLine hs = .ok ⟨hs.list ++ new⟩ := by
  induction new generalizing hs with
  | nil =>
    rw [List.append_nil]
    rfl
  | cons h new ih =>
    rw [List.length_cons] at hroom
    have hlength : (hs.push h.name h.value).length = hs.length + 1 :=
      List.length_append
    have hadd : addLine hs h.line = .ok (hs.push h.name h.value) := by
      have hfull : ¬ hs.length = maxHeaders := by omega
      rw [addLine, headerOfLine_line (hnew h List.mem_cons_self)]
      simp only [bind, Except.bind, if_neg hfull]
      rfl
    rw [List.map_cons, List.foldlM_cons, hadd]
    refine (ih (fun h hh => hnew h (List.mem_cons_of_mem _ hh)) _ (by omega)).trans ?_
    rw [Headers.list_push, List.append_assoc]
    rfl

/-- What is read from a message is read from its head. -/
theorem exists_of_bind_parse {α : Type} {next : Head → Except Flaw α}
    {raw : Bytes} {a : α} (h : parse raw >>= next = .ok a) :
    ∃ head, parse raw = .ok head ∧ next head = .ok a := by
  cases hhead : parse raw with
  | error flaw =>
    rw [hhead] at h
    cases h
  | ok head =>
    rw [hhead] at h
    exact ⟨head, rfl, h⟩

/-- **A head was read from the lines of its text**: its start line is one of
them, and each of its headers was read from one. -/
theorem exists_line_of_parse {raw : Bytes} {head : Head}
    (h : parse raw = .ok head) :
    ∃ text, Bytes.text? raw = some text ∧
      head.start.toList ∈ Text.lines (Text.dropFinalLineEnds text.toList) ∧
      ∀ one ∈ head.headers.list, ∃ l ∈ Text.lines
        (Text.dropFinalLineEnds text.toList), headerOfLine l = .ok one := by
  rw [parse.eq_def] at h
  split at h
  · rename_i text htext
    refine ⟨text, htext, ?_⟩
    rw [ofText.eq_def] at h
    split at h
    · cases h
    · cases h
    · rename_i start ls _ hlines
      rw [hlines]
      cases hadd : ls.foldlM addLine {} with
      | error flaw =>
        rw [hadd] at h
        cases h
      | ok headers =>
        rw [hadd] at h
        cases h
        rw [String.toList_ofList]
        refine ⟨List.mem_cons_self, fun one hone => ?_⟩
        rcases exists_line_of_addLines hadd one hone with hnone | ⟨l, hl, hread⟩
        · exact absurd hnone List.not_mem_nil
        · exact ⟨l, List.mem_cons_of_mem _ hl, hread⟩
  · cases h

theorem unbroken_of_parse {raw : Bytes} {head : Head} (h : parse raw = .ok head) :
    Unbroken '\r' '\n' head.start.toList ∧ ∀ h ∈ head.headers.list, h.WellFormed := by
  obtain ⟨text, -, hstart, hheaders⟩ := exists_line_of_parse h
  refine ⟨Text.unbroken_of_mem_lines hstart, fun one hone => ?_⟩
  obtain ⟨l, hl, hread⟩ := hheaders one hone
  exact wellFormed_of_headerOfLine (Text.unbroken_of_mem_lines hl) hread

theorem isHeadLine_of_mem {start : List Char} {hs : List Header}
    (hstart : Text.IsHeadLine start) (hhs : ∀ h ∈ hs, h.WellFormed) :
    ∀ l ∈ start :: hs.map Header.line, Text.IsHeadLine l := by
  intro l hl
  rcases List.mem_cons.1 hl with rfl | hl
  · exact hstart
  · obtain ⟨h, hh, rfl⟩ := List.mem_map.1 hl
    exact (hhs h hh).isHeadLine

/-- The bytes of a head with the empty line that ends it. -/
def ofLines (ls : List (List Char)) : Bytes :=
  Bytes.ofText (String.ofList (Text.joined ls)) ++ Bytes.crlf

/-- The bytes of a head are those of its start line and of its headers. -/
theorem ofLines_cons (start : List Char) (hs : Headers) :
    ofLines (start :: hs.list.map Header.line) =
      Bytes.ofText (String.ofList (start ++ Text.crlf)) ++ hs.encode ++ Bytes.crlf := by
  have hheaders : ∀ hs : List Header, hs.flatMap (fun h => Bytes.ofText h.text) =
      Bytes.ofText (String.ofList (Text.joined (hs.map Header.line))) := by
    intro hs
    induction hs with
    | nil => rfl
    | cons h hs ih =>
      rw [List.flatMap_cons, ih, List.map_cons, Text.joined_cons,
        String.ofList_append, Bytes.ofText_append, ← Header.toList_text,
        String.ofList_toList]
  rw [ofLines, Headers.encode, hheaders, Text.joined_cons, String.ofList_append,
    Bytes.ofText_append]

/-- **A head reads back from its lines.** -/
theorem parse_ofLines {start : List Char} {hs : Headers}
    (hstart : Text.IsHeadLine start) (hhs : ∀ h ∈ hs.list, h.WellFormed)
    (hroom : hs.length ≤ maxHeaders) :
    parse (ofLines (start :: hs.list.map Header.line)) =
      .ok ⟨String.ofList start, hs⟩ := by
  have hlines :=
    Text.lines_of_head (List.cons_ne_nil _ _) (isHeadLine_of_mem hstart hhs)
  have hadd : (hs.list.map Header.line).foldlM addLine {} = .ok hs :=
    addLines_line hhs {} (by rw [Nat.add_comm]; exact hroom)
  rw [ofLines, show Bytes.crlf = Bytes.ofText (String.ofList Text.crlf)
    from rfl, ← Bytes.ofText_append, ← String.ofList_append, parse,
    Bytes.text?_ofText]
  dsimp only
  rw [ofText.eq_def, String.toList_ofList, hlines]
  split
  · rename_i hnil
    cases hnil
  · rename_i hnil
    cases hnil
    exact absurd rfl hstart.ne_nil
  · rename_i hcons
    cases hcons
    rw [hadd]
    rfl


variable {ls : List (List Char)}

/-- **The end of a head is found where its bytes end**, whatever follows
them. -/
theorem headEnd?_ofLines (hne : ls ≠ []) (h : ∀ l ∈ ls, Text.IsHeadLine l)
    (rest : Bytes) :
    Reader.headEnd? (ofLines ls ++ rest) = some (ofLines ls).length := by
  have hlines : ∀ l ∈ ls.map fun l => Bytes.ofText (String.ofList l),
      Unbroken Bytes.cr Bytes.lf l ∧ l ≠ [] := by
    intro bs hbs
    obtain ⟨l, hl, rfl⟩ := List.mem_map.1 hbs
    exact (h l hl).unbroken_ofText
  rw [ofLines, Bytes.ofText_joined, List.append_assoc,
    Reader.headEnd?_joined (by simpa using hne) hlines, List.length_append]
  rfl

theorem not_crlf_prefix_ofLines (hne : ls ≠ [])
    (h : ∀ l ∈ ls, Text.IsHeadLine l) (rest : Bytes) :
    ¬ Bytes.crlf <+: ofLines ls ++ rest := by
  obtain ⟨l, ls, rfl⟩ := List.exists_cons_of_ne_nil hne
  obtain ⟨hunbroken, hline⟩ := (h l List.mem_cons_self).unbroken_ofText
  rw [ofLines, Text.joined_cons, String.ofList_append, String.ofList_append,
    Bytes.ofText_append, Bytes.ofText_append, List.append_assoc, List.append_assoc]
  exact Reader.not_crlf_prefix_of_unbroken hunbroken hline _

/-- **A reader of heads finds a head**, whatever follows it. -/
theorem headOf?_ofLines (hne : ls ≠ []) (h : ∀ l ∈ ls, Text.IsHeadLine l)
    {max : Nat} (hmax : (ofLines ls).length ≤ max) (rest : Bytes) :
    Reader.headOf? max (ofLines ls ++ rest) = some (ofLines ls, rest) := by
  rw [Reader.headOf?, Reader.dropLineEnds_eq_self
    (not_crlf_prefix_ofLines hne h rest), headEnd?_ofLines hne h]
  simp [hmax]

end Head

/-! ## Start lines -/

namespace Text

/-- At a separator the pieces on both sides come apart. -/
theorem pieces_append_cons (sep : Char) (text rest : List Char) :
    pieces sep (text ++ sep :: rest) = pieces sep text ++ pieces sep rest := by
  suffices key : ∀ front, pieces.go sep front (text ++ sep :: rest) =
      pieces.go sep front text ++ pieces sep rest
    from key []
  intro front
  fun_induction pieces.go sep front text with
  | case1 front =>
    rw [List.nil_append, pieces.go, if_pos rfl]
    rfl
  | case2 front text ih =>
    rw [List.cons_append, pieces.go, if_pos rfl, ih, List.cons_append]
  | case3 front c text hc ih => rw [List.cons_append, pieces.go, if_neg hc, ih]

/-- A text without a separator is one piece. -/
theorem pieces_of_not_mem {sep : Char} {text : List Char} (h : sep ∉ text) :
    pieces sep text = [text] := by
  suffices key : ∀ front, pieces.go sep front text = [front.reverse ++ text] from key []
  induction text with
  | nil =>
    intro front
    rw [pieces.go, List.append_nil]
  | cons c text ih =>
    intro front
    rw [List.mem_cons, not_or] at h
    rw [pieces.go, if_neg (Ne.symm h.1), ih h.2, List.reverse_cons,
      List.append_assoc, List.singleton_append]

theorem pieces_append {sep : Char} {piece : List Char} (h : sep ∉ piece)
    (rest : List Char) :
    pieces sep (piece ++ sep :: rest) = piece :: pieces sep rest := by
  rw [pieces_append_cons, pieces_of_not_mem h, List.singleton_append]

/-- The first of several pieces has no separator, and the others are those of
the text behind it. -/
theorem pieces_eq_cons_cons {sep : Char} {text piece next : List Char}
    {more : List (List Char)} (h : pieces sep text = piece :: next :: more) :
    sep ∉ piece ∧ ∃ rest, text = piece ++ sep :: rest ∧
      pieces sep rest = next :: more := by
  by_cases hsep : sep ∈ text
  · obtain ⟨front, rest, rfl, hfront⟩ := List.eq_append_cons_of_mem hsep
    rw [pieces_append hfront, List.cons.injEq] at h
    obtain ⟨rfl, h⟩ := h
    exact ⟨hfront, rest, rfl, h⟩
  · rw [pieces_of_not_mem hsep] at h
    cases h

/-- The pieces of a text hold its characters but for the separators. -/
theorem forall_pieces_iff {sep : Char} {cs : List Char} {P : Char → Prop} :
    (∀ piece ∈ pieces sep cs, ∀ c ∈ piece, P c) ↔ ∀ c ∈ cs, c = sep ∨ P c := by
  suffices key : ∀ front, (∀ piece ∈ pieces.go sep front cs, ∀ c ∈ piece, P c) ↔
      (∀ c ∈ front, P c) ∧ ∀ c ∈ cs, c = sep ∨ P c by
    have h := key []
    simp only [List.not_mem_nil, false_implies, implies_true, true_and] at h
    exact h
  intro front
  fun_induction pieces.go sep front cs with
  | case1 front => simp
  | case2 front rest ih => simp [ih]
  | case3 front c rest hc ih =>
    rw [ih, List.forall_mem_cons, List.forall_mem_cons, and_assoc,
      and_left_comm, or_iff_right hc]

theorem pieces_eq_singleton {sep : Char} {text piece : List Char}
    (h : pieces sep text = [piece]) :
    text = piece := by
  by_cases hsep : sep ∈ text
  · obtain ⟨front, rest, rfl, hfront⟩ := List.eq_append_cons_of_mem hsep
    rw [pieces_append hfront, List.cons.injEq] at h
    exact absurd h.2 (pieces_ne_nil sep rest)
  · rw [pieces_of_not_mem hsep] at h
    exact List.head_eq_of_cons_eq h

end Text

namespace Request

/-- A request that reads back from its bytes. -/
structure WellFormed (r : Request) : Prop where
  /-- There is a method. -/
  method_ne_nil : r.method.toList ≠ []
  /-- The method is made of letters. -/
  method_letters : r.method.toList.all Text.isLetter = true
  /-- There is a target. -/
  target_ne_nil : r.target.toList ≠ []
  /-- The target is one word. -/
  blank_not_mem : ' ' ∉ r.target.toList
  /-- The target has no line end in it. -/
  unbroken : Unbroken '\r' '\n' r.target.toList
  /-- The headers read back. -/
  headers : ∀ h ∈ r.headers.list, h.WellFormed

/-- The start line without its line end. -/
def start (r : Request) : List Char :=
  r.method.toList ++ ' ' :: (r.target.toList ++ ' ' :: r.version.text.toList)

/-- A start line that is read has three words, which are the method, the target
and the version. -/
theorem ofHead_cases {head : Head} {r : Request} (h : ofHead head = .ok r) :
    Text.pieces ' ' head.start.toList =
      [r.method.toList, r.target.toList, r.version.text.toList] ∧
      r.method.toList ≠ [] ∧ r.method.toList.all Text.isLetter = true ∧
      r.target.toList ≠ [] ∧
      r.headers = head.headers := by
  rw [ofHead.eq_def] at h
  split at h
  · rename_i method target version hpieces
    split at h
    · cases h
    · rename_i hmethod
      split at h
      · cases h
      · rename_i htarget
        cases hv : Version.ofText (String.ofList version) with
        | error flaw =>
          rw [hv] at h
          cases h
        | ok v =>
          rw [hv] at h
          cases h
          rw [not_or, Bool.not_eq_true, Bool.not_eq_false'] at hmethod
          simp only [String.toList_ofList, ← Version.eq_text_of_ofText hv]
          exact ⟨hpieces, hmethod.1, hmethod.2, htarget, trivial⟩
  · cases h

/-- **A start line that was read is the one that is written**, and its target is
one word. -/
theorem start_of_ofHead {head : Head} {r : Request} (h : ofHead head = .ok r) :
    head.start.toList = r.start ∧ ' ' ∉ r.target.toList := by
  obtain ⟨hpieces, -⟩ := ofHead_cases h
  obtain ⟨-, rest, hstart, hrest⟩ := Text.pieces_eq_cons_cons hpieces
  obtain ⟨hblank, rest, rfl, hversion⟩ := Text.pieces_eq_cons_cons hrest
  rw [Text.pieces_eq_singleton hversion] at hstart
  exact ⟨hstart, hblank⟩

theorem pieces_start {r : Request} (h : r.WellFormed) :
    Text.pieces ' ' r.start =
      [r.method.toList, r.target.toList, r.version.text.toList] := by
  have hmethod : ' ' ∉ r.method.toList := fun hblank =>
    absurd (List.all_eq_true.1 h.method_letters _ hblank) (by decide)
  have hversion : ' ' ∉ r.version.text.toList := by cases r.version <;> decide
  rw [start, Text.pieces_append hmethod, Text.pieces_append h.blank_not_mem,
    Text.pieces_of_not_mem hversion]

/-- **A start line reads back.** -/
theorem ofHead_start {r : Request} (h : r.WellFormed) :
    ofHead ⟨String.ofList r.start, r.headers⟩ = .ok r := by
  have hmethod : ¬ (r.method.toList = [] ∨ !r.method.toList.all Text.isLetter) := by
    rw [h.method_letters]
    exact fun hbad => hbad.elim h.method_ne_nil Bool.false_ne_true
  rw [ofHead, String.toList_ofList, pieces_start h]
  dsimp only
  rw [if_neg hmethod, if_neg h.target_ne_nil]
  simp only [String.ofList_toList, Version.ofText_text]
  rfl

/-- The lines of a request. -/
def lines (r : Request) : List (List Char) :=
  r.start :: r.headers.list.map Header.line

theorem WellFormed.isHeadLine_start {r : Request}
    (h : r.WellFormed) : Text.IsHeadLine r.start := by
  have hmethod : Unbroken '\r' '\n' r.method.toList := unbroken_of_not_mem fun hcr =>
    absurd (List.all_eq_true.1 h.method_letters _ hcr) (by decide)
  have hversion : Unbroken '\r' '\n' r.version.text.toList := by
    cases r.version <;> exact unbroken_of_not_mem (by decide)
  refine ⟨List.append_ne_nil_of_right_ne_nil _ (List.cons_ne_nil _ _), ?_⟩
  exact hmethod.append_cons (by decide) (by decide)
    (h.unbroken.append_cons (by decide) (by decide) hversion)

theorem encode_eq (r : Request) : r.encode = Head.ofLines r.lines := by
  have hstart : r.startLine = String.ofList (r.start ++ Text.crlf) := by
    apply String.toList_injective
    rw [String.toList_ofList]
    simp [startLine, start, Text.crlf]
  rw [encode, hstart, lines, Head.ofLines_cons]

/-! ## Reading back -/

/-- **A request that was read is well-formed.** -/
theorem wellFormed_of_parse {raw : Bytes} {r : Request}
    (h : parse raw = .ok r) : r.WellFormed := by
  obtain ⟨head, hhead, hof⟩ := Head.exists_of_bind_parse h
  obtain ⟨hstart, hheaders⟩ := Head.unbroken_of_parse hhead
  obtain ⟨-, hmethod, hletters, htarget, hlist⟩ := ofHead_cases hof
  obtain ⟨he, hblank⟩ := start_of_ofHead hof
  rw [he] at hstart
  refine ⟨hmethod, hletters, htarget, hblank, ?_, ?_⟩
  · exact (List.isChain_cons.1 hstart.right_of_append).2.left_of_append
  · rw [hlist]
    exact hheaders

/-- **A well-formed request reads back as it was**, if it has no more headers
than a head may have. -/
theorem parse_encode {r : Request} (h : r.WellFormed)
    (hroom : r.headers.length ≤ Head.maxHeaders) :
    parse r.encode = .ok r := by
  rw [parse, encode_eq, lines, Head.parse_ofLines h.isHeadLine_start h.headers hroom]
  dsimp only [bind, Except.bind]
  exact ofHead_start h

/-- **A reader of heads finds a well-formed request**, whatever follows it. -/
theorem headOf?_encode {r : Request} (h : r.WellFormed) {max : Nat}
    (hmax : r.encode.length ≤ max) (rest : Bytes) :
    Reader.headOf? max (r.encode ++ rest) = some (r.encode, rest) := by
  rw [encode_eq] at hmax ⊢
  exact Head.headOf?_ofLines (List.cons_ne_nil _ _)
    (Head.isHeadLine_of_mem h.isHeadLine_start h.headers) hmax rest

end Request

end Gateway
