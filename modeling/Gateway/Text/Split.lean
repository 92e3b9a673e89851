/-!
# Cutting texts

Message heads are cut at CRLF into lines, start lines at single blanks,
list-valued fields at commas. Every cut here keeps the empty pieces, so the
pieces with the separators between them are the text again.
-/

namespace Gateway.Text

/-- Cuts a text at every `sep`: `n` separators make `n + 1` pieces. -/
def pieces (sep : Char) (cs : List Char) : List (List Char) :=
  go [] cs
where
  /-- The open piece is kept in reverse. -/
  go (piece : List Char) : List Char → List (List Char)
    | [] => [piece.reverse]
    | c :: rest =>
      if c = sep then piece.reverse :: go [] rest else go (c :: piece) rest

/-- Cuts a text at every CRLF; a CR or an LF that stands alone is text. -/
def lines (cs : List Char) : List (List Char) :=
  go [] cs
where
  /-- The open line is kept in reverse. -/
  go (line : List Char) : List Char → List (List Char)
    | [] => [line.reverse]
    | '\r' :: '\n' :: rest => line.reverse :: go [] rest
    | c :: rest => go (c :: line) rest

/-- Takes every CRLF off the end of a text. -/
def dropFinalLineEnds (cs : List Char) : List Char :=
  (go cs.reverse).reverse
where
  /-- Works on the reversed text, where a line end reads LF CR. -/
  go : List Char → List Char
    | '\n' :: '\r' :: rest => go rest
    | rest => rest

/-- Cuts a text at its first `sep`, which is in neither part; `none` if there is
no `sep`. -/
def cut? (sep : Char) (cs : List Char) : Option (List Char × List Char) :=
  match cs.dropWhile (· ≠ sep) with
  | [] => none
  | _ :: rest => some (cs.takeWhile (· ≠ sep), rest)

/-- Cuts a text at its last `sep`, which is in neither part; `none` if there is
no `sep`. -/
def cutLast? (sep : Char) (cs : List Char) : Option (List Char × List Char) :=
  (cut? sep cs.reverse).map fun (after, before) => (before.reverse, after.reverse)

/-- The text after `lead`, if the text starts with it. -/
def after? : (lead : List Char) → List Char → Option (List Char)
  | [], cs => some cs
  | _ :: _, [] => none
  | p :: lead, c :: cs => if p = c then after? lead cs else none

theorem pieces_ne_nil (sep : Char) (cs : List Char) : pieces sep cs ≠ [] := by
  suffices h : ∀ piece, pieces.go sep piece cs ≠ [] from h []
  induction cs with
  | nil => simp [pieces.go]
  | cons c rest ih =>
    intro piece
    by_cases hc : c = sep <;> simp [pieces.go, hc, ih]

/-- **Nothing is lost by a cut**: the two parts with the separator between them
are the text. -/
theorem cut?_eq_some {sep : Char} {cs before after : List Char}
    (h : cut? sep cs = some (before, after)) : cs = before ++ sep :: after := by
  unfold cut? at h
  split at h
  · cases h
  · rename_i c rest hd
    have hc : c = sep := by
      have hne : cs.dropWhile (fun x => decide (x ≠ sep)) ≠ [] := by rw [hd]; simp
      have hnot := List.head_dropWhile_not (fun x => decide (x ≠ sep)) hne
      simp only [hd, List.head_cons] at hnot
      simpa using hnot
    have hcs :=
      List.takeWhile_append_dropWhile (p := fun x => decide (x ≠ sep)) (l := cs)
    simp only [Option.some.injEq, Prod.mk.injEq] at h
    obtain ⟨rfl, rfl⟩ := h
    rw [hd, hc] at hcs
    exact hcs.symm

/-- What follows a lead is what the lead has to be put in front of. -/
theorem after?_eq_some_iff {lead cs rest : List Char} :
    after? lead cs = some rest ↔ cs = lead ++ rest := by
  induction lead generalizing cs with
  | nil => simp [after?]
  | cons p lead ih =>
    cases cs with
    | nil => simp [after?]
    | cons c cs =>
      by_cases h : p = c
      · subst h; simp [after?, ih]
      · simp only [after?, h, if_false, List.cons_append, List.cons.injEq,
          reduceCtorEq, false_iff, not_and]
        exact fun hc => absurd hc.symm h

end Gateway.Text
