/-!
# Letter case

Field names, list elements and methods are compared without regard to the case
of the letters `A` to `Z`. Other letters are not folded: `É` and `é` are two
names.
-/

namespace Gateway.Text

/-- Writes the letters `A` to `Z` small and keeps all else. -/
def lower (s : String) : String :=
  String.ofList (s.toList.map Char.toLower)

/-- Two texts are alike if they differ at most in the case of `A` to `Z`. -/
def alike (s t : String) : Bool :=
  lower s == lower t

/-- Decides the letters `A` to `Z` and `a` to `z`. -/
def isLetter (c : Char) : Bool :=
  c.isAlpha

/-- Decides the ASCII blanks and control characters. -/
def isControlOrBlank (c : Char) : Bool :=
  c.toNat ≤ 0x20 || c.toNat == 0x7F

@[simp]
theorem alike_self (s : String) : alike s s = true := by
  simp [alike]

theorem alike_comm (s t : String) : alike s t = alike t s := by
  rw [Bool.eq_iff_iff, alike, alike, beq_iff_eq, beq_iff_eq]
  exact eq_comm

theorem alike_iff {s t : String} : alike s t = true ↔ lower s = lower t := by
  simp [alike]

end Gateway.Text
