import Mathlib.Data.List.Forall2
import Mathlib.Data.Nat.Digits.Defs
import Mathlib.Tactic.Ring
import Gateway.Text.Number

/-!
# Numerals

Which texts a reader of numbers takes, and for which numbers. A text `Denotes` a
number if it is made of the digits of that number and of nothing else. The
reader takes these texts, and with them those that have one plus sign in front:
they are `Spelled`.

* `Text.digitValue?_eq_some_iff`, `Text.digits?_eq_some_iff`: the digits, and
  the numbers that they denote;
* `Text.unsigned?_eq_some_iff`: what is read as a number.
-/

namespace Gateway.Text

/-- The character is the digit `d` of a base: one of `0` to `9`, `a` to `f` and
`A` to `F`. -/
def IsDigit (base : Nat) (c : Char) (d : Nat) : Prop :=
  d < base ∧ (c = Nat.digitChar d ∨ c = (Nat.digitChar d).toUpper)

/-- A text of digits, of one at least, denotes a number; the first digit weighs
most. -/
def Denotes (base : Nat) (cs : List Char) (n : Nat) : Prop :=
  cs ≠ [] ∧ ∃ ds, List.Forall₂ (IsDigit base) cs ds ∧ Nat.ofDigits base ds.reverse = n

/-- A spelling of a number: the digits that denote it, behind one plus sign or
none. -/
def Spelled (base : Nat) (cs : List Char) (n : Nat) : Prop :=
  Denotes base cs n ∨ ∃ digits, cs = '+' :: digits ∧ Denotes base digits n

variable {base d n : Nat} {c : Char} {cs : List Char}

/-! ## Digits -/

theorem exists_toNat_eq_add {first last : Char} (h : first ≤ c ∧ c ≤ last) :
    ∃ k, k ≤ last.toNat - first.toNat ∧ c.toNat = first.toNat + k := by
  have hfirst : first.toNat ≤ c.toNat := UInt32.le_iff_toNat_le.1 h.1
  have hlast : c.toNat ≤ last.toNat := UInt32.le_iff_toNat_le.1 h.2
  exact ⟨c.toNat - first.toNat, by omega, by omega⟩

/-- A character with a value is the digit of that value. -/
theorem isDigit_of_digitValue?
    (h : digitValue? base c = some d) : IsDigit base c d := by
  have hdigit : ∀ k, k < 10 → (Nat.digitChar k).toNat = 0x30 + k := by decide
  have hletter : ∀ k, k < 6 → (Nat.digitChar (k + 10)).toNat = 0x61 + k := by decide
  have hcapital : ∀ k, k < 6 →
      (Nat.digitChar (k + 10)).toUpper.toNat = 0x41 + k := by decide
  refine ⟨digitValue?_lt h, ?_⟩
  rw [digitValue?, Option.filter_eq_some_iff] at h
  obtain ⟨h, -⟩ := h
  split at h
  · obtain ⟨k, hk, hc⟩ := exists_toNat_eq_add ‹_›
    obtain rfl : k = d := by simpa [hc] using h
    exact .inl (Char.toNat_inj.1 (hc.trans (hdigit k (Nat.lt_succ_of_le hk)).symm))
  · split at h
    · obtain ⟨k, hk, hc⟩ := exists_toNat_eq_add ‹_›
      obtain rfl : k + 10 = d := by simpa [hc] using h
      exact .inl (Char.toNat_inj.1 (hc.trans (hletter k (Nat.lt_succ_of_le hk)).symm))
    · split at h
      · obtain ⟨k, hk, hc⟩ := exists_toNat_eq_add ‹_›
        obtain rfl : k + 10 = d := by simpa [hc] using h
        exact .inr (Char.toNat_inj.1 (hc.trans (hcapital k (Nat.lt_succ_of_le hk)).symm))
      · cases h

/-- **The characters with a value are the digits**, to a base up to 16. -/
theorem digitValue?_eq_some_iff (hbase : base ≤ 16) :
    digitValue? base c = some d ↔ IsDigit base c d := by
  have hvalues : ∀ d, d < 16 → ∀ b, b < 17 → d < b →
      digitValue? b (Nat.digitChar d) = some d ∧
      digitValue? b (Nat.digitChar d).toUpper = some d := by
    decide +kernel
  refine ⟨isDigit_of_digitValue?, ?_⟩
  rintro ⟨hd, rfl | rfl⟩
  · exact (hvalues d (by omega) base (by omega) hd).1
  · exact (hvalues d (by omega) base (by omega) hd).2

/-! ## Numbers -/

/-- Digits behind a number that was read so far. -/
theorem foldlM_digitValue?_eq_some_iff (hbase : base ≤ 16) (start : Nat) :
    cs.foldlM (fun n c => (digitValue? base c).map (n * base + ·)) start = some n ↔
      ∃ ds, List.Forall₂ (IsDigit base) cs ds ∧
        start * base ^ cs.length + Nat.ofDigits base ds.reverse = n := by
  induction cs generalizing start with
  | nil => simp
  | cons c cs ih =>
    -- the value of a digit in front of others
    have hshift : ∀ (d : Nat) (ds : List Nat), ds.length = cs.length →
        start * base ^ (cs.length + 1) + Nat.ofDigits base (d :: ds).reverse =
          (start * base + d) * base ^ cs.length + Nat.ofDigits base ds.reverse := by
      intro d ds hlength
      rw [List.reverse_cons, Nat.ofDigits_append, Nat.ofDigits_singleton,
        List.length_reverse, hlength]
      ring
    rw [List.foldlM_cons, Option.bind_eq_bind, Option.bind_eq_some_iff,
      List.length_cons]
    constructor
    · rintro ⟨next, hnext, hrest⟩
      obtain ⟨d, hd, rfl⟩ := Option.map_eq_some_iff.1 hnext
      obtain ⟨ds, hds, rfl⟩ := (ih _).1 hrest
      exact ⟨d :: ds, .cons (isDigit_of_digitValue? hd) hds,
        hshift d ds hds.length_eq.symm⟩
    · rintro ⟨ds, hds, rfl⟩
      obtain ⟨d, ds, hd, hrest, rfl⟩ := List.forall₂_cons_left_iff.1 hds
      refine ⟨start * base + d, ?_,
        (ih _).2 ⟨ds, hrest, (hshift d ds hrest.length_eq.symm).symm⟩⟩
      rw [(digitValue?_eq_some_iff hbase).2 hd]
      rfl

/-- **The number that digits are read as is the one that they denote.** -/
theorem digits?_eq_some_iff (hbase : base ≤ 16) :
    digits? base cs = some n ↔ Denotes base cs n := by
  cases cs with
  | nil => exact ⟨fun hnone => (nomatch hnone), fun h => absurd rfl h.1⟩
  | cons c cs =>
    rw [digits?.eq_def]
    refine (foldlM_digitValue?_eq_some_iff hbase 0).trans ?_
    simp only [Nat.zero_mul, Nat.zero_add]
    exact ⟨fun h => ⟨List.cons_ne_nil c cs, h⟩, fun h => h.2⟩

theorem not_denotes_of_digitValue? (hbase : base ≤ 16)
    (h : digitValue? base c = none) :
    ¬ Denotes base (c :: cs) n := by
  rintro ⟨-, ds, hds, -⟩
  obtain ⟨d, -, hd, -⟩ := List.forall₂_cons_left_iff.1 hds
  rw [(digitValue?_eq_some_iff hbase).2 hd] at h
  cases h

/-- **What is read as a number is a spelling of it**, and all spellings are read
of a number that fits. -/
theorem unsigned?_eq_some_iff (hbase : base ≤ 16) {limit : Nat} :
    unsigned? base limit cs = some n ↔ Spelled base cs n ∧ n ≤ limit := by
  rw [unsigned?.eq_def]
  dsimp only
  split
  · rename_i digits
    rw [Option.filter_eq_some_iff, decide_eq_true_eq, digits?_eq_some_iff hbase]
    refine and_congr_left fun _ => ⟨fun h => .inr ⟨digits, rfl, h⟩, ?_⟩
    rintro (h | ⟨_, ⟨⟩, h⟩)
    · exact absurd h (not_denotes_of_digitValue? hbase rfl)
    · exact h
  · rename_i hplus
    rw [Option.filter_eq_some_iff, decide_eq_true_eq, digits?_eq_some_iff hbase]
    refine and_congr_left fun _ => ⟨.inl, ?_⟩
    rintro (h | ⟨digits, rfl, -⟩)
    · exact h
    · exact absurd rfl (hplus digits)

/-- A number is below that power of its base that its digits count. -/
theorem Denotes.lt (hbase : 1 < base)
    (h : Denotes base cs n) : n < base ^ cs.length := by
  obtain ⟨-, ds, hds, rfl⟩ := h
  have hlt : ∀ d ∈ ds, d < base := by
    clear hbase
    induction hds with
    | nil => exact fun d hd => absurd hd List.not_mem_nil
    | cons hfirst _ ih => exact List.forall_mem_cons.2 ⟨hfirst.1, ih⟩
  rw [hds.length_eq, ← List.length_reverse]
  exact Nat.ofDigits_lt_base_pow_length hbase fun d hd => hlt d (List.mem_reverse.1 hd)

theorem Spelled.lt (hbase : 1 < base)
    (h : Spelled base cs n) : n < base ^ cs.length := by
  rcases h with h | ⟨digits, rfl, h⟩
  · exact h.lt hbase
  · rw [List.length_cons]
    exact Nat.lt_of_lt_of_le (h.lt hbase)
      (Nat.pow_le_pow_right (Nat.lt_of_succ_lt hbase) (Nat.le_succ _))

theorem Spelled.ne_nil (h : Spelled base cs n) : cs ≠ [] := by
  rcases h with h | ⟨digits, rfl, -⟩
  · exact h.1
  · exact List.cons_ne_nil _ _

end Gateway.Text
