/-!
# Numbers in text

An unsigned number is one or more digits, with at most one plus sign in front,
and it has to fit its width. There is no minus sign, no blank and no separator
between digits.
-/

namespace Gateway.Text

/-- The largest number of 16 bits. -/
def max16 : Nat := UInt16.size - 1

/-- The largest number of 32 bits. -/
def max32 : Nat := UInt32.size - 1

/-- The largest number of 64 bits. -/
def max64 : Nat := UInt64.size - 1

/-- The value of a digit of a base up to 16, in either case. -/
def digitValue? (base : Nat) (c : Char) : Option Nat :=
  let value :=
    if '0' ≤ c ∧ c ≤ '9' then some (c.toNat - 0x30)
    else if 'a' ≤ c ∧ c ≤ 'f' then some (c.toNat - 0x61 + 10)
    else if 'A' ≤ c ∧ c ≤ 'F' then some (c.toNat - 0x41 + 10)
    else none
  value.filter (· < base)

/-- The number that a text of digits denotes; `none` if it is empty or holds
anything else. -/
def digits? (base : Nat) : List Char → Option Nat
  | [] => none
  | cs => cs.foldlM (fun n c => (digitValue? base c).map (n * base + ·)) 0

/-- Reads an unsigned number up to `limit`; one plus sign may stand in front. -/
def unsigned? (base limit : Nat) (cs : List Char) : Option Nat :=
  let body := match cs with
    | '+' :: rest => rest
    | _ => cs
  (digits? base body).filter (· ≤ limit)

theorem digitValue?_lt {base n : Nat} {c : Char}
    (h : digitValue? base c = some n) : n < base := by
  simp only [digitValue?, Option.filter_eq_some_iff, decide_eq_true_eq] at h
  exact h.2

/-- **A number that is read fits its limit.** -/
theorem unsigned?_le {base limit n : Nat} {cs : List Char}
    (h : unsigned? base limit cs = some n) :
    n ≤ limit := by
  simp only [unsigned?, Option.filter_eq_some_iff, decide_eq_true_eq] at h
  exact h.2

end Gateway.Text
