/-!
# Durations

Deadlines are whole milliseconds. A duration is written in its largest fitting
unit: seconds with as many decimals as are needed, else milliseconds, and zero
as no nanoseconds.
-/

namespace Gateway

/-- A span of time. -/
structure Duration where
  /-- Its length in milliseconds. -/
  millis : Nat
  deriving DecidableEq, Repr, Inhabited

namespace Duration

/-- A number of whole seconds. -/
def seconds (n : Nat) : Duration := ⟨n * 1000⟩

/-- The three decimals of a number of thousandths, without the zeros at the
end. -/
def decimals (thousandths : Nat) : List Char :=
  let digits := [thousandths / 100, thousandths / 10 % 10,
      thousandths % 10].map Nat.digitChar
  (digits.reverse.dropWhile (· == '0')).reverse

/-- The text of a duration. -/
def text (d : Duration) : String :=
  if d.millis = 0 then "0ns"
  else if d.millis < 1000 then toString d.millis ++ "ms"
  else match decimals (d.millis % 1000) with
    | [] => toString (d.millis / 1000) ++ "s"
    | ds => toString (d.millis / 1000) ++ "." ++ String.ofList ds ++ "s"

end Duration

end Gateway
