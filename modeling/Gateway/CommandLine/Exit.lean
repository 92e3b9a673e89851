/-!
# Exits

How a program ends: with a number, and with what it wrote.
-/

namespace Gateway

/-- The end of a program. -/
structure Exit where
  /-- 0 if all went well, 2 if the arguments make no sense, 1 otherwise. -/
  code : Nat
  /-- What it wrote to its output. -/
  output : String := ""
  /-- What it wrote about its failure. -/
  complaint : String := ""
  deriving DecidableEq, Repr, Inhabited

namespace Exit

/-- All went well. -/
def done (output : String) : Exit := { code := 0, output := output }

/-- It failed. -/
def failed (complaint : String) : Exit := { code := 1, complaint := complaint }

/-- The arguments make no sense. -/
def misused : Exit := { code := 2 }

end Exit

end Gateway
