import Gateway.Address

/-!
# Hosts

Where the address of a backend is no plain address, its host is looked up by the
system. What the system knows is not said here: whoever resolves addresses is
given a `Resolver`.
-/

namespace Gateway

/-- Why a host has no address. -/
inductive HostError where
  /-- Nobody can be asked for the name now. -/
  | unanswered
  /-- There is no such name. -/
  | unknown
  deriving DecidableEq, Repr, Inhabited

/-- The wording of the failure. -/
def HostError.message (e : HostError) : String :=
  "failed to lookup address information: " ++ match e with
    | .unanswered => "Temporary failure in name resolution"
    | .unknown => "Name or service not known"

/-- What the system answers to the name of a host: an address with its zone, or
why there is none. -/
abbrev Resolver : Type := String → Except HostError (Ip × Nat)

end Gateway
