import Gateway.Exchange.Basic
import Gateway.Metrics

/-!
# Measuring exchanges

An exchange that has ended is counted once: as a request of its backend with
outcome and status, and with the bytes of its bodies if it had a backend.
-/

namespace Gateway

namespace Exchange

/-- The status as a label. -/
def statusLabel (x : Exchange) : String :=
  match x.status with
  | some status => toString status
  | none => "none"

/-- Counts the request. -/
def countRequest (x : Exchange) (m : Metrics) : Metrics :=
  (m.add (Metrics.requests x.backendName x.outcome.label x.statusLabel) 1).add
    (Metrics.durations x.backendName) 1

/-- Counts the bytes of the bodies. -/
def countBytes (x : Exchange) (m : Metrics) : Metrics :=
  match x.backend with
  | none => m
  | some name =>
    (m.add (Metrics.requestBytes name) x.requestBytes).add
      (Metrics.responseBytes name) x.responseBytes

/-- Counts an exchange that has ended. -/
def measure (x : Exchange) (m : Metrics) : Metrics :=
  let m := if x.outcome = .noBackend then m.add Metrics.noBackend 1 else m
  x.countBytes (x.countRequest m)

end Exchange

end Gateway
