/-!
# How requests and probes end

The pool learns about its backends from how requests and probes end, and the
metrics count the same words. Each word has a `label`, and `ofLabel?` reads it
back (`ofLabel?_label`).
-/

namespace Gateway

/-- Why a request to a backend, or a probe of it, failed. -/
inductive FailureKind where
  /-- The connection was refused or could not be made. -/
  | connectRefused
  /-- The connection was not made in time. -/
  | connectTimeout
  /-- The request was not answered in time. -/
  | timeout
  /-- The backend's connection broke, or what came over it was no response. -/
  | midStreamReset
  /-- The client's connection broke. -/
  | clientDisconnect
  /-- A probe could not connect or met no answer. -/
  | probeRefused
  /-- A probe was not answered in time. -/
  | probeTimeout
  /-- A probe was answered with a status that is no success. -/
  | probeBadStatus
  deriving DecidableEq, Repr, Inhabited

namespace FailureKind

/-- The word for a failure. -/
def label : FailureKind → String
  | .connectRefused => "connect_refused"
  | .connectTimeout => "connect_timeout"
  | .timeout => "timeout"
  | .midStreamReset => "mid_stream_reset"
  | .clientDisconnect => "client_disconnect"
  | .probeRefused => "probe_refused"
  | .probeTimeout => "probe_timeout"
  | .probeBadStatus => "probe_bad_status"

/-- Every kind of failure. -/
def all : List FailureKind :=
  [.connectRefused, .connectTimeout, .timeout, .midStreamReset,
    .clientDisconnect, .probeRefused, .probeTimeout, .probeBadStatus]

/-- The failure of a word. -/
def ofLabel? (word : String) : Option FailureKind :=
  all.find? fun kind => kind.label == word

theorem ofLabel?_label (kind : FailureKind) :
    ofLabel? kind.label = some kind := by
  cases kind <;> decide +kernel

end FailureKind

/-- How a request ended. -/
inductive Outcome where
  /-- It has not ended. -/
  | pending
  /-- It was answered in full. -/
  | success
  /-- It failed. -/
  | failed (kind : FailureKind)
  /-- There was no backend for it. -/
  | noBackend
  /-- The client sent what the gateway does not pass on. -/
  | rejected
  deriving DecidableEq, Repr, Inhabited

namespace Outcome

/-- The word for an outcome. -/
def label : Outcome → String
  | .pending => "pending"
  | .success => "success"
  | .failed kind => kind.label
  | .noBackend => "no_backend"
  | .rejected => "rejected"

/-- Every outcome. -/
def all : List Outcome :=
  [.pending, .success, .noBackend, .rejected] ++ FailureKind.all.map .failed

/-- The outcome of a word. -/
def ofLabel? (word : String) : Option Outcome :=
  all.find? fun outcome => outcome.label == word

theorem ofLabel?_label (outcome : Outcome) :
    ofLabel? outcome.label = some outcome := by
  cases outcome with
  | failed kind => cases kind <;> decide +kernel
  | _ => decide +kernel

end Outcome

end Gateway
