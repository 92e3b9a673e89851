import Gateway.Address
import Gateway.Message.Response
import Gateway.Network
import Gateway.Outcome
import Gateway.Uri

/-!
# Probes

A probe finds out whether a backend works. Without a path it only connects; with
one it asks for the path, and only an answer that says success counts.
-/

namespace Gateway

namespace Probe

/-- The URI that a probe of a backend asks for. -/
def uri? (address : SocketAddress) (path : String) : Option Uri :=
  Uri.ofText? ("http://" ++ address.text ++ path)

/-- What a probe sends. -/
def requestHead (u : Uri) : Bytes :=
  Bytes.ofText "GET " ++ u.requestTarget ++
    Bytes.ofText " HTTP/1.1\r\nuser-agent: rr-proxy-health-check\r\nhost: " ++
      u.authority ++ Bytes.ofText "\r\n\r\n"

/-- The longest head that a probe reads. -/
def maxHeaderBytes : Nat := UInt16.size

/-- How an answered probe ends: by the first response that is final. -/
def judge (peer : Peer) : Option FailureKind :=
  go (peer.reader.remaining.length + 1) peer
where
  /-- Reads at most `fuel` heads. -/
  go : Nat → Peer → Option FailureKind
    | 0, _ => some .probeRefused
    | fuel + 1, peer =>
      match peer.readHead maxHeaderBytes with
      | (.ok (some raw), peer) =>
        match Response.parse raw with
        | .error _ => some .probeRefused
        | .ok r =>
          if r.isInterim then go fuel peer
          else if 200 ≤ r.status ∧ r.status < 300 then none
          else some .probeBadStatus
      | (.error .silent, _) => some .probeTimeout
      | _ => some .probeRefused

/-- How a probe that asks for a path ends. -/
def ask (u : Uri) : Dialed → Option FailureKind
  | .refused _ => some .probeRefused
  | .unanswered => some .probeTimeout
  | .connected peer =>
    match peer.write (requestHead u) with
    | (.ok _, peer) => judge peer
    | (.error _, _) => some .probeRefused

/-- How a probe of a backend ends that would be connected to so: with a failure
or with none. A path that makes no URI fails the probe before it connects, and
one that makes the URI name another host is not answered there. -/
def run (path : Option String) (address : SocketAddress)
    (dialed : Dialed) : Option FailureKind :=
  match path with
  | none =>
    match dialed with
    | .connected _ => none
    | .refused _ => some .probeRefused
    | .unanswered => some .probeTimeout
  | some path =>
    match uri? address path with
    | none => some .probeBadStatus
    | some u =>
      if u.authority = Bytes.ofText address.text then ask u dialed
      else some .probeRefused

/-- The word for the result of a probe. -/
def resultLabel : Option FailureKind → String
  | none => "ok"
  | some kind => kind.label

end Probe

end Gateway
