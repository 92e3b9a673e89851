import Gateway.Address
import Gateway.Message.Request
import Gateway.Message.Response

/-!
# Heads for the next hop

Some headers speak about one connection and end there; others have to tell the
next hop where the message came from. Bodies are passed on as they are, so the
headers that frame them stay, except that a length beside a transfer coding
goes: it does not count here and must not count there.

* `Request.prepare` makes a client's request ready for a backend;
* `Response.prepare` makes a backend's response ready for the client and tells
  it whether its connection goes on.
-/

namespace Gateway

namespace Headers

/-- The headers that always end at this connection. -/
def connectionBound : List String :=
  ["connection", "keep-alive", "proxy-connection", "te", "trailer", "upgrade",
    "proxy-authenticate", "proxy-authorization"]

/-- The headers that frame a body, which no list can name as bound to a
connection. -/
def framingNames : List String :=
  ["transfer-encoding", "content-length"]

/-- The headers that the message itself declares to end at this connection. -/
def listedAsBound (hs : Headers) : List String :=
  (hs.elements "connection").filter fun name => !framingNames.any (Text.alike name)

/-- Leaves out every header that ends at this connection. -/
def stripConnectionBound (hs : Headers) : Headers :=
  hs.removeAll (connectionBound ++ hs.listedAsBound)

/-- Leaves the length out where a transfer coding decides. -/
def dropOverriddenLength (hs : Headers) : Headers :=
  if hs.contains "transfer-encoding" then hs.remove "content-length" else hs

/-- Adds the client at the end of the chain of addresses that the request came
through. A blank chain is replaced. -/
def appendForwardedFor (hs : Headers) (client : Ip) : Headers :=
  let extended (chain : String) : String :=
    if Text.trim chain.toList = [] then client.text
    else chain ++ ", " ++ client.text
  (hs.updateLast? "x-forwarded-for" extended).getD (hs.push "X-Forwarded-For" client.text)

/-- Adds an identifier of the request unless it has one. -/
def addRequestId (hs : Headers) (id : String) : Headers :=
  if hs.contains "x-request-id" then hs else hs.push "X-Request-Id" id

end Headers

/-- A request ready for a backend. The gateway itself answers an expectation, so
that header goes. -/
def Request.prepare (r : Request) (client : Ip) (id : String) : Request :=
  { r with
    headers := (r.headers.stripConnectionBound.dropOverriddenLength.remove
      "expect").appendForwardedFor client |>.addRequestId id }

/-- A response ready for a client of the version; `reuse` tells whether the
client's connection goes on. -/
def Response.prepare (r : Response) (reuse : Bool)
    (client : Version) : Response :=
  let headers := r.headers.stripConnectionBound.dropOverriddenLength
  let headers :=
    if !reuse then headers.push "Connection" "close"
    else if client = .http10 then headers.push "Connection" "keep-alive"
    else headers
  { r with headers := headers }

end Gateway
