import Gateway.Bytes
import Gateway.Pool.Selection
import Gateway.Text.Ascii
import Gateway.Text.Split
import Gateway.Uri

/-!
# The interface for operators

Two pages show the state of the gateway to whoever has the key. The key is asked
for first, whatever the request is about.

* `Admin.isAuthorized` checks the key;
* `Admin.answer` answers a request.
-/

namespace Gateway

/-- A request of an operator. -/
structure AdminRequest where
  /-- The method. -/
  method : String
  /-- What it is about, as it is written in the request. -/
  target : String
  /-- The headers. -/
  headers : List (String × Bytes) := []
  deriving DecidableEq, Repr, Inhabited

/-- What an answer shows. -/
inductive AdminBody where
  /-- Nothing. -/
  | empty
  /-- The gateway as a whole: how many backends there are, how many are healthy,
  and how many clients are connected. -/
  | status (policy : Policy) (total healthy openConnections : Nat)
  /-- Every backend. -/
  | backends (members : List Candidate)
  deriving DecidableEq, Repr

/-- The answer to an operator. -/
structure AdminAnswer where
  /-- The status code. -/
  status : Nat
  /-- The type of the content, if there is any. -/
  contentType : Option String := none
  /-- The methods that the page knows, where another was tried. -/
  allow : Option String := none
  /-- What it shows. -/
  body : AdminBody := .empty
  deriving DecidableEq, Repr

/-- What the interface shows and who may see it. -/
structure Admin where
  /-- The key. -/
  key : String
  /-- The policy. -/
  policy : Policy
  /-- The backends. -/
  pool : Pool
  /-- How many clients are connected. -/
  openConnections : Nat := 0
  deriving DecidableEq, Repr

namespace Admin

/-- The version of the gateway. -/
def version : String := "0.1.0"

/-- Decides the bytes that a header value may have to be read as text. -/
def isVisible (b : UInt8) : Bool :=
  (32 ≤ b && b < 127) || b = 9

/-- The text of a header value. -/
def valueText? (value : Bytes) : Option String :=
  if value.all isVisible then value.text? else none

/-- What stands in front of the key. -/
def scheme : List Char := ['B', 'e', 'a', 'r', 'e', 'r', ' ']

/-- The key in a header value. -/
def token? (value : Bytes) : Option String :=
  (valueText? value).bind fun s => (Text.after? scheme s.toList).map String.ofList

/-- The first value of a header. -/
def header? (name : String) (headers : List (String × Bytes)) : Option Bytes :=
  (headers.find? fun h => Text.alike h.1 name).map (·.2)

/-- Whether a request brings the key. An empty key opens nothing. -/
def isAuthorized (a : Admin) (r : AdminRequest) : Bool :=
  match (header? "authorization" r.headers).bind token? with
  | some token => token != "" && token == a.key
  | none => false

/-- The word for how well the backends are. -/
def condition (total healthy : Nat) : String :=
  if healthy = 0 then "unavailable" else if healthy < total then "degraded"
  else "operational"

/-- What a page shows, if there is one at the path. -/
def page? (a : Admin) (target : String) : Option AdminBody :=
  match (Uri.ofText? target).map (·.path) with
  | none => none
  | some path =>
    if path = Bytes.ofText "/admin/status" then
      some (.status a.policy a.pool.size a.pool.healthyCount a.openConnections)
    else if path = Bytes.ofText "/admin/backends" then some (.backends a.pool.candidates)
    else none

/-- The methods that pages know. -/
def methods : String := "GET,HEAD"

/-- Answers a request. -/
def answer (a : Admin) (r : AdminRequest) : AdminAnswer :=
  let known := r.method == "GET" || r.method == "HEAD"
  let page := a.page? r.target
  let allow := if page.isSome && !known then some methods else none
  if !a.isAuthorized r then { status := 401, allow := allow }
  else match page with
    | none => { status := 404 }
    | some body =>
      if !known then { status := 405, allow := allow }
      else
        { status := 200, contentType := some "application/json"
          body := if r.method == "HEAD" then .empty else body }

end Admin

end Gateway
