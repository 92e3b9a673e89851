import Gateway.Message.Head

/-!
# Response heads

* `Response.parse` reads a head from bytes, `Response.encode` writes it;
* `framing` and `keepAlive` are what the gateway has to know about a response
  before it can relay it;
* `errorResponse` is the whole message that the gateway answers with when it
  refuses or fails.
-/

namespace Gateway

/-- The head of a response. -/
structure Response where
  /-- The protocol version. -/
  version : Version
  /-- The status code, from 100 to 999. -/
  status : Nat
  /-- The reason phrase, which may be empty. -/
  reason : String
  /-- The headers. -/
  headers : Headers
  deriving DecidableEq, Repr, Inhabited

namespace Response

/-- Reads a status code. -/
def statusOf (word : List Char) : Except Flaw Nat :=
  match Text.unsigned? 10 Text.max16 word with
  | some n =>
    if word.length = 3 ∧ 100 ≤ n ∧ n < 1000 then .ok n else .error .invalidStatus
  | none => .error .invalidStatus

/-- Reads the start line: version, status code and, after a second blank, the
reason phrase. -/
def ofHead (head : Head) : Except Flaw Response :=
  match Text.cut? ' ' head.start.toList with
  | none => do
    let _ ← Version.ofText head.start
    throw .invalidStatus
  | some (version, rest) => do
    let version ← Version.ofText (String.ofList version)
    let (code, reason) := (Text.cut? ' ' rest).getD (rest, [])
    let status ← statusOf code
    return ⟨version, status, String.ofList reason, head.headers⟩

/-- Reads a response head from its bytes. -/
def parse (raw : Bytes) : Except Flaw Response := do
  ofHead (← Head.parse raw)

/-- Whether the status is of the class 1xx. -/
def isInformational (r : Response) : Bool :=
  100 ≤ r.status && r.status < 200

/-- Whether another response to the same request follows. A switch of protocols
is final. -/
def isInterim (r : Response) : Bool :=
  r.isInformational && r.status != 101

/-- Whether the status or the method of the request rules a body out. -/
def hasNoBody (r : Response) (requestWasHead : Bool) : Bool :=
  requestWasHead || r.isInformational || r.status == 204 || r.status == 304

/-- How the body ends. Without an announcement, and with a coding that the
gateway does not know, it ends with the connection. -/
def framing (r : Response) (requestWasHead : Bool) : Except Flaw Framing :=
  if r.hasNoBody requestWasHead then .ok .empty
  else match r.headers.declaredFraming with
    | .ok (some f) => .ok f
    | .ok none => .ok .untilClose
    | .error .unsupportedCoding => .ok .untilClose
    | .error flaw => .error flaw

/-- Whether the sender wants the connection to go on. -/
def keepAlive (r : Response) : Bool :=
  r.headers.keepAlive r.version

/-- The start line with its line end. -/
def startLine (r : Response) : String :=
  r.version.text ++ " " ++ toString r.status ++ " " ++ r.reason ++ "\r\n"

/-- The bytes of the head with the empty line that ends it. -/
def encode (r : Response) : Bytes :=
  Bytes.ofText r.startLine ++ r.headers.encode ++ Bytes.crlf

/-! ## Answers of the gateway itself -/

/-- The head that tells a client to go on with its body. -/
def goAhead : Bytes :=
  Bytes.ofText "HTTP/1.1 100 Continue\r\n\r\n"

/-- The reason phrase of a status that the gateway answers with. -/
def reasonPhrase : Nat → String
  | 100 => "Continue"
  | 400 => "Bad Request"
  | 408 => "Request Timeout"
  | 431 => "Request Header Fields Too Large"
  | 502 => "Bad Gateway"
  | 503 => "Service Unavailable"
  | 504 => "Gateway Timeout"
  | _ => "Error"

/-- A whole response with a short text as its body, after which the connection
closes. -/
def errorResponse (status : Nat) (message : String) : Bytes :=
  Bytes.ofText <|
    "HTTP/1.1 " ++ toString status ++ " " ++ reasonPhrase status ++ "\r\n"
      ++ "Content-Type: text/plain\r\n"
      ++ "Content-Length: " ++ toString message.utf8ByteSize ++ "\r\n"
      ++ "Connection: close\r\n"
      ++ "\r\n"
      ++ message

end Response

end Gateway
