import Gateway.Message.Head

/-!
# Request heads

* `Request.parse` reads a head from bytes, `Request.encode` writes it;
* `framing`, `keepAlive`, `expectsContinue` are what the gateway has to know
  about a request before it can relay it.
-/

namespace Gateway

/-- The head of a request. -/
structure Request where
  /-- The method, letters only. -/
  method : String
  /-- The request target, taken as it is. -/
  target : String
  /-- The protocol version. -/
  version : Version
  /-- The headers. -/
  headers : Headers
  deriving DecidableEq, Repr, Inhabited

namespace Request

/-- Reads the start line: exactly three words with one blank between them. -/
def ofHead (head : Head) : Except Flaw Request :=
  match Text.pieces ' ' head.start.toList with
  | [method, target, version] =>
    if method = [] ∨ !method.all Text.isLetter then .error .invalidMethod
    else if target = [] then .error .emptyTarget
    else do
      let version ← Version.ofText (String.ofList version)
      return ⟨String.ofList method, String.ofList target, version, head.headers⟩
  | _ => .error .invalidRequestLine

/-- Reads a request head from its bytes. -/
def parse (raw : Bytes) : Except Flaw Request := do
  ofHead (← Head.parse raw)

/-- How the body of the request ends; without an announcement there is none. -/
def framing (r : Request) : Except Flaw Framing :=
  r.headers.declaredFraming.map (·.getD .empty)

/-- Whether the client wants the connection to go on. -/
def keepAlive (r : Request) : Bool :=
  r.headers.keepAlive r.version

/-- Whether the response will come without its body. -/
def isHead (r : Request) : Bool :=
  Text.alike r.method "HEAD"

/-- Whether the client waits for a go-ahead before it sends the body. -/
def expectsContinue (r : Request) : Bool :=
  r.version == .http11 && r.headers.hasElement "expect" "100-continue"

/-- The start line with its line end. -/
def startLine (r : Request) : String :=
  r.method ++ " " ++ r.target ++ " " ++ r.version.text ++ "\r\n"

/-- The bytes of the head with the empty line that ends it. -/
def encode (r : Request) : Bytes :=
  Bytes.ofText r.startLine ++ r.headers.encode ++ Bytes.crlf

end Request

end Gateway
