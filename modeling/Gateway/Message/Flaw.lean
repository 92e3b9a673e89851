import Gateway.Fault

/-!
# Flaws of messages

Why the bytes of a message are refused. A `Flaw` is a fault of the bytes
themselves; a `HeadError` is everything that can keep a head from being read,
the flaws among it.
-/

namespace Gateway

/-- What is wrong with a message. -/
inductive Flaw where
  /-- The head is not valid UTF-8. -/
  | notText
  /-- The head has no start line. -/
  | missingStartLine
  /-- A header line begins with a blank, the old way to continue the line before
  it. -/
  | foldedLine
  /-- A header line has no colon. -/
  | missingColon
  /-- A header name is empty or holds a blank or a control character. -/
  | invalidName
  /-- There are more headers than a head may have. -/
  | tooManyHeaders
  /-- The version is neither 1.0 nor 1.1. -/
  | unsupportedVersion
  /-- The start line of a request is not three words. -/
  | invalidRequestLine
  /-- The method is empty or holds something other than letters. -/
  | invalidMethod
  /-- The request target is empty. -/
  | emptyTarget
  /-- The status code is not three digits from 100 on. -/
  | invalidStatus
  /-- The last transfer coding is not chunked. -/
  | unsupportedCoding
  /-- A body length is not a number. -/
  | invalidLength
  /-- Two body lengths differ. -/
  | conflictingLengths
  /-- A chunk size line is not text. -/
  | chunkSizeNotText
  /-- A chunk size is not a number. -/
  | invalidChunkSize
  /-- A line of a chunked body is longer than allowed. -/
  | lineTooLong
  /-- No line end follows the data of a chunk. -/
  | unendedChunk
  /-- A flaw that another party found and put into words. -/
  | reported (text : String)
  deriving DecidableEq, Repr, Inhabited

/-- The wording of a flaw. -/
def Flaw.message : Flaw → String
  | .notText => "head is not valid UTF-8"
  | .missingStartLine => "missing start line"
  | .foldedLine => "obsolete header line folding"
  | .missingColon => "header line without colon"
  | .invalidName => "invalid header name"
  | .tooManyHeaders => "too many headers"
  | .unsupportedVersion => "unsupported HTTP version"
  | .invalidRequestLine => "invalid request line"
  | .invalidMethod => "invalid method"
  | .emptyTarget => "empty request target"
  | .invalidStatus => "invalid status code"
  | .unsupportedCoding => "unsupported transfer-encoding"
  | .invalidLength => "invalid content-length"
  | .conflictingLengths => "conflicting content-length"
  | .chunkSizeNotText => "non-ASCII chunk size"
  | .invalidChunkSize => "bad chunk size"
  | .lineTooLong => "line too long"
  | .unendedChunk => "missing CRLF after chunk data"
  | .reported text => text

/-- Why a head could not be read from a connection. -/
inductive HeadError where
  /-- The head is longer than `limit` bytes. -/
  | tooLarge (limit : Nat)
  /-- The bytes of the head are no head. -/
  | malformed (flaw : Flaw)
  /-- The peer ended the connection within the head. -/
  | closed
  /-- The connection failed. -/
  | failed (fault : Fault)
  /-- The peer keeps the connection open and sends nothing more. -/
  | silent
  deriving DecidableEq, Repr, Inhabited

/-- The wording of a head error. -/
def HeadError.message : HeadError → String
  | .tooLarge limit => "message head exceeds " ++ toString limit ++ " bytes"
  | .malformed flaw => "malformed message head: " ++ flaw.message
  | .closed => "connection closed in the middle of a message head"
  | .failed fault => "I/O error: " ++ fault.message
  | .silent => "no more bytes arrive"

end Gateway
