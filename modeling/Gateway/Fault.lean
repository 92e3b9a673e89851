import Gateway.Fault.Kind
import Gateway.Fault.System
import Gateway.Text.Quoted

/-!
# Input and output failures

What a socket or a file can answer instead of bytes. A failure is either a
system error, known by its number, or one that a reader found by itself and put
into words.

* `message` is the one-line wording;
* `report` is the full form with the kind, as the gateway prints it when it
  gives up.
-/

namespace Gateway

/-- Why an input or output operation failed. -/
inductive Fault where
  /-- The operating system refused, with this error number. -/
  | system (code : Nat)
  /-- A reader refused, in its own words. -/
  | worded (kind : FaultKind) (text : String)
  deriving DecidableEq, Repr, Inhabited

namespace Fault

/-- The kind of a failure. -/
def kind : Fault → FaultKind
  | .system code => .ofSystem code
  | .worded kind _ => kind

/-- The wording of a failure. -/
def message : Fault → String
  | .system code => systemWording code ++ " (os error " ++ toString code ++ ")"
  | .worded _ text => text

/-- The full form of a failure, with its kind. -/
def report : Fault → String
  | .system code =>
      "Os \x7b code: " ++ toString code ++ ", kind: " ++ (FaultKind.ofSystem code).name
        ++ ", message: " ++ Text.quoted (systemWording code) ++ " \x7d"
  | .worded kind text =>
      "Error \x7b kind: " ++ kind.name ++ ", message: " ++ Text.quoted text ++ " \x7d"

/-- There is no file of that name. -/
def noSuchFile : Fault := .system 2

/-- What a program is given has too many bytes. -/
def wordsTooLong : Fault := .system 7

/-- What stands in front of a name is no directory. -/
def notDirectory : Fault := .system 20

/-- A directory holds no bytes. -/
def isDirectory : Fault := .system 21

/-- A name has too many bytes. -/
def nameTooLong : Fault := .system 36

/-- Somebody listens at the address already. -/
def addressInUse : Fault := .system 98

/-- No route leads to the address. -/
def networkUnreachable : Fault := .system 101

/-- The peer broke the connection off. -/
def connectionReset : Fault := .system 104

/-- Nobody listens at the address. -/
def connectionRefused : Fault := .system 111

/-- A name holds the character that ends names. -/
def nameHasNul : Fault :=
  .worded .invalidInput "file name contained an unexpected NUL byte"

/-- What a program is given holds the character that ends it. -/
def wordHasNul : Fault :=
  .worded .invalidInput "nul byte found in provided data"

/-- A file holds bytes that are no text. -/
def notText : Fault := .worded .invalidData "stream did not contain valid UTF-8"

end Fault

end Gateway
