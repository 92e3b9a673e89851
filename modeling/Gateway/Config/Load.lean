import Gateway.Bytes
import Gateway.Config.Reading
import Gateway.Config.Validation
import Gateway.Fault
import Gateway.Toml.Document

/-!
# Loading configurations

From the bytes of a file to a configuration that makes sense, or to the reason
why there is none.
-/

namespace Gateway

/-- Why there is no configuration. -/
inductive ConfigError where
  /-- The file could not be read. -/
  | unreadable (fault : Fault)
  /-- The text is no configuration. -/
  | malformed
  /-- The configuration makes no sense. -/
  | invalid (flaws : List ConfigFlaw)
  deriving DecidableEq, Repr, Inhabited

namespace ConfigError

/-- The wording of the failure. -/
def message : ConfigError → String
  | .unreadable fault => "IO error: " ++ fault.message
  | .malformed => "Parse error"
  | .invalid flaws =>
    "Validation failed: " ++ String.intercalate ", " (flaws.map (·.message))

/-- The full form of the failure. -/
def report : ConfigError → String
  | .unreadable fault => "Io(" ++ fault.report ++ ")"
  | .malformed => "Parse"
  | .invalid flaws =>
    "Validation([" ++ String.intercalate ", " (flaws.map (·.report)) ++ "])"

end ConfigError

namespace Config

/-- Gives a configuration back if it makes sense. -/
def validate (c : Config) : Except ConfigError Config :=
  if c.flaws = [] then .ok c else .error (.invalid c.flaws)

/-- Reads a configuration from a text, whether it makes sense or not. -/
def ofText (s : String) : Except ConfigError Config :=
  match (Toml.Document.ofText? s).bind Config.ofEntries? with
  | some c => .ok c
  | none => .error .malformed

/-- Reads a configuration from a file, whether it makes sense or not. -/
def ofFile (file : Except Fault Bytes) : Except ConfigError Config :=
  match file with
  | .error fault => .error (.unreadable fault)
  | .ok bytes =>
    match bytes.text? with
    | none => .error (.unreadable .notText)
    | some s => ofText s

/-- Reads a configuration that makes sense from a text. -/
def parse (s : String) : Except ConfigError Config :=
  (ofText s).bind validate

/-- Reads a configuration that makes sense from a file. -/
def load (file : Except Fault Bytes) : Except ConfigError Config :=
  (ofFile file).bind validate

end Config

end Gateway
