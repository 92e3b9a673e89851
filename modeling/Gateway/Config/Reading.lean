import Gateway.Config.Schema
import Gateway.Text.Number
import Gateway.Toml.Value

/-!
# Configurations in documents

Every section of a configuration is a table, and every setting a key in it. A
setting that is missing has its default, a key that means nothing is passed
over, and a value of the wrong sort or size is refused. A section may also be
written as an array of its settings in their order.
-/

namespace Gateway

open Toml

/-- Where the settings of a section are found: by place and by key. -/
structure Settings where
  /-- The value of a setting. -/
  get? : (place : Nat) → (key : String) → Option Value

namespace Settings

/-- The settings of a section as it is written. A date is a section that says
nothing. -/
def ofValue? : Value → Option Settings
  | .table _ es => some ⟨fun _ key => es.lookup key⟩
  | .array items => some ⟨fun place _ => items[place]?⟩
  | .tables elements =>
    some ⟨fun place _ => (elements[place]?).map (.table .header)⟩
  | .moment _ => some ⟨fun _ _ => none⟩
  | _ => none

/-- A setting with its default. -/
def setting {α : Type} (s : Settings) (place : Nat) (key : String) (default : α)
    (read : Value → Option α) : Option α :=
  match s.get? place key with
  | some v => read v
  | none => some default

end Settings

namespace Toml.Value

/-- A text. -/
def text? : Value → Option String
  | .string s => some s
  | _ => none

/-- A truth value. -/
def truth? : Value → Option Bool
  | .boolean b => some b
  | _ => none

/-- A number from 0 to `limit`. -/
def number? (limit : Nat) : Value → Option Nat
  | .integer n => if 0 ≤ n ∧ n ≤ limit then some n.toNat else none
  | _ => none

/-- A word from a list of words. A word may also be written as the only key of a
table, over nothing. -/
def word? {α : Type} (ofLabel? : String → Option α) : Value → Option α
  | .string s => ofLabel? s
  | .table _ [(key, .table _ [])] => ofLabel? key
  | .table _ [(key, .array [])] => ofLabel? key
  | _ => none

/-- A value that may be missing but is there. -/
def present? {α : Type} (read : Value → Option α)
    (v : Value) : Option (Option α) :=
  (read v).map some

/-- A list of values. -/
def list? {α : Type} (read : Value → Option α) : Value → Option (List α)
  | .array items => items.mapM read
  | .tables elements => elements.mapM fun es => read (.table .header es)
  | _ => none

end Toml.Value

/-- Reads the listener's settings. -/
def ListenerConfig.ofValue? (v : Value) : Option ListenerConfig := do
  let s ← Settings.ofValue? v
  let d : ListenerConfig := {}
  return { bindAddress := ← s.setting 0 "bind_address" d.bindAddress Value.text?
           maxConnections := ← s.setting 1 "max_connections" d.maxConnections
             (Value.number? Text.max64) }

/-- Reads a backend, which has to have an address. -/
def BackendConfig.ofValue? (v : Value) : Option BackendConfig := do
  let s ← Settings.ofValue? v
  let name ← s.setting 0 "name" none (Value.present? Value.text?)
  let address ← (s.get? 1 "address").bind Value.text?
  return { name := name, address := address
           weight := ← s.setting 2 "weight" 1 (Value.number? Text.max32)
           maxConnections :=
             ← s.setting 3 "max_connections" none
               (Value.present? (Value.number? Text.max64)) }

/-- Reads the rules of selection. -/
def Selection.ofValue? (v : Value) : Option Selection := do
  let s ← Settings.ofValue? v
  let d : Selection := {}
  return { policy := ← s.setting 0 "policy" d.policy (Value.word? Policy.ofLabel?)
           failOpen := ← s.setting 1 "fail_open" d.failOpen Value.truth? }

/-- Reads the settings for probes. -/
def HealthCheckConfig.ofValue? (v : Value) : Option HealthCheckConfig := do
  let s ← Settings.ofValue? v
  let d : HealthCheckConfig := {}
  return { enabled := ← s.setting 0 "enabled" d.enabled Value.truth?
           intervalSecs := ← s.setting 1 "interval_secs" d.intervalSecs
             (Value.number? Text.max64)
           timeoutSecs := ← s.setting 2 "timeout_secs" d.timeoutSecs
             (Value.number? Text.max64)
           path := ← s.setting 3 "path" d.path (Value.present? Value.text?)
           unhealthyThreshold :=
             ← s.setting 4 "unhealthy_threshold" d.unhealthyThreshold
               (Value.number? Text.max32)
           healthyThreshold :=
             ← s.setting 5 "healthy_threshold" d.healthyThreshold
               (Value.number? Text.max32) }

/-- Reads the timeouts. -/
def TimeoutConfig.ofValue? (v : Value) : Option TimeoutConfig := do
  let s ← Settings.ofValue? v
  let d : TimeoutConfig := {}
  return { connectSecs := ← s.setting 0 "connect_secs" d.connectSecs
             (Value.number? Text.max64)
           requestSecs := ← s.setting 1 "request_secs" d.requestSecs
             (Value.number? Text.max64)
           idleSecs :=
             ← s.setting 2 "idle_secs" d.idleSecs (Value.number? Text.max64) }

/-- Reads the limits. -/
def LimitConfig.ofValue? (v : Value) : Option LimitConfig := do
  let s ← Settings.ofValue? v
  let d : LimitConfig := {}
  return { maxHeaderBytes := ← s.setting 0 "max_header_bytes" d.maxHeaderBytes
             (Value.number? Text.max64)
           bufferBytes := ← s.setting 1 "buffer_bytes" d.bufferBytes
             (Value.number? Text.max64) }

/-- Reads what the gateway shows of itself. -/
def ObservabilityConfig.ofValue? (v : Value) : Option ObservabilityConfig := do
  let s ← Settings.ofValue? v
  let d : ObservabilityConfig := {}
  return { logLevel := ← s.setting 0 "log_level" d.logLevel Value.text?
           logFormat := ← s.setting 1 "log_format" d.logFormat
             (Value.word? LogFormat.ofLabel?)
           metricsEnabled :=
             ← s.setting 2 "metrics_enabled" d.metricsEnabled Value.truth?
           metricsAddress :=
             ← s.setting 3 "metrics_address" d.metricsAddress Value.text? }

/-- Reads the settings for operators. -/
def AdminConfig.ofValue? (v : Value) : Option AdminConfig := do
  let s ← Settings.ofValue? v
  let d : AdminConfig := {}
  return { enabled := ← s.setting 0 "enabled" d.enabled Value.truth?
           apiKey := ← s.setting 1 "api_key" d.apiKey Value.text?
           bindAddress := ← s.setting 2 "bind_address" d.bindAddress Value.text? }

/-- Reads a whole configuration from the table of a document. -/
def Config.ofEntries? (es : Entries) : Option Config := do
  let s : Settings := ⟨fun _ key => es.lookup key⟩
  return { listener := ← s.setting 0 "listener" {} ListenerConfig.ofValue?
           backends :=
             ← s.setting 1 "backends" [] (Value.list? BackendConfig.ofValue?)
           loadBalancing := ← s.setting 2 "load_balancing" {} Selection.ofValue?
           healthCheck := ← s.setting 3 "health_check" {} HealthCheckConfig.ofValue?
           timeouts := ← s.setting 4 "timeouts" {} TimeoutConfig.ofValue?
           limits := ← s.setting 5 "limits" {} LimitConfig.ofValue?
           observability :=
             ← s.setting 6 "observability" {} ObservabilityConfig.ofValue?
           admin := ← s.setting 7 "admin" {} AdminConfig.ofValue? }

end Gateway
