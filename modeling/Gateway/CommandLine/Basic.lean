import Gateway.CommandLine.Argument
import Gateway.CommandLine.Exit
import Gateway.Config.Load

/-!
# The command line of the gateway

Arguments are read from left to right, and the first that asks for help or for
the version, or that makes no sense, decides. What is said on the command line
wins over the file; backends are added to those of the file.

* `CommandLine.ofArguments` reads the arguments;
* `CommandLine.config` is the configuration that they ask for;
* `CommandLine.start` is what the program does about it.
-/

namespace Gateway

/-- What arguments ask for. -/
inductive Invocation (α : Type) where
  /-- To do the work. -/
  | run (what : α)
  /-- To end at once. -/
  | stop (exit : Exit)
  deriving DecidableEq, Repr

/-- What the arguments say. -/
structure CommandLine where
  /-- The file with the configuration. -/
  configPath : Option String := none
  /-- The address to listen at. -/
  bindAddress : Option String := none
  /-- Backends besides those of the file. -/
  backends : List String := []
  /-- Whether to check the configuration and end. -/
  checkOnly : Bool := false
  deriving DecidableEq, Repr, Inhabited

namespace CommandLine

/-- The name of the program with its version. -/
def versionText : String := "rr-proxy 0.1.0\n"

/-- What the program says about its arguments. -/
def helpText : String :=
  "HTTP/1.1 reverse proxy with round-robin load balancing and health checks\n\n"
    ++ "Usage: rr-proxy [OPTIONS]\n\n"
    ++ "Options:\n"
    ++ "  -c, --config <CONFIG>  Path to the TOML configuration file\n"
    ++ "  -b, --bind <BIND>      Override `listener.bind_address`\n"
    ++ "      --backend <ADDR>   Add a backend address (repeatable). "
    ++ "Appended to configured backends\n"
    ++ "      --check            Validate the configuration and exit\n"
    ++ "  -h, --help             Print help\n"
    ++ "  -V, --version          Print version\n"

/-- An option. -/
inductive Switch where
  | config
  | bind
  | backend
  | check
  | help
  | version
  deriving DecidableEq, Repr

/-- The option of a long name. -/
def Switch.ofName? (name : String) : Option Switch :=
  [("config", config), ("bind", bind), ("backend", backend), ("check", check),
    ("help", help), ("version", version)].lookup name

/-- The option of a letter. -/
def Switch.ofLetter? (letter : Char) : Option Switch :=
  [('c', config), ('b', bind), ('h', help), ('V', version)].lookup letter

/-- Takes the value of an option. No file has the empty name, and only backends
can be given twice. -/
def set (switch : Switch) (v : String) (c : CommandLine) : Option CommandLine :=
  match switch with
  | .config =>
    if c.configPath.isSome || v.isEmpty then none else some { c with
      configPath := some v }
  | .bind =>
    if c.bindAddress.isSome then none else some { c with bindAddress := some v }
  | .backend => some { c with backends := c.backends ++ [v] }
  | .check | .help | .version => none

/-- The option that a word names, and the value written together with it. -/
def switch? (word : String) : Option (Switch × Option String) :=
  match Argument.ofText word with
  | .long name v => (Switch.ofName? name).map fun switch => (switch, v)
  | .short letter more =>
    (Switch.ofLetter? letter).map fun switch =>
      (switch, if switch = .help ∨ switch = .version then none
        else Argument.attached? more)
  | .terminator | .word _ => none

/-- Reads words, behind others that said `c`. -/
def read (c : CommandLine) (words : List String) : Invocation CommandLine :=
  match words with
  | [] => .run c
  | first :: rest =>
    match switch? first with
    | none => if first = "--" ∧ rest = [] then .run c else .stop .misused
    | some (.help, none) => .stop (.done helpText)
    | some (.version, none) => .stop (.done versionText)
    | some (.check, none) =>
      if c.checkOnly then .stop .misused else read { c with checkOnly := true } rest
    | some (switch, attached) =>
      match _h : Argument.value? attached rest with
      | none => .stop .misused
      | some (v, left) =>
        match c.set switch v with
        | none => .stop .misused
        | some c => read c left
termination_by words.length
decreasing_by
  all_goals simp_wf
  have := Argument.length_value? _h
  omega

/-- Reads the arguments. -/
def ofArguments (words : List String) : Invocation CommandLine :=
  read {} words

/-- The configuration that the arguments ask for; `readFile` gives what a file
holds. -/
def config (c : CommandLine) (readFile : String → Except Fault Bytes) :
    Except ConfigError Config :=
  let base : Except ConfigError Config := match c.configPath with
    | none => .ok {}
    | some path => Config.ofFile (readFile path)
  match base with
  | .error e => .error e
  | .ok base =>
    let bindAddress := c.bindAddress.getD base.listener.bindAddress
    let added : List BackendConfig :=
        c.backends.map fun address => { address := address }
    Config.validate { base with
      listener := { base.listener with bindAddress := bindAddress }
      backends := base.backends ++ added }

/-- What is said about a configuration that makes sense. -/
def approval (c : Config) : String :=
  "configuration ok: " ++ toString c.backends.length ++ " backend(s), policy "
    ++ c.loadBalancing.policy.name ++ "\n"

/-- What the arguments come to: a configuration to serve, or an end. -/
def start (readFile : String → Except Fault Bytes)
    (words : List String) : Invocation Config :=
  match ofArguments words with
  | .stop exit => .stop exit
  | .run c =>
    match c.config readFile with
    | .error e => .stop (.failed ("Error: " ++ e.report))
    | .ok config =>
      if c.checkOnly then .stop (.done (approval config)) else .run config

end CommandLine

end Gateway
