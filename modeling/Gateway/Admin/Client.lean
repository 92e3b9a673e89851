import Gateway.Admin.Api
import Gateway.CommandLine.Basic
import Gateway.Text.Terminal

/-!
# The operator's client

A small program that asks a running gateway for one of its pages and shows it.

* `Client.ofArguments` reads its arguments;
* `Client.run` asks, with whatever the network makes of the question.
-/

namespace Gateway

/-- A page to ask for. -/
inductive AdminPage where
  | status
  | backends
  deriving DecidableEq, Repr, Inhabited

/-- The path of a page. -/
def AdminPage.path : AdminPage → String
  | .status => "/admin/status"
  | .backends => "/admin/backends"

/-- What the arguments say. -/
structure Client where
  /-- Where the gateway is. -/
  url : Option String := none
  /-- The key. -/
  key : Option String := none
  /-- The page. -/
  page : Option AdminPage := none
  deriving DecidableEq, Repr, Inhabited

/-- How the client ends. -/
inductive ClientEnd where
  /-- The arguments ended it. -/
  | stopped (exit : Exit)
  /-- It shows a page. -/
  | shown (body : AdminBody)
  /-- The gateway refused. -/
  | refused (complaint : String)
  /-- It did not get an answer. -/
  | failed
  deriving DecidableEq, Repr

namespace Client

/-- Where the gateway is unless it is said otherwise. -/
def defaultUrl : String := "http://127.0.0.1:8081"

/-- The name by which the environment gives the key. -/
def keyVariable : String := "RR_PROXY_ADMIN_KEY"

/-- The environment with a key. -/
def environment : Option String → List String
  | some key => [keyVariable ++ "=" ++ key]
  | none => []

/-- The column in which the description of an option begins. -/
def descriptionColumn : Nat := 19

/-- A text in the description of an option: its lines stand below each other. -/
def described (s : String) : String :=
  String.ofList <| s.toList.flatMap fun c =>
    if c = '\n' then c :: List.replicate descriptionColumn ' ' else [c]

/-- What the program says about its arguments; `shownKey` is the key that the
environment gives. The names of the options are bold, but this is not written to
a terminal. So a control sequence that the key leaves open ends at the next
name. -/
def helpText (shownKey : String) : String :=
  String.ofList <| Text.uncontrolled <| String.toList <|
    "Management CLI for rr-proxy\n\n"
      ++ "Usage: proxy-cli [OPTIONS] --key <KEY> <COMMAND>\n\n"
      ++ "Commands:\n"
      ++ "  status    Check proxy status and backend counts\n"
      ++ "  backends  List backend health and connections\n"
      ++ "  help      Print this message or the help of the given subcommand(s)\n\n"
      ++ "Options:\n"
      ++ "  " ++ Text.bold "-u" ++ ", " ++ Text.bold "--url" ++
        " <URL>  [default: http://127.0.0.1:8081]\n"
      ++ "  " ++ Text.bold "-k" ++ ", " ++ Text.bold "--key" ++
        " <KEY>  [env: " ++ keyVariable ++ "="
      ++ described shownKey ++ "]\n"
      ++ "  " ++ Text.bold "-h" ++ ", " ++ Text.bold "--help" ++ "       Print help\n"

/-- What the program says about one of its commands. -/
def pageHelp : AdminPage → String
  | .status =>
    "Check proxy status and backend counts\n\nUsage: proxy-cli --key <KEY> status\n\n"
      ++ "Options:\n  -h, --help  Print help\n"
  | .backends =>
    "List backend health and connections\n\nUsage: proxy-cli --key <KEY> backends\n\n"
      ++ "Options:\n  -h, --help  Print help\n"

/-- The page of a command. -/
def pageOf? (word : String) : Option AdminPage :=
  [("status", AdminPage.status), ("backends", .backends)].lookup word

/-- The words behind a command: nothing but a call for help. -/
def readPage (c : Client) (page : AdminPage) : List String → Invocation Client
  | [] => .run { c with page := some page }
  | ["--"] => .run { c with page := some page }
  | word :: _ =>
    match Argument.ofText word with
    | .long "help" none | .short 'h' _ => .stop (.done (pageHelp page))
    | _ => .stop .misused

/-- What the program says about the command that asks for help. -/
def helpHelp : String :=
  "Print this message or the help of the given subcommand(s)\n\n"
    ++ "Usage: proxy-cli --key <KEY> help [COMMAND]...\n\n"
    ++ "Arguments:\n  [COMMAND]...  Print help for the subcommand(s)\n"

/-- The words behind a call for help. -/
def readHelp (shownKey : String) : List String → Invocation Client
  | [] => .stop (.done (helpText shownKey))
  | ["help"] => .stop (.done helpHelp)
  | [word] =>
    match pageOf? word with
    | some page => .stop (.done (pageHelp page))
    | none => .stop .misused
  | _ => .stop .misused

/-- What an option says. -/
inductive Setting where
  | url
  | key
  deriving DecidableEq, Repr, Inhabited

/-- Takes what an option says. None can be given twice. -/
def set (setting : Setting) (v : String) (c : Client) : Option Client :=
  match setting with
  | .url => if c.url.isSome then none else some { c with url := some v }
  | .key => if c.key.isSome then none else some { c with key := some v }

/-- The option that a word names, and the value written together with it. -/
def setting? (word : String) : Option (Setting × Option String) :=
  match Argument.ofText word with
  | .long "url" v => some (.url, v)
  | .long "key" v => some (.key, v)
  | .short 'u' more => some (.url, Argument.attached? more)
  | .short 'k' more => some (.key, Argument.attached? more)
  | _ => none

/-- Takes what is held back. -/
def settle (c : Client) (held : Option (Setting × String)) : Option Client :=
  match held with
  | none => some c
  | some (setting, v) => c.set setting v

/-- Takes what is held back and goes on, unless it makes no sense. -/
def settled {α : Type} (c : Client) (held : Option (Setting × String))
    (next : Client → Invocation α) :
    Invocation α :=
  match c.settle held with
  | none => .stop .misused
  | some c => next c

/-- Reads words, behind others that said `c`. An option whose value is a word of
its own is held back until the next option, or until all words are read; so the
help for a command comes before any complaint about the option in front of
it. -/
def read (shownKey : String) (c : Client) (held : Option (Setting × String))
    (words : List String) :
    Invocation Client :=
  match words with
  | [] => c.settled held .run
  | first :: rest =>
    match setting? first with
    | some (setting, attached) =>
      match _h : Argument.value? attached rest with
      | none => .stop .misused
      | some (v, left) =>
        c.settled held fun c =>
          if attached.isNone then read shownKey c (some (setting, v)) left
          else c.settled (some (setting, v)) fun c => read shownKey c none left
    | none =>
      match Argument.ofText first with
      | .long "help" none | .short 'h' _ =>
        c.settled held fun _ => .stop (.done (helpText shownKey))
      | .word "help" => readHelp shownKey rest
      | .word word =>
        match (pageOf? word).map fun page => readPage c page rest with
        | some (.run c) => c.settled held .run
        | some (.stop exit) => .stop exit
        | none => .stop .misused
      | _ => .stop .misused
termination_by words.length
decreasing_by
  all_goals simp_wf
  all_goals
    have := Argument.length_value? _h
    omega

/-- Reads the arguments. The environment may give the key; a page has to be
asked for. -/
def ofArguments (environmentKey : Option String) (words : List String) :
    Invocation (String × String × AdminPage) :=
  match read (environmentKey.getD "") {} none words with
  | .stop exit => .stop exit
  | .run c =>
    match c.key.or environmentKey, c.page with
    | some key, some page => .run (c.url.getD defaultUrl, key, page)
    | _, _ => .stop .misused

/-- Whether a text can be sent as the value of a header. -/
def isHeaderValue (s : String) : Bool :=
  (Bytes.ofText s).all fun b => (32 ≤ b && b != 127) || b = 9

/-- The text that is asked for: one slash between the gateway and the page. -/
def target (url : String) (page : AdminPage) : String :=
  String.ofList ((url.toList.reverse.dropWhile (· == '/')).reverse) ++ page.path

/-- The name of a status that is no success. -/
def statusName : Nat → String
  | 401 => "401 Unauthorized"
  | 404 => "404 Not Found"
  | 405 => "405 Method Not Allowed"
  | n => toString n

/-- Runs the client; `fetch` gives the answer to a question with a key, if there
is one. -/
def run (fetch : (target key : String) → Option AdminAnswer)
    (environmentKey : Option String) (words : List String) : ClientEnd :=
  match ofArguments environmentKey words with
  | .stop exit => .stopped exit
  | .run (url, key, page) =>
    if !isHeaderValue key then .failed
    else match fetch (target url page) key with
      | none => .failed
      | some a =>
        if a.status = 200 then .shown a.body
        else .refused ("Error: " ++
          Text.quoted ("admin API returned " ++ statusName a.status ++ ": "))

end Client

end Gateway
