import Gateway.CommandLine.Basic
import Gateway.Server.Startup

/-!
# The program

Reads the arguments, checks the configuration and starts. The connections
themselves are brought by whoever embeds the library, and so are the names of
hosts and the addresses to listen at: here no name is known, and every address
is admitted.
-/

open Gateway

/-- The exit with what it writes. -/
def finishWith (exit : Exit) : IO UInt32 := do
  (← IO.getStdout).putStr exit.output
  if exit.complaint ≠ "" then (← IO.getStderr).putStrLn exit.complaint
  return exit.code.toUInt32

/-- What a file holds. -/
def readWhole (path : String) : IO (Except Fault Bytes) := do
  try
    return .ok (← IO.FS.readBinFile path).toList
  catch _ =>
    return .error .noSuchFile

def main (words : List String) : IO UInt32 := do
  let file ← match CommandLine.ofArguments words with
    | .run { configPath := some path, .. } => readWhole path
    | _ => pure (.error .noSuchFile)
  match CommandLine.start (fun _ => file) words with
  | .stop exit => finishWith exit
  | .run config =>
    match Config.start (fun _ => .error .unanswered)
        (.ofAdmits fun _ => .ok ()) config with
    | .error e =>
      finishWith { code := e.exitCode, complaint := "Error: " ++ e.message }
    | .ok started =>
      finishWith (.done ("ready: " ++ toString started.server.fleet.pool.size ++
        " backend(s)\n"))
