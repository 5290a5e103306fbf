import TermSync.Config
import TermSync.Console.App

/-!
# The command line

Reads the arguments, the configuration file and the environment, and starts the console program.
The library brings no sockets along: whoever embeds it carries requests and events between
`Console.App` and a backend. Run by itself, the program finds every backend out of reach.
-/

namespace TermSync.Console

/-- The variables that change the configuration, or the place of its file. -/
def variableNames : List String :=
  ["PLAYGROUND_SERVER_URL", "PLAYGROUND_FLUSH_INTERVAL_MS", "PLAYGROUND_RECONNECT_INTERVAL_MS",
    "PLAYGROUND_RESIZE_DEBOUNCE_MS", "PLAYGROUND_PROTOCOL", "PLAYGROUND_CONFIG_DIR",
    "XDG_CONFIG_HOME", "HOME"]

/-- What the environment says about the configuration. -/
def readEnvironment : IO (String → Option String) := do
  let values ← variableNames.mapM fun name => return (name, ← IO.getEnv name)
  return fun name => (values.lookup name).join

/-- The bytes of a file, if it can be read. -/
def readFile? (path : String) : IO (Option Text.Bytes) := do
  try return some (← IO.FS.readBinFile path).toList
  catch _ => return none

/-- The settings of this run. -/
def loadConfig (server : Option String) : IO Config := do
  let environment ← readEnvironment
  let file ← readFile? (Config.filePath environment)
  let config := Config.load file environment
  return { config with serverUrl := server.getD config.serverUrl }

/-- Write what a move writes. -/
def write (outputs : List Output) : IO Unit := do
  for output in outputs do
    match output with
    | .stdout data => (← IO.getStdout).write ⟨data.toArray⟩
    | .stderr data => (← IO.getStderr).write ⟨data.toArray⟩

/-- Follow a session. The result is the exit status. -/
def attend (a : Arguments) : IO UInt32 := do
  let config ← loadConfig a.server
  let app := App.initial a.session (.ofConfig config) a.image
  match app.load (.error .connectivity) with
  | .ok move => write (move.outputs ++ move.app.finish.outputs); return 0
  | .error said => write [said]; return 1

/-- How the program is called. -/
def usage : String :=
  "Usage: playground --session <SESSION> [--server <SERVER>] [--new] [--image <IMAGE>]"

end TermSync.Console

open TermSync.Console

/-- Do what the arguments ask for. -/
def main (args : List String) : IO UInt32 := do
  match Arguments.parse args with
  | .version => IO.println version; return 0
  | .help => IO.println usage; return 0
  | .invalid => IO.eprintln usage; return 2
  | .run a => attend a
