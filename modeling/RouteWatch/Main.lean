import RouteWatch.Config.Load
import RouteWatch.Scenario
import RouteWatch.Health

-- The command line of the routing system.
namespace RouteWatch.Cli

-- The directory the settings files are read from.
def configDir : String := "config"

-- Where the environment of the process can be read, as a block of entries.
def environmentBlock : String := "/proc/self/environ"

inductive Failure where
  | config (e : Config.ConfigError)
  | crash (c : Config.Crash)
  | invalid (p : Settings.Problem)
  | unreadable (path : String)
  | shutdown (e : System.ShutdownError)

def Failure.message : Failure → String
  | .config e => "Failed to load configuration: " ++ e.text
  | .crash c => c.message
  | .invalid p => p.message
  | .unreadable path => "Failed to load configuration: " ++ path ++
      " does not hold UTF-8 text"
  | .shutdown e => e.message

-- The text of file `name` in the settings directory, or nothing when there is none.
def readSettingsFile (name : String) : ExceptT Failure IO (Option String) := do
  let path := configDir ++ "/" ++ name
  let .ok bytes ← (IO.FS.readBinFile path).toBaseIO | return none
  match String.fromUTF8? bytes with
  | some text => return some text
  | none => throw (.unreadable path)

-- The variables of the environment of the process; none when it cannot be read.
def environment : IO (List (String × String)) := do
  let .ok block ← (IO.FS.readBinFile environmentBlock).toBaseIO | return []
  return Config.varsOfBlock block

-- Loads and checks the settings, starts the system, waits for the end of standard input,
-- and shuts the system down.
def run : ExceptT Failure IO Unit := do
  let src : Config.Sources :=
    { dir := configDir, defaultFile := ← readSettingsFile "default.toml",
      localFile := ← readSettingsFile "local.toml", env := ← environment }
  let settings ← match Config.load src with
    | .ok s => pure s
    | .error (.refused e) => throw (.config e)
    | .error (.crashed c) => throw (.crash c)
  match settings.validate with
  | .ok () => pure ()
  | .error p => throw (.invalid p)
  IO.println "Starting routing manager"
  IO.println ("Task executor configured: " ++ Health.endpoint settings.url)
  let setup : Setup :=
    { period := settings.intervalMs, shutdownLimit := settings.shutdownTimeoutMs,
      executor := ⟨0, []⟩, seed := [], parts := Parts.all }
  let (count, system) := setup.boot.quiesce.restart
  IO.println ("Resynced " ++ toString count ++ " interests")
  let _ ← (← IO.getStdin).readBinToEnd
  IO.println "Received shutdown signal"
  match system.quiesce.shutdown.1 with
  | .ok () => IO.println "Shutdown complete"
  | .error e => throw (.shutdown e)

end RouteWatch.Cli

-- Runs the routing system; the exit code is 1 when it stops on a failure, and 101 when it
-- crashes.
def main : IO UInt32 := do
  match ← RouteWatch.Cli.run.run with
  | .ok () => return 0
  | .error (.crash c) =>
    IO.eprintln ("panicked: " ++ c.message)
    return 101
  | .error f =>
    IO.eprintln ("Error: " ++ f.message)
    return 1
