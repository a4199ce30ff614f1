import RouteWatch.Config.Env
import RouteWatch.Config.Decode

-- Loading the settings from their layers.
namespace RouteWatch.Config

-- Where settings are loaded from: the directory of the files, the text of each file that is
-- present, and the environment variables.
structure Sources where
  dir : String
  defaultFile : Option String
  localFile : Option String
  env : List (String × String)
  deriving Repr

-- Settings as the first layer of values.
def settingsLayer (s : Settings) : List (String × Value) :=
  [("scheduler", .table none [("interval_ms", .int none s.intervalMs)]),
   ("monitoring_manager", .table none [("host", .str none s.host), ("port", .int none s.port),
      ("timeout_ms", .int none s.timeoutMs)]),
   ("logging", .table none [("level", .str none s.level), ("format", .str none s.format.name)]),
   ("shutdown_timeout_ms", .int none s.shutdownTimeoutMs)]

-- Why the settings could not be loaded: they were refused, or setting them crashed.
inductive LoadError where
  | refused (e : ConfigError)
  | crashed (c : Crash)
  deriving Repr

-- The layer of file `name` in `dir`: nothing when it is absent.
def fileLayer (dir name : String) : Option String → Except LoadError (List (String × Value))
  | none => .ok []
  | some text =>
    let path := dir ++ "/" ++ name
    match Toml.parseDocument text with
    | .ok entries => .ok (tomlLayer path entries)
    | .error cause => .error (.refused (.badFile cause path))

def applyLayer (root : Value) (layer : List (String × Value)) : Except LoadError Value :=
  (setAll root layer).mapError .crashed

-- Loads the settings from their layers. Each file is read just before its values are set, so
-- a crash while setting one file comes before a fault in the next.
def load (src : Sources) : Except LoadError Settings := do
  let root ← applyLayer Value.emptyTable (settingsLayer Settings.default)
  let root ← applyLayer root (← fileLayer src.dir "default.toml" src.defaultFile)
  let root ← applyLayer root (← fileLayer src.dir "local.toml" src.localFile)
  let root ← applyLayer root (envLayer src.env)
  (readSettings root).mapError .refused

end RouteWatch.Config
