import RouteWatch.Text.Blank

-- Settings of the routing system: the period of the jobs, where the monitoring service listens
-- and how long to wait for it, how to log, and how long a shutdown may take. All durations are
-- whole milliseconds. `validate` refuses a blank host, then a port of zero.
namespace RouteWatch

inductive LogFormat where
  | compact
  | json
  deriving DecidableEq, Repr

def LogFormat.name : LogFormat → String
  | .compact => "compact"
  | .json => "json"

structure Settings where
  -- The period of the jobs; 0 stands for the default period.
  intervalMs : Nat
  host : String
  -- A port number, below 65536.
  port : Nat
  -- How long a health check may take.
  timeoutMs : Nat
  level : String
  format : LogFormat
  shutdownTimeoutMs : Nat
  deriving DecidableEq, Repr

namespace Settings

-- The settings used when nothing overrides them.
def default : Settings :=
  { intervalMs := 30000, host := "monitoring_manager", port := 10999, timeoutMs := 5000,
    level := "info", format := .compact, shutdownTimeoutMs := 10000 }

-- The address of the monitoring service.
def url (s : Settings) : String :=
  "http://" ++ s.host ++ ":" ++ toString s.port

inductive Problem where
  | noHost
  | zeroPort
  deriving DecidableEq, Repr

def Problem.message : Problem → String
  | .noHost => "Invalid configuration: Monitoring manager host is required"
  | .zeroPort => "Invalid configuration: Monitoring manager port must be greater than 0"

-- Checks the settings: the host must not be blank, then the port must not be zero.
def validate (s : Settings) : Except Problem Unit :=
  if Text.allBlank s.host then .error .noHost
  else if s.port = 0 then .error .zeroPort
  else .ok ()

end Settings

end RouteWatch
