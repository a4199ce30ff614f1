import RouteWatch.Wire.Quote

-- The health check that a job sends: where it goes and what it says.
namespace RouteWatch.Health

-- The path of the routing policy on the monitoring service.
def policyPath : String := "/policy/routing/def"

def dropTrailingSlashes (s : String) : String :=
  String.ofList (s.toList.reverse.dropWhile (· = '/')).reverse

-- Where a health check for the service at `url` is sent.
def endpoint (url : String) : String :=
  dropTrailingSlashes url ++ policyPath

-- The body of a health check for `app` at `ip`, taken at the moment written `moment`.
def payload (app ip moment : String) : String :=
  Wire.objectText [("appName", Wire.quote app), ("serviceIp", Wire.quote ip),
    ("timestamp", Wire.quote moment), ("requestType", Wire.quote "health_check")]

example : endpoint "http://h//x//" = "http://h//x/policy/routing/def" ∧
    endpoint "" = "/policy/routing/def" := by
  decide

end RouteWatch.Health
