import RouteWatch.Interest
import RouteWatch.Keyed

-- The job table of the scheduler: at most one job per app name, in increasing order of app name,
-- a flag that closes the table for good, and the number of replaced or stopped jobs whose loops
-- have not yet been seen to exit.
namespace RouteWatch.Schedule

-- A running job: the interest its loop checks, and the number of the loop.
structure Job where
  snapshot : Interest Stamp
  loop : Nat
  deriving DecidableEq, Repr

-- The default period, used when the configured one is zero: one minute.
def defaultPeriod : Nat := 60000

-- The period a scheduler runs with for a configured one, in ms.
def effectivePeriod (configured : Nat) : Nat :=
  if configured = 0 then defaultPeriod else configured

theorem effectivePeriod_pos (configured : Nat) : 0 < effectivePeriod configured := by
  unfold effectivePeriod defaultPeriod
  split <;> omega

-- The scheduler's state: jobs by app name, whether it is closed, how many loops are
-- retiring, and the period of every loop it starts.
structure Table where
  jobs : List Job
  closed : Bool
  retiring : Nat
  period : Nat
  deriving Repr

namespace Table

-- An open table with no job, whose loops tick every `period` ms.
def empty (period : Nat) : Table :=
  { jobs := [], closed := false, retiring := 0, period := period }

def find? (t : Table) (app : String) : Option Job :=
  t.jobs.find? fun j => j.snapshot.appName == app

-- Files `j` under its app name; gives the job it replaces.
def put (t : Table) (j : Job) : Option Job × Table :=
  (t.find? j.snapshot.appName, { t with jobs := Keyed.insert (·.snapshot.appName) j t.jobs })

def erase (t : Table) (app : String) : Table :=
  { t with jobs := t.jobs.filter fun j => j.snapshot.appName != app }

def hasJob (t : Table) (app : String) : Bool :=
  (t.find? app).isSome

-- The running jobs as app name and service address, in increasing order of app name.
def view (t : Table) : List (String × String) :=
  t.jobs.map fun j => (j.snapshot.appName, j.snapshot.serviceIp)

end Table

end RouteWatch.Schedule
