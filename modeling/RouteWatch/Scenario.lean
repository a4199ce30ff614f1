import RouteWatch.System.Control
import RouteWatch.Text.Duration

-- Scenarios: a system booted from a setup, then driven step by step.
namespace RouteWatch

open Schedule

-- The id the scheduler registers under.
def schedulerId : String := "TaskSchedulerObserver"

structure Setup where
  -- The configured period of the jobs, in ms; 0 means the default period.
  period : Nat
  -- How long a shutdown may take, in ms.
  shutdownLimit : Nat
  executor : Executor
  -- App names and addresses stored at the start; a later one replaces an earlier one of the
  -- same app name.
  seed : List (String × String)
  parts : Parts
  deriving Repr

-- The system of a setup: the seed stored, the scheduler registered with the hub, nothing
-- run yet.
def Setup.boot (setup : Setup) : System :=
  let seeds := setup.seed.zipIdx.map fun ((app, ip), n) => Interest.new app ip n
  let s : System :=
    { now := 0, clock := seeds.length, store := Registry.ofList seeds, hub := Hub.empty,
      couriers := [], table := Table.empty (effectivePeriod setup.period), loops := [],
      ready := [], executor := setup.executor, ledger := Ledger.empty, logs := [],
      parts := setup.parts, restarted := false, shutdownLimit := setup.shutdownLimit }
  s.register schedulerId .scheduler

-- The actions a step can take.
inductive Action where
  | create (app ip : String)
  | update (app ip : String)
  | removeApp (app : String)
  | removeIp (ip : String)
  | findApp (app : String)
  | findIp (ip : String)
  | list
  | registerRecorder (id : String)
  | registerSilent (id : String)
  | registerScheduler
  | deregister (id : String)
  | publish (kind : EventKind) (app ip : String)
  | hubSize
  | recorded (id : String)
  | startJob (app ip : String)
  | stopJob (app : String)
  | stopAll
  | closeScheduler
  | observe (kind : EventKind) (app ip : String)
  | hasJob (app : String)
  | snapshot (app : String)
  | schedulerState
  | restart
  | shutdown
  | advance (ms : Nat)
  | calls
  | callsFor (app : String)
  | completed
  deriving Repr

-- Why a step was not run.
inductive Refusal where
  | noService
  | noSubject
  | noScheduler
  | unknownRecorder
  deriving DecidableEq, Repr

def Refusal.message : Refusal → String
  | .noService => "service is missing"
  | .noSubject => "subject is missing"
  | .noScheduler => "scheduler is missing"
  | .unknownRecorder => "no recorder registered under that id"

-- A part of the system that a step may need.
inductive Part where
  | service
  | subject
  | scheduler
  deriving DecidableEq, Repr

-- Whether the system holds a part.
def Parts.has (ps : Parts) : Part → Bool
  | .service => ps.service
  | .subject => ps.subject
  | .scheduler => ps.scheduler

-- The refusal of a step that needs a part the system lacks.
def Part.missing : Part → Refusal
  | .service => .noService
  | .subject => .noSubject
  | .scheduler => .noScheduler

-- What the scheduler tells about itself.
structure SchedulerState where
  active : Nat
  closed : Bool
  retiring : Nat
  period : Nat
  id : String
  deriving Repr

def System.ShutdownError.message : System.ShutdownError → String
  | .timedOut limit => "Shutdown did not complete within " ++ Text.millisText limit

inductive Reply where
  | none
  | flag (b : Bool)
  | count (n : Nat)
  | changed (r : Except ServiceError (Interest Stamp))
  | found (r : Option (Interest Stamp))
  | listed (l : List (Interest Stamp))
  | hubSize (n : Nat)
  | events (l : List (Event Stamp))
  | snapshot (i : Option (Interest Stamp))
  | state (st : SchedulerState)
  | calls (l : List Call)
  | shutdown (r : Except System.ShutdownError Unit)
  | refused (r : Refusal)
  -- A step that could not be read; the message says why.
  | unreadable (message : String)
  deriving Repr

-- A step as given: the parts it needs before its fields are read, its action or why it could
-- not be read, and whether to settle after it.
structure Step where
  needsFirst : List Part
  action : Except String Action
  settle : Bool
  deriving Repr

-- What a scenario answers for one step.
structure Answer where
  reply : Reply
  -- The running jobs as app name and address, or nothing without the scheduler part.
  jobs : Option (List (String × String))
  calls : Nat
  time : Nat
  deriving Repr

-- A scenario in progress: the system and the recorder each id was last given.
structure Scenario where
  system : System
  recorders : List (String × Nat)
  deriving Repr

-- Calls ordered by start time, then app name, then address.
def Call.before (a b : Call) : Bool :=
  a.time < b.time || (a.time == b.time &&
    (a.appName < b.appName || (a.appName == b.appName && decide (a.serviceIp ≤ b.serviceIp))))

namespace Scenario

-- Runs `f` if the system holds the part, else refuses.
def need (sc : Scenario) (has : Bool) (why : Refusal) (f : Scenario → Reply × Scenario) :
    Reply × Scenario :=
  if has then f sc else (.refused why, sc)

-- Runs an operation of the system that also gives a reply.
def onSystem (sc : Scenario) {α : Type} (f : System → α × System) (reply : α → Reply) :
    Reply × Scenario :=
  let (a, s) := f sc.system
  (reply a, { sc with system := s })

-- Runs an operation of the system that gives nothing.
def onSystem_ (sc : Scenario) (f : System → System) : Reply × Scenario :=
  (.none, { sc with system := f sc.system })

def perform (sc : Scenario) : Action → Reply × Scenario
  | .create app ip => sc.need sc.system.parts.service .noService fun sc =>
      sc.onSystem (·.create ⟨app, ip⟩) .changed
  | .update app ip => sc.need sc.system.parts.service .noService fun sc =>
      sc.onSystem (·.update ⟨app, ip⟩) .changed
  | .removeApp app => sc.need sc.system.parts.service .noService fun sc =>
      sc.onSystem (·.removeApp app) .changed
  | .removeIp ip => sc.need sc.system.parts.service .noService fun sc =>
      sc.onSystem (·.removeIp ip) .changed
  | .findApp app => sc.need sc.system.parts.service .noService fun sc =>
      (.found (sc.system.store.find? app), sc)
  | .findIp ip => sc.need sc.system.parts.service .noService fun sc =>
      (.found (sc.system.store.findByIp? ip), sc)
  | .list => sc.need sc.system.parts.service .noService fun sc =>
      (.listed sc.system.store.toList, sc)
  | .registerRecorder id => sc.need sc.system.parts.subject .noSubject fun sc =>
      let (k, s) := sc.system.openLog
      (.none, { system := s.register id (.recorder k),
                recorders := (id, k) :: sc.recorders.filter (·.1 != id) })
  | .registerSilent id => sc.need sc.system.parts.subject .noSubject fun sc =>
      sc.onSystem_ (·.register id .silent)
  | .registerScheduler => sc.need sc.system.parts.subject .noSubject fun sc =>
      sc.need sc.system.parts.scheduler .noScheduler fun sc =>
        sc.onSystem_ (·.register schedulerId .scheduler)
  | .deregister id => sc.need sc.system.parts.subject .noSubject fun sc =>
      sc.onSystem_ (·.deregister id)
  | .publish kind app ip => sc.need sc.system.parts.subject .noSubject fun sc =>
      sc.onSystem_ (·.publish kind app ip)
  | .hubSize => sc.need sc.system.parts.subject .noSubject fun sc =>
      (.hubSize sc.system.hub.size, sc)
  | .recorded id =>
      match sc.recorders.lookup id with
      | some k => (.events (sc.system.logs.getD k []), sc)
      | none => (.refused .unknownRecorder, sc)
  | .startJob app ip => sc.need sc.system.parts.scheduler .noScheduler fun sc =>
      let (now, s) := sc.system.stamp
      ({ sc with system := s }).onSystem (·.startJobNow (Interest.new app ip now)) .flag
  | .stopJob app => sc.need sc.system.parts.scheduler .noScheduler fun sc =>
      sc.onSystem (·.stopJobNow app) .flag
  | .stopAll => sc.need sc.system.parts.scheduler .noScheduler fun sc =>
      sc.onSystem (·.drain false) .count
  | .closeScheduler => sc.need sc.system.parts.scheduler .noScheduler fun sc =>
      sc.onSystem_ fun s => (s.drain true).2
  | .observe kind app ip => sc.need sc.system.parts.scheduler .noScheduler fun sc =>
      let (now, s) := sc.system.stamp
      ({ sc with system := s }).onSystem_ (·.observe ⟨kind, Interest.new app ip now⟩)
  | .hasJob app => sc.need sc.system.parts.scheduler .noScheduler fun sc =>
      (.flag (sc.system.table.hasJob app), sc)
  | .snapshot app => sc.need sc.system.parts.scheduler .noScheduler fun sc =>
      (.snapshot ((sc.system.table.find? app).map (·.snapshot)), sc)
  | .schedulerState => sc.need sc.system.parts.scheduler .noScheduler fun sc =>
      let t := sc.system.table
      (.state ⟨t.jobs.length, t.closed, t.retiring, t.period, schedulerId⟩, sc)
  | .restart => sc.onSystem (·.restart) .count
  | .shutdown => sc.onSystem (·.shutdown) .shutdown
  | .advance ms => sc.onSystem_ (·.advance ms)
  | .calls => (.calls (sc.system.ledger.calls.mergeSort Call.before), sc)
  | .callsFor app => (.count (sc.system.ledger.calls.countP (·.appName == app)), sc)
  | .completed => (.count sc.system.ledger.completed, sc)

-- The answer for a step whose reply is `reply`, read off the scenario after it.
def answer (sc : Scenario) (reply : Reply) : Answer :=
  { reply := reply,
    jobs := if sc.system.parts.scheduler then some sc.system.table.view else none,
    calls := sc.system.ledger.total,
    time := sc.system.now }

-- Runs one step: the parts it needs first, its action, then the settling if asked.
def step (sc : Scenario) (st : Step) : Answer × Scenario :=
  let (reply, sc) : Reply × Scenario :=
    match st.needsFirst.find? (!sc.system.parts.has ·), st.action with
    | some p, _ => (.refused p.missing, sc)
    | none, .ok a => sc.perform a
    | none, .error m => (.unreadable m, sc)
  let sc := if st.settle then { sc with system := sc.system.quiesce } else sc
  (sc.answer reply, sc)

def runSteps : Scenario → List Step → List Answer
  | _, [] => []
  | sc, st :: rest =>
    let (a, sc) := sc.step st
    a :: runSteps sc rest

end Scenario

def runScenario (setup : Setup) (steps : List Step) : List Answer :=
  Scenario.runSteps ⟨setup.boot, []⟩ steps

end RouteWatch
