import RouteWatch.System.Tasks
import RouteWatch.Service.Basic

-- What a caller of the system does, step by step.
namespace RouteWatch

open Schedule

namespace System

-- Runs a service change stamped with the next moment; on success the store takes the change
-- and its event is published.
def change (s : System)
    (f : Registry Stamp → Stamp → Except ServiceError (Change Stamp)) :
    Except ServiceError (Interest Stamp) × System :=
  let (now, s') := s.stamp
  match f s.store now with
  | .error e => (.error e, s)
  | .ok c => (.ok c.result, { s' with store := c.store }.post c.event)

def create (s : System) (req : Request) : Except ServiceError (Interest Stamp) × System :=
  s.change fun r now => Service.create r req now

def update (s : System) (req : Request) : Except ServiceError (Interest Stamp) × System :=
  s.change fun r now => Service.update r req now

def removeApp (s : System) (app : String) : Except ServiceError (Interest Stamp) × System :=
  s.change fun r _ => Service.removeApp r app

-- Removes the interest routed to an address that has the least app name.
def removeIp (s : System) (ip : String) : Except ServiceError (Interest Stamp) × System :=
  s.change fun r _ => Service.removeIp r ip

def publish (s : System) (kind : EventKind) (app ip : String) : System :=
  let (now, s) := s.stamp
  s.post ⟨kind, Interest.new app ip now⟩

-- The caller waits for the loop it cancelled, then counts it as retired.
def awaitRetire (s : System) : System :=
  s.quiesce.endRetire

-- Starts a job for `i`, waiting for the loop of a job it replaces. Gives false when the
-- scheduler is closed.
def startJobNow (s : System) (i : Interest Stamp) : Bool × System :=
  match s.startJob i none with
  | ((b, some _), s) => (b, s.awaitRetire)
  | ((b, none), s) => (b, s)

-- Stops the job of `app` and waits for its loop. Gives whether there was one.
def stopJobNow (s : System) (app : String) : Bool × System :=
  match s.stopJob app none with
  | (some _, s) => (true, s.awaitRetire)
  | (none, s) => (false, s)

-- Hands the scheduler an event, as its mailbox would.
def observe (s : System) (e : Event Stamp) : System :=
  match e.kind with
  | .created | .updated => (s.startJobNow e.interest).2
  | .deleted => (s.stopJobNow e.key).2

-- Whether a drain whose atomic part took `n` jobs has to wait.
def drainWaits (s : System) (n : Nat) : Bool :=
  0 < n || s.table.retiring != 0

-- Stops every job and waits for their loops and for every retiring loop; closes the
-- scheduler if `close`. Gives the number of jobs stopped.
def drain (s : System) (close : Bool) : Nat × System :=
  let (n, s) := s.takeAllJobs close
  (n, if s.drainWaits n then s.quiesce else s)

-- Resyncs the jobs with the store, once: stops every job and publishes a creation for each
-- stored interest. A later call, or one without all three parts, does nothing and gives 0; the
-- first call uses up the resync either way.
def restart (s : System) : Nat × System :=
  if s.restarted then (0, s)
  else
    let s := { s with restarted := true }
    if !(s.parts.service && s.parts.subject && s.parts.scheduler) then (0, s)
    else
      let s := (s.drain false).2
      let items := s.store.toList
      (items.length, items.foldl (fun s i => s.post ⟨.created, i⟩) s)

inductive ShutdownError where
  -- The scheduler did not stop within the limit, in ms.
  | timedOut (limit : Nat)
  deriving DecidableEq, Repr

-- Closes the scheduler and stops its jobs. The drain is tried once before the limit is
-- checked: a limit of 0 fails as soon as the drain has to wait, and the scheduler is left closed
-- with no job. A longer limit is always met, since the loops exit without time passing. Without
-- the scheduler part there is nothing to do.
def shutdown (s : System) : Except ShutdownError Unit × System :=
  if !s.parts.scheduler then (.ok (), s)
  else
    let (n, s) := s.takeAllJobs true
    if s.drainWaits n then
      if s.shutdownLimit = 0 then (.error (.timedOut s.shutdownLimit), s)
      else (.ok (), s.quiesce)
    else (.ok (), s)

end System

end RouteWatch
