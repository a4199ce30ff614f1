import RouteWatch.Interest
import RouteWatch.Service.Registry
import RouteWatch.Hub
import RouteWatch.Schedule.Tick
import RouteWatch.Schedule.Table

-- The running system as tasks on one cooperative thread.
namespace RouteWatch

open Schedule

-- One executor call, started at `time` for an interest; `failed` says whether the executor
-- reports a failure for it.
structure Call where
  time : Nat
  appName : String
  serviceIp : String
  failed : Bool
  deriving DecidableEq, Repr

-- The health-check executor of the jobs: a call takes `delay` ms (0: it ends when it starts),
-- cut to the longest wait of a timer, and the call numbered `n` (from 1) for an app fails when
-- `(app, n)` is in `failures`.
structure Executor where
  delay : Nat
  failures : List (String × Nat)
  deriving Repr

-- The calls started so far, newest first, how many each app had, and how many ran to the
-- end.
structure Ledger where
  started : List Call
  perApp : List (String × Nat)
  total : Nat
  completed : Nat
  deriving Repr

namespace Ledger

def empty : Ledger := { started := [], perApp := [], total := 0, completed := 0 }

def start (l : Ledger) (ex : Executor) (now : Nat) (i : Interest Stamp) : Ledger :=
  let nth := (l.perApp.lookup i.appName).getD 0 + 1
  let call : Call := ⟨now, i.appName, i.serviceIp, ex.failures.contains (i.appName, nth)⟩
  { l with
    started := call :: l.started
    perApp := (i.appName, nth) :: l.perApp.filter (·.1 != i.appName)
    total := l.total + 1 }

def finish (l : Ledger) : Ledger :=
  { l with completed := l.completed + 1 }

def calls (l : Ledger) : List Call :=
  l.started.reverse

end Ledger

inductive Listener where
  -- The job scheduler: a creation or update starts a job, a deletion stops one.
  | scheduler
  -- A recorder, which keeps every event it gets in log number `log`.
  | recorder (log : Nat)
  -- An observer that does nothing with what it gets.
  | silent
  deriving DecidableEq, Repr

-- Where a courier stands between two runs.
inductive Stage where
  -- Between two events.
  | waiting
  -- Inside the scheduler's handling of an event, waiting for loop `loop` to exit.
  | retiring (loop : Nat)
  deriving DecidableEq, Repr

-- The delivery task of one mailbox. `linked` is false once the hub let go of the mailbox:
-- the courier then hands over what is left and exits.
structure Courier where
  listener : Listener
  queue : List (Event Stamp)
  linked : Bool
  stage : Stage
  exited : Bool
  deriving Repr

-- The timer loop of one job. It waits for its next `deadline`, then calls the executor with
-- its snapshot; `callEnds` is when the call in flight ends. Once `cancelled` it makes no call,
-- drops the call in flight, and exits when it next runs, waking the courier in `waiter`.
structure Loop where
  snapshot : Interest Stamp
  period : Nat
  deadline : Nat
  callEnds : Option Nat
  cancelled : Bool
  exited : Bool
  waiter : Option Nat
  deriving Repr

inductive Task where
  | courier (n : Nat)
  | loop (n : Nat)
  deriving DecidableEq, Repr

-- Which of the three parts the system holds. A part it lacks still exists and keeps its
-- links; the system only cannot reach it.
structure Parts where
  service : Bool
  subject : Bool
  scheduler : Bool
  deriving DecidableEq, Repr

def Parts.all : Parts := ⟨true, true, true⟩

structure System where
  -- Milliseconds since the start.
  now : Nat
  -- The next moment of record.
  clock : Stamp
  store : Registry Stamp
  hub : Hub
  couriers : List Courier
  table : Table
  loops : List Loop
  -- Tasks that can make progress, first to run first.
  ready : List Task
  executor : Executor
  ledger : Ledger
  -- The logs of the recorders, each in delivery order.
  logs : List (List (Event Stamp))
  parts : Parts
  -- Whether the one resync after a restart has been used.
  restarted : Bool
  -- How long a shutdown may take, in ms.
  shutdownLimit : Nat
  deriving Repr

namespace System

def setLoop (s : System) (n : Nat) (l : Loop) : System :=
  { s with loops := s.loops.set n l }

def setCourier (s : System) (n : Nat) (k : Courier) : System :=
  { s with couriers := s.couriers.set n k }

-- Puts `t` at the back of the ready queue, unless it waits there already.
def wake (s : System) (t : Task) : System :=
  if s.ready.contains t then s else { s with ready := s.ready ++ [t] }

def stamp (s : System) : Stamp × System :=
  (s.clock, { s with clock := s.clock + 1 })

-- Starts the timer loop of a job for `i`; its first deadline is one period from now. The new
-- loop is woken for its first run.
def spawnLoop (s : System) (i : Interest Stamp) : Nat × System :=
  let n := s.loops.length
  let l : Loop :=
    { snapshot := i, period := s.table.period, deadline := s.now + s.table.period,
      callEnds := none, cancelled := false, exited := false, waiter := none }
  (n, { s with loops := s.loops ++ [l] }.wake (.loop n))

-- Signals loop `n` to stop, to be awaited by courier `waiter` if given.
def cancelLoop (s : System) (n : Nat) (waiter : Option Nat) : System :=
  match s.loops[n]? with
  | none => s
  | some l => (s.setLoop n { l with cancelled := true, waiter := waiter }).wake (.loop n)

def beginRetire (s : System) : System :=
  { s with table := { s.table with retiring := s.table.retiring + 1 } }

-- Counts one retiring loop less, never below zero.
def endRetire (s : System) : System :=
  { s with table := { s.table with retiring := s.table.retiring - 1 } }

-- The atomic part of starting a job for `i`. A closed table refuses. Otherwise a new loop is
-- started and filed; the job it replaces has its loop cancelled and counted as retiring, and that
-- loop is what the caller must wait for.
def startJob (s : System) (i : Interest Stamp) (waiter : Option Nat) :
    (Bool × Option Nat) × System :=
  if s.table.closed then ((false, none), s)
  else
    let (n, s) := s.spawnLoop i
    let (old, table) := s.table.put ⟨i, n⟩
    let s := { s with table := table }
    match old with
    | none => ((true, none), s)
    | some j => ((true, some j.loop), (s.cancelLoop j.loop waiter).beginRetire)

-- The atomic part of stopping the job of `app`: its loop is cancelled and counted as
-- retiring, and the caller must wait for it.
def stopJob (s : System) (app : String) (waiter : Option Nat) : Option Nat × System :=
  match s.table.find? app with
  | none => (none, s)
  | some j =>
    (some j.loop, ({ s with table := s.table.erase app }.cancelLoop j.loop waiter).beginRetire)

-- The atomic part of a drain: closes the table if `close`, takes every job out and cancels
-- its loop. Gives the number of jobs taken.
def takeAllJobs (s : System) (close : Bool) : Nat × System :=
  let jobs := s.table.jobs
  let s := { s with table := { s.table with jobs := [], closed := s.table.closed || close } }
  (jobs.length, jobs.foldl (fun s j => s.cancelLoop j.loop none) s)

def record (s : System) (k : Nat) (e : Event Stamp) : System :=
  { s with logs := s.logs.modify k (· ++ [e]) }

-- Puts `e` in mailbox `m`; a courier waiting for mail is woken.
def send (s : System) (m : Nat) (e : Event Stamp) : System :=
  match s.couriers[m]? with
  | none => s
  | some k =>
    let s := s.setCourier m { k with queue := k.queue ++ [e] }
    if k.stage = .waiting then s.wake (.courier m) else s

-- Publishes `e` to every linked mailbox.
def post (s : System) (e : Event Stamp) : System :=
  s.hub.mailboxes.foldl (fun s m => s.send m e) s

-- Lets go of mailbox `m`: its courier hands over what is left and exits.
def release (s : System) (m : Nat) : System :=
  match s.couriers[m]? with
  | none => s
  | some k =>
    let s := s.setCourier m { k with linked := false }
    if k.stage = .waiting then s.wake (.courier m) else s

-- Registers `listener` under `id` with a new mailbox, in place of the mailbox `id` had.
def register (s : System) (id : String) (listener : Listener) : System :=
  let m := s.couriers.length
  let k : Courier :=
    { listener := listener, queue := [], linked := true, stage := .waiting, exited := false }
  let old := s.hub.mailbox? id
  let s := { s with couriers := s.couriers ++ [k], hub := s.hub.link id m }.wake (.courier m)
  match old with
  | some o => s.release o
  | none => s

-- Removes `id` from the hub; an unknown id changes nothing.
def deregister (s : System) (id : String) : System :=
  match s.hub.mailbox? id with
  | some o => { s with hub := s.hub.unlink id }.release o
  | none => s

-- Opens a new recorder log; gives its number.
def openLog (s : System) : Nat × System :=
  (s.logs.length, { s with logs := s.logs ++ [[]] })

end System

end RouteWatch
