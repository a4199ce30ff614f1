import RouteWatch.System.Basic

-- Running the tasks of the system.
namespace RouteWatch

open Schedule

-- When a live loop is next due: when its call ends, or else at its next deadline.
def Loop.due (l : Loop) : Nat :=
  l.callEnds.getD l.deadline

-- Whether a loop waits for time to pass.
def Loop.live (l : Loop) : Bool :=
  !l.exited && !l.cancelled

namespace System

-- Hands `e` to the listener of courier `c`. Gives the loop the courier must now wait for.
def deliver (s : System) (c : Nat) (listener : Listener) (e : Event Stamp) :
    Option Nat × System :=
  match listener with
  | .scheduler =>
    match e.kind with
    | .created | .updated => let (r, s) := s.startJob e.interest (some c); (r.2, s)
    | .deleted => s.stopJob e.key (some c)
  | .recorder k => (none, s.record k e)
  | .silent => (none, s)

-- Courier `c` hands over `queue`, the events still in its mailbox, until it is empty or an
-- update makes it wait for a loop. An empty mailbox that is no longer linked ends the courier.
def handOver (c : Nat) (listener : Listener) : List (Event Stamp) → System → System
  | [], s =>
    match s.couriers[c]? with
    | some k => s.setCourier c { k with queue := [], exited := !k.linked }
    | none => s
  | e :: rest, s =>
    let s := match s.couriers[c]? with
      | some k => s.setCourier c { k with queue := rest }
      | none => s
    match s.deliver c listener e with
    | (some l, s) =>
      match s.couriers[c]? with
      | some k => s.setCourier c { k with stage := .retiring l }
      | none => s
    | (none, s) => handOver c listener rest s

def loopExited (s : System) (n : Nat) : Bool :=
  match s.loops[n]? with
  | some l => l.exited
  | none => true

-- Runs courier `c`. A courier that waited for a loop which has exited finishes its update,
-- counting one retiring loop less, and goes on with its mailbox.
def runCourier (s : System) (c : Nat) : System :=
  match s.couriers[c]? with
  | none => s
  | some k =>
    if k.exited then s
    else
      match k.stage with
      | .retiring l =>
        if s.loopExited l then
          let s := (s.setCourier c { k with stage := .waiting }).endRetire
          handOver c k.listener k.queue s
        else s
      | .waiting => handOver c k.listener k.queue s

-- Loop `n`, holding no call, takes every tick due by now: each moves the deadline on and
-- starts a call, which ends at once when the executor has no delay. `fuel` bounds the number of
-- ticks; each tick moves the deadline past the one taken.
def takeTicks (n : Nat) : Nat → Loop → System → System
  | 0, l, s => s.setLoop n l
  | fuel + 1, l, s =>
    if l.deadline ≤ s.now then
      let l := { l with deadline := nextDeadline l.period l.deadline s.now }
      let s := { s with ledger := s.ledger.start s.executor s.now l.snapshot }
      if s.executor.delay = 0 then
        takeTicks n fuel l { s with ledger := s.ledger.finish }
      else
        s.setLoop n { l with callEnds := some (s.now + waitOf s.executor.delay) }
    else s.setLoop n l

-- Runs loop `n`. An exited loop does nothing. A cancelled one exits, dropping the call in flight,
-- and wakes the courier that waits for it: a loop is only cancelled while the table holds its
-- job, before it has exited, so no waiter is set on a loop that has already exited.
def runLoop (s : System) (n : Nat) : System :=
  match s.loops[n]? with
  | none => s
  | some l =>
    if l.exited then s
    else if l.cancelled then
      let s := s.setLoop n { l with exited := true, callEnds := none }
      match l.waiter with
      | some c => s.wake (.courier c)
      | none => s
    else
      let fuel := s.now + 1 - l.deadline
      match l.callEnds with
      | some e =>
        if e ≤ s.now then
          takeTicks n fuel { l with callEnds := none } { s with ledger := s.ledger.finish }
        else s
      | none => takeTicks n fuel l s

def runTask (s : System) : Task → System
  | .courier c => s.runCourier c
  | .loop n => s.runLoop n

-- Runs ready tasks, first in first, at most `fuel` of them.
def quiesceWith : Nat → System → System
  | 0, s => s
  | fuel + 1, s =>
    match s.ready with
    | [] => s
    | t :: rest => quiesceWith fuel ({ s with ready := rest }.runTask t)

-- A bound on the task runs before the ready queue empties: each event in a mailbox leads to
-- at most a few runs (the courier's, a new loop's first one, a cancelled loop's last one).
def workBound (s : System) : Nat :=
  s.ready.length + s.loops.length + s.couriers.length +
    8 * s.couriers.foldl (fun n k => n + k.queue.length) 0 + 2

-- Runs tasks until none is ready. Time does not move.
def quiesce (s : System) : System :=
  s.quiesceWith s.workBound

def nextDue (s : System) : Option Nat :=
  s.loops.foldl (fun acc l =>
    if l.live then some (match acc with | none => l.due | some a => min a l.due) else acc) none

def wakeDue (s : System) : System :=
  s.loops.zipIdx.foldl (fun s (l, n) =>
    if l.live && decide (l.due ≤ s.now) then s.wake (.loop n) else s) s

-- Steps through the moments before `target` at which a loop is due, running what each one
-- wakes. Each step moves time forward, so `fuel` steps past `target - now` are not needed.
def runUntil (target : Nat) : Nat → System → System
  | 0, s => s
  | fuel + 1, s =>
    match s.nextDue with
    | some d =>
      if d < target then runUntil target fuel { s with now := max d s.now }.wakeDue.quiesce
      else s
    | none => s

-- Lets `ms` milliseconds pass, as a timer waits them: what is ready runs first, then each
-- moment a loop is due comes in turn, and at the last moment the loops due are woken but not yet
-- run.
def advance (s : System) (ms : Nat) : System :=
  let wait := waitOf ms
  let target := s.now + wait
  let s := runUntil target (wait + 1) s.quiesce
  { s with now := target }.wakeDue

end System

end RouteWatch
