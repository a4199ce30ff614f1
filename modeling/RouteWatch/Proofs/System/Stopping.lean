import RouteWatch.Proofs.System.ShutdownLimit

-- Stopped loops and the return of a shutdown, whatever order the moves come in.
namespace RouteWatch

open Schedule

namespace System

variable {s s' : System}

section Stopped

-- Work at one moment keeps a loop that is no longer live so.
theorem Quiet.stays_stopped (h : Quiet s s') {n : Nat} {l : Loop} (hl : s.loops[n]? = some l)
    (hstop : l.live = false) : ∃ l', s'.loops[n]? = some l' ∧ l'.live = false := by
  obtain ⟨l', hl', hk⟩ := h.kept n l hl
  refine ⟨l', hl', ?_⟩
  cases hlive : l'.live
  · rfl
  · rw [(hk.timer hlive).1] at hstop
    cases hstop

-- A stopped loop that runs exits, if it has not yet.
theorem runLoop_exits_of_stopped {n : Nat} {l : Loop} (hn : s.loops[n]? = some l)
    (hstop : l.live = false) : ∃ l', (s.runLoop n).loops[n]? = some l' ∧ l'.exited = true := by
  have hlt := (List.getElem?_eq_some_iff.mp hn).1
  cases he : l.exited
  · rw [runLoop_of_cancelled s n hn he (Loop.cancelled_of_stopped hstop he)]
    refine ⟨{ l with exited := true, callEnds := none }, ?_, rfl⟩
    split <;> simp [hlt]
  · rw [runLoop_of_exited s n hn he]
    exact ⟨l, hn, he⟩

-- One move leaves a stopped loop stopped, and changes the ledger only by running another loop,
-- one that is live and ready.
theorem Move.stopped {x y : System × Nat} (hm : Move x y) {n : Nat} {l : Loop}
    (hl : x.1.loops[n]? = some l) (hstop : l.live = false) :
    (∃ l', y.1.loops[n]? = some l' ∧ l'.live = false) ∧
      (y.1.ledger ≠ x.1.ledger → ∃ m lm, m ≠ n ∧ x.1.loops[m]? = some lm ∧ lm.live = true ∧
        Task.loop m ∈ x.1.ready ∧ y.1 = { x.1 with ready := x.1.ready.erase (.loop m) }.runLoop m) := by
  -- quiet work, and any change that keeps the loops and the ledger, settles both at once
  have quiet : ∀ {s' : System} {P : Prop}, Quiet x.1 s' →
      (∃ l', s'.loops[n]? = some l' ∧ l'.live = false) ∧ (s'.ledger ≠ x.1.ledger → P) :=
    fun h => ⟨h.stays_stopped hl hstop, fun hne => absurd h.ledger hne⟩
  have kept : ∀ {s' : System} {P : Prop}, s'.loops = x.1.loops → s'.ledger = x.1.ledger →
      (∃ l', s'.loops[n]? = some l' ∧ l'.live = false) ∧ (s'.ledger ≠ x.1.ledger → P) :=
    fun hls hg => ⟨⟨l, hls ▸ hl, hstop⟩, fun hne => absurd hg hne⟩
  cases hm with
  | @run s p t ht =>
    have hpop : Quiet s { s with ready := s.ready.erase t } := Quiet.of_loops rfl rfl rfl rfl rfl
    cases t with
    | courier c => exact quiet (hpop.trans (quiet_runCourier _ c))
    | loop m =>
      rcases eq_or_ne m n with rfl | hmn
      · exact quiet (hpop.trans (quiet_runLoop_of_stopped hl hstop))
      · -- another loop runs: this one is untouched, and the ledger moves only if that one is live
        refine ⟨⟨l, by rw [runTask_loop, runLoop_loops_of_ne _ _ (Ne.symm hmn)]; exact hl, hstop⟩,
          fun hne => ?_⟩
        cases hlm : s.loops[m]? with
        | none =>
          have hsame := runLoop_of_none { s with ready := s.ready.erase (.loop m) } m hlm
          rw [runTask_loop, hsame] at hne
          exact absurd rfl hne
        | some lm =>
          cases hlive : lm.live
          · exact absurd (quiet_runLoop_of_stopped (s := { s with ready := s.ready.erase (.loop m) })
              hlm hlive).ledger hne
          · exact ⟨m, lm, hmn, hlm, hlive, ht, rfl⟩
  | stamp => exact kept rfl rfl
  | store r => exact kept rfl rfl
  | post e => exact kept (aside_post _ e).loops (aside_post _ e).ledger
  | openLog => exact kept rfl rfl
  | register id listener =>
    exact kept (aside_register _ id listener).loops (aside_register _ id listener).ledger
  | deregister id => exact kept (aside_deregister _ id).loops (aside_deregister _ id).ledger
  | restarted => exact kept rfl rfl
  | setTime x => exact kept rfl rfl
  | wakeDue => exact kept (aside_wakeDue _).loops (aside_wakeDue _).ledger
  | start i => exact quiet (quiet_startJob _ i none)
  | stop app => exact quiet (quiet_stopJob _ app none)
  | takeAll close => exact quiet (quiet_takeAllJobs _ close)
  | retired => exact kept rfl rfl

-- Over any run of moves a stopped loop stays stopped.
theorem stays_stopped {x y : System × Nat} (hxy : Relation.ReflTransGen Move x y) {n : Nat}
    {l : Loop} (hl : x.1.loops[n]? = some l) (hstop : l.live = false) :
    ∃ l', y.1.loops[n]? = some l' ∧ l'.live = false := by
  induction hxy with
  | refl => exact ⟨l, hl, hstop⟩
  | tail _ hm ih =>
    obtain ⟨l', hl', hstop'⟩ := ih
    exact (hm.stopped hl' hstop').1

-- In every reachable state, a loop whose job has left the table, wherever its timer stood when
-- it was stopped: if it has not exited it is ready, and its next run exits it without a call
-- started or ended and with no time passing, leaving every courier that waits for it ready; and
-- whatever moves come after, in any order, it stays stopped and every change to the ledger is a
-- run of another loop that is still live.
theorem cancelled_jobs_call_no_more (setup : Setup) {s : System} {p : Nat}
    (hs : Reachable setup s p) {n : Nat} {l : Loop} (hl : s.loops[n]? = some l)
    (hstop : l.live = false) :
    (l.exited = false → Task.loop n ∈ s.ready ∧
      let s₁ := { s with ready := s.ready.erase (.loop n) }.runLoop n
      (∃ l', s₁.loops[n]? = some l' ∧ l'.exited = true) ∧ s₁.ledger = s.ledger ∧ s₁.now = s.now ∧
        ∀ c k, s₁.couriers[c]? = some k → k.stage = .retiring n → Task.courier c ∈ s₁.ready) ∧
    ∀ x y, Relation.ReflTransGen Move (s, p) x → Move x y →
      (∃ l', x.1.loops[n]? = some l' ∧ l'.live = false) ∧
      (y.1.ledger ≠ x.1.ledger → ∃ m lm, m ≠ n ∧ x.1.loops[m]? = some lm ∧ lm.live = true ∧
        Task.loop m ∈ x.1.ready ∧ y.1 = { x.1 with ready := x.1.ready.erase (.loop m) }.runLoop m) := by
  refine ⟨fun he => ?_, fun x y hx hm => ?_⟩
  · have hready := hs.coherent.loops.cancelled_ready n l hl (Loop.cancelled_of_stopped hstop he) he
    have hpop : { s with ready := s.ready.erase (.loop n) }.loops[n]? = some l := hl
    have hq := quiet_runLoop_of_stopped hpop hstop
    obtain ⟨l', hl', hexit⟩ := runLoop_exits_of_stopped hpop hstop
    -- the run is a move, so the state after it is coherent: its waiters are woken
    have hr₁ : Reachable setup ({ s with ready := s.ready.erase (.loop n) }.runTask (.loop n)) p :=
      Relation.ReflTransGen.tail hs (Move.run hready)
    have hc₁ := hr₁.coherent
    refine ⟨hready, ⟨l', hl', hexit⟩, hq.ledger, hq.now, fun c k hk hst => ?_⟩
    exact hc₁.couriers.woken c k n l' hk hst hl' hexit
  · obtain ⟨l', hl', hstop'⟩ := stays_stopped hx hl hstop
    exact ⟨⟨l', hl', hstop'⟩, (hm.stopped hl' hstop').2⟩

theorem cancelled_jobs_call_no_more_mid_stop :
    let setup : Setup := ⟨100, 10000, ⟨0, []⟩, [], Parts.all⟩
    let s := ((setup.after [⟨[], .ok (.startJob "web" "1"), true⟩]).system.stopJob "web" none).2
    ∃ l, s.loops[0]? = some l ∧ l.live = false ∧ l.exited = false ∧
      (l.exited = false → Task.loop 0 ∈ s.ready ∧
        let s₁ := { s with ready := s.ready.erase (.loop 0) }.runLoop 0
        (∃ l', s₁.loops[0]? = some l' ∧ l'.exited = true) ∧ s₁.ledger = s.ledger ∧
          s₁.now = s.now ∧
          ∀ c k, s₁.couriers[c]? = some k → k.stage = .retiring 0 → Task.courier c ∈ s₁.ready) ∧
      ∀ x y, Relation.ReflTransGen Move (s, 1) x → Move x y →
        (∃ l', x.1.loops[0]? = some l' ∧ l'.live = false) ∧
        (y.1.ledger ≠ x.1.ledger → ∃ m lm, m ≠ 0 ∧ x.1.loops[m]? = some lm ∧ lm.live = true ∧
          Task.loop m ∈ x.1.ready ∧
          y.1 = { x.1 with ready := x.1.ready.erase (.loop m) }.runLoop m) := by
  intro setup s
  -- the caller's stop has taken the job out and waits for its loop
  have hs := (after_reachable setup [⟨[], .ok (.startJob "web" "1"), true⟩]).tail (.stop "web")
  have hp : (0 + (((setup.after [⟨[], .ok (.startJob "web" "1"), true⟩]).system.stopJob "web"
      none).1).elim 0 fun _ => 1) = 1 := by decide
  rw [hp] at hs
  have hlive : s.loops[0]?.map Loop.live = some false := by decide
  have hexit : s.loops[0]?.map Loop.exited = some false := by decide
  cases hl : s.loops[0]? with
  | none =>
    rw [hl] at hlive
    cases hlive
  | some l =>
    rw [hl, Option.map_some, Option.some.injEq] at hlive hexit
    exact ⟨l, rfl, hlive, hexit, cancelled_jobs_call_no_more setup hs hl hlive⟩

end Stopped

section Closing

-- When a shutdown's wait is over, whatever moves came in between and in whatever order: every
-- loop it took out has exited and no loop is counted as retiring. Then the scheduler is closed
-- with no job and no caller's retirement open; a loop that has not exited was already stopped,
-- exactly as it stands, when the shutdown began, and no courier waits for it; and whatever
-- moves come after, no call is started or ended and every start is refused.
theorem closing_stops_scheduler (setup : Setup) {s : System} {p : Nat}
    (hs : Reachable setup s p) {s' : System} {p' : Nat}
    (hrun : Relation.ReflTransGen Move ((s.takeAllJobs true).2, p) (s', p'))
    (hacked : ∀ j ∈ s.table.jobs, s'.loopExited j.loop = true) (hcount : s'.table.retiring = 0) :
    s'.table.jobs = [] ∧ s'.table.closed = true ∧ p' = 0 ∧
      (∀ (n : Nat) (l : Loop), s'.loops[n]? = some l → l.exited = false →
        l.cancelled = true ∧ l.waiter = none ∧ s.loops[n]? = some l) ∧
      ∀ s'' p'', Relation.ReflTransGen Move (s', p') (s'', p'') →
        s''.ledger = s'.ledger ∧ s''.table.jobs = [] ∧
          ∀ i w, s''.startJob i w = ((false, none), s'') := by
  have hc' : Coherent s' p' :=
    Reachable.coherent (Relation.ReflTransGen.trans (Relation.ReflTransGen.tail hs (.takeAll true)) hrun)
  obtain ⟨hhalt, -, hloops⟩ := hs.coherent.loops.halted_takeAllJobs.moves hrun
  -- a zero count leaves no courier inside an update and no caller waiting
  have hcounted := hc'.couriers.count
  have hnone : s'.couriers.countP Courier.inUpdate = 0 := by omega
  refine ⟨hhalt.shut.jobs, hhalt.shut.closed, by omega, fun n l hl he => ?_,
    fun s'' p'' hmore => ?_⟩
  · have hcan := Loop.cancelled_of_stopped (hhalt.idle l (List.mem_of_getElem? hl)) he
    have hw := hc'.couriers.waiter_eq_none hnone hl hcan he
    -- it stands as it did when the jobs were taken out, and it was none of theirs
    have hbefore := hloops n l hl he
    simp only [takeAllJobs_eq, cancelAll_loops] at hbefore
    split at hbefore
    · rename_i hmem
      obtain ⟨j, hj, rfl⟩ := List.mem_map.mp hmem
      have hx := hacked j hj
      simp [loopExited, hl, he] at hx
    · exact ⟨hcan, hw, hbefore⟩
  · obtain ⟨hh, hg, -⟩ := hhalt.moves hmore
    exact ⟨hg, hh.shut.jobs, fun i w => hh.shut.startJob i w⟩

theorem closing_stops_scheduler_after_a_start :
    let setup : Setup := ⟨100, 10000, ⟨0, []⟩, [], Parts.all⟩
    let s := (setup.after [⟨[], .ok (.startJob "web" "1"), true⟩]).system
    let s' := (s.takeAllJobs true).2.quiesce
    (∀ j ∈ s.table.jobs, s'.loopExited j.loop = true) ∧ s'.table.retiring = 0 ∧
      s'.table.jobs = [] ∧ s'.table.closed = true ∧ 0 = 0 ∧
      (∀ (n : Nat) (l : Loop), s'.loops[n]? = some l → l.exited = false →
        l.cancelled = true ∧ l.waiter = none ∧ s.loops[n]? = some l) ∧
      ∀ s'' p'', Relation.ReflTransGen Move (s', 0) (s'', p'') →
        s''.ledger = s'.ledger ∧ s''.table.jobs = [] ∧
          ∀ i w, s''.startJob i w = ((false, none), s'') := by
  intro setup s s'
  have hacked : ∀ j ∈ s.table.jobs, s'.loopExited j.loop = true := by decide
  have hcount : s'.table.retiring = 0 := by decide
  exact ⟨hacked, hcount,
    closing_stops_scheduler setup (after_reachable setup _) (moves_quiesce _ 0) hacked hcount⟩

-- A stop of every job that has taken the table out and still waits for the loop it stopped,
-- which counts it nowhere: a shutdown then finds no job and no retiring loop, so it is over at
-- once, while that loop has not exited.
theorem shutdown_returns_while_a_stopped_loop_runs :
    let setup : Setup := ⟨100, 10000, ⟨0, []⟩, [], Parts.all⟩
    let s := ((setup.after [⟨[], .ok (.startJob "web" "1"), true⟩]).system.takeAllJobs false).2
    Reachable setup s 0 ∧ s.shutdown = (.ok (), (s.takeAllJobs true).2) ∧
      (s.takeAllJobs true).2.table.retiring = 0 ∧
      ∃ l ∈ (s.takeAllJobs true).2.loops, l.exited = false := by
  intro setup s
  refine ⟨(after_reachable setup _).tail (.takeAll false), ?_, by decide, by decide⟩
  rw [shutdown_of_scheduler (by decide), if_pos (by decide)]

end Closing

end System

end RouteWatch
