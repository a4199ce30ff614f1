import RouteWatch.Proofs.System.Retiring

-- Closing the scheduler stops it for good.
namespace RouteWatch

open Schedule

namespace System

variable {s : System}

section Idle

-- With no courier inside an update, no courier waits for a cancelled loop that has not exited.
theorem CouriersSound.waiter_eq_none {p : Nat} (h : CouriersSound s p)
    (hnone : s.couriers.countP Courier.inUpdate = 0) {n : Nat} {l : Loop}
    (hl : s.loops[n]? = some l) (hc : l.cancelled = true) (he : l.exited = false) :
    l.waiter = none := by
  cases hw : l.waiter with
  | none => rfl
  | some c =>
    obtain ⟨k, hk, hst⟩ := h.awaited n l c hl hc he hw
    have hup : k.inUpdate = true := by simp [Courier.inUpdate, hst]
    rw [List.countP_eq_zero] at hnone
    exact absurd hup (hnone k (List.mem_of_getElem? hk))

-- With no job and nothing retiring, no loop is left to exit: a cancelled one would have a
-- courier inside an update waiting for it, which the count would show.
theorem Steady.exited_of_idle (h : Steady s) (hj : s.table.jobs = []) (hr : s.table.retiring = 0) :
    ∀ l ∈ s.loops, l.exited = true := by
  have hnone : s.couriers.countP Courier.inUpdate = 0 := by
    have := h.couriers.count
    omega
  intro l hl
  obtain ⟨n, hn⟩ := List.mem_iff_getElem?.mp hl
  cases he : l.exited
  · cases hc : l.cancelled
    · obtain ⟨j, hj', -⟩ := h.loops.live_filed n l hn hc he
      rw [hj] at hj'
      cases hj'
    · exact absurd (h.couriers.waiter_eq_none hnone hn hc he) (h.orphans n l hn hc he)
  · rfl

-- Once nothing is ready, no courier is inside an update: its loop would be ready to exit, or
-- would have exited and woken it.
theorem CouriersSound.countP_of_settled {p : Nat} (h : CouriersSound s p) (hs : LoopsSound s)
    (hr : s.ready = []) : s.couriers.countP Courier.inUpdate = 0 := by
  rw [List.countP_eq_zero]
  intro k hk hup
  obtain ⟨c, hc⟩ := List.mem_iff_getElem?.mp hk
  cases hst : k.stage with
  | waiting => simp [Courier.inUpdate, hst] at hup
  | retiring n =>
    obtain ⟨-, lp, hlp, hcan, -⟩ := h.awaits c k n hc hst
    have hwoken := h.woken c k n lp hc hst hlp (hs.exited_of_settled hr hlp hcan)
    rw [hr] at hwoken
    cases hwoken

end Idle

-- `s'` has the job table's jobs and flag, the loops and the ledger of `s`.
structure Still (s s' : System) : Prop where
  closed : s'.table.closed = s.table.closed
  jobs : s'.table.jobs = s.table.jobs
  loops : s'.loops = s.loops
  ledger : s'.ledger = s.ledger

namespace Still

@[refl] theorem refl (s : System) : Still s s :=
  ⟨rfl, rfl, rfl, rfl⟩

@[trans] theorem trans {s' s'' : System} (h : Still s s') (h' : Still s' s'') : Still s s'' :=
  ⟨h'.closed.trans h.closed, h'.jobs.trans h.jobs, h'.loops.trans h.loops, h'.ledger.trans h.ledger⟩

theorem of_aside {s' : System} (h : Aside s s') : Still s s' :=
  ⟨by rw [h.table], by rw [h.table], h.loops, h.ledger⟩

theorem setCourier (s : System) (c : Nat) (k : Courier) : Still s (s.setCourier c k) :=
  ⟨rfl, rfl, rfl, rfl⟩

theorem endRetire (s : System) : Still s s.endRetire :=
  ⟨rfl, rfl, rfl, rfl⟩

end Still

-- A shut scheduler: closed, with no job.
structure Shut (s : System) : Prop where
  closed : s.table.closed = true
  jobs : s.table.jobs = []

namespace Shut

theorem still (h : Shut s) {s' : System} (hs : Still s s') : Shut s' :=
  ⟨hs.closed.trans h.closed, hs.jobs.trans h.jobs⟩

theorem startJob (h : Shut s) (i : Interest Stamp) (w : Option Nat) :
    s.startJob i w = ((false, none), s) :=
  startJob_of_closed s i w h.closed

theorem stopJob (h : Shut s) (app : String) (w : Option Nat) : s.stopJob app w = (none, s) := by
  simp [System.stopJob, Table.find?, h.jobs]

theorem takeAllJobs (h : Shut s) (close : Bool) : Still s (s.takeAllJobs close).2 := by
  rw [takeAllJobs_eq, h.jobs]
  exact ⟨by simp [h.closed], by simp [h.jobs], rfl, rfl⟩

-- A shut scheduler takes every event without a change of its own.
theorem deliver (h : Shut s) (c : Nat) (listener : Listener) (e : Event Stamp) :
    (s.deliver c listener e).1 = none ∧ Still s (s.deliver c listener e).2 :=
  s.deliver_induct (fun r => r.1 = none ∧ Still s r.2) c listener e
    (by rw [h.startJob]; exact ⟨rfl, Still.refl s⟩) (by rw [h.stopJob]; exact ⟨rfl, Still.refl s⟩)
    (fun _ => ⟨rfl, ⟨rfl, rfl, rfl, rfl⟩⟩) ⟨rfl, Still.refl s⟩

theorem handOver (c : Nat) (listener : Listener) :
    ∀ (q : List (Event Stamp)) (s : System), Shut s → Still s (System.handOver c listener q s) := by
  intro q
  induction q with
  | nil =>
    intro s _
    unfold System.handOver
    split
    · exact Still.setCourier _ _ _
    · rfl
  | cons e rest ih =>
    intro s h
    rw [handOver_cons]
    have hpop : Still s (s.popMail c rest) := by
      unfold popMail
      split
      · exact Still.setCourier _ _ _
      · rfl
    obtain ⟨hnone, hd⟩ := (h.still hpop).deliver c listener e
    have hs := hpop.trans hd
    generalize (s.popMail c rest).deliver c listener e = r at hnone hs
    obtain ⟨_ | l, d⟩ := r
    · exact hs.trans (ih d (h.still hs))
    · cases hnone

theorem runCourier (h : Shut s) (c : Nat) : Still s (s.runCourier c) := by
  unfold System.runCourier
  split
  · rfl
  · rename_i k _
    split
    · rfl
    · split
      · split
        · have hx := (Still.setCourier s c { k with stage := .waiting }).trans (Still.endRetire _)
          exact hx.trans (handOver _ _ _ _ (h.still hx))
        · rfl
      · exact handOver _ _ _ _ h

theorem runTask (h : Shut s) (t : Task) : Shut (s.runTask t) := by
  cases t with
  | courier c => exact h.still (h.runCourier c)
  | loop n => exact ⟨by rw [runTask_loop, runLoop_table]; exact h.closed,
      by rw [runTask_loop, runLoop_table]; exact h.jobs⟩

theorem quiesce (h : Shut s) : Shut s.quiesce :=
  quiesceWith_invariant Shut
    (fun x t rest hx _ => Shut.runTask (s := { x with ready := rest }) ⟨hx.closed, hx.jobs⟩ t) _ s h

end Shut

-- Closing the scheduler in a state between steps: every job is taken out, and the tasks run
-- if anything is to be waited for.
theorem Steady.drain_close (h : Steady s) :
    (s.drain true).2.table.jobs = [] ∧ (s.drain true).2.table.closed = true ∧
      (s.drain true).2.table.retiring = 0 ∧ ∀ l ∈ (s.drain true).2.loops, l.exited = true := by
  have hf := h.drain true
  have hshut : Shut (s.takeAllJobs true).2 := by
    rw [takeAllJobs_eq]
    exact ⟨by simp, by simp⟩
  have hl := h.loops.takeAllJobs true
  have hc := h.couriers.takeAllJobs h.loops true
  have hdone : Shut (s.drain true).2 ∧ (s.drain true).2.table.retiring = 0 := by
    unfold System.drain
    dsimp only
    split
    · -- the tasks run until none is ready, so no courier is left inside an update
      have hr := (quiesce_settles (h.ready.takeAllJobs true)).2
      refine ⟨hshut.quiesce, ?_⟩
      rw [(hc.quiesce hl).count, (hc.quiesce hl).countP_of_settled hl.quiesce hr]
    · -- nothing to wait for: the count of retiring loops is zero already
      rename_i hwait
      unfold drainWaits at hwait
      simp at hwait
      exact ⟨hshut, hwait.2⟩
  exact ⟨hdone.1.jobs, hdone.1.closed, hdone.2, hf.exited_of_idle hdone.1.jobs hdone.2⟩

-- A stopped scheduler: shut, and every loop it started has exited.
structure Stopped (s : System) : Prop where
  shut : Shut s
  exited : ∀ l ∈ s.loops, l.exited = true

namespace Stopped

theorem still (h : Stopped s) {s' : System} (hs : Still s s') : Stopped s' :=
  ⟨h.shut.still hs, by rw [hs.loops]; exact h.exited⟩

theorem runLoop (h : Stopped s) (n : Nat) : s.runLoop n = s := by
  cases hn : s.loops[n]? with
  | none => exact runLoop_of_none s n hn
  | some l => exact runLoop_of_exited s n hn (h.exited l (List.mem_of_getElem? hn))

theorem runTask (h : Stopped s) (t : Task) : Still s (s.runTask t) := by
  cases t with
  | courier c => exact h.shut.runCourier c
  | loop n => rw [runTask_loop, h.runLoop n]

theorem quiesce (h : Stopped s) : Still s s.quiesce := by
  refine quiesceWith_invariant (Still s) (fun x t rest hx _ => ?_) _ s (Still.refl s)
  have hpop : Still s { x with ready := rest } := hx.trans ⟨rfl, rfl, rfl, rfl⟩
  exact hpop.trans ((h.still hpop).runTask t)

theorem startJobNow (h : Stopped s) (i : Interest Stamp) : s.startJobNow i = (false, s) := by
  unfold System.startJobNow
  rw [h.shut.startJob]

theorem stopJobNow (h : Stopped s) (app : String) : s.stopJobNow app = (false, s) := by
  unfold System.stopJobNow
  rw [h.shut.stopJob]

theorem drain (h : Stopped s) (close : Bool) : Still s (s.drain close).2 := by
  have ht := h.shut.takeAllJobs close
  unfold System.drain
  dsimp only
  split
  · exact ht.trans (h.still ht).quiesce
  · exact ht

theorem shutdown (h : Stopped s) : Still s s.shutdown.2 := by
  have ht := h.shut.takeAllJobs true
  unfold System.shutdown
  split
  · rfl
  · dsimp only
    split
    · split
      · exact ht
      · exact ht.trans (h.still ht).quiesce
    · exact ht

theorem advance (h : Stopped s) (ms : Nat) : Still s (s.advance ms) :=
  advance_invariant s (fun x => Stopped x ∧ Still s x)
    (fun _ _ hx => ⟨hx.1.still ⟨rfl, rfl, rfl, rfl⟩, hx.2.trans ⟨rfl, rfl, rfl, rfl⟩⟩)
    (fun x hx => ⟨hx.1.still (Still.of_aside (aside_wakeDue x)),
      hx.2.trans (Still.of_aside (aside_wakeDue x))⟩)
    (fun _ hx => ⟨hx.1.still hx.1.quiesce, hx.2.trans hx.1.quiesce⟩) ms ⟨h, Still.refl s⟩ |>.2

end Stopped

-- Whatever a stopped scheduler is asked, it stays stopped with the loops and the ledger it had.
theorem stopped_closed (s : System) : Closed fun x => Stopped x ∧ Still s x := by
  have lift : ∀ {x y : System}, Stopped x ∧ Still s x → Still x y → Stopped y ∧ Still s y :=
    fun hx hy => ⟨hx.1.still hy, hx.2.trans hy⟩
  exact {
    stamp := fun _ hx => lift hx ⟨rfl, rfl, rfl, rfl⟩
    store := fun _ _ hx => lift hx ⟨rfl, rfl, rfl, rfl⟩
    post := fun x e hx => lift hx (Still.of_aside (aside_post x e))
    openLog := fun _ hx => lift hx ⟨rfl, rfl, rfl, rfl⟩
    register := fun x id listener hx => lift hx (Still.of_aside (aside_register x id listener))
    deregister := fun x id hx => lift hx (Still.of_aside (aside_deregister x id))
    startJobNow := fun _ i hx => by rw [hx.1.startJobNow i]; exact hx
    stopJobNow := fun _ app hx => by rw [hx.1.stopJobNow app]; exact hx
    stopAll := fun _ hx => lift hx (hx.1.drain false)
    restarted := fun _ hx => lift hx ⟨rfl, rfl, rfl, rfl⟩
    advance := fun _ ms hx => lift hx (hx.1.advance ms)
    quiesce := fun _ hx => lift hx hx.1.quiesce }

-- In any state a scenario reaches before the scheduler is closed or the system shut down, closing
-- the scheduler leaves it with no job, closed, with no retiring loop and every loop it started
-- exited, and whatever steps come after leave its loops and its ledger as they are.
theorem closing_after_steps_stops_scheduler (setup : Setup) (before : List Step)
    (hbefore : ∀ st ∈ before, ∀ a, st.action = .ok a → a ≠ .closeScheduler ∧ a ≠ .shutdown)
    (after : List Step) :
    let s := ((setup.after before).system.drain true).2
    let later := (runAll Scenario.step { setup.after before with system := s } after).2.system
    s.table.jobs = [] ∧ s.table.closed = true ∧ s.table.retiring = 0 ∧
      (∀ l ∈ s.loops, l.exited = true) ∧
      later.loops = s.loops ∧ later.ledger = s.ledger ∧ ∀ i, later.startJobNow i = (false, later) := by
  intro s later
  -- every step before the close keeps the system steady
  have hsteady := Scenario.after_keeps steady_closed setup before hbefore (boot_steady setup)
  obtain ⟨hjobs, hclosed, hret, hexited⟩ := hsteady.drain_close
  -- and every step after it keeps the scheduler stopped as the close left it
  have hlater := Scenario.runAll_keeps (stopped_closed s)
    (fun _ hx => ⟨hx.1.still (hx.1.drain true), hx.2.trans (hx.1.drain true)⟩)
    (fun _ hx => ⟨hx.1.still hx.1.shutdown, hx.2.trans hx.1.shutdown⟩) after
    { setup.after before with system := s } ⟨⟨⟨hclosed, hjobs⟩, hexited⟩, Still.refl s⟩
  exact ⟨hjobs, hclosed, hret, hexited, hlater.2.loops, hlater.2.ledger, hlater.1.startJobNow⟩

end System

end RouteWatch
