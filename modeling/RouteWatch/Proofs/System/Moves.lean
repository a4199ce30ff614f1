import RouteWatch.Proofs.System.Resync

-- The moves of the running system, in any order.
namespace RouteWatch

open Schedule

namespace System

-- One atomic move of the running system; the number beside the state counts the retirements
-- that callers wait for.
inductive Move : System × Nat → System × Nat → Prop
  -- a ready task runs, wherever it stands in the queue
  | run {s : System} {p : Nat} {t : Task} (ht : t ∈ s.ready) :
      Move (s, p) ({ s with ready := s.ready.erase t }.runTask t, p)
  -- the changes a caller makes away from the scheduler
  | stamp {s : System} {p : Nat} : Move (s, p) (s.stamp.2, p)
  | store {s : System} {p : Nat} (r : Registry Stamp) : Move (s, p) ({ s with store := r }, p)
  | post {s : System} {p : Nat} (e : Event Stamp) : Move (s, p) (s.post e, p)
  | openLog {s : System} {p : Nat} : Move (s, p) (s.openLog.2, p)
  | register {s : System} {p : Nat} (id : String) (listener : Listener) :
      Move (s, p) (s.register id listener, p)
  | deregister {s : System} {p : Nat} (id : String) : Move (s, p) (s.deregister id, p)
  | restarted {s : System} {p : Nat} : Move (s, p) ({ s with restarted := true }, p)
  | setTime {s : System} {p : Nat} (x : Nat) : Move (s, p) ({ s with now := x }, p)
  | wakeDue {s : System} {p : Nat} : Move (s, p) (s.wakeDue, p)
  -- a caller's start or stop, which leaves it waiting for the loop of the job it took out
  | start {s : System} {p : Nat} (i : Interest Stamp) :
      Move (s, p) ((s.startJob i none).2, p + ((s.startJob i none).1.2).elim 0 fun _ => 1)
  | stop {s : System} {p : Nat} (app : String) :
      Move (s, p) ((s.stopJob app none).2, p + ((s.stopJob app none).1).elim 0 fun _ => 1)
  | takeAll {s : System} {p : Nat} (close : Bool) : Move (s, p) ((s.takeAllJobs close).2, p)
  -- a caller's retirement ends, finished or abandoned
  | retired {s : System} {p : Nat} : Move (s, p + 1) (s.endRetire, p)

-- The states the system of `setup` can reach by its moves from the booted system, with the
-- retirements callers then wait for.
def Reachable (setup : Setup) (s : System) (p : Nat) : Prop :=
  Relation.ReflTransGen Move (setup.boot, 0) (s, p)

section Runs

-- Running the tasks until none is ready is a run of moves, each taking the first task.
theorem moves_quiesceWith (fuel : Nat) (s : System) (p : Nat) :
    Relation.ReflTransGen Move (s, p) (quiesceWith fuel s, p) := by
  induction fuel generalizing s with
  | zero => exact .refl
  | succ fuel ih =>
    unfold quiesceWith
    split
    · exact .refl
    · rename_i t rest hr
      have hmove := Move.run (s := s) (p := p) (t := t) (by rw [hr]; exact List.mem_cons_self)
      rw [hr, List.erase_cons_head] at hmove
      exact .head hmove (ih _)

theorem moves_quiesce (s : System) (p : Nat) : Relation.ReflTransGen Move (s, p) (s.quiesce, p) :=
  moves_quiesceWith _ s p

theorem moves_awaitRetire (s : System) (p : Nat) :
    Relation.ReflTransGen Move (s, p + 1) (s.awaitRetire, p) :=
  (moves_quiesce s (p + 1)).tail .retired

-- A caller that took a job out of the table waits for its loop.
theorem moves_startJobNow (s : System) (i : Interest Stamp) (p : Nat) :
    Relation.ReflTransGen Move (s, p) ((s.startJobNow i).2, p) := by
  have hstart := Move.start (s := s) (p := p) i
  unfold startJobNow
  split <;> rename_i heq <;> rw [heq] at hstart
  · exact .head hstart (moves_awaitRetire _ _)
  · exact .single hstart

theorem moves_stopJobNow (s : System) (app : String) (p : Nat) :
    Relation.ReflTransGen Move (s, p) ((s.stopJobNow app).2, p) := by
  have hstop := Move.stop (s := s) (p := p) app
  unfold stopJobNow
  split <;> rename_i heq <;> rw [heq] at hstop
  · exact .head hstop (moves_awaitRetire _ _)
  · exact .single hstop

theorem moves_drain (s : System) (close : Bool) (p : Nat) :
    Relation.ReflTransGen Move (s, p) ((s.drain close).2, p) := by
  unfold drain
  dsimp only
  split
  · exact .head (.takeAll close) (moves_quiesce _ _)
  · exact .single (.takeAll close)

theorem moves_shutdown (s : System) (p : Nat) :
    Relation.ReflTransGen Move (s, p) (s.shutdown.2, p) := by
  unfold shutdown
  split
  · exact .refl
  · dsimp only
    split
    · split
      · exact .single (.takeAll true)
      · exact .head (.takeAll true) (moves_quiesce _ _)
    · exact .single (.takeAll true)

theorem moves_advance (s : System) (ms : Nat) (p : Nat) :
    Relation.ReflTransGen Move (s, p) (s.advance ms, p) :=
  advance_invariant s (fun x => Relation.ReflTransGen Move (s, p) (x, p))
    (fun _ x h => h.tail (.setTime x)) (fun _ h => h.tail .wakeDue)
    (fun x h => h.trans (moves_quiesce x p)) ms .refl

-- What the moves reach from a state, every change a caller makes keeps reaching.
theorem moves_closed (s₀ : System) : Closed fun s => Relation.ReflTransGen Move (s₀, 0) (s, 0) where
  stamp _ h := h.tail .stamp
  store _ r h := h.tail (.store r)
  post _ e h := h.tail (.post e)
  openLog _ h := h.tail .openLog
  register _ id listener h := h.tail (.register id listener)
  deregister _ id h := h.tail (.deregister id)
  startJobNow s i h := h.trans (moves_startJobNow s i 0)
  stopJobNow s app h := h.trans (moves_stopJobNow s app 0)
  stopAll s h := h.trans (moves_drain s false 0)
  restarted _ h := h.tail .restarted
  advance s ms h := h.trans (moves_advance s ms 0)
  quiesce s h := h.trans (moves_quiesce s 0)

end Runs

-- Every run of scenario steps is a run of moves.
theorem Scenario.runAll_moves (steps : List Step) (sc : Scenario) :
    Relation.ReflTransGen Move (sc.system, 0) ((runAll Scenario.step sc steps).2.system, 0) :=
  Scenario.runAll_keeps (moves_closed sc.system) (fun s h => h.trans (moves_drain s true 0))
    (fun s h => h.trans (moves_shutdown s 0)) steps sc .refl

theorem after_reachable (setup : Setup) (steps : List Step) :
    Reachable setup (setup.after steps).system 0 :=
  Scenario.runAll_moves steps ⟨setup.boot, []⟩

variable {s : System} {p : Nat}

theorem ReadyWell.erase (h : ReadyWell s) (t : Task) : ReadyWell { s with ready := s.ready.erase t } where
  nodup := h.nodup.erase t
  loops n hn := h.loops n (List.erase_subset hn)

theorem ReadyWell.runTask_erase (h : ReadyWell s) (t : Task) :
    ReadyWell ({ s with ready := s.ready.erase t }.runTask t) := by
  cases t with
  | courier c => exact (runCourier_backlog (h.erase _) c).1
  | loop n => exact (runLoop_grows (h.erase _) n).1

-- What holds in every reachable state, with `p` retirements that callers wait for: the job
-- table and the loops hang together, the ready queue is well formed, and the count of retiring
-- loops is the number of couriers inside an update plus `p`.
structure Coherent (s : System) (p : Nat) : Prop where
  loops : LoopsSound s
  ready : ReadyWell s
  couriers : CouriersSound s p

namespace Coherent

theorem aside (h : Coherent s p) {s' : System} (ha : Aside s s') (hw : ReadyWell s') :
    Coherent s' p :=
  ⟨h.loops.aside ha, hw, h.couriers.aside ha⟩

-- A change that leaves the job table, the loops, the ledger, the couriers and the ready queue.
theorem of_apart (h : Coherent s p) {s' : System} (ht : s'.table = s.table) (hl : s'.loops = s.loops)
    (hg : s'.ledger = s.ledger) (hc : s'.couriers = s.couriers) (hr : s'.ready = s.ready) :
    Coherent s' p :=
  h.aside (Aside.of_couriers ht hl hg (fun _ hx => hr ▸ hx) hc) (h.ready.of_ready_eq hr (by rw [hl]))

-- One move keeps the state coherent, with the retirements it adds or ends.
theorem move {x y : System × Nat} (hm : Move x y) (h : Coherent x.1 x.2) : Coherent y.1 y.2 := by
  cases hm with
  | @run s p t ht =>
    have hrest : ∀ x ∈ s.ready, x ≠ t → x ∈ s.ready.erase t := fun _ hx hne =>
      (List.mem_erase_of_ne hne).mpr hx
    exact ⟨h.loops.runTask_of_rest hrest, h.ready.runTask_erase _,
      h.couriers.runTask_of_rest h.loops hrest⟩
  | stamp => exact h.of_apart rfl rfl rfl rfl rfl
  | store r => exact h.of_apart rfl rfl rfl rfl rfl
  | post e => exact h.aside (aside_post _ e) (h.ready.post e)
  | openLog => exact h.of_apart rfl rfl rfl rfl rfl
  | register id listener => exact h.aside (aside_register _ id listener) (h.ready.register id listener)
  | deregister id => exact h.aside (aside_deregister _ id) (h.ready.deregister id)
  | restarted => exact h.of_apart rfl rfl rfl rfl rfl
  | setTime x => exact h.of_apart rfl rfl rfl rfl rfl
  | wakeDue => exact h.aside (aside_wakeDue _) h.ready.wakeDue
  | start i =>
    exact ⟨h.loops.startJob i none, (startJob_grows h.ready i none).1,
      h.couriers.startJob_none h.loops i⟩
  | stop app =>
    exact ⟨h.loops.stopJob app none, (stopJob_grows h.ready app none).1,
      h.couriers.stopJob_none h.loops app⟩
  | takeAll close =>
    exact ⟨h.loops.takeAllJobs close, h.ready.takeAllJobs close, h.couriers.takeAllJobs h.loops close⟩
  | retired => exact ⟨h.loops.endRetire, h.ready.of_ready_eq rfl le_rfl, h.couriers.endRetire⟩

theorem moves {x y : System × Nat} (hxy : Relation.ReflTransGen Move x y) (h : Coherent x.1 x.2) :
    Coherent y.1 y.2 := by
  induction hxy with
  | refl => exact h
  | tail _ hm ih => exact ih.move hm

theorem boot (setup : Setup) : Coherent setup.boot 0 :=
  ⟨(boot_steady setup).loops, (boot_steady setup).ready, (boot_steady setup).couriers⟩

end Coherent

theorem Reachable.coherent {setup : Setup} (h : Reachable setup s p) : Coherent s p :=
  (Coherent.boot setup).moves h

-- In every state the system reaches, whatever order its moves came in, the count of retiring
-- loops is the number of starts and stops that took a job out of the table and still wait for
-- its loop: those of the couriers inside an update, and the `p` of the callers. So the count is
-- zero exactly when no such retirement is open, and a retirement that ends finds it above zero:
-- taking one off never stops at zero.
theorem retiring_counts_open_retirements (setup : Setup) :
    (∀ steps, Reachable setup (setup.after steps).system 0) ∧
    ∀ s p, Reachable setup s p →
      s.table.retiring = s.couriers.countP Courier.inUpdate + p ∧
      (s.table.retiring = 0 ↔ (∀ k ∈ s.couriers, k.inUpdate = false) ∧ p = 0) ∧
      ((∃ k ∈ s.couriers, k.inUpdate = true) ∨ 0 < p → 0 < s.table.retiring) := by
  refine ⟨after_reachable setup, fun s p hs => ?_⟩
  have hcount := hs.coherent.couriers.count
  refine ⟨hcount, ?_, ?_⟩
  · rw [hcount, Nat.add_eq_zero_iff, List.countP_eq_zero]
    simp
  · rintro (⟨k, hk, hup⟩ | hp)
    · have := List.countP_pos_iff.mpr ⟨k, hk, hup⟩
      omega
    · omega

end System

end RouteWatch
