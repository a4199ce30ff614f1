import RouteWatch.Proofs.System.Untouched
import RouteWatch.Proofs.Runs
import RouteWatch.Proofs.Service.Requests

-- Where the interests in the scheduler's hands come from.
namespace RouteWatch

namespace System

-- Every interest in a mailbox, in the job table or in a timer loop satisfies `P`.
structure Traced (P : Interest Stamp → Prop) (s : System) : Prop where
  mail : ∀ k ∈ s.couriers, ∀ e ∈ k.queue, P e.interest
  jobs : ∀ j ∈ s.table.jobs, P j.snapshot
  loops : ∀ l ∈ s.loops, P l.snapshot

namespace Traced

variable {P Q : Interest Stamp → Prop} {s : System}

theorem mono (h : Traced P s) (hPQ : ∀ i, P i → Q i) : Traced Q s :=
  ⟨fun k hk e he => hPQ _ (h.mail k hk e he), fun j hj => hPQ _ (h.jobs j hj),
    fun l hl => hPQ _ (h.loops l hl)⟩

theorem of_eq {s' : System} (h : Traced P s) (hc : s'.couriers = s.couriers)
    (hj : s'.table.jobs = s.table.jobs) (hl : s'.loops = s.loops) : Traced P s' := by
  refine ⟨?_, ?_, ?_⟩
  · rw [hc]
    exact h.mail
  · rw [hj]
    exact h.jobs
  · rw [hl]
    exact h.loops

section Scheduler

theorem wake (h : Traced P s) (t : Task) : Traced P (s.wake t) :=
  h.of_eq (by simp) (by simp) (by simp)

theorem setCourier (h : Traced P s) (c : Nat) {k : Courier} (hk : ∀ e ∈ k.queue, P e.interest) :
    Traced P (s.setCourier c k) := by
  refine ⟨fun k' hk' => ?_, h.jobs, h.loops⟩
  rcases List.mem_or_eq_of_mem_set hk' with hk' | rfl
  · exact h.mail k' hk'
  · exact hk

theorem setLoop (h : Traced P s) (n : Nat) {l : Loop} (hl : P l.snapshot) :
    Traced P (s.setLoop n l) := by
  refine ⟨h.mail, h.jobs, fun l' hl' => ?_⟩
  rcases List.mem_or_eq_of_mem_set hl' with hl' | rfl
  · exact h.loops l' hl'
  · exact hl

theorem cancelLoop (h : Traced P s) (n : Nat) (w : Option Nat) : Traced P (s.cancelLoop n w) := by
  unfold System.cancelLoop
  split
  · exact h
  · rename_i l hl
    exact (h.setLoop n (l := { l with cancelled := true, waiter := w })
      (h.loops l (List.mem_of_getElem? hl))).wake _

theorem beginRetire (h : Traced P s) : Traced P s.beginRetire :=
  h.of_eq rfl rfl rfl

theorem endRetire (h : Traced P s) : Traced P s.endRetire :=
  h.of_eq rfl rfl rfl

-- A new job and its loop both hold the interest filed.
theorem fileJob (h : Traced P s) {i : Interest Stamp} (hi : P i) : Traced P (s.fileJob i) := by
  refine ⟨by rw [fileJob_couriers]; exact h.mail, fun j hj => ?_, fun l hl => ?_⟩
  · rw [fileJob_table] at hj
    rcases Keyed.mem_insert_of_mem hj with rfl | hj
    · exact hi
    · exact h.jobs j hj
  · rw [fileJob_loops, List.mem_append, List.mem_singleton] at hl
    rcases hl with hl | rfl
    · exact h.loops l hl
    · exact hi

theorem startJob (h : Traced P s) {i : Interest Stamp} (hi : P i) (w : Option Nat) :
    Traced P (s.startJob i w).2 := by
  cases hc : s.table.closed
  · rw [startJob_of_open s i w hc]
    have hfile := h.fileJob hi
    split
    · exact hfile
    · exact (hfile.cancelLoop _ _).beginRetire
  · rw [startJob_of_closed s i w hc]
    exact h

theorem stopJob (h : Traced P s) (app : String) (w : Option Nat) : Traced P (s.stopJob app w).2 := by
  unfold System.stopJob
  split
  · exact h
  · have herase : Traced P { s with table := s.table.erase app } :=
      ⟨h.mail, fun j hj => h.jobs j (List.mem_filter.mp hj).1, h.loops⟩
    exact (herase.cancelLoop _ _).beginRetire

theorem deliver (h : Traced P s) (c : Nat) (listener : Listener) {e : Event Stamp}
    (he : P e.interest) : Traced P (s.deliver c listener e).2 :=
  s.deliver_induct (fun r => Traced P r.2) c listener e (h.startJob he _) (h.stopJob _ _)
    (fun _ => h.of_eq rfl rfl rfl) h

theorem setStage (h : Traced P s) (c : Nat) (stage : Stage) : Traced P (s.setStage c stage) := by
  unfold System.setStage
  split
  · rename_i k hk
    exact h.setCourier c (h.mail k (List.mem_of_getElem? hk))
  · exact h

-- A courier hands over events that were in its mailbox; what stays there is the rest of them.
theorem handOver (c : Nat) (listener : Listener) (q : List (Event Stamp)) (hq : ∀ e ∈ q, P e.interest)
    (h : Traced P s) : Traced P (handOver c listener q s) := by
  induction q generalizing s with
  | nil =>
    unfold System.handOver
    split
    · exact h.setCourier c (by simp)
    · exact h
  | cons e rest ih =>
    have hrest : ∀ e' ∈ rest, P e'.interest := fun e' he' => hq e' (List.mem_cons_of_mem _ he')
    have hpop : Traced P (s.popMail c rest) := by
      unfold popMail
      split
      · exact h.setCourier c hrest
      · exact h
    have hdel := hpop.deliver c listener (hq e List.mem_cons_self)
    rw [handOver_cons]
    generalize (s.popMail c rest).deliver c listener e = d at hdel
    obtain ⟨_ | l, s'⟩ := d
    · exact ih hrest hdel
    · exact hdel.setStage c _

theorem runCourier (h : Traced P s) (c : Nat) : Traced P (s.runCourier c) := by
  unfold System.runCourier
  split
  · exact h
  · rename_i k hk
    have hq : ∀ e ∈ k.queue, P e.interest := h.mail k (List.mem_of_getElem? hk)
    split
    · exact h
    · split
      · split
        · exact Traced.handOver c k.listener k.queue hq
            (h.setCourier c (k := { k with stage := .waiting }) hq).endRetire
        · exact h
      · exact Traced.handOver c k.listener k.queue hq h

-- A loop that runs keeps its snapshot, whether it ticks or exits.
theorem runLoop (h : Traced P s) (n : Nat) : Traced P (s.runLoop n) := by
  cases hn : s.loops[n]? with
  | none => rwa [runLoop_of_none s n hn]
  | some l =>
    have hl : P l.snapshot := h.loops l (List.mem_of_getElem? hn)
    cases he : l.exited
    · cases hc : l.cancelled
      · obtain ⟨l', ledger, hrun, hsnap, -⟩ := runLoop_of_live s n hn he hc
        rw [hrun]
        refine ⟨h.mail, h.jobs, fun l'' hl'' => ?_⟩
        rcases List.mem_or_eq_of_mem_set hl'' with hl'' | rfl
        · exact h.loops l'' hl''
        · rw [hsnap]
          exact hl
      · rw [runLoop_of_cancelled s n hn he hc]
        have hset := h.setLoop n (l := { l with exited := true, callEnds := none }) hl
        split
        · exact hset.wake _
        · exact hset
    · rwa [runLoop_of_exited s n hn he]

theorem runTask (h : Traced P s) : ∀ t : Task, Traced P (s.runTask t)
  | .courier c => h.runCourier c
  | .loop n => h.runLoop n

theorem quiesce (h : Traced P s) : Traced P s.quiesce :=
  quiesceWith_invariant (Traced P)
    (fun s t rest hs _ => (hs.of_eq rfl rfl rfl : Traced P { s with ready := rest }).runTask t)
    _ s h

theorem advance (h : Traced P s) (ms : Nat) : Traced P (s.advance ms) :=
  advance_invariant s (Traced P) (fun _ _ hs => hs.of_eq rfl rfl rfl)
    (fun s hs => by
      obtain ⟨r, hr, -⟩ := wakeDue_eq s
      rw [hr]
      exact hs.of_eq rfl rfl rfl)
    (fun _ hs => hs.quiesce) ms h

end Scheduler

section Hub

theorem send (h : Traced P s) (m : Nat) {e : Event Stamp} (he : P e.interest) :
    Traced P (s.send m e) := by
  unfold System.send
  split
  · exact h
  · rename_i k hk
    have hset := h.setCourier m (k := { k with queue := k.queue ++ [e] }) (by
      intro e' he'
      rcases List.mem_append.mp he' with he' | he'
      · exact h.mail k (List.mem_of_getElem? hk) e' he'
      · rw [List.mem_singleton.mp he']
        exact he)
    dsimp only
    split
    · exact hset.wake _
    · exact hset

theorem post (h : Traced P s) {e : Event Stamp} (he : P e.interest) : Traced P (s.post e) := by
  unfold System.post
  generalize s.hub.mailboxes = ms
  induction ms generalizing s with
  | nil => exact h
  | cons m rest ih => exact ih (h.send m he)

-- A change that succeeds posts one event; the store and the clock are not the scheduler's.
theorem change (h : Traced P s) {f : Registry Stamp → Stamp → Except ServiceError (Change Stamp)}
    (hf : ∀ c, f s.store s.clock = .ok c → P c.event.interest) : Traced P (s.change f).2 := by
  cases hc : f s.store s.clock with
  | error e =>
    rw [change_of_error hc]
    exact h
  | ok c =>
    rw [change_of_ok hc]
    exact Traced.post (s := { s with clock := s.clock + 1, store := c.store }) (h.of_eq rfl rfl rfl)
      (hf c hc)

end Hub

end Traced

end System

end RouteWatch
