import Mathlib
import RouteWatch.Proofs.System.Untouched
import RouteWatch.Proofs.Runs

-- Settling ends: the tasks run until none is ready, within the fuel `quiesce` gives them.
namespace RouteWatch

open Schedule

-- What a ready task weighs in the work left: a loop's run may wake a courier.
def Task.weight : Task → Nat
  | .courier _ => 1
  | .loop _ => 2

-- The loop a task runs, if it is a loop's.
def Task.loop? : Task → Option Nat
  | .courier _ => none
  | .loop n => some n

namespace System

-- The ready queue holds each task once, and only loops that exist.
structure ReadyWell (s : System) : Prop where
  nodup : s.ready.Nodup
  loops : ∀ n, .loop n ∈ s.ready → n < s.loops.length

-- The weight of the ready tasks.
def readyWeight (s : System) : Nat :=
  (s.ready.map Task.weight).sum

-- The events waiting in the mailboxes.
def queued (s : System) : Nat :=
  (s.couriers.map (·.queue.length)).sum

-- The work left before the ready queue empties.
def backlog (s : System) : Nat :=
  s.readyWeight + 6 * s.queued

variable {s : System}

section Weight

theorem readyWeight_wake (t : Task) : (s.wake t).readyWeight ≤ s.readyWeight + t.weight := by
  unfold wake readyWeight
  split
  · omega
  · simp

@[simp] theorem readyWeight_setLoop (n : Nat) (l : Loop) : (s.setLoop n l).readyWeight = s.readyWeight := rfl
@[simp] theorem readyWeight_setCourier (c : Nat) (k : Courier) :
    (s.setCourier c k).readyWeight = s.readyWeight := rfl
@[simp] theorem readyWeight_beginRetire : s.beginRetire.readyWeight = s.readyWeight := rfl
@[simp] theorem readyWeight_endRetire : s.endRetire.readyWeight = s.readyWeight := rfl
@[simp] theorem readyWeight_record (k : Nat) (e : Event Stamp) : (s.record k e).readyWeight = s.readyWeight := rfl

theorem readyWeight_pop {t : Task} {rest : List Task} (h : s.ready = t :: rest) :
    s.readyWeight = t.weight + ({ s with ready := rest } : System).readyWeight := by
  simp [readyWeight, h]

-- A ready queue weighs its length, plus one for each loop in it.
theorem sum_weight (ts : List Task) :
    (ts.map Task.weight).sum = ts.length + (ts.filterMap Task.loop?).length := by
  induction ts with
  | nil => rfl
  | cons t rest ih =>
    cases t <;> simp [Task.weight, Task.loop?, List.filterMap_cons, ih] <;> omega

-- Replacing one courier changes the mail by the difference of the two mailboxes.
theorem queued_set {l : List Courier} {c : Nat} {k : Courier} (hc : l[c]? = some k) (k' : Courier) :
    ((l.set c k').map (·.queue.length)).sum + k.queue.length =
      (l.map (·.queue.length)).sum + k'.queue.length := by
  induction l generalizing c with
  | nil => simp at hc
  | cons x rest ih =>
    cases c with
    | zero =>
      simp only [List.getElem?_cons_zero, Option.some.injEq] at hc
      subst hc
      simp
      omega
    | succ c =>
      simp only [List.getElem?_cons_succ] at hc
      have := ih hc
      simp only [List.set_cons_succ, List.map_cons, List.sum_cons]
      omega

theorem queued_setCourier {c : Nat} {k : Courier} (hc : s.couriers[c]? = some k) (k' : Courier) :
    (s.setCourier c k').queued + k.queue.length = s.queued + k'.queue.length :=
  queued_set hc k'

theorem queued_of_couriers {s' : System} (h : s'.couriers = s.couriers) : s'.queued = s.queued := by
  unfold queued
  rw [h]

end Weight

namespace ReadyWell

theorem of_ready_eq {s' : System} (h : ReadyWell s) (hr : s'.ready = s.ready)
    (hl : s.loops.length ≤ s'.loops.length) : ReadyWell s' where
  nodup := hr ▸ h.nodup
  loops n hn := Nat.lt_of_lt_of_le (h.loops n (hr ▸ hn)) hl

theorem wake (h : ReadyWell s) {t : Task} (ht : ∀ n, t = .loop n → n < s.loops.length) :
    ReadyWell (s.wake t) := by
  unfold System.wake
  split
  · exact h
  · rename_i hnot
    refine ⟨?_, fun n hn => ?_⟩
    · refine List.nodup_append.mpr ⟨h.nodup, List.nodup_singleton t, fun a ha b hb hab => ?_⟩
      rw [List.mem_singleton] at hb
      rw [hab, hb] at ha
      exact hnot (List.contains_iff_mem.mpr ha)
    · rcases List.mem_append.mp hn with hn | hn
      · exact h.loops n hn
      · exact ht n (List.mem_singleton.mp hn).symm

theorem pop (h : ReadyWell s) {t : Task} {rest : List Task} (hr : s.ready = t :: rest) :
    ReadyWell { s with ready := rest } where
  nodup := (List.nodup_cons.mp (hr ▸ h.nodup)).2
  loops n hn := h.loops n (hr ▸ List.mem_cons_of_mem t hn)

-- Distinct loops that exist are at most as many as the loops.
theorem loops_le (h : ReadyWell s) : (s.ready.filterMap Task.loop?).length ≤ s.loops.length := by
  have hnodup : (s.ready.filterMap Task.loop?).Nodup := by
    refine List.Nodup.filterMap ?_ h.nodup
    intro a a' n ha ha'
    cases a <;> cases a' <;> simp_all [Task.loop?]
  have hsub : s.ready.filterMap Task.loop? ⊆ List.range s.loops.length := by
    intro n hn
    obtain ⟨t, ht, htn⟩ := List.mem_filterMap.mp hn
    cases t with
    | courier c => simp [Task.loop?] at htn
    | loop m =>
      simp only [Task.loop?, Option.some.injEq] at htn
      subst htn
      exact List.mem_range.mpr (h.loops m ht)
  simpa using (hnodup.subperm hsub).length_le

end ReadyWell

section Growth

-- What each operation adds to the ready queue, and that it keeps the queue well formed.

theorem cancelLoop_grows (h : ReadyWell s) (n : Nat) (w : Option Nat) :
    ReadyWell (s.cancelLoop n w) ∧ (s.cancelLoop n w).readyWeight ≤ s.readyWeight + 2 := by
  unfold cancelLoop
  split
  · exact ⟨h, by omega⟩
  · rename_i l hl
    have hn := (List.getElem?_eq_some_iff.mp hl).1
    have hset : ReadyWell (s.setLoop n { l with cancelled := true, waiter := w }) :=
      h.of_ready_eq rfl (by simp)
    refine ⟨hset.wake fun m hm => ?_, readyWeight_wake _⟩
    cases hm
    simpa using hn

theorem fileJob_grows (h : ReadyWell s) (i : Interest Stamp) :
    ReadyWell (s.fileJob i) ∧ (s.fileJob i).readyWeight ≤ s.readyWeight + 2 := by
  -- the fresh loop is the last one, and it is woken
  let x : System := { s with loops := s.loops ++ [s.freshLoop i] }
  have hx : ReadyWell x := h.of_ready_eq rfl (by simp [x])
  have hw : ReadyWell (x.wake (.loop s.loops.length)) := hx.wake fun m hm => by cases hm; simp [x]
  exact ⟨hw.of_ready_eq rfl (by simp [x]), readyWeight_wake (s := x) (.loop s.loops.length)⟩

theorem startJob_grows (h : ReadyWell s) (i : Interest Stamp) (w : Option Nat) :
    ReadyWell (s.startJob i w).2 ∧ (s.startJob i w).2.readyWeight ≤ s.readyWeight + 4 := by
  cases hc : s.table.closed
  · rw [startJob_of_open s i w hc]
    obtain ⟨hf, hfw⟩ := fileJob_grows h i
    split
    · exact ⟨hf, by dsimp only; omega⟩
    · obtain ⟨hk, hkw⟩ := cancelLoop_grows hf _ w
      exact ⟨hk.of_ready_eq rfl le_rfl, by dsimp only; rw [readyWeight_beginRetire]; omega⟩
  · rw [startJob_of_closed s i w hc]
    exact ⟨h, by dsimp only; omega⟩

theorem stopJob_grows (h : ReadyWell s) (app : String) (w : Option Nat) :
    ReadyWell (s.stopJob app w).2 ∧ (s.stopJob app w).2.readyWeight ≤ s.readyWeight + 2 := by
  unfold stopJob
  split
  · exact ⟨h, by dsimp only; omega⟩
  · have he : ReadyWell { s with table := s.table.erase app } := h.of_ready_eq rfl le_rfl
    obtain ⟨hk, hkw⟩ := cancelLoop_grows he _ w
    exact ⟨hk.of_ready_eq rfl le_rfl, by dsimp only; rw [readyWeight_beginRetire]; exact hkw⟩

theorem deliver_grows (h : ReadyWell s) (c : Nat) (listener : Listener) (e : Event Stamp) :
    ReadyWell (s.deliver c listener e).2 ∧ (s.deliver c listener e).2.readyWeight ≤ s.readyWeight + 4 :=
  s.deliver_induct (fun r => ReadyWell r.2 ∧ r.2.readyWeight ≤ s.readyWeight + 4) c listener e
    (startJob_grows h _ _)
    (by obtain ⟨hk, hkw⟩ := stopJob_grows h e.key (some c); exact ⟨hk, by omega⟩)
    (fun _ => ⟨h.of_ready_eq rfl le_rfl, by dsimp only; rw [readyWeight_record]; omega⟩)
    ⟨h, by dsimp only; omega⟩

end Growth

section Runs

-- Each event handed over takes six off the mail and adds at most four to the ready queue.
theorem handOver_backlog (c : Nat) (listener : Listener) :
    ∀ (q : List (Event Stamp)) (s : System) (k : Courier), ReadyWell s →
      s.couriers[c]? = some k → k.queue = q →
      ReadyWell (handOver c listener q s) ∧ (handOver c listener q s).backlog ≤ s.backlog := by
  intro q
  induction q with
  | nil =>
    intro s k h hc hq
    have hqd := queued_setCourier hc { k with queue := [], exited := !k.linked }
    rw [handOver_nil_of_some s hc]
    refine ⟨h.of_ready_eq rfl le_rfl, ?_⟩
    simp only [hq, List.length_nil] at hqd
    unfold backlog
    rw [readyWeight_setCourier]
    omega
  | cons e rest ih =>
    intro s k h hc hq
    rw [handOver_cons]
    -- the courier takes the event off its mailbox
    have hpq := queued_setCourier hc { k with queue := rest }
    simp only [hq, List.length_cons] at hpq
    rw [← popMail_of_some s hc rest] at hpq
    have hpr : (s.popMail c rest).ready = s.ready := by rw [popMail_of_some s hc rest]; rfl
    have hpw : ReadyWell (s.popMail c rest) := h.of_ready_eq hpr (by rw [popMail_of_some s hc rest]; rfl)
    have hpk : (s.popMail c rest).couriers[c]? = some { k with queue := rest } := by
      rw [popMail_of_some s hc rest, setCourier_couriers, List.getElem?_set_self]
      exact (List.getElem?_eq_some_iff.mp hc).1
    -- and hands it to its listener
    obtain ⟨hd, hdw⟩ := deliver_grows hpw c listener e
    have hdq := queued_of_couriers (deliver_couriers (s.popMail c rest) c listener e)
    have hdk : ((s.popMail c rest).deliver c listener e).2.couriers[c]? = some { k with queue := rest } := by
      rw [deliver_couriers, hpk]
    have hr : (s.popMail c rest).readyWeight = s.readyWeight := by
      rw [popMail_of_some s hc rest, readyWeight_setCourier]
    generalize (s.popMail c rest).deliver c listener e = r at hd hdw hdq hdk
    obtain ⟨_ | l, d⟩ := r
    · obtain ⟨hw, hb⟩ := ih d { k with queue := rest } hd hdk rfl
      rw [afterDeliver_none]
      refine ⟨hw, ?_⟩
      unfold backlog at hb ⊢
      dsimp only at hdw hdq
      omega
    · rw [afterDeliver_some, setStage_of_some d hdk]
      have hsq := queued_setCourier hdk { { k with queue := rest } with stage := .retiring l }
      refine ⟨hd.of_ready_eq rfl le_rfl, ?_⟩
      unfold backlog
      rw [readyWeight_setCourier]
      dsimp only at hdw hdq hsq ⊢
      omega

theorem runCourier_backlog (h : ReadyWell s) (c : Nat) :
    ReadyWell (s.runCourier c) ∧ (s.runCourier c).backlog ≤ s.backlog := by
  unfold runCourier
  split
  · exact ⟨h, le_rfl⟩
  · rename_i k hk
    split
    · exact ⟨h, le_rfl⟩
    · split
      · split
        · -- the update is over: the courier goes back to waiting and on with its mailbox
          let x := (s.setCourier c { k with stage := .waiting }).endRetire
          have hxk : x.couriers[c]? = some { k with stage := .waiting } := by
            simp only [x, endRetire_couriers, setCourier_couriers]
            rw [List.getElem?_set_self (List.getElem?_eq_some_iff.mp hk).1]
          have hxq := queued_setCourier hk { k with stage := .waiting }
          dsimp only at hxq
          have hxr : x.readyWeight = s.readyWeight := rfl
          have hxq' : x.queued = (s.setCourier c { k with stage := .waiting }).queued := rfl
          obtain ⟨hw, hb⟩ := handOver_backlog c k.listener k.queue x _ (h.of_ready_eq rfl le_rfl) hxk rfl
          show ReadyWell (handOver c k.listener k.queue x) ∧ (handOver c k.listener k.queue x).backlog ≤ s.backlog
          refine ⟨hw, ?_⟩
          unfold backlog at hb ⊢
          omega
        · exact ⟨h, le_rfl⟩
      · exact handOver_backlog c k.listener k.queue s k h hk rfl

theorem runLoop_grows (h : ReadyWell s) (n : Nat) :
    ReadyWell (s.runLoop n) ∧ (s.runLoop n).readyWeight ≤ s.readyWeight + 1 := by
  cases hn : s.loops[n]? with
  | none =>
    rw [runLoop_of_none s n hn]
    exact ⟨h, by omega⟩
  | some l =>
    cases he : l.exited
    · cases hc : l.cancelled
      · obtain ⟨l', ledger, hrun, -⟩ := runLoop_of_live s n hn he hc
        rw [hrun]
        have hr : ({ s with loops := s.loops.set n l', ledger := ledger } : System).readyWeight =
          s.readyWeight := rfl
        exact ⟨h.of_ready_eq rfl (by simp), by omega⟩
      · -- a cancelled loop exits and wakes its waiter
        rw [runLoop_of_cancelled s n hn he hc]
        have hset : ReadyWell (s.setLoop n { l with exited := true, callEnds := none }) :=
          h.of_ready_eq rfl (by simp)
        split
        · exact ⟨hset.wake (fun m hm => by cases hm), readyWeight_wake _⟩
        · exact ⟨hset, by rw [readyWeight_setLoop]; omega⟩
    · rw [runLoop_of_exited s n hn he]
      exact ⟨h, by omega⟩

-- Every run lowers the backlog by the weight of the task taken off the queue.
theorem runTask_backlog (h : ReadyWell s) {t : Task} {rest : List Task} (hr : s.ready = t :: rest) :
    ReadyWell ({ s with ready := rest }.runTask t) ∧
      ({ s with ready := rest }.runTask t).backlog < s.backlog := by
  have hp := h.pop hr
  have hw := readyWeight_pop hr
  have hq : ({ s with ready := rest } : System).queued = s.queued := rfl
  cases t with
  | courier c =>
    obtain ⟨hw', hb⟩ := runCourier_backlog hp c
    refine ⟨hw', ?_⟩
    unfold backlog at hb ⊢
    simp only [Task.weight] at hw
    simp only [runTask_courier]
    omega
  | loop n =>
    obtain ⟨hw', hb⟩ := runLoop_grows hp n
    have hq' := queued_of_couriers (runLoop_couriers { s with ready := rest } n)
    refine ⟨hw', ?_⟩
    unfold backlog
    simp only [Task.weight] at hw
    simp only [runTask_loop]
    omega

end Runs

-- The fuel `quiesce` takes covers the backlog.
theorem backlog_le_workBound (h : ReadyWell s) : s.backlog ≤ s.workBound := by
  have hloops := h.loops_le
  have hweight := sum_weight s.ready
  have hfold : ∀ (l : List Courier) (n : Nat),
      l.foldl (fun n k => n + k.queue.length) n = n + (l.map (·.queue.length)).sum := by
    intro l
    induction l with
    | nil => simp
    | cons k rest ih => intro n; simp [ih]; omega
  have hq := hfold s.couriers 0
  unfold backlog readyWeight queued workBound
  omega

theorem quiesce_settles (h : ReadyWell s) : ReadyWell s.quiesce ∧ s.quiesce.ready = [] :=
  quiesceWith_settles ReadyWell backlog (fun _ _ _ hs hr => runTask_backlog hs hr) _ s h
    (backlog_le_workBound h)

namespace ReadyWell

-- The changes a caller makes keep the ready queue well formed.

theorem setCourier (h : ReadyWell s) (c : Nat) (k : Courier) : ReadyWell (s.setCourier c k) :=
  h.of_ready_eq rfl le_rfl

theorem wake_courier (h : ReadyWell s) (c : Nat) : ReadyWell (s.wake (.courier c)) :=
  h.wake fun _ hn => by cases hn

theorem send (h : ReadyWell s) (m : Nat) (e : Event Stamp) : ReadyWell (s.send m e) := by
  unfold System.send
  split
  · exact h
  · dsimp only
    split
    · exact (h.setCourier _ _).wake_courier _
    · exact h.setCourier _ _

theorem post (h : ReadyWell s) (e : Event Stamp) : ReadyWell (s.post e) := by
  unfold System.post
  generalize s.hub.mailboxes = ms
  induction ms generalizing s with
  | nil => exact h
  | cons m rest ih => exact ih (h.send m e)

theorem release (h : ReadyWell s) (m : Nat) : ReadyWell (s.release m) := by
  unfold System.release
  split
  · exact h
  · dsimp only
    split
    · exact (h.setCourier _ _).wake_courier _
    · exact h.setCourier _ _

theorem register (h : ReadyWell s) (id : String) (listener : Listener) :
    ReadyWell (s.register id listener) := by
  unfold System.register
  dsimp only
  split
  · exact ((h.of_ready_eq (by rfl) (by exact le_rfl)).wake_courier _).release _
  · exact (h.of_ready_eq (by rfl) (by exact le_rfl)).wake_courier _

theorem deregister (h : ReadyWell s) (id : String) : ReadyWell (s.deregister id) := by
  unfold System.deregister
  split
  · exact (h.of_ready_eq (by rfl) (by exact le_rfl)).release _
  · exact h

theorem cancelAll (h : ReadyWell s) (w : Option Nat) (jobs : List Job) :
    ReadyWell (s.cancelAll w jobs) := by
  unfold System.cancelAll
  induction jobs generalizing s with
  | nil => exact h
  | cons j rest ih => exact ih (cancelLoop_grows h j.loop w).1

theorem takeAllJobs (h : ReadyWell s) (close : Bool) : ReadyWell (s.takeAllJobs close).2 := by
  rw [takeAllJobs_eq]
  exact (h.of_ready_eq (by rfl) (by exact le_rfl)).cancelAll _ _

theorem quiesce (h : ReadyWell s) : ReadyWell s.quiesce :=
  (quiesce_settles h).1

theorem drain (h : ReadyWell s) (close : Bool) : ReadyWell (s.drain close).2 := by
  have ht := h.takeAllJobs close
  unfold System.drain
  dsimp only
  split
  · exact ht.quiesce
  · exact ht

theorem awaitRetire (h : ReadyWell s) : ReadyWell s.awaitRetire :=
  h.quiesce.of_ready_eq rfl le_rfl

theorem startJobNow (h : ReadyWell s) (i : Interest Stamp) : ReadyWell (s.startJobNow i).2 := by
  have hs := (startJob_grows h i none).1
  unfold System.startJobNow
  split <;> rename_i heq <;> rw [heq] at hs
  · exact hs.awaitRetire
  · exact hs

theorem stopJobNow (h : ReadyWell s) (app : String) : ReadyWell (s.stopJobNow app).2 := by
  have hs := (stopJob_grows h app none).1
  unfold System.stopJobNow
  split <;> rename_i heq <;> rw [heq] at hs
  · exact hs.awaitRetire
  · exact hs

theorem wakeDue (h : ReadyWell s) : ReadyWell s.wakeDue := by
  unfold System.wakeDue
  have hlt : ∀ p ∈ s.loops.zipIdx, p.2 < s.loops.length := fun p hp => by
    have := (List.mem_zipIdx (x := p.1) (i := p.2) hp).2.1
    omega
  generalize hL : s.loops.length = L at hlt
  generalize s.loops.zipIdx = ls at hlt
  -- waking keeps the loops, so every index of the list stays below their number
  induction ls generalizing s with
  | nil => exact h
  | cons p rest ih =>
    obtain ⟨l, n⟩ := p
    have hn : n < L := hlt _ List.mem_cons_self
    have hrest : ∀ q ∈ rest, q.2 < L := fun q hq => hlt q (List.mem_cons_of_mem _ hq)
    rw [List.foldl_cons]
    dsimp only
    split
    · exact ih (h.wake fun m hm => by cases hm; omega) (by simp [hL]) hrest
    · exact ih h hL hrest

theorem advance (h : ReadyWell s) (ms : Nat) : ReadyWell (s.advance ms) :=
  advance_invariant s ReadyWell (fun _ _ h => h.of_ready_eq rfl le_rfl) (fun _ h => h.wakeDue)
    (fun _ h => h.quiesce) ms h

theorem shutdown (h : ReadyWell s) : ReadyWell s.shutdown.2 := by
  have ht := h.takeAllJobs true
  unfold System.shutdown
  split
  · exact h
  · dsimp only
    split
    · split
      · exact ht
      · exact ht.quiesce
    · exact ht

end ReadyWell

theorem readyWell_closed : Closed ReadyWell where
  stamp _ h := h.of_ready_eq rfl le_rfl
  store _ _ h := h.of_ready_eq rfl le_rfl
  post _ e h := h.post e
  openLog _ h := h.of_ready_eq rfl le_rfl
  register _ id listener h := h.register id listener
  deregister _ id h := h.deregister id
  startJobNow _ i h := h.startJobNow i
  stopJobNow _ app h := h.stopJobNow app
  stopAll _ h := h.drain false
  restarted _ h := h.of_ready_eq rfl le_rfl
  advance _ ms h := h.advance ms
  quiesce _ h := h.quiesce

end System

end RouteWatch
