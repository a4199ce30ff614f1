import RouteWatch.Proofs.Hub.Wiring
import RouteWatch.Proofs.Hub.SchedulerJobs
import RouteWatch.Proofs.System.Mirror
import RouteWatch.Proofs.System.Shutdown
import RouteWatch.Proofs.System.Quiet

-- The one resync after a restart.
namespace RouteWatch

open Schedule

namespace Keyed

variable {α : Type} {key : α → String}

theorem Ordered.nodup {l : List α} (hl : Ordered key l) : l.Nodup :=
  hl.imp fun {a b} (hab : key a < key b) (heq : a = b) => String.lt_irrefl _ (heq ▸ hab)

-- Two ordered lists with the same elements are the same list.
theorem eq_of_mem_iff {l l' : List α} (hl : Ordered key l) (hl' : Ordered key l')
    (h : ∀ x, x ∈ l ↔ x ∈ l') : l = l' :=
  List.Perm.eq_of_pairwise (fun _ _ _ _ hab hba => absurd (String.lt_trans hab hba) (String.lt_irrefl _))
    hl hl' ((List.perm_ext_iff_of_nodup hl.nodup hl'.nodup).mpr h)

end Keyed

namespace System

variable {s : System}

section Ticking

-- Handing over mail never closes or opens the scheduler.
theorem handOver_closed (c : Nat) (listener : Listener) :
    ∀ (q : List (Event Stamp)) (s : System), (handOver c listener q s).table.closed = s.table.closed
  | [], s => by
    unfold handOver
    split <;> rfl
  | e :: rest, s => by
    rw [handOver_cons]
    have hp : (s.popMail c rest).table = s.table := by
      unfold popMail
      split <;> rfl
    have hd : ((s.popMail c rest).deliver c listener e).2.table.closed = s.table.closed := by
      rw [← hp]
      exact (s.popMail c rest).deliver_induct
        (fun r => r.2.table.closed = (s.popMail c rest).table.closed) c listener e
        (startJob_closed _ _ _) (stopJob_closed _ _ _) (fun _ => rfl) rfl
    cases h : (s.popMail c rest).deliver c listener e with
    | mk res s2 =>
      rw [h] at hd
      cases res with
      | none => rw [afterDeliver_none, handOver_closed c listener rest s2, hd]
      | some l =>
        rw [afterDeliver_some]
        unfold setStage
        split <;> exact hd

theorem runTask_closed (s : System) (t : Task) : (s.runTask t).table.closed = s.table.closed := by
  cases t with
  | loop n => rw [runTask_loop, runLoop_table]
  | courier c =>
    rw [runTask_courier]
    unfold runCourier
    split
    · rfl
    · split
      · rfl
      · split
        · split
          · exact handOver_closed c _ _ _
          · rfl
        · exact handOver_closed c _ _ s

theorem runTask_period (s : System) (t : Task) : (s.runTask t).table.period = s.table.period := by
  cases t with
  | loop n => rw [runTask_loop, runLoop_table]
  | courier c => exact (quiet_runCourier s c).period

-- The scheduler is open and its loops tick with a positive period.
structure Ticking (s : System) : Prop where
  opened : s.table.closed = false
  period : 0 < s.table.period

namespace Ticking

theorem of_table {s' : System} (h : Ticking s) (hc : s'.table.closed = s.table.closed)
    (hp : s'.table.period = s.table.period) : Ticking s' :=
  ⟨hc.trans h.opened, hp ▸ h.period⟩

theorem quiesce (h : Ticking s) : Ticking s.quiesce :=
  quiesceWith_invariant Ticking
    (fun x t rest hx _ => hx.of_table (runTask_closed { x with ready := rest } t)
      (runTask_period { x with ready := rest } t)) _ s h

theorem awaitRetire (h : Ticking s) : Ticking s.awaitRetire :=
  h.quiesce.of_table rfl rfl

theorem startJobNow (h : Ticking s) (i : Interest Stamp) : Ticking (s.startJobNow i).2 := by
  have h1 : Ticking (s.startJob i none).2 :=
    h.of_table (startJob_closed s i none) (quiet_startJob s i none).period
  unfold System.startJobNow
  split <;> rename_i heq <;> rw [heq] at h1
  · exact h1.awaitRetire
  · exact h1

theorem stopJobNow (h : Ticking s) (app : String) : Ticking (s.stopJobNow app).2 := by
  have h1 : Ticking (s.stopJob app none).2 :=
    h.of_table (stopJob_closed s none app) (quiet_stopJob s app none).period
  unfold System.stopJobNow
  split <;> rename_i heq <;> rw [heq] at h1
  · exact h1.awaitRetire
  · exact h1

theorem takeAllJobs (h : Ticking s) : Ticking (s.takeAllJobs false).2 :=
  h.of_table (by rw [takeAllJobs_eq, cancelAll_table]; simp) (by rw [takeAllJobs_eq, cancelAll_table])

theorem drain (h : Ticking s) : Ticking (s.drain false).2 := by
  have h1 := h.takeAllJobs
  unfold System.drain
  dsimp only
  split
  · exact h1.quiesce
  · exact h1

end Ticking

theorem ticking_closed : Closed Ticking where
  stamp _ h := ⟨h.1, h.2⟩
  store _ _ h := ⟨h.1, h.2⟩
  post s e h := h.of_table (by rw [(aside_post s e).table]) (by rw [(aside_post s e).table])
  openLog _ h := ⟨h.1, h.2⟩
  register s id l h :=
    h.of_table (by rw [(aside_register s id l).table]) (by rw [(aside_register s id l).table])
  deregister s id h :=
    h.of_table (by rw [(aside_deregister s id).table]) (by rw [(aside_deregister s id).table])
  startJobNow _ i h := h.startJobNow i
  stopJobNow _ app h := h.stopJobNow app
  stopAll _ h := h.drain
  restarted _ h := ⟨h.1, h.2⟩
  advance s ms h := advance_invariant s Ticking (fun _ _ hx => ⟨hx.1, hx.2⟩)
    (fun x hx => by
      obtain ⟨r, hr, -⟩ := wakeDue_eq x
      rw [hr]
      exact ⟨hx.1, hx.2⟩)
    (fun _ hx => hx.quiesce) ms h
  quiesce _ h := h.quiesce

theorem boot_ticking (setup : Setup) : Ticking setup.boot :=
  ⟨rfl, effectivePeriod_pos setup.period⟩

end Ticking

section Drain

-- No job is filed and every mailbox is empty.
structure Idle (s : System) : Prop where
  jobs : s.table.jobs = []
  mail : ∀ k ∈ s.couriers, k.queue = []

namespace Idle

theorem setCourier (h : Idle s) (c : Nat) {k : Courier} (hq : k.queue = []) :
    Idle (s.setCourier c k) :=
  ⟨h.jobs, fun k' hk' => by
    rcases List.mem_or_eq_of_mem_set hk' with hk' | rfl
    · exact h.mail k' hk'
    · exact hq⟩

-- A courier with an empty mailbox hands nothing over.
theorem handOver (h : Idle s) {c : Nat} {k : Courier} (hk : s.couriers[c]? = some k)
    (listener : Listener) : Idle (System.handOver c listener k.queue s) := by
  rw [h.mail k (List.mem_of_getElem? hk), handOver_nil_of_some s hk]
  exact h.setCourier c rfl

theorem runCourier (h : Idle s) (c : Nat) : Idle (s.runCourier c) := by
  unfold System.runCourier
  cases hk : s.couriers[c]? with
  | none => exact h
  | some k =>
    dsimp only
    split
    · exact h
    · split
      · split
        · -- the update is over: back to waiting, with nothing to hand over
          have hx : Idle (s.setCourier c { k with stage := .waiting }).endRetire :=
            ⟨h.jobs, (h.setCourier c (k := { k with stage := .waiting })
              (h.mail k (List.mem_of_getElem? hk))).mail⟩
          exact hx.handOver (k := { k with stage := .waiting })
            (by rw [endRetire_couriers, setCourier_couriers_of hk, if_pos rfl]) _
        · exact h
      · exact h.handOver hk _

theorem quiesce (h : Idle s) : Idle s.quiesce :=
  quiesceWith_invariant Idle (fun x t rest hx _ => by
    have hx' : Idle { x with ready := rest } := ⟨hx.jobs, hx.mail⟩
    cases t with
    | courier c => exact hx'.runCourier c
    | loop n => exact ⟨by rw [runTask_loop, runLoop_table]; exact hx.jobs,
        by rw [runTask_loop, runLoop_couriers]; exact hx.mail⟩) _ s h

end Idle

-- With every mailbox empty, stopping every job with the scheduler kept open leaves no job,
-- nothing retiring and every loop exited: no courier has anything to start a job with.
theorem Steady.drain_idle (h : Steady s) (hmail : ∀ k ∈ s.couriers, k.queue = []) :
    Idle (s.drain false).2 ∧ (s.drain false).2.table.retiring = 0 ∧
      ∀ l ∈ (s.drain false).2.loops, l.exited = true := by
  have hsteady := h.drain false
  have hidle : Idle (s.takeAllJobs false).2 := by
    rw [takeAllJobs_eq]
    exact ⟨by simp, by simpa using hmail⟩
  have hidle' : Idle (s.drain false).2 := by
    unfold System.drain
    dsimp only
    split
    · exact hidle.quiesce
    · exact hidle
  have hret : (s.drain false).2.table.retiring = 0 := by
    have hcount := hsteady.couriers.count
    by_cases hw : (s.takeAllJobs false).2.drainWaits (s.takeAllJobs false).1 = true
    · -- the drain settled: no courier is left inside an update
      have hd : (s.drain false).2 = (s.takeAllJobs false).2.quiesce := by
        simp only [System.drain, hw, if_true]
      have hready : (s.drain false).2.ready = [] := by
        rw [hd]
        exact (quiesce_settles (h.ready.takeAllJobs false)).2
      rw [hsteady.couriers.countP_of_settled hsteady.loops hready] at hcount
      exact hcount
    · -- no job was taken and nothing was retiring
      have hd : (s.drain false).2 = (s.takeAllJobs false).2 := by
        simp only [System.drain, hw]
        rfl
      rw [hd]
      unfold drainWaits at hw
      simp only [Bool.or_eq_true, decide_eq_true_eq, bne_iff_ne, ne_eq, not_or, not_lt,
        Nat.le_zero, not_not] at hw
      exact hw.2
  exact ⟨hidle', hret, hsteady.exited_of_idle hidle'.jobs hret⟩

-- With nothing retiring, no courier is inside an update.
theorem Steady.waiting_of_retiring (h : Steady s) (hret : s.table.retiring = 0) :
    ∀ k ∈ s.couriers, k.stage = .waiting := by
  have h0 : s.couriers.countP Courier.inUpdate = 0 := by
    have hc := h.couriers.count
    omega
  rw [List.countP_eq_zero] at h0
  intro k hk
  simpa [Courier.inUpdate] using h0 k hk

end Drain

section Posts

-- Publishing the creation of each interest of a list, in turn: the courier of every linked
-- mailbox gets them all, in order, and no other courier gets any.
theorem posts_couriers (items : List (Interest Stamp)) :
    ∀ (s : System), s.hub.mailboxes.Nodup → ∀ r,
      (items.foldl (fun s i => s.post ⟨.created, i⟩) s).couriers[r]? =
        if r ∈ s.hub.mailboxes then
          (s.couriers[r]?).map fun k =>
            { k with queue := k.queue ++ items.map fun i => (⟨.created, i⟩ : Event Stamp) }
        else s.couriers[r]? := by
  induction items with
  | nil =>
    intro s _ r
    rw [List.foldl_nil]
    split <;> cases s.couriers[r]? <;> simp
  | cons i rest ih =>
    intro s hnd r
    have hhub : (s.post ⟨.created, i⟩).hub = s.hub := (foldl_send_frame _ s.hub.mailboxes s).2
    have hpost : (s.post ⟨.created, i⟩).couriers[r]? = _ :=
      foldl_send_couriers ⟨.created, i⟩ s.hub.mailboxes s hnd r
    rw [List.foldl_cons, ih _ (hhub ▸ hnd), hhub, hpost]
    split
    · cases s.couriers[r]? <;> simp
    · rfl

theorem posts_ready (items : List (Interest Stamp)) :
    ∀ (s : System), s.hub.mailboxes.Nodup →
      (∀ x ∈ s.ready, x ∈ (items.foldl (fun s i => s.post ⟨.created, i⟩) s).ready) ∧
        (items ≠ [] → ∀ m ∈ s.hub.mailboxes, ∀ k, s.couriers[m]? = some k → k.stage = .waiting →
          .courier m ∈ (items.foldl (fun s i => s.post ⟨.created, i⟩) s).ready) := by
  induction items with
  | nil => exact fun _ _ => ⟨fun _ hx => hx, fun h => absurd rfl h⟩
  | cons i rest ih =>
    intro s hnd
    have hhub : (s.post ⟨.created, i⟩).hub = s.hub := (foldl_send_frame _ s.hub.mailboxes s).2
    obtain ⟨hkeep, hwoke⟩ := foldl_send_ready ⟨.created, i⟩ s.hub.mailboxes s hnd
    have hrest := (ih _ (hhub ▸ hnd)).1
    exact ⟨fun x hx => hrest x (hkeep x hx),
      fun _ m hm k hk hw => hrest _ (hwoke m hm k hk hw)⟩

theorem aside_posts (items : List (Interest Stamp)) :
    ∀ s : System, Aside s (items.foldl (fun s i => s.post ⟨.created, i⟩) s) := by
  induction items with
  | nil => exact Aside.refl
  | cons i rest ih => exact fun s => (aside_post s _).trans (ih _)

end Posts

section Replay

-- A courier's run leaves every other courier alone, and every ready task ready.

theorem handOver_ready_of_mem (c : Nat) (listener : Listener) {x : Task} :
    ∀ (q : List (Event Stamp)) (s : System), x ∈ s.ready → x ∈ (handOver c listener q s).ready
  | [], s, hx => by
    unfold handOver
    split
    · exact hx
    · exact hx
  | e :: rest, s, hx => by
    rw [handOver_cons]
    have hp : x ∈ (s.popMail c rest).ready := by
      unfold popMail
      split
      · exact hx
      · exact hx
    have hd : x ∈ ((s.popMail c rest).deliver c listener e).2.ready :=
      deliver_ready_of_mem _ e hp
    cases h : (s.popMail c rest).deliver c listener e with
    | mk res s2 =>
      rw [h] at hd
      cases res with
      | none => exact handOver_ready_of_mem c listener rest s2 hd
      | some l =>
        rw [afterDeliver_some]
        unfold setStage
        split
        · exact hd
        · exact hd

-- Handing over ends with an empty mailbox, or inside an update.
theorem handOver_settles (c : Nat) (listener : Listener) :
    ∀ (q : List (Event Stamp)) (s : System) (k : Courier), s.couriers[c]? = some k →
      ∃ k', (handOver c listener q s).couriers[c]? = some k' ∧ (k'.stage = .waiting → k'.queue = [])
  | [], s, k, hk => by
    rw [handOver_nil_of_some s hk, setCourier_couriers_of hk, if_pos rfl]
    exact ⟨_, rfl, fun _ => rfl⟩
  | e :: rest, s, k, hk => by
    rw [handOver_cons]
    have hk1 : ((s.popMail c rest).deliver c listener e).2.couriers[c]? =
        some { k with queue := rest } := by
      rw [deliver_couriers, popMail_of_some s hk, setCourier_couriers_of hk, if_pos rfl]
    cases hd : (s.popMail c rest).deliver c listener e with
    | mk res s2 =>
      rw [hd] at hk1
      cases res with
      | none => exact handOver_settles c listener rest s2 _ hk1
      | some l =>
        rw [afterDeliver_some, setStage_of_some s2 hk1, setCourier_couriers_of hk1, if_pos rfl]
        exact ⟨_, rfl, fun hw => by cases hw⟩

theorem runCourier_couriers_of_ne {c r : Nat} (hr : r ≠ c) :
    (s.runCourier c).couriers[r]? = s.couriers[r]? := by
  unfold runCourier
  cases hk : s.couriers[c]? with
  | none => rfl
  | some k =>
    dsimp only
    split
    · rfl
    · split
      · split
        · rw [handOver_couriers_of_ne c _ hr, endRetire_couriers, setCourier_couriers_of hk,
            if_neg (Ne.symm hr)]
        · rfl
      · exact handOver_couriers_of_ne c _ hr _ s

theorem runCourier_ready_of_mem (c : Nat) {x : Task} (hx : x ∈ s.ready) :
    x ∈ (s.runCourier c).ready := by
  unfold runCourier
  split
  · exact hx
  · split
    · exact hx
    · split
      · split
        · exact handOver_ready_of_mem c _ _ _ hx
        · exact hx
      · exact handOver_ready_of_mem c _ _ s hx

-- A courier that has not exited ends its run with empty mail, or inside an update.
theorem runCourier_settles {c : Nat} {k : Courier} (hk : s.couriers[c]? = some k)
    (hex : k.exited = false) :
    ∃ k', (s.runCourier c).couriers[c]? = some k' ∧ (k'.stage = .waiting → k'.queue = []) := by
  unfold System.runCourier
  rw [hk]
  dsimp only
  rw [if_neg (by simp [hex])]
  cases hst : k.stage with
  | waiting => exact handOver_settles c _ _ _ _ hk
  | retiring l =>
    dsimp only
    split
    · exact handOver_settles c _ _ _ _
        (by rw [endRetire_couriers, setCourier_couriers_of hk, if_pos rfl])
    · exact ⟨k, hk, fun hw => by rw [hst] at hw; cases hw⟩

variable {items : List (Interest Stamp)} {c : Nat}

-- The creations of `items` are being handed to the scheduler through courier `c`: the
-- scheduler is open; every courier that reads for it holds creations of items only; the table
-- files items only, and every item it does not file is still in the mail of `c`; and `c` reads
-- for the scheduler, stays linked and runs.
structure Replaying (items : List (Interest Stamp)) (c : Nat) (s : System) : Prop where
  opened : s.table.closed = false
  mail : ∀ (r : Nat) (k : Courier), s.couriers[r]? = some k → k.listener = .scheduler →
    ∀ e ∈ k.queue, e.kind = .created ∧ e.interest ∈ items
  filed : ∃ m : JobMap, s.table.Mirrors m ∧ (∀ app i, m.lookup app = some i → i ∈ items) ∧
    ∀ i ∈ items, m.lookup i.appName = some i ∨
      ∃ k, s.couriers[c]? = some k ∧ (⟨.created, i⟩ : Event Stamp) ∈ k.queue
  reader : ∃ k, s.couriers[c]? = some k ∧ k.listener = .scheduler ∧ k.linked = true ∧
    k.exited = false

namespace Replaying

theorem transfer (h : Replaying items c s) {s' : System} (hj : s'.table.jobs = s.table.jobs)
    (hcl : s'.table.closed = s.table.closed) (hc : s'.couriers = s.couriers) :
    Replaying items c s' where
  opened := hcl.trans h.opened
  mail := hc ▸ h.mail
  filed := by
    obtain ⟨m, hm, hin, howed⟩ := h.filed
    exact ⟨m, Table.mirrors_of_jobs_eq hm hj, hin, hc ▸ howed⟩
  reader := hc ▸ h.reader

-- A courier that keeps its mail changes nothing replayed.
theorem setCourier (h : Replaying items c s) {r : Nat} {k k' : Courier}
    (hk : s.couriers[r]? = some k) (hkk : k.Keeps k') (hq : k'.queue = k.queue) :
    Replaying items c (s.setCourier r k') where
  opened := h.opened
  mail r' x hx hl := by
    rw [setCourier_couriers_of hk] at hx
    split at hx
    · cases hx
      rw [hq]
      exact h.mail r k hk (hkk.listener ▸ hl)
    · exact h.mail r' x hx hl
  filed := by
    obtain ⟨m, hm, hin, howed⟩ := h.filed
    refine ⟨m, hm, hin, fun i hi => (howed i hi).imp_right ?_⟩
    rintro ⟨x, hx, hmem⟩
    rw [setCourier_couriers_of hk]
    split
    · rename_i hrc
      subst hrc
      rw [hk] at hx
      cases hx
      exact ⟨k', rfl, hq ▸ hmem⟩
    · exact ⟨x, hx, hmem⟩
  reader := by
    obtain ⟨x, hx, hl, hlk, he⟩ := h.reader
    rw [setCourier_couriers_of hk]
    split
    · rename_i hrc
      subst hrc
      rw [hk] at hx
      cases hx
      exact ⟨k', rfl, hkk.listener.trans hl, hkk.linked.trans hlk, hkk.running hlk he⟩
    · exact ⟨x, hx, hl, hlk, he⟩

-- Courier r has given up the first event of its mail, and every other courier is as it was:
-- the scheduler's couriers still hold creations of items only, c still reads, and every item
-- that c owed, other than that event, it still owes.
theorem popped (h : Replaying items c s) {s' : System} {r : Nat} {k : Courier}
    {e : Event Stamp} {rest : List (Event Stamp)} (hk : s.couriers[r]? = some k)
    (hq : k.queue = e :: rest)
    (hcour : ∀ r', s'.couriers[r']? = if r = r' then some { k with queue := rest } else s.couriers[r']?) :
    (∀ (r' : Nat) (x : Courier), s'.couriers[r']? = some x → x.listener = .scheduler →
      ∀ e' ∈ x.queue, e'.kind = .created ∧ e'.interest ∈ items) ∧
    (∃ x, s'.couriers[c]? = some x ∧ x.listener = .scheduler ∧ x.linked = true ∧
      x.exited = false) ∧
    ∀ i, (∃ x, s.couriers[c]? = some x ∧ (⟨.created, i⟩ : Event Stamp) ∈ x.queue) →
      (⟨.created, i⟩ : Event Stamp) ≠ e →
      ∃ x, s'.couriers[c]? = some x ∧ (⟨.created, i⟩ : Event Stamp) ∈ x.queue := by
  refine ⟨?_, ?_, ?_⟩
  · intro r' x hx hl e' he'
    rw [hcour] at hx
    split at hx
    · cases hx
      exact h.mail r k hk hl e' (by rw [hq]; exact List.mem_cons_of_mem _ he')
    · exact h.mail r' x hx hl e' he'
  · obtain ⟨x, hx, hl, hlk, he⟩ := h.reader
    rw [hcour]
    split
    · rename_i hrc
      subst hrc
      rw [hk] at hx
      cases hx
      exact ⟨_, rfl, hl, hlk, he⟩
    · exact ⟨x, hx, hl, hlk, he⟩
  · rintro i ⟨x, hx, hmem⟩ hne
    rw [hcour]
    split
    · rename_i hrc
      subst hrc
      rw [hk] at hx
      cases hx
      rw [hq] at hmem
      exact ⟨_, rfl, (List.mem_cons.mp hmem).resolve_left hne⟩
    · exact ⟨x, hx, hmem⟩

variable (hitems : Keyed.Ordered Interest.appName items)
include hitems

-- Courier `r` takes the first event off its mail and hands it over. A courier of the scheduler
-- holds a creation of an item: the table files the item, which is all that the mail of `c` could
-- still owe for it. Any other courier leaves the table alone, and is not `c`.
theorem handOne (hs : LoopsSound s) (h : Replaying items c s) {r : Nat} {k : Courier}
    {e : Event Stamp} {rest : List (Event Stamp)} (hk : s.couriers[r]? = some k)
    (hq : k.queue = e :: rest) :
    LoopsSound ((s.popMail r rest).deliver r k.listener e).2 ∧
      Replaying items c ((s.popMail r rest).deliver r k.listener e).2 ∧
      ((s.popMail r rest).deliver r k.listener e).2.couriers[r]? = some { k with queue := rest } := by
  obtain ⟨m, hm, hin, howed⟩ := h.filed
  have hpop := popMail_of_some s hk rest
  have hps : LoopsSound (s.popMail r rest) := hpop ▸ hs.setCourier r _
  -- after the delivery, r holds the rest of its mail and every other courier is as it was
  have hcour : ∀ r', ((s.popMail r rest).deliver r k.listener e).2.couriers[r']? =
      if r = r' then some { k with queue := rest } else s.couriers[r']? := by
    intro r'
    rw [deliver_couriers, hpop, setCourier_couriers_of hk]
  obtain ⟨hmail, hreader, hkept⟩ := h.popped hk hq hcour
  by_cases hl : k.listener = .scheduler
  · -- the scheduler files the item
    obtain ⟨hkind, hitem⟩ := h.mail r k hk hl e (by rw [hq]; exact List.mem_cons_self)
    obtain ⟨hs2, hopen2, -, hm2, -, -⟩ := deliver_scheduler hps (by rw [hpop]; exact h.opened)
      (by rw [hpop]; exact hm) r e
    have hfiled : (m.apply e).lookup e.interest.appName = some e.interest := by
      rw [JobMap.lookup_apply]
      simp [Event.key, Event.filed, hkind]
    rw [← hl] at hs2 hopen2 hm2
    refine ⟨hs2, ⟨hopen2, hmail, ⟨m.apply e, hm2, ?_, ?_⟩, hreader⟩, by rw [hcour, if_pos rfl]⟩
    · intro app i hi
      rw [JobMap.lookup_apply] at hi
      split at hi
      · simp only [Event.filed, hkind, Option.some.injEq] at hi
        rw [← hi]
        exact hitem
      · exact hin app i hi
    · intro i hi
      by_cases hsame : e.interest.appName = i.appName
      · -- items differ in app name, so the one filed is `i`
        have hei : e.interest = i := Keyed.eq_of_key_eq hitems hitem hi hsame
        left
        rw [← hei]
        exact hfiled
      · rcases howed i hi with hmi | howe
        · left
          rw [JobMap.lookup_apply, if_neg (show ¬e.key = i.appName from hsame)]
          exact hmi
        · right
          refine hkept i howe fun hie => hsame ?_
          rw [← hie]
  · -- a recorder or a silent observer leaves the table alone, and is not `c`
    have htable := deliver_table_of_ne (s.popMail r rest) (c := r) e hl
    have hrc : r ≠ c := by
      rintro rfl
      obtain ⟨x, hx, hxl, -⟩ := h.reader
      rw [hk] at hx
      cases hx
      exact hl hxl
    refine ⟨hps.deliver r k.listener e, ⟨by rw [htable, hpop]; exact h.opened, hmail,
      ⟨m, Table.mirrors_of_jobs_eq hm (by rw [htable, hpop]; rfl), hin,
        fun i hi => (howed i hi).imp_right fun howe => ?_⟩, hreader⟩, by rw [hcour, if_pos rfl]⟩
    obtain ⟨x, hx, hmem⟩ := howe
    refine ⟨x, ?_, hmem⟩
    rw [hcour, if_neg hrc]
    exact hx

-- A courier hands over its mail, one event at a time, until it is empty or an update makes
-- the courier wait.
theorem handOver : ∀ (q : List (Event Stamp)) (s : System) (r : Nat) (k : Courier),
    LoopsSound s → Replaying items c s → s.couriers[r]? = some k → k.queue = q →
    LoopsSound (System.handOver r k.listener q s) ∧ Replaying items c (System.handOver r k.listener q s)
  | [], s, r, k, hs, h, hk, hq => by
    rw [handOver_nil_of_some s hk]
    exact ⟨hs.setCourier _ _, h.setCourier hk (Courier.Keeps.done k) (by rw [hq])⟩
  | e :: rest, s, r, k, hs, h, hk, hq => by
    rw [handOver_cons]
    obtain ⟨hs1, h1, hk1⟩ := h.handOne hitems hs hk hq
    generalize (s.popMail r rest).deliver r k.listener e = d at hs1 h1 hk1
    obtain ⟨_ | l, s2⟩ := d
    · exact handOver rest s2 r { k with queue := rest } hs1 h1 hk1 rfl
    · rw [afterDeliver_some, setStage_of_some s2 hk1]
      exact ⟨hs1.setCourier _ _, h1.setCourier hk1 (Courier.Keeps.stage _ _) rfl⟩

theorem runCourier (hs : LoopsSound s) (h : Replaying items c s) (r : Nat) :
    Replaying items c (s.runCourier r) := by
  unfold System.runCourier
  cases hk : s.couriers[r]? with
  | none => exact h
  | some k =>
    dsimp only
    split
    · exact h
    · split
      · split
        · -- the update is over: the courier goes back to waiting and on with its mail
          have hx : Replaying items c (s.setCourier r { k with stage := .waiting }).endRetire :=
            (h.setCourier hk (Courier.Keeps.stage k .waiting) rfl).transfer rfl rfl rfl
          have hk' : (s.setCourier r { k with stage := .waiting }).endRetire.couriers[r]? =
              some { k with stage := .waiting } := by
            rw [endRetire_couriers, setCourier_couriers_of hk, if_pos rfl]
          exact (handOver hitems k.queue _ r _ (hs.setCourier r _).endRetire hx hk' rfl).2
        · exact h
      · exact (handOver hitems k.queue s r k hs h hk rfl).2

theorem runTask (hs : LoopsSound s) (h : Replaying items c s) {t : Task} {rest : List Task}
    (hr : s.ready = t :: rest) : Replaying items c ({ s with ready := rest }.runTask t) := by
  have hp : Replaying items c { s with ready := rest } := h.transfer rfl rfl rfl
  cases t with
  | courier r =>
    refine hp.runCourier hitems (hs.pop_courier (c := r) fun x hx hne => ?_) r
    rw [hr] at hx
    exact (List.mem_cons.mp hx).resolve_left hne
  | loop n =>
    exact hp.transfer (by rw [runTask_loop, runLoop_table]) (by rw [runTask_loop, runLoop_table])
      (by rw [runTask_loop, runLoop_couriers])

end Replaying

-- Courier `c` runs soon whenever it waits for mail and holds some.
def Prompted (c : Nat) (s : System) : Prop :=
  ∀ k, s.couriers[c]? = some k → k.stage = .waiting → k.queue ≠ [] → .courier c ∈ s.ready

-- A run keeps courier `c` prompt: another task leaves `c` alone and ready if it was, and `c`
-- itself ends with no mail or inside an update.
theorem Prompted.runTask (hp : Prompted c s) (h : Replaying items c s) {t : Task}
    {rest : List Task} (hr : s.ready = t :: rest) : Prompted c ({ s with ready := rest }.runTask t) := by
  have hrest : .courier c ∈ s.ready → t ≠ .courier c → .courier c ∈ rest := fun hin hne => by
    rw [hr] at hin
    exact (List.mem_cons.mp hin).resolve_left fun h' => hne h'.symm
  cases t with
  | loop n =>
    intro k hk hw hq
    rw [runTask_loop, runLoop_couriers] at hk
    exact runLoop_ready_of_mem _ n (hrest (hp k hk hw hq) (by simp))
  | courier r =>
    rw [runTask_courier]
    by_cases hrc : r = c
    · subst hrc
      obtain ⟨k, hk, -, -, hex⟩ := h.reader
      obtain ⟨k', hk', hdone⟩ := runCourier_settles (s := { s with ready := rest }) hk hex
      intro k2 hk2 hw hq
      rw [hk'] at hk2
      cases hk2
      exact absurd (hdone hw) hq
    · intro k hk hw hq
      rw [runCourier_couriers_of_ne (Ne.symm hrc)] at hk
      exact runCourier_ready_of_mem r (hrest (hp k hk hw hq) (by simp [hrc]))

-- Posting the creation of every item to an idle system, whose scheduler is open and reads
-- mailbox c through a courier that waits for mail, starts the replay of the items through c.
theorem Idle.replaying_posts (h : Idle s) (hopen : s.table.closed = false)
    (hnd : s.hub.mailboxes.Nodup) (hc : c ∈ s.hub.mailboxes) {k : Courier}
    (hk : s.couriers[c]? = some k) (hl : k.listener = .scheduler) (hlinked : k.linked = true)
    (hex : k.exited = false) (hw : k.stage = .waiting) :
    Replaying items c (items.foldl (fun s i => s.post ⟨.created, i⟩) s) ∧
      Prompted c (items.foldl (fun s i => s.post ⟨.created, i⟩) s) := by
  have hcour := posts_couriers items s hnd
  have hap := aside_posts items s
  have hq : k.queue = [] := h.mail k (List.mem_of_getElem? hk)
  have hkp : (items.foldl (fun s i => s.post ⟨.created, i⟩) s).couriers[c]? =
      some { k with queue := k.queue ++ items.map fun i => ⟨.created, i⟩ } := by
    rw [hcour c, if_pos hc, hk]
    rfl
  refine ⟨⟨by rw [hap.table]; exact hopen, ?_, ?_, ⟨_, hkp, hl, hlinked, hex⟩⟩, ?_⟩
  · -- every courier's mail was empty, so it holds the posted creations only
    intro r x hx _ e he
    rw [hcour r] at hx
    split at hx
    · obtain ⟨y, hy, rfl⟩ := Option.map_eq_some_iff.mp hx
      rw [h.mail y (List.mem_of_getElem? hy), List.nil_append] at he
      obtain ⟨i, hi, rfl⟩ := List.mem_map.mp he
      exact ⟨rfl, hi⟩
    · rw [h.mail x (List.mem_of_getElem? hx)] at he
      cases he
  · exact ⟨∅, Table.mirrors_nil (by rw [hap.table]; exact h.jobs), by simp,
      fun i hi => Or.inr ⟨_, hkp, by simp [hq, hi]⟩⟩
  · intro x hx _ hne
    rw [hkp] at hx
    cases hx
    have hitems : items ≠ [] := fun h0 => hne (by simp [hq, h0])
    exact (posts_ready items s hnd).2 hitems c hc k hk hw

-- The replay runs to its end: once nothing is ready, the courier of `c` holds no mail and
-- the scheduler files every item.
theorem Replaying.quiesce (hitems : Keyed.Ordered Interest.appName items) (hs : LoopsSound s)
    (h : Replaying items c s) (hp : Prompted c s) :
    LoopsSound s.quiesce ∧ Replaying items c s.quiesce ∧ Prompted c s.quiesce :=
  quiesceWith_invariant (fun x => LoopsSound x ∧ Replaying items c x ∧ Prompted c x)
    (fun _ _ _ hx hr => ⟨hx.1.runTask hr, hx.2.1.runTask hitems hx.1 hr, hx.2.2.runTask hx.2.1 hr⟩)
    _ s ⟨hs, h, hp⟩

-- Once nothing is ready, no courier is inside an update, so the courier of `c` waits for mail
-- and holds none: every item is filed, and the jobs are the items in order of app name.
theorem Replaying.jobs_eq (hitems : Keyed.Ordered Interest.appName items)
    (h : Replaying items c s) (hp : Prompted c s) (hs : LoopsSound s) (hcs : CouriersSound s 0)
    (hr : s.ready = []) : s.table.jobs.map (·.snapshot) = items := by
  obtain ⟨m, hm, hin, howed⟩ := h.filed
  obtain ⟨k, hk, -⟩ := h.reader
  have hwait : k.stage = .waiting := by
    have h0 := hcs.countP_of_settled hs hr
    rw [List.countP_eq_zero] at h0
    simpa [Courier.inUpdate] using h0 k (List.mem_of_getElem? hk)
  have hempty : k.queue = [] := by
    by_contra hne
    have hin' := hp k hk hwait hne
    rw [hr] at hin'
    cases hin'
  have hfiled : ∀ i ∈ items, m.lookup i.appName = some i := by
    intro i hi
    rcases howed i hi with h1 | ⟨x, hx, hmem⟩
    · exact h1
    · rw [hk] at hx
      cases hx
      rw [hempty] at hmem
      cases hmem
  -- both lists hold the same interests in increasing order of app name
  have hord : Keyed.Ordered Interest.appName (s.table.jobs.map (·.snapshot)) :=
    List.pairwise_map.mpr hs.ordered
  refine Keyed.eq_of_mem_iff hord hitems fun i => ?_
  constructor
  · intro hi
    obtain ⟨j, hj, rfl⟩ := List.mem_map.mp hi
    have hl : s.table.lookup j.snapshot.appName = some j.snapshot := by
      simp [Table.lookup, Table.find?_of_mem hs.ordered hj]
    rw [hm] at hl
    exact hin _ _ hl
  · intro hi
    have hl := hfiled i hi
    rw [← hm] at hl
    obtain ⟨j, hj, hji⟩ := Option.map_eq_some_iff.mp hl
    exact List.mem_map.mpr ⟨j, (Table.find?_eq_some hj).1, hji⟩

end Replay

section Fresh

-- After a moment when no loop is live, every job of a state reached without time passing runs
-- on a loop spawned since, which first ticks one period after that moment.
theorem Quiet.jobs_fresh {t x : System} (hq : Quiet t x) (hidle : ∀ l ∈ t.loops, l.live = false)
    (hs : LoopsSound x) :
    ∀ j ∈ x.table.jobs, t.loops.length ≤ j.loop ∧
      ∃ l, x.loops[j.loop]? = some l ∧ l.snapshot = j.snapshot ∧ l.live = true ∧
        l.deadline = t.now + t.table.period ∧ l.callEnds = none := by
  intro j hj
  obtain ⟨l, hl, hsnap, hc, he⟩ := hs.filed j hj
  have hlive : l.live = true := by simp [Loop.live, hc, he]
  -- a loop that was there already was not live then, so it is not live now
  have hge : t.loops.length ≤ j.loop := by
    by_contra hlt
    obtain ⟨l0, hl0⟩ : ∃ l0, t.loops[j.loop]? = some l0 :=
      ⟨_, List.getElem?_eq_getElem (Nat.lt_of_not_le hlt)⟩
    obtain ⟨l', hl', hkeep⟩ := hq.kept j.loop l0 hl0
    rw [hl] at hl'
    cases hl'
    have hlive0 := (hkeep.timer hlive).1
    rw [hidle l0 (List.mem_of_getElem? hl0)] at hlive0
    cases hlive0
  obtain ⟨hd, hce⟩ := (hq.fresh j.loop l hge hl).2 hlive
  exact ⟨hge, l, hl, hsnap, hlive, hd, hce⟩

-- Taking every job leaves no loop live.
theorem LoopsSound.not_live_takeAllJobs (h : LoopsSound s) (close : Bool) :
    ∀ l ∈ (s.takeAllJobs close).2.loops, l.live = false := by
  have htj : (s.takeAllJobs close).2.table.jobs = [] := by simp [takeAllJobs_eq]
  intro l hl
  obtain ⟨n, hn⟩ := List.mem_iff_getElem?.mp hl
  cases hlive : l.live
  · rfl
  · simp only [Loop.live, Bool.and_eq_true, Bool.not_eq_eq_eq_not, Bool.not_true] at hlive
    obtain ⟨j, hj, -⟩ := (h.takeAllJobs close).live_filed n l hn hlive.2 hlive.1
    rw [htj] at hj
    cases hj

-- A drain that keeps the scheduler open moves no time: once it has taken the jobs, no loop is
-- live, and whatever it runs after that stays quiet.
theorem Ticking.quiet_drain (ht : Ticking s) (hs : LoopsSound s) :
    Ahead (s.takeAllJobs false).2 ∧ Quiet (s.takeAllJobs false).2 (s.drain false).2 := by
  have hnone := hs.not_live_takeAllJobs false
  have hahead : Ahead (s.takeAllJobs false).2 :=
    ⟨ht.takeAllJobs.period,
      fun n l hn hlive => absurd hlive (by rw [hnone l (List.mem_of_getElem? hn)]; decide)⟩
  refine ⟨hahead, ?_⟩
  unfold System.drain
  dsimp only
  split
  · exact quiet_quiesce hahead
  · exact Quiet.refl _

end Fresh

section Restart

theorem untouched_send (m : Nat) (e : Event Stamp) : Untouched s (s.send m e) := by
  unfold send
  split
  · rfl
  · dsimp only
    split
    · exact (Untouched.inner s _ _ _ _ _ _).trans (untouched_wake _ _)
    · exact Untouched.inner s _ _ _ _ _ _

theorem untouched_post (e : Event Stamp) : Untouched s (s.post e) := by
  unfold post
  generalize s.hub.mailboxes = ms
  induction ms generalizing s with
  | nil => rfl
  | cons m rest ih => exact (untouched_send m e).trans ih

theorem release_restarted (m : Nat) : (s.release m).restarted = s.restarted := by
  unfold release
  split
  · rfl
  · dsimp only
    split
    · exact (untouched_wake _ _).restarted
    · rfl

theorem register_restarted (id : String) (l : Listener) :
    (s.register id l).restarted = s.restarted := by
  unfold register
  dsimp only
  split
  · exact (release_restarted _).trans (untouched_wake _ _).restarted
  · exact (untouched_wake _ _).restarted

theorem deregister_restarted (id : String) : (s.deregister id).restarted = s.restarted := by
  unfold deregister
  split
  · exact release_restarted _
  · rfl

theorem untouched_shutdown : Untouched s s.shutdown.2 := by
  have h : Untouched s (s.takeAllJobs true).2 := by
    rw [takeAllJobs_eq]
    exact (Untouched.inner s _ _ _ _ _ _).trans (untouched_cancelAll _ _ _)
  unfold shutdown
  split
  · rfl
  · dsimp only
    split
    · split
      · exact h
      · exact h.trans (untouched_quiesce _)
    · exact h

-- Only the restart sets the latch, and nothing clears it.
theorem latched_closed : Closed fun s => s.restarted = true where
  stamp _ h := h
  store _ _ h := h
  post _ e h := (untouched_post e).restarted.trans h
  openLog _ h := h
  register _ id l h := (register_restarted id l).trans h
  deregister _ id h := (deregister_restarted id).trans h
  startJobNow s i h := (untouched_startJobNow s i).restarted.trans h
  stopJobNow s app h := (untouched_stopJobNow s app).restarted.trans h
  stopAll s h := (untouched_drain s false).restarted.trans h
  restarted _ _ := rfl
  advance s ms h := advance_invariant s (fun x => x.restarted = true) (fun _ _ hx => hx)
    (fun x hx => by
      obtain ⟨r, hr, -⟩ := wakeDue_eq x
      rw [hr]
      exact hx)
    (fun x hx => (untouched_quiesce x).restarted.trans hx) ms h
  quiesce s h := (untouched_quiesce s).restarted.trans h

theorem restart_of_restarted (h : s.restarted = true) : s.restart = (0, s) := by
  unfold restart
  rw [if_pos h]

-- A first restart with every part stops every job, keeping the scheduler open, then posts
-- the creation of every stored interest.
theorem restart_first (h : s.restarted = false) (hp : s.parts = Parts.all) :
    s.restart = (s.store.toList.length,
      s.store.toList.foldl (fun s i => s.post ⟨.created, i⟩) ({ s with restarted := true }.drain false).2) := by
  unfold restart
  rw [if_neg (by simp [h])]
  dsimp only
  rw [if_neg (by simp [hp, Parts.all]), (untouched_drain _ false).store]

-- A first restart without every part uses the latch up and does nothing else.
theorem restart_of_lacking (h : s.restarted = false) (hp : s.parts ≠ Parts.all) :
    s.restart = (0, { s with restarted := true }) := by
  have hlack : (!(s.parts.service && s.parts.subject && s.parts.scheduler)) = true := by
    revert hp
    cases s.parts with
    | mk a b c => cases a <;> cases b <;> cases c <;> decide
  unfold restart
  rw [if_neg (by simp [h])]
  dsimp only
  rw [if_pos hlack]

end Restart

section Resync

-- The first restart of a steady system whose scheduler is open and reads the hub, with every
-- part present and every mailbox empty.
theorem Steady.restart_resyncs (hsteady : Steady s) (hticking : Ticking s) (hwired : Wired s)
    (hparts : s.parts = Parts.all) (hfirst : s.restarted = false)
    (hmail : ∀ k ∈ s.couriers, k.queue = [])
    (hsub : ∃ m ∈ s.hub.mailboxes, (s.couriers[m]?).map Courier.listener = some .scheduler) :
    s.restart.1 = s.store.toList.length ∧ s.restart.2.table.jobs = [] ∧
      (∀ l ∈ s.restart.2.loops, l.exited = true) ∧ s.restart.2.restarted = true ∧
      s.restart.2.quiesce.table.jobs.map (·.snapshot) = s.store.toList ∧
      (∀ j ∈ s.restart.2.quiesce.table.jobs, s.loops.length ≤ j.loop ∧
        ∃ l, s.restart.2.quiesce.loops[j.loop]? = some l ∧ l.snapshot = j.snapshot ∧
          l.live = true ∧ l.deadline = s.now + s.table.period ∧ l.callEnds = none) ∧
      s.restart.2.quiesce.now = s.now := by
  obtain ⟨c, hc, hcl⟩ := hsub
  obtain ⟨k, hk, hkl⟩ := Option.map_eq_some_iff.mp hcl
  obtain ⟨k1, hk1, hlk, hex⟩ := hwired.live c hc
  rw [hk] at hk1
  cases hk1
  -- the latch is set, then the drain stops every job and waits for every loop
  let s0 : System := { s with restarted := true }
  have hs0 : Steady s0 := steady_closed.restarted s hsteady
  have ht0 : Ticking s0 := ticking_closed.restarted s hticking
  let d := (s0.drain false).2
  obtain ⟨hidle, hret, hexit⟩ := hs0.drain_idle hmail
  have hsd : Steady d := hs0.drain false
  have hud : Untouched s0 d := untouched_drain s0 false
  have hwd : Wired d := wired_closed.stopAll s0 (wired_closed.restarted s hwired)
  obtain ⟨kd, hkd, hkeep⟩ := couriersKept_drain s0 false c k hk
  -- then the creation of each stored interest reaches the scheduler's courier, which replays it
  let items := s.store.toList
  let p := items.foldl (fun s i => s.post ⟨.created, i⟩) d
  have hrestart : s.restart = (items.length, p) := restart_first hfirst hparts
  have hap : Aside d p := aside_posts items d
  obtain ⟨hrep, hprompt⟩ := hidle.replaying_posts (ticking_closed.stopAll s0 ht0).opened
    hwd.mailboxes_nodup (by rw [hud.hub]; exact hc) hkd (hkeep.listener.trans hkl)
    (hkeep.linked.trans hlk) (hkeep.running hlk hex)
    (hsd.waiting_of_retiring hret kd (List.mem_of_getElem? hkd))
  have hsp : Steady p := steady_closed.calm.posts items hsd
  obtain ⟨hsq, hrq, hpq⟩ := hrep.quiesce s.store.ordered hsp.loops hprompt
  have hjobs := hrq.jobs_eq s.store.ordered hpq hsq hsp.quiesce.couriers (quiesce_settles hsp.ready).2
  -- no time passes, so the loops spawned since the drain took the jobs tick one period on
  have hqt := quiet_takeAllJobs s0 false
  obtain ⟨hahead, hqd⟩ := ht0.quiet_drain hs0.loops
  have hqq : Quiet (s0.takeAllJobs false).2 p.quiesce :=
    (quiet_calm hahead).quiesce _ ((quiet_calm hahead).posts items hqd)
  rw [hrestart]
  refine ⟨rfl, by rw [hap.table]; exact hidle.jobs, by rw [hap.loops]; exact hexit,
    latched_closed.calm.posts items (hud.restarted.trans rfl), hjobs, fun j hj => ?_,
    hqq.now.trans hqt.now⟩
  obtain ⟨hge, l, hl, hsnap, hlive, hd, hce⟩ :=
    hqq.jobs_fresh (hs0.loops.not_live_takeAllJobs false) hsq j hj
  refine ⟨le_trans hqt.length hge, l, hl, hsnap, hlive, ?_, hce⟩
  rw [hd, hqt.now, hqt.period]

end Resync


end System

namespace Scenario

open RouteWatch.System

-- The restart over a whole scenario. Its first call, made when every part is present, the
-- scheduler has stayed open and still reads the hub, and every notified event has been handed
-- over, stops every job, then replays the repository into one fresh job per stored interest;
-- every later call, and a first call lacking a part, answers 0 and leaves the jobs alone.
theorem restart_resyncs_jobs (setup : Setup) (before : List Step)
    (hsteps : ∀ st ∈ before, ∀ a, st.action = .ok a → a ≠ .closeScheduler ∧ a ≠ .shutdown)
    (hparts : (setup.after before).system.parts = Parts.all)
    (hfirst : (setup.after before).system.restarted = false)
    (hmail : ∀ k ∈ (setup.after before).system.couriers, k.queue = [])
    (hsub : ∃ m ∈ (setup.after before).system.hub.mailboxes,
      ((setup.after before).system.couriers[m]?).map Courier.listener = some .scheduler) :
    let s := (setup.after before).system
    (s.restart.1 = s.store.toList.length ∧ s.restart.2.table.jobs = [] ∧
      (∀ l ∈ s.restart.2.loops, l.exited = true) ∧ s.restart.2.restarted = true ∧
      s.restart.2.quiesce.table.jobs.map (·.snapshot) = s.store.toList ∧
      (∀ j ∈ s.restart.2.quiesce.table.jobs, s.loops.length ≤ j.loop ∧
        ∃ l, s.restart.2.quiesce.loops[j.loop]? = some l ∧ l.snapshot = j.snapshot ∧
          l.live = true ∧ l.deadline = s.now + s.table.period ∧ l.callEnds = none) ∧
      s.restart.2.quiesce.now = s.now) ∧
    (∀ (sc : Scenario) (more : List Step), sc.system.restarted = true →
      (runAll Scenario.step sc more).2.system.restart = (0, (runAll Scenario.step sc more).2.system)) ∧
    ∀ x : System, x.restarted = false → x.parts ≠ Parts.all →
      x.restart = (0, { x with restarted := true }) := by
  intro s
  have hsteady : Steady s := after_keeps steady_closed setup before hsteps (boot_steady setup)
  have hticking : Ticking s := after_keeps ticking_closed setup before hsteps (boot_ticking setup)
  have hwired : Wired s := after_keeps wired_closed setup before hsteps (wired_boot setup)
  -- the latch outlives every later step, closing and shutting down included
  have hlatch : ∀ (sc : Scenario) (more : List Step), sc.system.restarted = true →
      (runAll Scenario.step sc more).2.system.restarted = true := fun sc more h =>
    runAll_keeps latched_closed (fun x hx => (untouched_drain x true).restarted.trans hx)
      (fun x hx => untouched_shutdown.restarted.trans hx) more sc h
  exact ⟨hsteady.restart_resyncs hticking hwired hparts hfirst hmail hsub,
    fun sc more h => restart_of_restarted (hlatch sc more h),
    fun x hx hp => restart_of_lacking hx hp⟩

-- Two stored interests, one of them already watched under another address: the restart
-- answers 2 and replaces that job by the stored one.
theorem restart_resyncs_over_a_running_job :
    let s := (Setup.after ⟨100, 10000, ⟨0, []⟩, [("b", "2"), ("a", "1")], Parts.all⟩
      [⟨[], .ok (.startJob "a" "9"), true⟩, ⟨[], .ok (.advance 50), true⟩]).system
    s.table.jobs.length = 1 ∧ s.restart.1 = 2 ∧
      s.restart.2.quiesce.table.jobs.map (·.snapshot) = s.store.toList := by
  obtain ⟨⟨h1, -, -, -, h5, -⟩, -⟩ := restart_resyncs_jobs
    ⟨100, 10000, ⟨0, []⟩, [("b", "2"), ("a", "1")], Parts.all⟩
    [⟨[], .ok (.startJob "a" "9"), true⟩, ⟨[], .ok (.advance 50), true⟩]
    (by
      intro st hst a ha
      simp only [List.mem_cons, List.not_mem_nil, or_false] at hst
      rcases hst with rfl | rfl <;> cases ha <;> simp)
    (by decide +kernel) (by decide +kernel) (by decide +kernel) (by decide +kernel)
  exact ⟨by decide +kernel, h1.trans (by decide +kernel), h5⟩

-- Closing the scheduler, or taking it off the hub, before the first restart: every part is
-- there and no event is pending, yet the replayed creations start no job. A closed scheduler
-- refuses them, and no courier hands them to a scheduler that is off the hub.
theorem restart_starts_no_job_for_a_closed_or_unlinked_scheduler :
    (let s := (Setup.after ⟨30000, 10000, ⟨0, []⟩, [("a", "1")], Parts.all⟩
      [⟨[], .ok .closeScheduler, true⟩]).system
    s.parts = Parts.all ∧ s.restarted = false ∧ (∀ k ∈ s.couriers, k.queue = []) ∧
      s.store.toList.length = 1 ∧ s.restart.1 = 1 ∧ s.restart.2.quiesce.table.jobs = []) ∧
    (let s := (Setup.after ⟨30000, 10000, ⟨0, []⟩, [("a", "1")], Parts.all⟩
      [⟨[], .ok (.deregister schedulerId), true⟩]).system
    s.parts = Parts.all ∧ s.restarted = false ∧ (∀ k ∈ s.couriers, k.queue = []) ∧
      s.table.closed = false ∧ s.store.toList.length = 1 ∧ s.restart.1 = 1 ∧
      s.restart.2.quiesce.table.jobs = []) :=
  ⟨by decide +kernel, by decide +kernel⟩

end Scenario

end RouteWatch
