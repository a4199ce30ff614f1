import RouteWatch.Proofs.System.Loops
import RouteWatch.Proofs.System.Untouched
import RouteWatch.Proofs.Service.Events
import RouteWatch.Proofs.Runs

-- The job table follows the store.
namespace RouteWatch

open Schedule

namespace System

section Delivery

variable {s : System} {m : JobMap}

theorem startJob_mirrors (hopen : s.table.closed = false) (hm : s.table.Mirrors m)
    (i : Interest Stamp) (w : Option Nat) :
    (s.startJob i w).2.table.Mirrors (m.insert i.appName i) := by
  rw [startJob_of_open s i w hopen]
  have hput := Table.mirrors_put hm ⟨i, s.loops.length⟩
  split
  · exact hput
  · exact Table.mirrors_of_jobs_eq hput (by simp)

theorem stopJob_mirrors (hm : s.table.Mirrors m) (app : String) (w : Option Nat) :
    (s.stopJob app w).2.table.Mirrors (m.erase app) := by
  unfold stopJob
  split
  · rename_i hf
    exact Table.mirrors_erase_of_find?_none hm hf
  · exact Table.mirrors_of_jobs_eq (Table.mirrors_erase hm app) (by simp)

-- The scheduler's handling of one event: the table takes the event, and a replaced or stopped
-- job hands back its loop, cancelled and awaited by the courier.
theorem deliver_scheduler (hs : LoopsSound s) (hopen : s.table.closed = false)
    (hm : s.table.Mirrors m) (c : Nat) (e : Event Stamp) :
    LoopsSound (s.deliver c .scheduler e).2 ∧ (s.deliver c .scheduler e).2.table.closed = false ∧
      (s.deliver c .scheduler e).2.couriers = s.couriers ∧
      (s.deliver c .scheduler e).2.table.Mirrors (m.apply e) ∧
      (∀ x ∈ s.ready, x ∈ (s.deliver c .scheduler e).2.ready) ∧
      ∀ l, (s.deliver c .scheduler e).1 = some l → ∃ lp,
        (s.deliver c .scheduler e).2.loops[l]? = some lp ∧ lp.cancelled = true ∧
          lp.waiter = some c ∧ lp.exited = false := by
  obtain ⟨kind, i⟩ := e
  cases kind with
  | deleted =>
    have hd : s.deliver c .scheduler ⟨.deleted, i⟩ = s.stopJob i.appName (some c) := rfl
    rw [hd]
    exact ⟨hs.stopJob _ _, by simp [hopen], by simp, stopJob_mirrors hm _ _,
      fun x hx => stopJob_ready_of_mem s _ _ hx, fun l hl => hs.stopJob_retires hl⟩
  | created =>
    have hd : s.deliver c .scheduler ⟨.created, i⟩ =
        ((s.startJob i (some c)).1.2, (s.startJob i (some c)).2) := rfl
    rw [hd]
    exact ⟨hs.startJob _ _, by simp [hopen], by simp, startJob_mirrors hopen hm _ _,
      fun x hx => startJob_ready_of_mem s _ _ hx, fun l hl => hs.startJob_retires hl⟩
  | updated =>
    have hd : s.deliver c .scheduler ⟨.updated, i⟩ =
        ((s.startJob i (some c)).1.2, (s.startJob i (some c)).2) := rfl
    rw [hd]
    exact ⟨hs.startJob _ _, by simp [hopen], by simp, startJob_mirrors hopen hm _ _,
      fun x hx => startJob_ready_of_mem s _ _ hx, fun l hl => hs.startJob_retires hl⟩

end Delivery

-- The scheduler's courier, in a system that only the service and the clock drive: it reads for
-- the scheduler, is never let go, and inside an update waits for a cancelled loop that wakes it
-- when it exits. The job table with the events still in its mailbox applied is the store.
structure SchedulerCourier (s : System) (k : Courier) : Prop where
  listener : k.listener = .scheduler
  linked : k.linked = true
  running : k.exited = false
  retiring : ∀ l, k.stage = .retiring l → ∃ lp, s.loops[l]? = some lp ∧ lp.cancelled = true ∧
    lp.waiter = some 0 ∧ (lp.exited = true → .courier 0 ∈ s.ready)
  mirror : ∃ m, s.table.Mirrors m ∧
    ∀ app, (k.queue.foldl JobMap.apply m).lookup app = s.store.find? app

namespace SchedulerCourier

variable {s s' : System} {k : Courier}

theorem transfer (h : SchedulerCourier s k) (hj : s'.table.jobs = s.table.jobs)
    (hl : s'.loops = s.loops) (hst : s'.store = s.store)
    (hr : .courier 0 ∈ s.ready → .courier 0 ∈ s'.ready) : SchedulerCourier s' k where
  listener := h.listener
  linked := h.linked
  running := h.running
  retiring l hk := by
    obtain ⟨lp, hlp, hc, hw, he⟩ := h.retiring l hk
    exact ⟨lp, hl ▸ hlp, hc, hw, fun hx => hr (he hx)⟩
  mirror := by
    obtain ⟨m, hm, hf⟩ := h.mirror
    exact ⟨m, Table.mirrors_of_jobs_eq hm hj, by rw [hst]; exact hf⟩

-- Between two events the courier waits for nothing, so the ready queue does not matter.
theorem of_waiting (h : SchedulerCourier s k) (hj : s'.table.jobs = s.table.jobs)
    (hst : s'.store = s.store) (k' : Courier) (hl : k'.listener = k.listener)
    (hlk : k'.linked = k.linked) (he : k'.exited = k.exited) (hq : k'.queue = k.queue)
    (hk' : k'.stage = .waiting) : SchedulerCourier s' k' where
  listener := hl.trans h.listener
  linked := hlk.trans h.linked
  running := he.trans h.running
  retiring l hr := by rw [hk'] at hr; cases hr
  mirror := by
    obtain ⟨m, hm, hf⟩ := h.mirror
    exact ⟨m, Table.mirrors_of_jobs_eq hm hj, by rw [hst, hq]; exact hf⟩

end SchedulerCourier

-- The courier, off the ready queue, hands over its mail until the mailbox is empty or it waits
-- for a loop; the table takes every event handed over, so the table with the rest of the
-- mailbox applied is still the store.
theorem handOver_scheduler : ∀ (q : List (Event Stamp)) (s : System) (k : Courier),
    LoopsSound s → s.table.closed = false → s.couriers = [k] → SchedulerCourier s k →
    k.stage = .waiting → k.queue = q →
    LoopsSound (handOver 0 .scheduler q s) ∧ (handOver 0 .scheduler q s).table.closed = false ∧
      (∀ x ∈ s.ready, x ∈ (handOver 0 .scheduler q s).ready) ∧
      ∃ k', (handOver 0 .scheduler q s).couriers = [k'] ∧
        SchedulerCourier (handOver 0 .scheduler q s) k' ∧ (k'.stage = .waiting → k'.queue = []) := by
  intro q
  induction q with
  | nil =>
    intro s k hs hopen hc hk hwait hq
    have hrun : handOver 0 .scheduler [] s =
        s.setCourier 0 { k with queue := [], exited := !k.linked } := by
      simp [handOver, hc]
    rw [hrun]
    refine ⟨hs.setCourier _ _, hopen, fun x hx => hx, { k with queue := [], exited := !k.linked },
      by simp [hc], ?_, fun _ => rfl⟩
    exact hk.of_waiting (by rfl) (by rfl) _ (by rfl) (by rfl) (by simp [hk.linked, hk.running])
      (by rw [hq]) (by rw [hwait])
  | cons e rest ih =>
    intro s k hs hopen hc hk hwait hq
    rw [handOver_cons]
    -- the courier takes `e` off its mailbox
    have hpop : s.popMail 0 rest = s.setCourier 0 { k with queue := rest } := by
      simp [popMail, hc]
    obtain ⟨m, hm, hmirror⟩ := hk.mirror
    obtain ⟨hs1, hopen1, hc1, hm1, hr1, hret⟩ :=
      deliver_scheduler (s := s.popMail 0 rest) (m := m) (by rw [hpop]; exact hs.setCourier _ _)
        (by rw [hpop]; exact hopen) (by rw [hpop]; exact hm) 0 e
    have hst1 := (untouched_deliver (s.popMail 0 rest) 0 .scheduler e).store
    -- the table has taken `e`, and the mailbox holds the rest
    have hk1 : SchedulerCourier ((s.popMail 0 rest).deliver 0 .scheduler e).2
        { k with queue := rest } := by
      refine ⟨hk.listener, hk.linked, hk.running, (fun l hl => by rw [hwait] at hl; cases hl),
        ⟨m.apply e, hm1, fun app => ?_⟩⟩
      rw [hst1, hpop]
      show (rest.foldl JobMap.apply (m.apply e)).lookup app = s.store.find? app
      rw [← hmirror app, hq]
      rfl
    have hcour : ((s.popMail 0 rest).deliver 0 .scheduler e).2.couriers = [{ k with queue := rest }] := by
      rw [hc1, hpop]
      simp [hc]
    generalize hd : (s.popMail 0 rest).deliver 0 .scheduler e = r at hs1 hopen1 hc1 hm1 hr1 hret hk1 hcour
    obtain ⟨_ | l, s2⟩ := r <;> dsimp only at hs1 hopen1 hm1 hr1 hret hk1 hcour
    · -- no loop to wait for: the courier goes on with the rest
      obtain ⟨hs3, hopen3, hr3, k', hc3, hk3, hdone⟩ :=
        ih s2 { k with queue := rest } hs1 hopen1 hcour hk1 hwait rfl
      refine ⟨hs3, hopen3, fun x hx => hr3 x (hr1 x ?_), k', hc3, hk3, hdone⟩
      rw [hpop]
      exact hx
    · -- the courier waits for the loop of the job the event replaced or stopped
      obtain ⟨lp, hlp, hcanc, hwaiter, hexit⟩ := hret l rfl
      have hset : afterDeliver 0 .scheduler rest (some l, s2) =
          s2.setCourier 0 { k with queue := rest, stage := .retiring l } := by
        simp [setStage, hcour]
      rw [hset]
      refine ⟨hs1.setCourier _ _, hopen1, fun x hx => hr1 x (by rw [hpop]; exact hx),
        { k with queue := rest, stage := .retiring l }, by simp [hcour], ?_, fun h => by cases h⟩
      refine ⟨hk.listener, hk.linked, hk.running, fun l' hl' => ?_, hk1.mirror⟩
      cases hl'
      exact ⟨lp, hlp, hcanc, hwaiter, fun he => by rw [hexit] at he; cases he⟩

-- A system that only the service, the questions and the clock have driven, seen from the
-- scheduler: its one mailbox is the scheduler's and the hub lists it alone, the table is open,
-- and the courier runs soon whenever it has mail.
structure Mirrored (s : System) : Prop where
  sound : LoopsSound s
  opened : s.table.closed = false
  hub : s.hub.mailboxes = [0]
  courier : ∃ k, s.couriers = [k] ∧ SchedulerCourier s k ∧
    (k.stage = .waiting → k.queue ≠ [] → .courier 0 ∈ s.ready)

-- Publishing to the scheduler's mailbox alone: the event joins the mailbox, and a courier that
-- waits for mail is woken.
theorem post_single {s : System} {k : Courier} (hh : s.hub.mailboxes = [0]) (hc : s.couriers = [k])
    (e : Event Stamp) :
    (s.post e).couriers = [{ k with queue := k.queue ++ [e] }] ∧ (s.post e).table = s.table ∧
      (s.post e).loops = s.loops ∧ Untouched s (s.post e) ∧ (∀ x ∈ s.ready, x ∈ (s.post e).ready) ∧
      (k.stage = .waiting → .courier 0 ∈ (s.post e).ready) := by
  have hpost : s.post e = if k.stage = .waiting then
      (s.setCourier 0 { k with queue := k.queue ++ [e] }).wake (.courier 0)
      else s.setCourier 0 { k with queue := k.queue ++ [e] } := by
    simp [post, send, hh, hc]
  rw [hpost]
  split
  · exact ⟨by simp [hc], by simp, by simp, (Untouched.inner s _ _ _ _ _ _).trans (untouched_wake _ _),
      fun x hx => by simp [hx], fun _ => by simp⟩
  · rename_i hw
    exact ⟨by simp [hc], rfl, rfl, Untouched.inner s _ _ _ _ _ _, fun x hx => hx,
      fun h => absurd h hw⟩

namespace Mirrored

variable {s s' : System}

theorem transfer (h : Mirrored s) (ht : s'.table = s.table) (hl : s'.loops = s.loops)
    (hc : s'.couriers = s.couriers) (hst : s'.store = s.store) (hh : s'.hub = s.hub)
    (hr : ∀ x ∈ s.ready, x ∈ s'.ready) : Mirrored s' where
  sound := h.sound.of_ready_sub ht hl hr
  opened := ht ▸ h.opened
  hub := hh ▸ h.hub
  courier := by
    obtain ⟨k, hk, hsk, hpend⟩ := h.courier
    exact ⟨k, hc ▸ hk, hsk.transfer (by rw [ht]) hl hst (hr _), fun hw hq => hr _ (hpend hw hq)⟩

theorem wakeDue (h : Mirrored s) : Mirrored s.wakeDue := by
  obtain ⟨r, hr, hsub⟩ := wakeDue_eq s
  rw [hr]
  exact h.transfer rfl rfl rfl rfl rfl hsub

theorem setNow (h : Mirrored s) (x : Nat) : Mirrored { s with now := x } :=
  h.transfer rfl rfl rfl rfl rfl fun _ hx => hx

-- The courier runs: it hands over its mail, or resumes after the loop it waited for has
-- exited, or it still waits and nothing happens.
theorem runCourier (h : Mirrored s) {c : Nat} {rest : List Task}
    (hready : s.ready = .courier c :: rest) : Mirrored ({ s with ready := rest }.runCourier c) := by
  obtain ⟨k, hc, hk, hpend⟩ := h.courier
  have hrest : ∀ x ∈ s.ready, x ≠ .courier c → x ∈ rest := by
    intro x hx hne
    rw [hready] at hx
    rcases List.mem_cons.mp hx with rfl | hx
    · exact absurd rfl hne
    · exact hx
  have hpop := h.sound.pop_courier hrest
  by_cases hc0 : c = 0
  · subst hc0
    -- handing over from a waiting stage ends with an empty mailbox or a wait for a loop
    have finish : ∀ (p : System) (k' : Courier), LoopsSound p → p.table.closed = false →
        p.couriers = [k'] → SchedulerCourier p k' → k'.stage = .waiting → p.hub = s.hub →
        Mirrored (handOver 0 k'.listener k'.queue p) := by
      intro p k' hp hopen hpc hpk hw hhub
      rw [hpk.listener]
      obtain ⟨hs', hopen', -, k'', hc'', hk'', hdone⟩ :=
        handOver_scheduler k'.queue p k' hp hopen hpc hpk hw rfl
      refine ⟨hs', hopen', ?_, k'', hc'', hk'', fun hw' hne => absurd (hdone hw') hne⟩
      rw [(untouched_handOver p 0 .scheduler k'.queue).hub, hhub]
      exact h.hub
    have hget : ({ s with ready := rest } : System).couriers[0]? = some k := by simp [hc]
    unfold System.runCourier
    rw [hget]
    dsimp only
    rw [if_neg (by simp [hk.running])]
    cases hstage : k.stage with
    | waiting =>
      exact finish _ k hpop h.opened hc
        (hk.of_waiting (by rfl) (by rfl) k rfl rfl rfl rfl hstage) hstage rfl
    | retiring l =>
      dsimp only
      split
      · -- the loop has exited: the courier counts it retired and goes on with its mailbox
        refine finish _ { k with stage := .waiting }
          (hpop.setCourier 0 { k with stage := .waiting }).endRetire (by simp [h.opened])
          (by simp [hc]) ?_ rfl rfl
        exact hk.of_waiting (by rfl) (by rfl) _ rfl rfl rfl rfl rfl
      · -- the loop still runs: the courier keeps waiting for it
        rename_i hnot
        refine ⟨hpop, h.opened, h.hub, k, hc, ⟨hk.listener, hk.linked, hk.running, ?_, hk.mirror⟩,
          fun hw => by rw [hstage] at hw; cases hw⟩
        intro l' hl'
        rw [hstage] at hl'
        cases hl'
        obtain ⟨lp, hlp, hcanc, hw, -⟩ := hk.retiring l hstage
        refine ⟨lp, hlp, hcanc, hw, fun he => absurd ?_ hnot⟩
        simp [loopExited, hlp, he]
  · -- no other courier exists, so nothing runs
    have hnone : ({ s with ready := rest } : System).couriers[c]? = none := by
      simp [hc]
      omega
    unfold System.runCourier
    rw [hnone]
    have hne : Task.courier 0 ≠ .courier c := by simp; omega
    exact ⟨hpop, h.opened, h.hub, k, hc, hk.transfer rfl rfl rfl fun h0 => hrest _ h0 hne,
      fun hw hq => hrest _ (hpend hw hq) hne⟩

-- A loop runs: it ticks, or exits and wakes the courier that waits for it, or is gone already.
theorem runLoop (h : Mirrored s) {n : Nat} {rest : List Task}
    (hready : s.ready = .loop n :: rest) : Mirrored ({ s with ready := rest }.runLoop n) := by
  obtain ⟨k, hc, hk, hpend⟩ := h.courier
  have hrest : ∀ x ∈ s.ready, x ≠ .loop n → x ∈ rest := by
    intro x hx hne
    rw [hready] at hx
    rcases List.mem_cons.mp hx with rfl | hx
    · exact absurd rfl hne
    · exact hx
  have hkeep : ∀ x ∈ s.ready, x ≠ .loop n → x ∈ ({ s with ready := rest }.runLoop n).ready :=
    fun x hx hne => runLoop_ready_of_mem _ _ (hrest x hx hne)
  have hne : Task.courier 0 ≠ .loop n := by simp
  have hun := untouched_runLoop { s with ready := rest } n
  refine ⟨h.sound.runLoop hrest, by simp [h.opened], by rw [hun.hub]; exact h.hub, k, by simp [hc],
    ⟨hk.listener, hk.linked, hk.running, fun l hl => ?_, ?_⟩,
    fun hw hq => hkeep _ (hpend hw hq) hne⟩
  · obtain ⟨lp, hlp, hcanc, hw, hex⟩ := hk.retiring l hl
    by_cases hln : l = n
    · subst hln
      cases he : lp.exited
      · -- the loop the courier waits for exits now, and wakes it
        have hrun := runLoop_of_cancelled { s with ready := rest } l hlp he hcanc
        simp only [hw] at hrun
        have hlt := (List.getElem?_eq_some_iff.mp hlp).1
        refine ⟨{ lp with exited := true, callEnds := none }, ?_, hcanc, hw, fun _ => ?_⟩
        · rw [hrun]
          simp [hlt, hw]
        · rw [hrun]
          simp
      · -- it had exited before, and woken the courier then
        rw [runLoop_of_exited { s with ready := rest } l hlp he]
        exact ⟨lp, hlp, hcanc, hw, fun _ => hrest _ (hex he) hne⟩
    · rw [runLoop_loops_of_ne _ _ hln]
      exact ⟨lp, hlp, hcanc, hw, fun he => hkeep _ (hex he) hne⟩
  · obtain ⟨m, hm, hf⟩ := hk.mirror
    exact ⟨m, by rw [runLoop_table]; exact hm, by rw [hun.store]; exact hf⟩

theorem quiesce (h : Mirrored s) : Mirrored s.quiesce :=
  quiesceWith_invariant Mirrored (fun s t rest hs hr => by
    cases t with
    | courier c => exact hs.runCourier hr
    | loop n => exact hs.runLoop hr) _ s h

theorem advance (h : Mirrored s) (ms : Nat) : Mirrored (s.advance ms) :=
  advance_invariant s Mirrored (fun _ x hs => hs.setNow x) (fun _ hs => hs.wakeDue)
    (fun _ hs => hs.quiesce) ms h

-- A change of the store puts its event in the scheduler's mailbox, so the table with the
-- mailbox applied follows the store.
theorem change (h : Mirrored s) {f : Registry Stamp → Stamp → Except ServiceError (Change Stamp)}
    (hf : ∀ r now c, f r now = .ok c → Announces r c) : Mirrored (s.change f).2 := by
  unfold System.change
  dsimp only
  split
  · exact h
  · rename_i c hok
    obtain ⟨k, hc, hk, hpend⟩ := h.courier
    obtain ⟨m, hm, hmirror⟩ := hk.mirror
    let s1 : System := { s.stamp.2 with store := c.store }
    obtain ⟨hc2, ht2, hl2, hun2, hr2, hw2⟩ := post_single (s := s1) (k := k) h.hub hc c.event
    refine ⟨h.sound.of_ready_sub ht2 hl2 hr2, by rw [ht2]; exact h.opened, by rw [hun2.hub]; exact h.hub,
      _, hc2, ⟨hk.listener, hk.linked, hk.running, fun l hl => ?_, m, by rw [ht2]; exact hm, ?_⟩,
      fun hw _ => hw2 hw⟩
    · obtain ⟨lp, hlp, hcanc, hw, hex⟩ := hk.retiring l hl
      exact ⟨lp, by rw [hl2]; exact hlp, hcanc, hw, fun he => hr2 _ (hex he)⟩
    · -- the table with the longer mailbox applied is the store with the change made
      intro app
      rw [List.foldl_append, List.foldl_cons, List.foldl_nil, JobMap.lookup_apply, hmirror,
        hun2.store]
      exact (hf _ _ c hok app).symm

-- With nothing ready, the courier has no mail left and waits for no loop, so the table is the
-- store.
theorem mirrors_store_of_quiet (h : Mirrored s) (hquiet : s.ready = []) (app : String) :
    s.table.hasJob app = (s.store.find? app).isSome ∧ s.table.lookup app = s.store.find? app := by
  obtain ⟨k, -, hk, hpend⟩ := h.courier
  obtain ⟨m, hm, hmirror⟩ := hk.mirror
  have hempty : k.queue = [] := by
    cases hstage : k.stage with
    | waiting =>
      by_contra hne
      have hmem := hpend hstage hne
      rw [hquiet] at hmem
      cases hmem
    | retiring l =>
      obtain ⟨lp, hlp, hcanc, -, hex⟩ := hk.retiring l hstage
      cases he : lp.exited
      · have hmem := h.sound.cancelled_ready l lp hlp hcanc he
        rw [hquiet] at hmem
        cases hmem
      · have hmem := hex he
        rw [hquiet] at hmem
        cases hmem
  have hlookup : s.table.lookup app = s.store.find? app := by
    rw [hm app, ← hmirror app, hempty]
    rfl
  refine ⟨?_, hlookup⟩
  rw [← hlookup]
  simp [Table.hasJob, Table.lookup]

-- A scheduler with no job yet and its courier's mailbox holding the creation of every stored
-- interest, or nothing at all if nothing is stored.
theorem of_empty_table (hj : s.table.jobs = []) (hl : s.loops = []) (hopen : s.table.closed = false)
    (hh : s.hub.mailboxes = [0]) {q : List (Event Stamp)}
    (hc : s.couriers = [⟨.scheduler, q, true, .waiting, false⟩]) (hr : .courier 0 ∈ s.ready)
    (hq : ∀ app, (q.foldl JobMap.apply ∅).lookup app = s.store.find? app) : Mirrored s where
  sound := ⟨by simp [hj, Table.Ordered], by simp [hj], by simp [hj], by simp [hl], by simp [hl]⟩
  opened := hopen
  hub := hh
  courier := ⟨_, hc, ⟨rfl, rfl, rfl, (fun _ h => by cases h), ∅, Table.mirrors_nil hj, hq⟩,
    fun _ _ => hr⟩

end Mirrored

-- Publishing the creation of each interest of a list to the scheduler's mailbox alone.
theorem post_created_single : ∀ (items : List (Interest Stamp)) (s : System) (k : Courier),
    s.hub.mailboxes = [0] → s.couriers = [k] →
    (items.foldl (fun s i => s.post ⟨.created, i⟩) s).couriers =
        [{ k with queue := k.queue ++ items.map fun i => ⟨.created, i⟩ }] ∧
      (items.foldl (fun s i => s.post ⟨.created, i⟩) s).table = s.table ∧
      (items.foldl (fun s i => s.post ⟨.created, i⟩) s).loops = s.loops ∧
      Untouched s (items.foldl (fun s i => s.post ⟨.created, i⟩) s) ∧
      ∀ x ∈ s.ready, x ∈ (items.foldl (fun s i => s.post ⟨.created, i⟩) s).ready := by
  intro items
  induction items with
  | nil => exact fun s k _ hc => ⟨by simp [hc], rfl, rfl, Untouched.refl s, fun _ hx => hx⟩
  | cons i rest ih =>
    intro s k hh hc
    obtain ⟨hc1, ht1, hl1, hun1, hr1, -⟩ := post_single hh hc ⟨.created, i⟩
    obtain ⟨hc2, ht2, hl2, hun2, hr2⟩ := ih _ _ (by rw [hun1.hub]; exact hh) hc1
    refine ⟨by rw [List.foldl_cons, hc2]; simp, by rw [List.foldl_cons, ht2, ht1],
      by rw [List.foldl_cons, hl2, hl1], hun1.trans hun2, fun x hx => hr2 x (hr1 x hx)⟩

-- The first restart of a freshly booted system with all its parts: no job to stop, and the
-- creation of every stored interest in the scheduler's mailbox.
theorem restart_mirrored {setup : Setup} (hparts : setup.parts = Parts.all) :
    Mirrored setup.boot.restart.2 := by
  let t1 : Table := { setup.boot.table with jobs := [], closed := setup.boot.table.closed || false }
  let s1 : System := { setup.boot with restarted := true, table := t1 }
  have hrestart : setup.boot.restart.2 =
      setup.boot.store.toList.foldl (fun s i => s.post ⟨.created, i⟩) s1 := by
    have hparts' : setup.boot.parts = Parts.all := hparts
    have hfirst : setup.boot.restarted = false := rfl
    unfold restart
    rw [if_neg (by rw [hfirst]; decide)]
    dsimp only
    rw [if_neg (by simp [hparts', Parts.all])]
    -- the drain finds no job and nothing retiring, so it waits for nothing
    rfl
  obtain ⟨hc, ht, hl, hun, hr⟩ := post_created_single setup.boot.store.toList s1
    ⟨.scheduler, [], true, .waiting, false⟩ rfl rfl
  rw [hrestart]
  refine Mirrored.of_empty_table (by rw [ht]) (by rw [hl]; rfl) (by rw [ht]; rfl)
    (by rw [hun.hub]; rfl) hc (hr _ (List.mem_singleton.mpr rfl)) fun app => ?_
  show ((setup.boot.store.toList.map fun i => (⟨.created, i⟩ : Event Stamp)).foldl
    JobMap.apply ∅).lookup app = _
  have hord : setup.boot.store.toList.Pairwise fun a b => a.appName < b.appName :=
    setup.boot.store.ordered
  rw [hun.store, JobMap.lookup_foldl_created hord]
  simp [s1, Registry.find?, Registry.toList]

theorem boot_mirrored {setup : Setup} (hseed : setup.seed = []) : Mirrored setup.boot := by
  refine Mirrored.of_empty_table rfl rfl rfl rfl (q := []) rfl (List.mem_singleton.mpr rfl)
    fun app => ?_
  have hstore : setup.boot.store = Registry.empty := by
    show Registry.ofList _ = _
    rw [hseed]
    rfl
  simp [hstore, Registry.find?, Registry.empty]

end System

-- The actions of a client of the store: the service's four changes, the questions about the
-- store, the hub, the scheduler and the executor, and the passing of time.
def Action.ServiceUse : Action → Prop
  | .create _ _ | .update _ _ | .removeApp _ | .removeIp _ => True
  | .findApp _ | .findIp _ | .list | .hubSize | .recorded _ => True
  | .hasJob _ | .snapshot _ | .schedulerState | .calls | .callsFor _ | .completed => True
  | .advance _ => True
  | _ => False

-- Such an action changes the store as its event announces, lets time pass, or changes nothing.
theorem Scenario.perform_serviceUse (sc : Scenario) {a : Action} (ha : a.ServiceUse) :
    (sc.perform a).2.system = sc.system ∨
      (∃ f : Registry Stamp → Stamp → Except ServiceError (Change Stamp),
        (∀ r now c, f r now = .ok c → Announces r c) ∧
          (sc.perform a).2.system = (sc.system.change f).2) ∨
      ∃ ms, (sc.perform a).2.system = sc.system.advance ms := by
  cases a with
  | create app ip =>
    simp only [Scenario.perform, Scenario.need]
    split
    · exact Or.inr (Or.inl ⟨_, fun _ _ _ hc => Service.create_announces hc, rfl⟩)
    · exact Or.inl rfl
  | update app ip =>
    simp only [Scenario.perform, Scenario.need]
    split
    · exact Or.inr (Or.inl ⟨_, fun _ _ _ hc => Service.update_announces hc, rfl⟩)
    · exact Or.inl rfl
  | removeApp app =>
    simp only [Scenario.perform, Scenario.need]
    split
    · exact Or.inr (Or.inl ⟨_, fun _ _ _ hc => Service.removeApp_announces hc, rfl⟩)
    · exact Or.inl rfl
  | removeIp ip =>
    simp only [Scenario.perform, Scenario.need]
    split
    · exact Or.inr (Or.inl ⟨_, fun _ _ _ hc => Service.removeIp_announces hc, rfl⟩)
    · exact Or.inl rfl
  | findApp _ | findIp _ | list | hubSize | hasJob _ | snapshot _ | schedulerState =>
    simp only [Scenario.perform, Scenario.need]
    split <;> exact Or.inl rfl
  | recorded _ =>
    simp only [Scenario.perform]
    split <;> exact Or.inl rfl
  | calls | callsFor _ | completed => exact Or.inl rfl
  | advance ms => exact Or.inr (Or.inr ⟨ms, rfl⟩)
  | registerRecorder _ | registerSilent _ | registerScheduler | deregister _ | publish _ _ _
    | startJob _ _ | stopJob _ | stopAll | closeScheduler | observe _ _ _ | restart | shutdown =>
    exact False.elim ha

namespace System

theorem Mirrored.step {sc : Scenario} {st : Step}
    (hst : ∀ a, st.action = .ok a → a.ServiceUse) (h : Mirrored sc.system) :
    Mirrored (sc.step st).2.system := by
  obtain ⟨sc', hsc', hstep⟩ := Scenario.step_cases sc st
  have h' : Mirrored sc'.system := by
    rcases hsc' with rfl | ⟨a, ha, rfl⟩
    · exact h
    · rcases Scenario.perform_serviceUse sc (hst a ha) with heq | ⟨f, hf, heq⟩ | ⟨ms, heq⟩ <;>
        rw [heq]
      · exact h
      · exact h.change hf
      · exact h.advance ms
  rw [hstep]
  split
  · exact h'.quiesce
  · exact h'

theorem jobs_mirror_store_when_quiescent (setup : Setup) (hparts : setup.parts = Parts.all)
    (first steps : List Step)
    (hfirst : first = [] ∧ setup.seed = [] ∨ ∃ st, first = [st] ∧ st.action = .ok .restart)
    (hsteps : ∀ st ∈ steps, ∀ a, st.action = .ok a → a.ServiceUse)
    (hquiet : (setup.after (first ++ steps)).system.ready = []) (app : String) :
    (setup.after (first ++ steps)).system.table.hasJob app =
        ((setup.after (first ++ steps)).system.store.find? app).isSome ∧
      (setup.after (first ++ steps)).system.table.lookup app =
        (setup.after (first ++ steps)).system.store.find? app := by
  -- the scheduler starts out mirroring the store: from an empty store, or after the resync
  have hstart : Mirrored (setup.after first).system := by
    rcases hfirst with ⟨rfl, hseed⟩ | ⟨st, rfl, hst⟩
    · exact boot_mirrored hseed
    · have hneeds : st.needsFirst.find? (fun p => !setup.boot.parts.has p) = none := by
        rw [List.find?_eq_none]
        intro p _
        rw [show setup.boot.parts = setup.parts from rfl, hparts, Parts.all_has]
        decide
      show Mirrored ((Scenario.step ⟨setup.boot, []⟩ st).2).system
      rw [Scenario.step_of_ok _ hneeds hst]
      split
      · exact (restart_mirrored hparts).quiesce
      · exact restart_mirrored hparts
  -- and every step of the service, the questions and the clock keeps it mirroring
  have hend : Mirrored (setup.after (first ++ steps)).system := by
    unfold Setup.after at hstart ⊢
    rw [runAll_append]
    exact runAll_invariant_on Scenario.step (fun st => ∀ a, st.action = .ok a → a.ServiceUse)
      (fun sc => Mirrored sc.system) (fun _ _ hst h => h.step hst) steps hsteps _ hstart
  exact hend.mirrors_store_of_quiet hquiet app

theorem jobs_mirror_store_after_one_creation :
    (Setup.after ⟨1000, 1000, ⟨0, []⟩, [], Parts.all⟩
        ([] ++ [⟨[], .ok (.create "a" "10.0.0.1"), true⟩])).system.ready = [] ∧
      (Setup.after ⟨1000, 1000, ⟨0, []⟩, [], Parts.all⟩
          ([] ++ [⟨[], .ok (.create "a" "10.0.0.1"), true⟩])).system.table.hasJob "a" =
        ((Setup.after ⟨1000, 1000, ⟨0, []⟩, [], Parts.all⟩
          ([] ++ [⟨[], .ok (.create "a" "10.0.0.1"), true⟩])).system.store.find? "a").isSome ∧
      (Setup.after ⟨1000, 1000, ⟨0, []⟩, [], Parts.all⟩
          ([] ++ [⟨[], .ok (.create "a" "10.0.0.1"), true⟩])).system.table.lookup "a" =
        (Setup.after ⟨1000, 1000, ⟨0, []⟩, [], Parts.all⟩
          ([] ++ [⟨[], .ok (.create "a" "10.0.0.1"), true⟩])).system.store.find? "a" := by
  have hquiet : (Setup.after ⟨1000, 1000, ⟨0, []⟩, [], Parts.all⟩
      ([] ++ [⟨[], .ok (.create "a" "10.0.0.1"), true⟩])).system.ready = [] := by
    decide
  refine ⟨hquiet, jobs_mirror_store_when_quiescent _ rfl [] _ (Or.inl ⟨rfl, rfl⟩) ?_ hquiet "a"⟩
  intro st hst a ha
  rw [List.mem_singleton] at hst
  subst hst
  cases ha
  trivial

end System

end RouteWatch
