import RouteWatch.Proofs.Hub.Delivery
import RouteWatch.Proofs.System.Mirror
import RouteWatch.Proofs.System.Shutdown

-- The scheduler's jobs, seen from its registrations on the hub.
namespace RouteWatch

open Schedule

-- Whether a call registers the scheduler.
def HubCall.joinsScheduler : HubCall → Bool
  | .join _ .scheduler => true
  | _ => false

-- Whether the scheduler is registered under its own id after a call, from whether it was before.
def HubCall.schedulerAfter (on : Bool) : HubCall → Bool
  | .join id who => if id = schedulerId then decide (who = .scheduler) else on
  | .leave id => if id = schedulerId then false else on
  | .publish _ => on

-- The events the scheduler is sent along `calls`, starting registered or not: those published
-- while it is registered under its own id, in order.
def toScheduler : Bool → List HubCall → List (Event Stamp)
  | _, [] => []
  | on, c :: later => (if on then c.event?.toList else []) ++ toScheduler (c.schedulerAfter on) later

theorem toScheduler_append_single (on : Bool) (calls : List HubCall) (c : HubCall) :
    toScheduler on (calls ++ [c]) =
      toScheduler on calls ++ if calls.foldl HubCall.schedulerAfter on then c.event?.toList else [] := by
  induction calls generalizing on with
  | nil => rw [List.foldl_nil]; simp [toScheduler]
  | cons c' rest ih => rw [List.foldl_cons, List.cons_append]; simp [toScheduler, ih]

-- A move that registers the scheduler does so under its own id, and while no courier of the
-- scheduler holds mail.
def HubMove.rejoinsIdle (s : System) : HubMove → Bool
  | .call (.join id .scheduler) =>
    id == schedulerId && s.couriers.all fun k => k.listener != .scheduler || k.queue.isEmpty
  | _ => true

-- Every move of a run registers the scheduler, if it does, under its own id and idle.
def rejoinsIdle : System → List HubMove → Bool
  | _, [] => true
  | s, m :: moves => m.rejoinsIdle s && rejoinsIdle (s.hubMove m) moves

namespace System

section Tasks

-- No task changes a courier's listener.
theorem handOver_listeners (c : Nat) (listener : Listener) :
    ∀ (q : List (Event Stamp)) (s : System),
      (handOver c listener q s).couriers.map Courier.listener = s.couriers.map Courier.listener
  | [], s => by
    unfold handOver
    split
    · rename_i k hk
      exact listeners_setCourier s hk _ rfl
    · rfl
  | e :: rest, s => by
    rw [handOver_cons]
    have hpop : ((s.popMail c rest).deliver c listener e).2.couriers.map Courier.listener =
        s.couriers.map Courier.listener := by
      rw [deliver_couriers]
      unfold popMail
      split
      · rename_i k hk
        exact listeners_setCourier s hk _ rfl
      · rfl
    cases hd : (s.popMail c rest).deliver c listener e with
    | mk res s2 =>
      rw [hd] at hpop
      cases res with
      | none => exact (handOver_listeners c listener rest s2).trans hpop
      | some l =>
        rw [afterDeliver_some]
        unfold setStage
        split
        · rename_i k hk
          exact (listeners_setCourier s2 hk { k with stage := .retiring l } rfl).trans hpop
        · exact hpop

-- A courier's hand-over leaves every other courier alone.
theorem handOver_couriers_of_ne (c : Nat) (listener : Listener) {r : Nat} (hr : r ≠ c) :
    ∀ (q : List (Event Stamp)) (s : System), (handOver c listener q s).couriers[r]? = s.couriers[r]?
  | [], s => by
    unfold handOver
    split
    · rename_i k hk
      rw [setCourier_couriers_of hk, if_neg (Ne.symm hr)]
    · rfl
  | e :: rest, s => by
    rw [handOver_cons]
    have hpop : ((s.popMail c rest).deliver c listener e).2.couriers[r]? = s.couriers[r]? := by
      rw [deliver_couriers]
      unfold popMail
      split
      · rename_i k hk
        rw [setCourier_couriers_of hk, if_neg (Ne.symm hr)]
      · rfl
    cases hd : (s.popMail c rest).deliver c listener e with
    | mk res s2 =>
      rw [hd] at hpop
      cases res with
      | none => exact (handOver_couriers_of_ne c listener hr rest s2).trans hpop
      | some l =>
        rw [afterDeliver_some]
        unfold setStage
        split
        · rename_i k hk
          rw [setCourier_couriers_of hk, if_neg (Ne.symm hr)]
          exact hpop
        · exact hpop

theorem deliver_table_of_ne (s : System) {c : Nat} {listener : Listener} (e : Event Stamp)
    (hl : listener ≠ .scheduler) : (s.deliver c listener e).2.table = s.table := by
  cases listener with
  | scheduler => exact absurd rfl hl
  | recorder j => rfl
  | silent => rfl

-- Only the scheduler's updates change the job table.
theorem handOver_table_of_ne (c : Nat) {listener : Listener} (hl : listener ≠ .scheduler) :
    ∀ (q : List (Event Stamp)) (s : System), (handOver c listener q s).table = s.table
  | [], s => by
    unfold handOver
    split <;> rfl
  | e :: rest, s => by
    rw [handOver_cons]
    have hfst := deliver_fst_of_ne (s.popMail c rest) (c := c) e hl
    have htable : ((s.popMail c rest).deliver c listener e).2.table = s.table := by
      rw [deliver_table_of_ne _ e hl]
      unfold popMail
      split <;> rfl
    cases hd : (s.popMail c rest).deliver c listener e with
    | mk res s2 =>
      rw [hd] at hfst htable
      dsimp only at hfst
      subst hfst
      rw [afterDeliver_none, handOver_table_of_ne c hl rest s2, htable]

-- The scheduler's courier hands over its mail: the table takes each event handed over, so the
-- table with the rest of the mail applied stays the same map.
theorem handOver_mirrors (c : Nat) :
    ∀ (q : List (Event Stamp)) (s : System) (k : Courier) (m : JobMap), LoopsSound s →
      s.table.closed = false → s.couriers[c]? = some k → k.queue = q → s.table.Mirrors m →
      (handOver c .scheduler q s).table.closed = false ∧
        ∃ k' m', (handOver c .scheduler q s).couriers[c]? = some k' ∧
          (handOver c .scheduler q s).table.Mirrors m' ∧
          k'.queue.foldl JobMap.apply m' = q.foldl JobMap.apply m
  | [], s, k, m, _, hopen, hk, _, hm => by
    rw [handOver_nil_of_some s hk]
    exact ⟨hopen, _, m, by rw [setCourier_couriers_of hk, if_pos rfl], hm, rfl⟩
  | e :: rest, s, k, m, hs, hopen, hk, _, hm => by
    rw [handOver_cons, popMail_of_some s hk]
    have hk1 := setCourier_couriers_of hk { k with queue := rest } c
    obtain ⟨hs2, hopen2, hc2, hm2, -, -⟩ :=
      deliver_scheduler (hs.setCourier c { k with queue := rest }) hopen hm c e
    cases hd : (s.setCourier c { k with queue := rest }).deliver c .scheduler e with
    | mk res s2 =>
      rw [hd] at hs2 hopen2 hc2 hm2
      have hk2 : s2.couriers[c]? = some { k with queue := rest } := by
        rw [hc2, hk1, if_pos rfl]
      cases res with
      | none =>
        obtain ⟨hopen3, k', m', hk', hm', hfold⟩ :=
          handOver_mirrors c rest s2 _ (m.apply e) hs2 hopen2 hk2 rfl hm2
        exact ⟨hopen3, k', m', hk', hm', hfold⟩
      | some l =>
        -- the courier waits for the loop the event replaced or stopped, its mail untouched
        rw [afterDeliver_some, setStage_of_some s2 hk2]
        exact ⟨hopen2, _, m.apply e, by rw [setCourier_couriers_of hk2, if_pos rfl], hm2, rfl⟩

end Tasks

end System


-- Two states with the same listeners: a courier present in both listens to the same observer.
theorem listener_of_map_eq {s s' : System}
    (hlis : s'.couriers.map Courier.listener = s.couriers.map Courier.listener) {r : Nat}
    {k k' : Courier} (hk : s.couriers[r]? = some k) (hk' : s'.couriers[r]? = some k') :
    k'.listener = k.listener := by
  have := congrArg (·[r]?) hlis
  simpa [hk, hk'] using this

-- A courier that is let go of has no mailbox on the hub.
theorem Carries.not_mem_mailboxes {calls : List HubCall} {s : System} (h : Carries calls s) {r : Nat}
    {k : Courier} (hk : s.couriers[r]? = some k) (hl : k.linked = false) : r ∉ s.hub.mailboxes := by
  obtain ⟨id, later, hreg, hcar⟩ := h.couriers r k hk
  rw [h.mem_mailboxes_iff hreg, ← hcar.linked, hl]
  simp

-- What a call on the hub does is aside from the scheduler.
theorem System.aside_hubCall (s : System) (c : HubCall) : System.Aside s (s.hubCall c) := by
  cases c with
  | join id who =>
    cases who with
    | scheduler => exact System.aside_register s id _
    | recorder =>
      have hopen : System.Aside s s.openLog.2 :=
        System.Aside.of_couriers rfl rfl rfl (fun _ hx => hx) rfl
      exact hopen.trans (System.aside_register s.openLog.2 id (.recorder s.openLog.1))
    | silent => exact System.aside_register s id _
  | leave id => exact System.aside_deregister s id
  | publish e => exact System.aside_post s e

section Following

variable {calls : List HubCall} {sched : Nat} {s s' : System}

-- The scheduler's side of a system whose scheduler reads through courier `sched`: the table is
-- open; `sched` listens for the scheduler, and its registration, made under the scheduler's id, is
-- current exactly while the scheduler is registered; every other courier of the scheduler holds no
-- mail and is let go of; and the table, with the mail of `sched` applied, is the events sent to the
-- scheduler folded over the empty map.
structure Follows (calls : List HubCall) (sched : Nat) (s : System) : Prop where
  opened : s.table.closed = false
  own : (s.couriers.map Courier.listener)[sched]? = some .scheduler
  reg : ∃ later, (registrations calls)[sched]? = some (schedulerId, later) ∧
    current schedulerId later = calls.foldl HubCall.schedulerAfter false
  idle : ∀ (r : Nat) (k : Courier), s.couriers[r]? = some k → k.listener = .scheduler → r ≠ sched →
    k.queue = [] ∧ k.linked = false
  mirror : ∃ m, s.table.Mirrors m ∧ ∀ k : Courier, s.couriers[sched]? = some k →
    k.queue.foldl JobMap.apply m = (toScheduler false calls).foldl JobMap.apply ∅

namespace Follows

theorem listener (h : Follows calls sched s) {k : Courier} (hk : s.couriers[sched]? = some k) :
    k.listener = .scheduler := by
  simpa [hk] using h.own

-- A change that keeps the jobs, the listeners, and the mail and the links of the scheduler's
-- couriers keeps the invariant.
theorem transfer (h : Follows calls sched s) (hj : s'.table.jobs = s.table.jobs)
    (hcl : s'.table.closed = s.table.closed)
    (hlis : s'.couriers.map Courier.listener = s.couriers.map Courier.listener)
    (hq : ∀ (r : Nat) (k' : Courier), s'.couriers[r]? = some k' → k'.listener = .scheduler →
      ∃ k, s.couriers[r]? = some k ∧ k'.queue = k.queue ∧ k'.linked = k.linked) :
    Follows calls sched s' where
  opened := hcl.trans h.opened
  own := hlis ▸ h.own
  reg := h.reg
  idle r k' hk' hl hr := by
    obtain ⟨k, hk, hkq, hkl⟩ := hq r k' hk' hl
    rw [hkq, hkl]
    exact h.idle r k hk ((listener_of_map_eq hlis hk hk').symm.trans hl) hr
  mirror := by
    obtain ⟨m, hm, hfold⟩ := h.mirror
    refine ⟨m, Table.mirrors_of_jobs_eq hm hj, fun k' hk' => ?_⟩
    have hl : k'.listener = .scheduler := by
      have := hlis ▸ h.own
      simpa [hk'] using this
    obtain ⟨k, hk, hkq, -⟩ := hq sched k' hk' hl
    rw [hkq]
    exact hfold k hk

-- A courier handing over its mail: the reading courier applies it to the table, another courier
-- of the scheduler has none, and any other courier leaves the table alone.
theorem handOver (hs : System.LoopsSound s) (h : Follows calls sched s) {c : Nat} {k : Courier}
    (hk : s.couriers[c]? = some k) : Follows calls sched (System.handOver c k.listener k.queue s) := by
  by_cases hc : c = sched
  · subst hc
    obtain ⟨m, hm, hfold⟩ := h.mirror
    rw [h.listener hk]
    obtain ⟨hopen, k', m', hk', hm', hfold'⟩ :=
      System.handOver_mirrors c k.queue s k m hs h.opened hk rfl hm
    refine ⟨hopen, by rw [System.handOver_listeners]; exact h.own, h.reg,
      fun r k'' hk'' hl hr => ?_, m', hm', fun k'' hk'' => ?_⟩
    · rw [System.handOver_couriers_of_ne c _ hr] at hk''
      exact h.idle r k'' hk'' hl hr
    · rw [hk', Option.some.injEq] at hk''
      subst hk''
      rw [hfold', hfold k hk]
  · by_cases hl : k.listener = .scheduler
    · -- another courier of the scheduler has no mail: it only exits if let go of
      obtain ⟨hq, -⟩ := h.idle c k hk hl hc
      rw [hq, System.handOver_nil_of_some s hk]
      refine h.transfer rfl rfl (System.listeners_setCourier s hk _ rfl) fun r k' hk' _ => ?_
      rw [System.setCourier_couriers_of hk] at hk'
      split at hk'
      · rename_i hcr
        subst hcr
        cases hk'
        exact ⟨k, hk, hq.symm, rfl⟩
      · exact ⟨k', hk', rfl, rfl⟩
    · have hlis := System.handOver_listeners c k.listener k.queue s
      refine h.transfer (by rw [System.handOver_table_of_ne c hl])
        (by rw [System.handOver_table_of_ne c hl]) hlis fun r k' hk' hl' => ?_
      have hrc : r ≠ c := by
        rintro rfl
        exact hl ((listener_of_map_eq hlis hk hk').symm.trans hl')
      rw [System.handOver_couriers_of_ne c _ hrc] at hk'
      exact ⟨k', hk', rfl, rfl⟩

theorem runCourier (hs : System.LoopsSound s) (h : Follows calls sched s) (c : Nat) :
    Follows calls sched (s.runCourier c) := by
  unfold System.runCourier
  cases hk : s.couriers[c]? with
  | none => exact h
  | some k =>
    dsimp only
    split
    · exact h
    · split
      · split
        · -- the loop waited for has exited: the courier goes on from a waiting stage
          let k' : Courier := { k with stage := .waiting }
          have hset := System.setCourier_couriers_of hk k'
          have hf : Follows calls sched (s.setCourier c k').endRetire :=
            h.transfer rfl rfl (System.listeners_setCourier s hk k' rfl) fun r k'' hk'' _ => by
              rw [System.endRetire_couriers, hset] at hk''
              split at hk''
              · rename_i hcr
                subst hcr
                cases hk''
                exact ⟨k, hk, rfl, rfl⟩
              · exact ⟨k'', hk'', rfl, rfl⟩
          exact hf.handOver (k := k') (hs.setCourier c k').endRetire
            (by rw [System.endRetire_couriers, hset, if_pos rfl])
        · exact h
      · exact h.handOver hs hk

-- Any ready task runs, wherever it stands in the queue.
theorem runTask (hs : System.LoopsSound s) (h : Follows calls sched s) {t : Task}
    {rest : List Task} (hrest : ∀ x ∈ s.ready, x ≠ t → x ∈ rest) :
    Follows calls sched ({ s with ready := rest }.runTask t) := by
  have hp : Follows calls sched { s with ready := rest } :=
    h.transfer rfl rfl rfl fun r k hk _ => ⟨k, hk, rfl, rfl⟩
  cases t with
  | loop n =>
    exact hp.transfer (by simp) (by simp) (by simp) fun r k hk _ => ⟨k, by simpa using hk, rfl, rfl⟩
  | courier c => exact hp.runCourier (hs.pop_courier hrest) c

theorem openLog (h : Follows calls sched s) : Follows calls sched s.openLog.2 :=
  h.transfer rfl rfl rfl fun _ k hk _ => ⟨k, hk, rfl, rfl⟩

-- A publication: the reading courier gets the event exactly while the scheduler is registered,
-- and the couriers let go of get nothing.
theorem post (h : Follows calls sched s) (hc : Carries calls s) (e : Event Stamp) :
    Follows (calls ++ [.publish e]) sched (s.post e) := by
  have hcour : ∀ r, (s.post e).couriers[r]? =
      if r ∈ s.hub.mailboxes then (s.couriers[r]?).map fun k => { k with queue := k.queue ++ [e] }
      else s.couriers[r]? :=
    System.foldl_send_couriers e s.hub.mailboxes s hc.mailboxes_nodup
  obtain ⟨later, hreg, hcur⟩ := h.reg
  obtain ⟨m, hm, hfold⟩ := h.mirror
  refine ⟨(System.aside_post s e).table ▸ h.opened, System.listeners_post s e ▸ h.own,
    ⟨later ++ [.publish e], registrations_after hreg _, ?_⟩, fun r k' hk' hl hr => ?_, m,
    (System.aside_post s e).table ▸ hm, fun k' hk' => ?_⟩
  · simp [current_append_single, hcur, HubCall.ends, HubCall.schedulerAfter]
  · cases hk : s.couriers[r]? with
    | none => simp [hcour, hk] at hk'
    | some k =>
      have hkl := (listener_of_map_eq (System.listeners_post s e) hk hk').symm.trans hl
      obtain ⟨hq, hlinked⟩ := h.idle r k hk hkl hr
      rw [hcour, if_neg (hc.not_mem_mailboxes hk hlinked), hk, Option.some.injEq] at hk'
      subst hk'
      exact ⟨hq, hlinked⟩
  · rw [hcour] at hk'
    cases hk : s.couriers[sched]? with
    | none => simp [hk] at hk'
    | some k =>
      rw [toScheduler_append_single, List.foldl_append, ← hfold k hk]
      by_cases hmem : sched ∈ s.hub.mailboxes
      · have hon : calls.foldl HubCall.schedulerAfter false = true :=
          hcur ▸ (hc.mem_mailboxes_iff hreg).mp hmem
        rw [if_pos hmem, hk, Option.map_some, Option.some.injEq] at hk'
        subst hk'
        simp [hon, HubCall.event?]
      · have hoff : calls.foldl HubCall.schedulerAfter false = false := by
          simpa [← hcur] using mt (hc.mem_mailboxes_iff hreg).mpr hmem
        rw [if_neg hmem, hk, Option.some.injEq] at hk'
        subst hk'
        simp [hoff]

theorem deregister (h : Follows calls sched s) (id : String) :
    Follows (calls ++ [.leave id]) sched (s.deregister id) := by
  obtain ⟨later, hreg, hcur⟩ := h.reg
  obtain ⟨m, hm, hfold⟩ := h.mirror
  refine ⟨(System.aside_deregister s id).table ▸ h.opened, System.listeners_deregister s id ▸ h.own,
    ⟨later ++ [.leave id], registrations_after hreg _, ?_⟩, fun r k' hk' hl hr => ?_, m,
    (System.aside_deregister s id).table ▸ hm, fun k' hk' => ?_⟩
  · by_cases hid : id = schedulerId <;>
      simp [current_append_single, hcur, HubCall.ends, HubCall.schedulerAfter, hid]
  · rw [System.deregister_couriers] at hk'
    obtain ⟨k, hk, rfl⟩ := Option.map_eq_some_iff.mp hk'
    have hkl : k.listener = .scheduler := by split at hl <;> exact hl
    obtain ⟨hq, hlinked⟩ := h.idle r k hk hkl hr
    split <;> simp [hq, hlinked]
  · rw [System.deregister_couriers] at hk'
    obtain ⟨k, hk, rfl⟩ := Option.map_eq_some_iff.mp hk'
    rw [toScheduler_append_single, List.foldl_append, ← hfold k hk]
    split <;> simp [HubCall.event?]

-- A registration of another observer: its courier comes last, and the mailbox it replaces may be
-- the scheduler's, which is let go of with its mail as it is.
theorem register (h : Follows calls sched s) (id : String) {who : Joiner}
    (hw : who ≠ .scheduler) {l : Listener} (hl : l ≠ .scheduler) :
    Follows (calls ++ [.join id who]) sched (s.register id l) := by
  have hlt : sched < s.couriers.length := by
    simpa using (List.getElem?_eq_some_iff.mp h.own).1
  obtain ⟨later, hreg, hcur⟩ := h.reg
  obtain ⟨m, hm, hfold⟩ := h.mirror
  refine ⟨(System.aside_register s id l).table ▸ h.opened, ?_,
    ⟨later ++ [.join id who], registrations_after hreg _, ?_⟩, fun r k' hk' hl' hr => ?_, m,
    (System.aside_register s id l).table ▸ hm, fun k' hk' => ?_⟩
  · rw [System.listeners_register, List.getElem?_append_left (by simpa using hlt)]
    exact h.own
  · by_cases hid : id = schedulerId <;>
      simp [current_append_single, hcur, HubCall.ends, HubCall.schedulerAfter, hid, hw]
  · rw [System.register_couriers] at hk'
    obtain ⟨k, hk, rfl⟩ := Option.map_eq_some_iff.mp hk'
    rcases getElem?_append_singleton_eq_some.mp hk with hk | ⟨-, rfl⟩
    · have hkl : k.listener = .scheduler := by split at hl' <;> exact hl'
      obtain ⟨hq, hlinked⟩ := h.idle r k hk hkl hr
      split <;> simp [hq, hlinked]
    · -- the new courier listens for another observer
      exact absurd (by split at hl' <;> exact hl') hl
  · rw [System.register_couriers, List.getElem?_append_left hlt] at hk'
    obtain ⟨k, hk, rfl⟩ := Option.map_eq_some_iff.mp hk'
    rw [toScheduler_append_single, List.foldl_append, ← hfold k hk]
    split <;> simp [HubCall.event?]

theorem hubCall (h : Follows calls sched s) (hc : Carries calls s) (c : HubCall)
    (hno : c.joinsScheduler = false) : Follows (calls ++ [c]) sched (s.hubCall c) := by
  cases c with
  | join id who =>
    cases who with
    | scheduler => cases hno
    | recorder => exact h.openLog.register id (by simp) (by simp)
    | silent => exact h.register id (by simp) (by simp)
  | leave id => exact h.deregister id
  | publish e => exact h.post hc e

-- Registering the scheduler again, under its own id, while none of its couriers holds mail: the
-- new courier reads for it from now on, and the one it replaces is let go of with nothing to do.
theorem rejoin (h : Follows calls sched s) (hc : Carries calls s)
    (hidle : ∀ (r : Nat) (k : Courier), s.couriers[r]? = some k → k.listener = .scheduler →
      k.queue = []) :
    Follows (calls ++ [.join schedulerId .scheduler]) s.couriers.length
      (s.register schedulerId .scheduler) := by
  obtain ⟨later, hreg, -⟩ := h.reg
  obtain ⟨m, hm, hfold⟩ := h.mirror
  obtain ⟨k0, hk0, hl0⟩ : ∃ k0, s.couriers[sched]? = some k0 ∧ k0.listener = .scheduler := by
    simpa using h.own
  refine ⟨(System.aside_register s _ _).table ▸ h.opened, by simp [System.listeners_register],
    ⟨[], getElem?_registrations_append_single.mpr (Or.inr ⟨hc.count, rfl, rfl⟩), ?_⟩,
    fun r k' hk' hl hr => ?_, m, (System.aside_register s _ _).table ▸ hm, fun k' hk' => ?_⟩
  · simp [HubCall.schedulerAfter]
  · rw [System.register_couriers] at hk'
    obtain ⟨k, hk, rfl⟩ := Option.map_eq_some_iff.mp hk'
    rcases getElem?_append_singleton_eq_some.mp hk with hk | ⟨hrl, -⟩
    · have hkl : k.listener = .scheduler := by split at hl <;> exact hl
      have hq := hidle r k hk hkl
      obtain ⟨id', later', hreg', hcar⟩ := hc.couriers r k hk
      have hlinked := hc.linked_release hreg' hcar schedulerId
      -- no courier of the scheduler is linked after the call: the reading one was registered
      -- under the scheduler's id, which the call ends, and every other one was let go of before
      have hoff : (if s.hub.mailbox? schedulerId = some r then false else k.linked) = false := by
        by_cases hrs : r = sched
        · subst hrs
          rw [hreg, Option.some.injEq, Prod.mk.injEq] at hreg'
          obtain ⟨rfl, -⟩ := hreg'
          simpa using hlinked
        · rw [hlinked, (h.idle r k hk hkl hrs).2, Bool.false_and]
      refine ⟨by split <;> exact hq, ?_⟩
      rw [← hoff]
      by_cases hm : s.hub.mailbox? schedulerId = some r <;> simp [hm]
    · exact absurd hrl hr
  · rw [System.register_couriers, List.getElem?_append_right (le_refl _)] at hk'
    obtain ⟨k, hk, rfl⟩ := Option.map_eq_some_iff.mp hk'
    simp only [Nat.sub_self, List.getElem?_cons_zero, Option.some.injEq] at hk
    subst hk
    -- the old reading courier held no mail, so the table is the fold already
    have hq := hidle sched k0 hk0 hl0
    have := hfold k0 hk0
    rw [hq, List.foldl_nil] at this
    rw [toScheduler_append_single, List.foldl_append, ← this]
    split <;> simp [HubCall.event?]

end Follows

-- What a run of hub calls and tasks keeps, with the scheduler reading through courier `sched`:
-- the delivery invariants, the loops' and retirements' soundness, and `Follows`.
structure SchedulerRun (calls : List HubCall) (sched : Nat) (s : System) : Prop where
  carries : Carries calls s
  prompt : Prompt s none
  loops : System.LoopsSound s
  couriers : System.CouriersSound s 0
  follows : Follows calls sched s

namespace SchedulerRun

theorem hubMove (h : SchedulerRun calls sched s) (m : HubMove) (hm : m.rejoinsIdle s = true) :
    ∃ sched', SchedulerRun (calls ++ m.call?.toList) sched' (s.hubMove m) := by
  obtain ⟨hcar, hp⟩ := h.carries.hubMove h.prompt m
  cases m with
  | run t =>
    refine ⟨sched, ?_⟩
    simp only [HubMove.call?, Option.toList_none, List.append_nil, System.hubMove] at hcar hp ⊢
    by_cases ht : t ∈ s.ready
    · rw [if_pos ht] at hcar hp ⊢
      have hrest : ∀ x ∈ s.ready, x ≠ t → x ∈ s.ready.erase t := fun _ hx hne =>
        (List.mem_erase_of_ne hne).mpr hx
      exact ⟨hcar, hp, h.loops.runTask_of_rest hrest, h.couriers.runTask_of_rest h.loops hrest,
        h.follows.runTask h.loops hrest⟩
    · rw [if_neg ht]
      exact h
  | call c =>
    have ha := System.aside_hubCall s c
    cases hj : c.joinsScheduler
    · exact ⟨sched, hcar, hp, h.loops.aside ha, h.couriers.aside ha,
        h.follows.hubCall h.carries c hj⟩
    · -- the call registers the scheduler: under its own id, with no courier of it holding mail
      obtain ⟨id, rfl⟩ : ∃ id, c = .join id .scheduler := by
        cases c with
        | join id who => cases who <;> simp_all [HubCall.joinsScheduler]
        | leave id => cases hj
        | publish e => cases hj
      simp only [HubMove.rejoinsIdle, Bool.and_eq_true, beq_iff_eq, List.all_eq_true,
        Bool.or_eq_true, bne_iff_ne, ne_eq, List.isEmpty_iff] at hm
      obtain ⟨rfl, hall⟩ := hm
      have hidle : ∀ (r : Nat) (k : Courier), s.couriers[r]? = some k →
          k.listener = .scheduler → k.queue = [] :=
        fun r k hk hl => (hall k (List.mem_of_getElem? hk)).resolve_left (not_not.mpr hl)
      exact ⟨s.couriers.length, hcar, hp, h.loops.aside ha, h.couriers.aside ha,
        h.follows.rejoin h.carries hidle⟩

-- Moves that register the scheduler only idle keep the run going.
theorem hubMoves : ∀ (moves : List HubMove) (calls : List HubCall) (sched : Nat) (s : System),
    SchedulerRun calls sched s → rejoinsIdle s moves = true →
      ∃ sched', SchedulerRun (calls ++ moves.filterMap HubMove.call?) sched' (moves.foldl System.hubMove s)
  | [], calls, sched, s, h, _ => ⟨sched, by simpa using h⟩
  | m :: moves, calls, sched, s, h, hidle => by
    simp only [rejoinsIdle, Bool.and_eq_true] at hidle
    obtain ⟨sched', h'⟩ := h.hubMove m hidle.1
    obtain ⟨sched'', h''⟩ := hubMoves moves _ sched' _ h' hidle.2
    rw [List.append_assoc] at h''
    refine ⟨sched'', ?_⟩
    cases m <;> simpa [List.filterMap_cons, HubMove.call?] using h''

end SchedulerRun

end Following

-- Once nothing is ready, no courier is inside an update.
theorem System.CouriersSound.waiting_of_settled {s : System} {p : Nat} (h : System.CouriersSound s p)
    (hs : System.LoopsSound s) (hr : s.ready = []) {c : Nat} {k : Courier}
    (hk : s.couriers[c]? = some k) : k.stage = .waiting := by
  have hnone := List.countP_eq_zero.mp (h.countP_of_settled hs hr) k (List.mem_of_getElem? hk)
  simpa [Courier.inUpdate] using hnone

-- The scheduler registered on an empty hub reads through courier 0, with nothing sent yet.
theorem SchedulerRun.first {s : System} (hc : s.couriers = []) (hh : s.hub = Hub.empty)
    (hl : s.loops = []) (hr : s.ready = []) (hj : s.table.jobs = []) (ho : s.table.closed = false)
    (hret : s.table.retiring = 0) :
    SchedulerRun [.join schedulerId .scheduler] 0 (s.register schedulerId .scheduler) := by
  have hs := System.Steady.of_empty hl hc hr hj hret
  have hcar := (Carries.empty hc hh).hubCall (.join schedulerId .scheduler)
  have ha := System.aside_register s schedulerId .scheduler
  refine ⟨hcar, Prompt.hubCall (fun r k hk => by simp [hc] at hk) (Carries.empty hc hh)
    (.join schedulerId .scheduler), hs.loops.aside ha, hs.couriers.aside ha,
    ⟨ha.table ▸ ho, by simp [System.listeners_register, hc], ⟨[], by simp [registrations,
      HubCall.joins?], by simp [HubCall.schedulerAfter]⟩, fun r k hk _ hr => ?_, ∅,
      ha.table ▸ Table.mirrors_nil hj, fun k hk => ?_⟩⟩
  · -- the only courier is the reading one
    rw [System.register_couriers, hc, List.nil_append] at hk
    obtain ⟨k0, hk0, -⟩ := Option.map_eq_some_iff.mp hk
    cases r with
    | zero => exact absurd rfl hr
    | succ r => simp at hk0
  · rw [System.register_couriers, hc, List.nil_append] at hk
    obtain ⟨k0, hk0, rfl⟩ := Option.map_eq_some_iff.mp hk
    simp only [List.getElem?_cons_zero, Option.some.injEq] at hk0
    subst hk0
    split <;> simp [toScheduler]

theorem boot_schedulerRun (setup : Setup) :
    SchedulerRun [.join schedulerId .scheduler] 0 setup.boot := by
  unfold Setup.boot
  dsimp only
  exact SchedulerRun.first rfl rfl rfl rfl rfl rfl rfl

-- The scheduler registered at boot: after any calls on the hub that register it again only
-- under its own id and while none of its couriers holds mail, with any ready task run at any move
-- in between, once nothing is ready the job table is the events published while the scheduler was
-- registered, in the order they were published, folded over the empty map.
theorem scheduler_jobs_follow_its_events (setup : Setup) (moves : List HubMove)
    (hidle : rejoinsIdle setup.boot moves = true) :
    let s := moves.foldl System.hubMove setup.boot
    s.ready = [] →
      s.table.Mirrors ((toScheduler true (moves.filterMap HubMove.call?)).foldl JobMap.apply ∅) := by
  intro s hnil
  obtain ⟨sched, h⟩ := SchedulerRun.hubMoves moves _ _ _ (boot_schedulerRun setup) hidle
  obtain ⟨m, hm, hfold⟩ := h.follows.mirror
  -- the reading courier waits with no mail left
  obtain ⟨k, hk, -⟩ : ∃ k, s.couriers[sched]? = some k ∧ k.listener = .scheduler := by
    simpa using h.follows.own
  have hw := h.couriers.waiting_of_settled h.loops hnil hk
  have hq : k.queue = [] := by
    by_contra hq
    have hin := h.prompt sched k hk hw hq (by simp)
    rw [hnil] at hin
    cases hin
  have := hfold k hk
  rw [hq, List.foldl_nil] at this
  -- the boot registration turns the scheduler on
  have hboot : toScheduler false ([.join schedulerId .scheduler] ++ moves.filterMap HubMove.call?) =
      toScheduler true (moves.filterMap HubMove.call?) := by
    simp [toScheduler, HubCall.schedulerAfter]
  rw [hboot] at this
  rwa [this] at hm

theorem scheduler_jobs_follow_its_events_over_a_rejoin :
    let setup : Setup := ⟨100, 10000, ⟨0, []⟩, [], Parts.all⟩
    let moves := [HubMove.call (.publish ⟨.created, Interest.new "a" "1" 0⟩), .run (.courier 0),
      .call (.join schedulerId .scheduler), .call (.publish ⟨.created, Interest.new "b" "2" 1⟩),
      .run (.courier 1)]
    rejoinsIdle setup.boot moves = true ∧
      let s := moves.foldl System.hubMove setup.boot
      (s.ready = [] →
        s.table.Mirrors ((toScheduler true (moves.filterMap HubMove.call?)).foldl JobMap.apply ∅)) :=
  ⟨by decide, scheduler_jobs_follow_its_events _ _ (by decide)⟩

-- Registering the scheduler again while its first courier still holds mail: the new courier's
-- creation reaches the scheduler first, then the old courier's deletion undoes it, so the job
-- the last event asks for is gone once nothing is ready.
theorem second_scheduler_registration_drops_a_job :
    let after := Setup.after ⟨100, 10000, ⟨0, []⟩, [], Parts.all⟩
        [⟨[], .ok (.publish .created "a" "1"), true⟩, ⟨[], .ok (.publish .updated "a" "2"), false⟩,
          ⟨[], .ok (.publish .deleted "a" "3"), false⟩, ⟨[], .ok .registerScheduler, false⟩,
          ⟨[], .ok (.publish .created "a" "4"), true⟩]
    after.system.ready = [] ∧ after.system.table.find? "a" = none ∧
      (([⟨.created, Interest.new "a" "1" 0⟩, ⟨.updated, Interest.new "a" "2" 1⟩,
          ⟨.deleted, Interest.new "a" "3" 2⟩, ⟨.created, Interest.new "a" "4" 3⟩] :
          List (Event Stamp)).foldl JobMap.apply ∅).lookup "a" = some (Interest.new "a" "4" 3) :=
  ⟨by decide, by decide, by simp [JobMap.lookup_apply, Event.key, Event.filed, Interest.new]⟩

end RouteWatch
