import RouteWatch.Proofs.System.Frame

-- What no task touches. Running the tasks changes the scheduler's side of the state (the job
-- table, the loops, the couriers, the ready queue, the ledger and the recorders' logs) and nothing
-- else: the time, the clock of record, the store, the hub, the executor and the setup stay as
-- they were, through any number of runs.
namespace RouteWatch

open Schedule

-- Where a courier stands: its stage, and whether it has exited.
def Courier.phase (k : Courier) : Stage × Bool :=
  (k.stage, k.exited)

-- Whether a courier is inside an update, waiting for a loop to exit.
def Courier.inUpdate (k : Courier) : Bool :=
  k.stage != .waiting

namespace System

-- `s'` agrees with `s` on everything a task never touches.
structure Untouched (s s' : System) : Prop where
  now : s'.now = s.now
  clock : s'.clock = s.clock
  store : s'.store = s.store
  hub : s'.hub = s.hub
  executor : s'.executor = s.executor
  parts : s'.parts = s.parts
  restarted : s'.restarted = s.restarted
  shutdownLimit : s'.shutdownLimit = s.shutdownLimit

namespace Untouched

@[refl] theorem refl (s : System) : Untouched s s :=
  ⟨rfl, rfl, rfl, rfl, rfl, rfl, rfl, rfl⟩

@[trans] theorem trans {s s' s'' : System} (h : Untouched s s') (h' : Untouched s' s'') :
    Untouched s s'' :=
  ⟨h'.now.trans h.now, h'.clock.trans h.clock, h'.store.trans h.store, h'.hub.trans h.hub,
    h'.executor.trans h.executor, h'.parts.trans h.parts, h'.restarted.trans h.restarted,
    h'.shutdownLimit.trans h.shutdownLimit⟩

-- Every update of the scheduler's side is one of these.
theorem inner (s : System) (t : Table) (l : List Loop) (c : List Courier) (r : List Task)
    (g : Ledger) (o : List (List (Event Stamp))) :
    Untouched s { s with table := t, loops := l, couriers := c, ready := r, ledger := g, logs := o } :=
  ⟨rfl, rfl, rfl, rfl, rfl, rfl, rfl, rfl⟩

end Untouched

variable (s : System)

theorem untouched_wake (t : Task) : Untouched s (s.wake t) := by
  unfold wake
  split
  · rfl
  · exact Untouched.inner s _ _ _ _ _ _

theorem untouched_cancelLoop (n : Nat) (w : Option Nat) : Untouched s (s.cancelLoop n w) := by
  unfold cancelLoop
  split
  · rfl
  · exact (Untouched.inner s _ _ _ _ _ _).trans (untouched_wake _ _)

theorem untouched_startJob (i : Interest Stamp) (w : Option Nat) :
    Untouched s (s.startJob i w).2 := by
  cases hc : s.table.closed
  · rw [startJob_of_open s i w hc]
    have hfile : Untouched s (s.fileJob i) :=
      (Untouched.inner s _ _ _ _ _ _).trans ((untouched_wake _ _).trans (Untouched.inner _ _ _ _ _ _ _))
    split
    · exact hfile
    · exact (hfile.trans (untouched_cancelLoop _ _ _)).trans (Untouched.inner _ _ _ _ _ _ _)
  · rw [startJob_of_closed s i w hc]

theorem untouched_stopJob (app : String) (w : Option Nat) : Untouched s (s.stopJob app w).2 := by
  unfold stopJob
  split
  · rfl
  · exact ((Untouched.inner s _ _ _ _ _ _).trans (untouched_cancelLoop _ _ _)).trans
      (Untouched.inner _ _ _ _ _ _ _)

theorem untouched_cancelAll (w : Option Nat) (jobs : List Job) : Untouched s (s.cancelAll w jobs) := by
  unfold cancelAll
  induction jobs generalizing s with
  | nil => rfl
  | cons j rest ih => exact (untouched_cancelLoop s _ _).trans (ih _)

theorem untouched_deliver (c : Nat) (listener : Listener) (e : Event Stamp) :
    Untouched s (s.deliver c listener e).2 := by
  unfold deliver
  split
  · split
    · exact untouched_startJob s _ _
    · exact untouched_startJob s _ _
    · exact untouched_stopJob s _ _
  · exact Untouched.inner s _ _ _ _ _ _
  · rfl

theorem untouched_handOver (c : Nat) (listener : Listener) (q : List (Event Stamp)) :
    Untouched s (handOver c listener q s) := by
  induction q generalizing s with
  | nil =>
    unfold handOver
    split
    · exact Untouched.inner s _ _ _ _ _ _
    · rfl
  | cons e rest ih =>
    rw [handOver_cons]
    -- the mailbox shrinks, the event is delivered, and then either the courier waits or goes on
    have hpop : Untouched s (s.popMail c rest) := by
      unfold popMail
      split
      · exact Untouched.inner s _ _ _ _ _ _
      · rfl
    have hdel := hpop.trans (untouched_deliver _ c listener e)
    generalize (s.popMail c rest).deliver c listener e = r at hdel
    obtain ⟨_ | l, s'⟩ := r
    · exact hdel.trans (ih s')
    · rw [afterDeliver_some]
      unfold setStage
      split
      · exact hdel.trans (Untouched.inner _ _ _ _ _ _ _)
      · exact hdel

theorem untouched_runCourier (c : Nat) : Untouched s (s.runCourier c) := by
  unfold runCourier
  split
  · rfl
  · split
    · rfl
    · split
      · split
        · exact (Untouched.inner s _ _ _ _ _ _).trans
            ((Untouched.inner _ _ _ _ _ _ _).trans (untouched_handOver _ _ _ _))
        · rfl
      · exact untouched_handOver s _ _ _

theorem untouched_runLoop (n : Nat) : Untouched s (s.runLoop n) := by
  cases hn : s.loops[n]? with
  | none => rw [runLoop_of_none s n hn]
  | some l =>
    cases he : l.exited
    · cases hc : l.cancelled
      · obtain ⟨l', ledger, hrun, -⟩ := runLoop_of_live s n hn he hc
        rw [hrun]
        exact Untouched.inner s _ _ _ _ _ _
      · rw [runLoop_of_cancelled s n hn he hc]
        split
        · exact (Untouched.inner s _ _ _ _ _ _).trans (untouched_wake _ _)
        · exact Untouched.inner s _ _ _ _ _ _
    · rw [runLoop_of_exited s n hn he]

theorem untouched_runTask (t : Task) : Untouched s (s.runTask t) := by
  cases t with
  | courier c => exact untouched_runCourier s c
  | loop n => exact untouched_runLoop s n

theorem untouched_quiesceWith (fuel : Nat) : Untouched s (quiesceWith fuel s) := by
  induction fuel generalizing s with
  | zero => rfl
  | succ fuel ih =>
    unfold quiesceWith
    split
    · rfl
    · exact (Untouched.inner s _ _ _ _ _ _).trans ((untouched_runTask _ _).trans (ih _))

theorem untouched_quiesce : Untouched s s.quiesce :=
  untouched_quiesceWith s _

section Time

-- Waking the due loops only adds to the ready queue.
theorem wakeDue_eq : ∃ r, s.wakeDue = { s with ready := r } ∧ ∀ x ∈ s.ready, x ∈ r := by
  unfold wakeDue
  generalize s.loops.zipIdx = ls
  induction ls generalizing s with
  | nil => exact ⟨s.ready, rfl, fun _ hx => hx⟩
  | cons p rest ih =>
    obtain ⟨l, n⟩ := p
    rw [List.foldl_cons]
    dsimp only
    split
    · obtain ⟨r, hr, hsub⟩ := ih (s.wake (.loop n))
      refine ⟨r, ?_, fun x hx => hsub x ((mem_wake_ready _ _).mpr (Or.inl hx))⟩
      rw [hr]
      unfold wake
      split <;> rfl
    · exact ih s

variable (P : System → Prop)

-- Whatever the passing of time is made of keeps, it keeps.
theorem runUntil_invariant (hnow : ∀ s x, P s → P { s with now := x })
    (hwake : ∀ s, P s → P s.wakeDue) (hquiesce : ∀ s, P s → P s.quiesce) (target : Nat) :
    ∀ (fuel : Nat) (s : System), P s → P (runUntil target fuel s) := by
  intro fuel
  induction fuel with
  | zero => exact fun s hs => hs
  | succ fuel ih =>
    intro s hs
    unfold runUntil
    split
    · split
      · exact ih _ (hquiesce _ (hwake _ (hnow _ _ hs)))
      · exact hs
    · exact hs

theorem advance_invariant (hnow : ∀ s x, P s → P { s with now := x })
    (hwake : ∀ s, P s → P s.wakeDue) (hquiesce : ∀ s, P s → P s.quiesce) (ms : Nat) :
    P s → P (s.advance ms) := by
  intro hs
  unfold advance
  exact hwake _ (hnow _ _ (runUntil_invariant P hnow hwake hquiesce _ _ _ (hquiesce _ hs)))

end Time

-- `s'` differs from `s` only away from the scheduler: the job table, the loops and the ledger
-- are the same, every task ready in `s` is still ready, and the couriers stand where they stood,
-- with perhaps new ones between events after them.
structure Aside (s s' : System) : Prop where
  table : s'.table = s.table
  loops : s'.loops = s.loops
  ledger : s'.ledger = s.ledger
  ready : ∀ x ∈ s.ready, x ∈ s'.ready
  phases : ∃ fresh : List Courier, (∀ k ∈ fresh, k.stage = .waiting) ∧
    s'.couriers.map Courier.phase = (s.couriers ++ fresh).map Courier.phase

namespace Aside

variable {s s' s'' : System}

@[refl] theorem refl (s : System) : Aside s s :=
  ⟨rfl, rfl, rfl, fun _ hx => hx, [], by simp, by simp⟩

@[trans] theorem trans (h : Aside s s') (h' : Aside s' s'') : Aside s s'' := by
  obtain ⟨f, hf, hm⟩ := h.phases
  obtain ⟨f', hf', hm'⟩ := h'.phases
  refine ⟨h'.table.trans h.table, h'.loops.trans h.loops, h'.ledger.trans h.ledger,
    fun x hx => h'.ready x (h.ready x hx), f ++ f', ?_, ?_⟩
  · intro k hk
    rcases List.mem_append.mp hk with hk | hk
    · exact hf k hk
    · exact hf' k hk
  · rw [hm', List.map_append, hm, ← List.map_append, List.append_assoc]

theorem of_couriers (ht : s'.table = s.table) (hl : s'.loops = s.loops) (hg : s'.ledger = s.ledger)
    (hr : ∀ x ∈ s.ready, x ∈ s'.ready) (hc : s'.couriers = s.couriers) : Aside s s' :=
  ⟨ht, hl, hg, hr, [], by simp, by simp [hc]⟩

-- Every courier of `s` stands in `s'` where it stood.
theorem courier (h : Aside s s') {c : Nat} {k : Courier} (hc : s.couriers[c]? = some k) :
    ∃ k', s'.couriers[c]? = some k' ∧ k'.phase = k.phase := by
  obtain ⟨f, -, hm⟩ := h.phases
  have hc' := congrArg (·[c]?) hm
  simp only [List.getElem?_map, List.getElem?_append_left (List.getElem?_eq_some_iff.mp hc).1, hc,
    Option.map_some] at hc'
  exact Option.map_eq_some_iff.mp hc'

-- A courier of `s'` inside an update stood there in `s`: the new ones are between events.
theorem courier_back (h : Aside s s') {c : Nat} {k' : Courier} (hc : s'.couriers[c]? = some k')
    (hk : k'.stage ≠ .waiting) : ∃ k, s.couriers[c]? = some k ∧ k.phase = k'.phase := by
  obtain ⟨f, hf, hm⟩ := h.phases
  have hc' := congrArg (·[c]?) hm
  simp only [List.getElem?_map, hc, Option.map_some, List.getElem?_append] at hc'
  split at hc'
  · obtain ⟨k, hk', he⟩ := Option.map_eq_some_iff.mp hc'.symm
    exact ⟨k, hk', he⟩
  · obtain ⟨k, hk', he⟩ := Option.map_eq_some_iff.mp hc'.symm
    have hw := hf k (List.mem_of_getElem? hk')
    exact absurd (by rw [← hw]; exact (congrArg Prod.fst he).symm) hk

theorem countP_inUpdate (h : Aside s s') :
    s'.couriers.countP Courier.inUpdate = s.couriers.countP Courier.inUpdate := by
  obtain ⟨f, hf, hm⟩ := h.phases
  have hphase : Courier.inUpdate = (fun p : Stage × Bool => p.1 != .waiting) ∘ Courier.phase := rfl
  have hfresh : f.countP Courier.inUpdate = 0 :=
    List.countP_eq_zero.mpr fun k hk => by simp [Courier.inUpdate, hf k hk]
  rw [hphase, ← List.countP_map, hm, List.countP_map, List.countP_append, ← hphase, hfresh]
  rfl

end Aside

section AsideSteps

variable (s : System)

theorem aside_wake (t : Task) : Aside s (s.wake t) :=
  Aside.of_couriers (by simp) (by simp) (by simp) (fun _ hx => (mem_wake_ready _ _).mpr (Or.inl hx))
    (by simp)

theorem aside_setCourier {c : Nat} {k : Courier} (hc : s.couriers[c]? = some k) (k' : Courier)
    (hk : k'.phase = k.phase) : Aside s (s.setCourier c k') := by
  refine ⟨rfl, rfl, rfl, fun _ hx => hx, [], by simp, ?_⟩
  apply List.ext_getElem?
  intro i
  simp only [setCourier_couriers, List.append_nil, List.getElem?_map, List.getElem?_set]
  split
  · rename_i hi
    subst hi
    obtain ⟨hlt, heq⟩ := List.getElem?_eq_some_iff.mp hc
    simp [hk, hlt, heq]
  · rfl

theorem aside_send (m : Nat) (e : Event Stamp) : Aside s (s.send m e) := by
  unfold send
  split
  · rfl
  · rename_i k hk
    dsimp only
    have hset := aside_setCourier s hk { k with queue := k.queue ++ [e] } rfl
    split
    · exact hset.trans (aside_wake _ _)
    · exact hset

theorem aside_post (e : Event Stamp) : Aside s (s.post e) := by
  unfold post
  generalize s.hub.mailboxes = ms
  induction ms generalizing s with
  | nil => rfl
  | cons m rest ih => exact (aside_send s m e).trans (ih _)

theorem aside_release (m : Nat) : Aside s (s.release m) := by
  unfold release
  split
  · rfl
  · rename_i k hk
    dsimp only
    have hset := aside_setCourier s hk { k with linked := false } rfl
    split
    · exact hset.trans (aside_wake _ _)
    · exact hset

-- A new mailbox gets a courier between events; the mailbox it replaces is let go.
theorem aside_register (id : String) (listener : Listener) : Aside s (s.register id listener) := by
  let k : Courier :=
    { listener := listener, queue := [], linked := true, stage := .waiting, exited := false }
  have hadd : Aside s { s with couriers := s.couriers ++ [k], hub := s.hub.link id s.couriers.length } :=
    ⟨rfl, rfl, rfl, fun _ hx => hx, [k], by simp [k], rfl⟩
  have hwake := hadd.trans (aside_wake _ (.courier s.couriers.length))
  unfold register
  dsimp only
  split
  · exact hwake.trans (aside_release _ _)
  · exact hwake

theorem aside_deregister (id : String) : Aside s (s.deregister id) := by
  unfold deregister
  split
  · exact (Aside.of_couriers (by rfl) (by rfl) (by rfl) (by intro _ hx; exact hx) (by rfl)).trans
      (aside_release _ _)
  · rfl

theorem aside_wakeDue : Aside s s.wakeDue := by
  obtain ⟨r, hr, hsub⟩ := wakeDue_eq s
  rw [hr]
  exact Aside.of_couriers rfl rfl rfl hsub rfl

end AsideSteps

end System

end RouteWatch
