import RouteWatch.Proofs.System.Loops

-- Work done at one moment.
namespace RouteWatch

open Schedule

-- `l'` is loop `l` after work done at one moment: it checks the same interest with the same
-- period, and if it is live, `l` was live with the same deadline and the same call.
structure Loop.Keeps (l l' : Loop) : Prop where
  snapshot : l'.snapshot = l.snapshot
  period : l'.period = l.period
  timer : l'.live = true → l.live = true ∧ l'.deadline = l.deadline ∧ l'.callEnds = l.callEnds

namespace Loop.Keeps

theorem refl (l : Loop) : l.Keeps l :=
  ⟨rfl, rfl, fun h => ⟨h, rfl, rfl⟩⟩

theorem trans {l l' l'' : Loop} (h : l.Keeps l') (h' : l'.Keeps l'') : l.Keeps l'' := by
  refine ⟨h'.snapshot.trans h.snapshot, h'.period.trans h.period, fun hlive => ?_⟩
  obtain ⟨hl', hd', hc'⟩ := h'.timer hlive
  obtain ⟨hl, hd, hc⟩ := h.timer hl'
  exact ⟨hl, hd'.trans hd, hc'.trans hc⟩

theorem of_not_live {l l' : Loop} (hs : l'.snapshot = l.snapshot) (hp : l'.period = l.period)
    (hl : l'.live = false) : l.Keeps l' :=
  ⟨hs, hp, fun h => by rw [hl] at h; cases h⟩

end Loop.Keeps

namespace System

-- `s'` is `s` after work done at one moment: the time, the executor, the ledger and the period
-- stand still, every loop keeps its timer, and the loops started since first tick one period from
-- now.
structure Quiet (s s' : System) : Prop where
  now : s'.now = s.now
  executor : s'.executor = s.executor
  ledger : s'.ledger = s.ledger
  period : s'.table.period = s.table.period
  length : s.loops.length ≤ s'.loops.length
  kept : ∀ (n : Nat) (l : Loop), s.loops[n]? = some l → ∃ l', s'.loops[n]? = some l' ∧ l.Keeps l'
  fresh : ∀ (n : Nat) (l' : Loop), s.loops.length ≤ n → s'.loops[n]? = some l' →
    l'.period = s.table.period ∧
      (l'.live = true → l'.deadline = s.now + s.table.period ∧ l'.callEnds = none)

-- Loops tick with a positive period, and every live loop is due after now.
structure Ahead (s : System) : Prop where
  period : 0 < s.table.period
  due : ∀ (n : Nat) (l : Loop), s.loops[n]? = some l → l.live = true → s.now < l.due

namespace Quiet

variable {s s' s'' : System}

theorem refl (s : System) : Quiet s s :=
  ⟨rfl, rfl, rfl, rfl, Nat.le_refl _, fun _ l h => ⟨l, h, Loop.Keeps.refl l⟩,
    fun _ _ hn h => absurd (List.getElem?_eq_some_iff.mp h).1 (by omega)⟩

theorem trans (h : Quiet s s') (h' : Quiet s' s'') : Quiet s s'' := by
  refine ⟨h'.now.trans h.now, h'.executor.trans h.executor, h'.ledger.trans h.ledger,
    h'.period.trans h.period, Nat.le_trans h.length h'.length, ?_, ?_⟩
  · intro n l hl
    obtain ⟨l', hl', hk⟩ := h.kept n l hl
    obtain ⟨l'', hl'', hk'⟩ := h'.kept n l' hl'
    exact ⟨l'', hl'', hk.trans hk'⟩
  · intro n l'' hn hl''
    by_cases hn' : n < s'.loops.length
    · -- Started in the first stretch of work: fresh then, and kept since.
      obtain ⟨l', hl'⟩ : ∃ l', s'.loops[n]? = some l' := ⟨_, List.getElem?_eq_getElem hn'⟩
      obtain ⟨hp, hfresh⟩ := h.fresh n l' hn hl'
      obtain ⟨m, hm, hk⟩ := h'.kept n l' hl'
      rw [hl''] at hm
      cases hm
      refine ⟨hk.period.trans hp, fun hlive => ?_⟩
      obtain ⟨hlive', hd, hc⟩ := hk.timer hlive
      obtain ⟨hd', hc'⟩ := hfresh hlive'
      exact ⟨hd.trans hd', hc.trans hc'⟩
    · obtain ⟨hp, hfresh⟩ := h'.fresh n l'' (by omega) hl''
      rw [h.now, h.period] at hfresh
      exact ⟨hp.trans h.period, hfresh⟩

theorem ahead (h : Quiet s s') (ha : Ahead s) : Ahead s' := by
  refine ⟨by rw [h.period]; exact ha.period, fun n l' hl' hlive => ?_⟩
  rw [h.now]
  by_cases hn : n < s.loops.length
  · obtain ⟨l, hl⟩ : ∃ l, s.loops[n]? = some l := ⟨_, List.getElem?_eq_getElem hn⟩
    obtain ⟨m, hm, hk⟩ := h.kept n l hl
    rw [hl'] at hm
    cases hm
    obtain ⟨hlive0, hd, hc⟩ := hk.timer hlive
    have hdue := ha.due n l hl hlive0
    unfold Loop.due at hdue ⊢
    rw [hd, hc]
    exact hdue
  · obtain ⟨-, hfresh⟩ := h.fresh n l' (by omega) hl'
    obtain ⟨hd, hc⟩ := hfresh hlive
    have := ha.period
    unfold Loop.due
    rw [hc, Option.getD_none, hd]
    omega

-- Work that starts no loop and leaves every loop its timer is quiet.
theorem of_kept (hn : s'.now = s.now) (hx : s'.executor = s.executor) (hg : s'.ledger = s.ledger)
    (hp : s'.table.period = s.table.period) (hlen : s'.loops.length = s.loops.length)
    (hkept : ∀ (n : Nat) (l : Loop), s.loops[n]? = some l → ∃ l', s'.loops[n]? = some l' ∧ l.Keeps l') :
    Quiet s s' :=
  ⟨hn, hx, hg, hp, by omega, hkept,
    fun _ _ hn' hl' => absurd (List.getElem?_eq_some_iff.mp hl').1 (by omega)⟩

theorem of_loops (hl : s'.loops = s.loops) (hg : s'.ledger = s.ledger) (hn : s'.now = s.now)
    (hx : s'.executor = s.executor) (hp : s'.table.period = s.table.period) : Quiet s s' :=
  of_kept hn hx hg hp (by rw [hl]) fun _ l h => ⟨l, by rw [hl]; exact h, Loop.Keeps.refl l⟩

theorem of_aside (h : Aside s s') (hn : s'.now = s.now) (hx : s'.executor = s.executor) :
    Quiet s s' :=
  of_loops h.loops h.ledger hn hx (by rw [h.table])

end Quiet

theorem keeps_cancel (w : Option Nat) (l : Loop) : l.Keeps (Loop.cancel w l) :=
  Loop.Keeps.of_not_live rfl rfl (by simp [Loop.live])

section Moment

variable (s : System)

theorem setLoop_of_getElem? {n : Nat} {l : Loop} (h : s.loops[n]? = some l) : s.setLoop n l = s := by
  obtain ⟨hn, hl⟩ := List.getElem?_eq_some_iff.mp h
  unfold setLoop
  rw [← hl, List.set_getElem_self hn]

-- A live loop that is not yet due does nothing when it runs.
theorem runLoop_of_early {n : Nat} {l : Loop} (hn : s.loops[n]? = some l) (hlive : l.live = true)
    (hdue : s.now < l.due) : s.runLoop n = s := by
  have he : l.exited = false := by simp [Loop.live] at hlive; exact hlive.1
  have hc : l.cancelled = false := by simp [Loop.live] at hlive; exact hlive.2
  unfold runLoop
  rw [hn]
  dsimp only
  rw [if_neg (by simp [he]), if_neg (by simp [hc])]
  unfold Loop.due at hdue
  split
  · rename_i e he'
    rw [he'] at hdue
    rw [if_neg (by simp at hdue; omega)]
  · rename_i hnone
    rw [hnone, Option.getD_none] at hdue
    rw [show s.now + 1 - l.deadline = 0 by omega]
    exact setLoop_of_getElem? s hn

theorem quiet_wake (t : Task) : Quiet s (s.wake t) :=
  Quiet.of_loops (by simp) (by simp) (by simp) (by simp) (by simp)

theorem quiet_setCourier (c : Nat) (k : Courier) : Quiet s (s.setCourier c k) :=
  Quiet.of_loops rfl rfl rfl rfl rfl

theorem quiet_beginRetire : Quiet s s.beginRetire :=
  Quiet.of_loops rfl rfl rfl rfl rfl

theorem quiet_endRetire : Quiet s s.endRetire :=
  Quiet.of_loops rfl rfl rfl rfl rfl

theorem quiet_cancelLoop (n : Nat) (w : Option Nat) : Quiet s (s.cancelLoop n w) := by
  refine Quiet.of_kept ?_ ?_ (by simp) (by simp) (by simp) ?_
  · unfold cancelLoop
    split <;> simp
  · unfold cancelLoop
    split <;> simp
  · intro m l hl
    rw [cancelLoop_loops]
    split
    · exact ⟨Loop.cancel w l, by simp [hl], keeps_cancel w l⟩
    · exact ⟨l, hl, Loop.Keeps.refl l⟩

theorem quiet_fileJob (i : Interest Stamp) : Quiet s (s.fileJob i) := by
  refine ⟨by simp [fileJob, spawnLoop_eq], by simp [fileJob, spawnLoop_eq], by simp, rfl,
    by simp, ?_, ?_⟩
  · intro n l hl
    refine ⟨l, ?_, Loop.Keeps.refl l⟩
    rw [fileJob_loops_of_lt s i (List.getElem?_eq_some_iff.mp hl).1, hl]
  · intro n l' hn hl'
    rcases fileJob_loops_eq_some s i hl' with ⟨hlt, -⟩ | ⟨-, rfl⟩
    · omega
    · exact ⟨rfl, fun _ => ⟨rfl, rfl⟩⟩

theorem quiet_startJob (i : Interest Stamp) (w : Option Nat) : Quiet s (s.startJob i w).2 := by
  cases hc : s.table.closed
  · rw [startJob_of_open s i w hc]
    split
    · exact quiet_fileJob s i
    · exact ((quiet_fileJob s i).trans (quiet_cancelLoop _ _ _)).trans (quiet_beginRetire _)
  · rw [startJob_of_closed s i w hc]
    exact Quiet.refl s

theorem quiet_stopJob (app : String) (w : Option Nat) : Quiet s (s.stopJob app w).2 := by
  unfold stopJob
  split
  · exact Quiet.refl s
  · dsimp only
    exact ((Quiet.of_loops (by rfl) (by rfl) (by rfl) (by rfl) (by rfl)).trans
      (quiet_cancelLoop _ _ _)).trans (quiet_beginRetire _)

theorem quiet_cancelAll (w : Option Nat) (jobs : List Job) : Quiet s (s.cancelAll w jobs) := by
  induction jobs generalizing s with
  | nil => exact Quiet.refl s
  | cons j rest ih => exact (quiet_cancelLoop s j.loop w).trans (ih _)

theorem quiet_takeAllJobs (close : Bool) : Quiet s (s.takeAllJobs close).2 := by
  rw [takeAllJobs_eq]
  dsimp only
  exact (Quiet.of_loops (by rfl) (by rfl) (by rfl) (by rfl) (by rfl)).trans (quiet_cancelAll _ _ _)

theorem quiet_deliver (c : Nat) (listener : Listener) (e : Event Stamp) :
    Quiet s (s.deliver c listener e).2 :=
  s.deliver_induct (fun r => Quiet s r.2) c listener e (quiet_startJob s _ _)
    (quiet_stopJob s _ _) (fun _ => Quiet.of_loops rfl rfl rfl rfl rfl) (Quiet.refl s)

theorem quiet_popMail (c : Nat) (rest : List (Event Stamp)) : Quiet s (s.popMail c rest) := by
  unfold popMail
  split
  · exact quiet_setCourier _ _ _
  · exact Quiet.refl s

theorem quiet_setStage (c : Nat) (stage : Stage) : Quiet s (s.setStage c stage) := by
  unfold setStage
  split
  · exact quiet_setCourier _ _ _
  · exact Quiet.refl s

theorem quiet_handOver (c : Nat) (listener : Listener) (q : List (Event Stamp)) :
    ∀ s, Quiet s (handOver c listener q s) := by
  induction q with
  | nil =>
    intro s
    unfold handOver
    split
    · exact quiet_setCourier _ _ _
    · exact Quiet.refl s
  | cons e rest ih =>
    intro s
    rw [handOver_cons]
    have hd := (quiet_popMail s c rest).trans (quiet_deliver _ c listener e)
    generalize (s.popMail c rest).deliver c listener e = r at hd
    obtain ⟨_ | l, d⟩ := r
    · exact hd.trans (ih d)
    · exact hd.trans (quiet_setStage _ _ _)

theorem quiet_runCourier (c : Nat) : Quiet s (s.runCourier c) := by
  unfold runCourier
  split
  · exact Quiet.refl s
  · split
    · exact Quiet.refl s
    · split
      · split
        · exact ((quiet_setCourier _ _ _).trans (quiet_endRetire _)).trans (quiet_handOver _ _ _ _)
        · exact Quiet.refl s
      · exact quiet_handOver _ _ _ _

variable {s}

-- A loop that is no longer live does nothing when it runs but exit, if it has not yet.
theorem quiet_runLoop_of_stopped {n : Nat} {l : Loop} (hn : s.loops[n]? = some l)
    (hstop : l.live = false) : Quiet s (s.runLoop n) := by
  cases he : l.exited
  · rw [runLoop_of_cancelled s n hn he (Loop.cancelled_of_stopped hstop he)]
    have hexit : Quiet s (s.setLoop n { l with exited := true, callEnds := none }) := by
      refine Quiet.of_kept rfl rfl rfl rfl (by simp) fun m lm hlm => ?_
      by_cases hm : n = m
      · subst hm
        rw [hn] at hlm
        cases hlm
        exact ⟨{ l with exited := true, callEnds := none },
          by simp [(List.getElem?_eq_some_iff.mp hn).1],
          Loop.Keeps.of_not_live rfl rfl (by simp [Loop.live])⟩
      · exact ⟨lm, by simp [hm, hlm], Loop.Keeps.refl lm⟩
    split
    · exact hexit.trans (quiet_wake _ _)
    · exact hexit
  · rw [runLoop_of_exited s n hn he]
    exact Quiet.refl s

-- Run before it is due, a live loop does nothing; a cancelled one exits.
theorem quiet_runLoop (ha : Ahead s) (n : Nat) : Quiet s (s.runLoop n) := by
  cases hn : s.loops[n]? with
  | none =>
    rw [runLoop_of_none s n hn]
    exact Quiet.refl s
  | some l =>
    cases hlive : l.live
    · exact quiet_runLoop_of_stopped hn hlive
    · rw [runLoop_of_early s hn hlive (ha.due n l hn hlive)]
      exact Quiet.refl s

theorem quiet_runTask (ha : Ahead s) (t : Task) (rest : List Task) :
    Quiet s ({ s with ready := rest }.runTask t) := by
  have hpop : Quiet s { s with ready := rest } := Quiet.of_loops rfl rfl rfl rfl rfl
  cases t with
  | courier c => exact hpop.trans (quiet_runCourier _ c)
  | loop n => exact hpop.trans (quiet_runLoop (hpop.ahead ha) n)

theorem quiet_quiesce (ha : Ahead s) : Quiet s s.quiesce :=
  quiesceWith_invariant (fun x => Quiet s x)
    (fun _ t rest hx _ => hx.trans (quiet_runTask (hx.ahead ha) t rest)) _ s (Quiet.refl s)

theorem quiet_drain (ha : Ahead s) (close : Bool) : Quiet s (s.drain close).2 := by
  have ht := quiet_takeAllJobs s close
  unfold drain
  dsimp only
  split
  · exact ht.trans (quiet_quiesce (ht.ahead ha))
  · exact ht

theorem quiet_shutdown (ha : Ahead s) : Quiet s s.shutdown.2 := by
  have ht := quiet_takeAllJobs s true
  unfold shutdown
  split
  · exact Quiet.refl s
  · dsimp only
    split
    · split
      · exact ht
      · exact ht.trans (quiet_quiesce (ht.ahead ha))
    · exact ht

theorem quiet_awaitRetire (ha : Ahead s) : Quiet s s.awaitRetire :=
  (quiet_quiesce ha).trans (quiet_endRetire _)

theorem quiet_startJobNow (ha : Ahead s) (i : Interest Stamp) : Quiet s (s.startJobNow i).2 := by
  have hs := quiet_startJob s i none
  unfold startJobNow
  split <;> rename_i heq <;> rw [heq] at hs
  · exact hs.trans (quiet_awaitRetire (hs.ahead ha))
  · exact hs

theorem quiet_stopJobNow (ha : Ahead s) (app : String) : Quiet s (s.stopJobNow app).2 := by
  have hs := quiet_stopJob s app none
  unfold stopJobNow
  split <;> rename_i heq <;> rw [heq] at hs
  · exact hs.trans (quiet_awaitRetire (hs.ahead ha))
  · exact hs

variable (s)

-- What the hub's side does moves neither the time nor the executor.
theorem quiet_send (m : Nat) (e : Event Stamp) : Quiet s (s.send m e) := by
  apply Quiet.of_aside (aside_send s m e)
  all_goals
    unfold send
    split
    · rfl
    · dsimp only
      split <;> simp [setCourier]

theorem quiet_post (e : Event Stamp) : Quiet s (s.post e) := by
  unfold post
  generalize s.hub.mailboxes = ms
  induction ms generalizing s with
  | nil => exact Quiet.refl s
  | cons m rest ih => exact (quiet_send s m e).trans (ih _)

theorem quiet_release (m : Nat) : Quiet s (s.release m) := by
  apply Quiet.of_aside (aside_release s m)
  all_goals
    unfold release
    split
    · rfl
    · dsimp only
      split <;> simp [setCourier]

theorem quiet_register (id : String) (listener : Listener) : Quiet s (s.register id listener) := by
  let k : Courier :=
    { listener := listener, queue := [], linked := true, stage := .waiting, exited := false }
  have hadd : Quiet s { s with couriers := s.couriers ++ [k], hub := s.hub.link id s.couriers.length } :=
    Quiet.of_loops rfl rfl rfl rfl rfl
  have hwake := hadd.trans (quiet_wake _ (.courier s.couriers.length))
  unfold register
  dsimp only
  split
  · exact hwake.trans (quiet_release _ _)
  · exact hwake

theorem quiet_deregister (id : String) : Quiet s (s.deregister id) := by
  unfold deregister
  split
  · exact (Quiet.of_loops (by rfl) (by rfl) (by rfl) (by rfl) (by rfl)).trans (quiet_release _ _)
  · exact Quiet.refl s

end Moment

-- From a state whose live loops are all due later, whatever a caller does at one moment is
-- quiet.
theorem quiet_calm {s₀ : System} (ha : Ahead s₀) : Calm (Quiet s₀) where
  stamp _ h := h.trans (Quiet.of_loops rfl rfl rfl rfl rfl)
  store _ _ h := h.trans (Quiet.of_loops rfl rfl rfl rfl rfl)
  post s e h := h.trans (quiet_post s e)
  openLog _ h := h.trans (Quiet.of_loops rfl rfl rfl rfl rfl)
  register s id listener h := h.trans (quiet_register s id listener)
  deregister s id h := h.trans (quiet_deregister s id)
  startJobNow _ i h := h.trans (quiet_startJobNow (h.ahead ha) i)
  stopJobNow _ app h := h.trans (quiet_stopJobNow (h.ahead ha) app)
  stopAll _ h := h.trans (quiet_drain (h.ahead ha) false)
  restarted _ h := h.trans (Quiet.of_loops rfl rfl rfl rfl rfl)
  quiesce _ h := h.trans (quiet_quiesce (h.ahead ha))

end System

end RouteWatch
