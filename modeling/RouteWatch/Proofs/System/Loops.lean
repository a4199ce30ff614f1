import RouteWatch.Proofs.System.Frame
import RouteWatch.Proofs.System.Untouched
import RouteWatch.Proofs.Runs

-- The job table and the timer loops hang together in every state the system reaches.
namespace RouteWatch

open Schedule

-- A loop that is no longer live and has not exited was cancelled.
theorem Loop.cancelled_of_stopped {l : Loop} (hstop : l.live = false) (he : l.exited = false) :
    l.cancelled = true := by
  simpa [Loop.live, he] using hstop

namespace System

-- How the job table and the loops hang together.
structure LoopsSound (s : System) : Prop where
  ordered : Table.Ordered s.table.jobs
  filed : ∀ j ∈ s.table.jobs, ∃ l, s.loops[j.loop]? = some l ∧ l.snapshot = j.snapshot ∧
    l.cancelled = false ∧ l.exited = false
  loop_inj : ∀ j ∈ s.table.jobs, ∀ k ∈ s.table.jobs, j.loop = k.loop → j = k
  live_filed : ∀ n l, s.loops[n]? = some l → l.cancelled = false → l.exited = false →
    ∃ j ∈ s.table.jobs, j.loop = n
  cancelled_ready : ∀ n l, s.loops[n]? = some l → l.cancelled = true → l.exited = false →
    .loop n ∈ s.ready

namespace LoopsSound

variable {s : System}

theorem loop_lt (h : LoopsSound s) {j : Job} (hj : j ∈ s.table.jobs) : j.loop < s.loops.length := by
  obtain ⟨l, hl, -⟩ := h.filed j hj
  exact (List.getElem?_eq_some_iff.mp hl).1

theorem wake (h : LoopsSound s) (t : Task) : LoopsSound (s.wake t) where
  ordered := by simpa using h.ordered
  filed := by simpa using h.filed
  loop_inj := by simpa using h.loop_inj
  live_filed := by simpa using h.live_filed
  cancelled_ready n l hl hc he := by
    simp only [wake_loops] at hl
    simpa using Or.inl (h.cancelled_ready n l hl hc he)

theorem beginRetire (h : LoopsSound s) : LoopsSound s.beginRetire where
  ordered := h.ordered
  filed := h.filed
  loop_inj := h.loop_inj
  live_filed := h.live_filed
  cancelled_ready := h.cancelled_ready

theorem endRetire (h : LoopsSound s) : LoopsSound s.endRetire where
  ordered := h.ordered
  filed := h.filed
  loop_inj := h.loop_inj
  live_filed := h.live_filed
  cancelled_ready := h.cancelled_ready

-- Filing a job under an app name that had none: the fresh loop is the new job's.
theorem fileJob_of_none (h : LoopsSound s) {i : Interest Stamp}
    (hf : s.table.find? i.appName = none) : LoopsSound (s.fileJob i) where
  ordered := Table.put_ordered _ _ h.ordered
  filed j hj := by
    rcases (Table.mem_put h.ordered).mp hj with rfl | ⟨hj, -⟩
    · exact ⟨s.freshLoop i, fileJob_loops_self s i, rfl, rfl, rfl⟩
    · obtain ⟨l, hl, hrest⟩ := h.filed j hj
      exact ⟨l, by rw [fileJob_loops_of_lt s i (h.loop_lt hj), hl], hrest⟩
  loop_inj j hj k hk hjk := by
    rcases (Table.mem_put h.ordered).mp hj with rfl | ⟨hj, -⟩ <;>
      rcases (Table.mem_put h.ordered).mp hk with rfl | ⟨hk, -⟩
    · rfl
    · exact absurd hjk (Nat.ne_of_gt (h.loop_lt hk))
    · exact absurd hjk (Nat.ne_of_lt (h.loop_lt hj))
    · exact h.loop_inj j hj k hk hjk
  live_filed n l hl hc he := by
    rcases fileJob_loops_eq_some s i hl with ⟨-, hl⟩ | ⟨rfl, -⟩
    · obtain ⟨j, hj, rfl⟩ := h.live_filed n l hl hc he
      refine ⟨j, (Table.mem_put h.ordered).mpr (Or.inr ⟨hj, ?_⟩), rfl⟩
      exact Table.find?_eq_none hf j hj
    · exact ⟨⟨i, s.loops.length⟩, (Table.mem_put h.ordered).mpr (Or.inl rfl), rfl⟩
  cancelled_ready n l hl hc he := by
    rcases fileJob_loops_eq_some s i hl with ⟨-, hl⟩ | ⟨-, rfl⟩
    · exact (mem_fileJob_ready s i).mpr (Or.inl (h.cancelled_ready n l hl hc he))
    · simp at hc

-- Filing a job in place of `old`: the fresh loop is filed and `old`'s loop is cancelled.
theorem fileJob_of_some (h : LoopsSound s) {i : Interest Stamp} {old : Job}
    (hf : s.table.find? i.appName = some old) (w : Option Nat) :
    LoopsSound ((s.fileJob i).cancelLoop old.loop w) := by
  obtain ⟨hold, hkey⟩ := Table.find?_eq_some hf
  have hold_lt := h.loop_lt hold
  -- A job other than `old` keeps its app name, hence its loop.
  have other : ∀ j ∈ s.table.jobs, j.snapshot.appName ≠ i.appName → j.loop ≠ old.loop :=
    fun j hj hne hl => hne (hkey ▸ congrArg (·.snapshot.appName) (h.loop_inj j hj old hold hl))
  refine ⟨by simpa using Table.put_ordered _ _ h.ordered, ?_, ?_, ?_, ?_⟩
  · intro j hj
    rw [cancelLoop_table, fileJob_table] at hj
    rcases (Table.mem_put h.ordered).mp hj with rfl | ⟨hj, hne⟩
    · refine ⟨s.freshLoop i, ?_, rfl, rfl, rfl⟩
      rw [cancelLoop_loops, if_neg (Nat.ne_of_lt hold_lt), fileJob_loops_self]
    · obtain ⟨l, hl, hrest⟩ := h.filed j hj
      refine ⟨l, ?_, hrest⟩
      rw [cancelLoop_loops, if_neg (other j hj hne).symm, fileJob_loops_of_lt s i (h.loop_lt hj), hl]
  · intro j hj k hk hjk
    rw [cancelLoop_table, fileJob_table] at hj hk
    rcases (Table.mem_put h.ordered).mp hj with rfl | ⟨hj, -⟩ <;>
      rcases (Table.mem_put h.ordered).mp hk with rfl | ⟨hk, -⟩
    · rfl
    · exact absurd hjk (Nat.ne_of_gt (h.loop_lt hk))
    · exact absurd hjk (Nat.ne_of_lt (h.loop_lt hj))
    · exact h.loop_inj j hj k hk hjk
  · intro n l hl hc he
    rw [cancelLoop_loops] at hl
    split at hl
    · obtain ⟨l', -, rfl⟩ := Option.map_eq_some_iff.mp hl
      simp at hc
    · rename_i hn
      rw [cancelLoop_table, fileJob_table]
      rcases fileJob_loops_eq_some s i hl with ⟨-, hl⟩ | ⟨rfl, -⟩
      · obtain ⟨j, hj, rfl⟩ := h.live_filed n l hl hc he
        refine ⟨j, (Table.mem_put h.ordered).mpr (Or.inr ⟨hj, fun hk => hn ?_⟩), rfl⟩
        rw [Table.eq_of_appName_eq h.ordered hj hold (hk.trans hkey.symm)]
      · exact ⟨⟨i, s.loops.length⟩, (Table.mem_put h.ordered).mpr (Or.inl rfl), rfl⟩
  · intro n l hl hc he
    rw [mem_cancelLoop_ready, mem_fileJob_ready]
    rw [cancelLoop_loops] at hl
    split at hl
    · rename_i hn
      subst hn
      exact Or.inr ⟨rfl, by simp; omega⟩
    · rcases fileJob_loops_eq_some s i hl with ⟨-, hl⟩ | ⟨-, rfl⟩
      · exact Or.inl (Or.inl (h.cancelled_ready n l hl hc he))
      · simp at hc

theorem startJob (h : LoopsSound s) (i : Interest Stamp) (w : Option Nat) :
    LoopsSound (s.startJob i w).2 := by
  cases hc : s.table.closed
  · rw [startJob_of_open s i w hc]
    cases hf : s.table.find? i.appName with
    | none => exact h.fileJob_of_none hf
    | some old => exact (h.fileJob_of_some hf w).beginRetire
  · rw [startJob_of_closed s i w hc]
    exact h

theorem stopJob (h : LoopsSound s) (app : String) (w : Option Nat) :
    LoopsSound (s.stopJob app w).2 := by
  unfold System.stopJob
  cases hf : s.table.find? app with
  | none => exact h
  | some old =>
    obtain ⟨hold, hkey⟩ := Table.find?_eq_some hf
    have hold_lt := h.loop_lt hold
    -- The jobs that stay filed are those of other app names, so none of them is `old`.
    have other : ∀ j ∈ s.table.jobs, j.snapshot.appName ≠ app → j.loop ≠ old.loop :=
      fun j hj hne hl => hne (hkey ▸ congrArg (·.snapshot.appName) (h.loop_inj j hj old hold hl))
    refine LoopsSound.beginRetire ⟨?_, ?_, ?_, ?_, ?_⟩
    · simpa using Table.erase_ordered _ app h.ordered
    · intro j hj
      rw [cancelLoop_table] at hj
      obtain ⟨hj, hne⟩ := Table.mem_erase.mp hj
      obtain ⟨l, hl, hrest⟩ := h.filed j hj
      exact ⟨l, by rw [cancelLoop_loops, if_neg (other j hj hne).symm, hl], hrest⟩
    · intro j hj k hk hjk
      rw [cancelLoop_table] at hj hk
      exact h.loop_inj j (Table.mem_erase.mp hj).1 k (Table.mem_erase.mp hk).1 hjk
    · intro n l hl hc he
      rw [cancelLoop_loops] at hl
      split at hl
      · obtain ⟨l', -, rfl⟩ := Option.map_eq_some_iff.mp hl
        simp at hc
      · rename_i hn
        obtain ⟨j, hj, rfl⟩ := h.live_filed n l hl hc he
        have hne : j.snapshot.appName ≠ app := fun hk =>
          hn (by rw [Table.eq_of_appName_eq h.ordered hj hold (hk.trans hkey.symm)])
        exact ⟨j, by rw [cancelLoop_table]; exact Table.mem_erase.mpr ⟨hj, hne⟩, rfl⟩
    · intro n l hl hc he
      rw [mem_cancelLoop_ready]
      rw [cancelLoop_loops] at hl
      split at hl
      · rename_i hn
        subst hn
        exact Or.inr ⟨rfl, hold_lt⟩
      · exact Or.inl (h.cancelled_ready n l hl hc he)

theorem takeAllJobs (h : LoopsSound s) (close : Bool) : LoopsSound (s.takeAllJobs close).2 := by
  rw [takeAllJobs_eq]
  refine ⟨by simp [Table.Ordered], by simp, by simp, ?_, ?_⟩
  · intro n l hl hc he
    rw [cancelAll_loops] at hl
    split at hl
    · obtain ⟨l', -, rfl⟩ := Option.map_eq_some_iff.mp hl
      simp at hc
    · rename_i hn
      obtain ⟨j, hj, rfl⟩ := h.live_filed n l hl hc he
      exact absurd (List.mem_map_of_mem hj) hn
  · intro n l hl hc he
    rw [mem_cancelAll_ready]
    rw [cancelAll_loops] at hl
    split at hl
    · rename_i hn
      obtain ⟨j, hj, rfl⟩ := List.mem_map.mp hn
      exact Or.inr ⟨j, hj, rfl, h.loop_lt hj⟩
    · exact Or.inl (h.cancelled_ready n l hl hc he)

-- The loop a replacement or a stop hands back is the old job's: cancelled just now, awaited by
-- the given waiter, and still to exit.
theorem startJob_retires (h : LoopsSound s) {i : Interest Stamp} {w : Option Nat} {l : Nat}
    (hl : (s.startJob i w).1.2 = some l) :
    ∃ lp, (s.startJob i w).2.loops[l]? = some lp ∧ lp.cancelled = true ∧ lp.waiter = w ∧
      lp.exited = false := by
  cases hc : s.table.closed
  · rw [startJob_of_open s i w hc] at hl ⊢
    split at hl
    · cases hl
    · rename_i old hf
      cases hl
      obtain ⟨lp, hlp, -, -, hexit⟩ := h.filed old (Table.find?_eq_some hf).1
      refine ⟨Loop.cancel w lp, ?_, rfl, rfl, hexit⟩
      show ((s.fileJob i).cancelLoop old.loop w).beginRetire.loops[old.loop]? = _
      rw [beginRetire_loops, cancelLoop_loops, if_pos rfl,
        fileJob_loops_of_lt s i (h.loop_lt (Table.find?_eq_some hf).1), hlp]
      rfl
  · rw [startJob_of_closed s i w hc] at hl
    cases hl

theorem stopJob_retires (h : LoopsSound s) {app : String} {w : Option Nat} {l : Nat}
    (hl : (s.stopJob app w).1 = some l) :
    ∃ lp, (s.stopJob app w).2.loops[l]? = some lp ∧ lp.cancelled = true ∧ lp.waiter = w ∧
      lp.exited = false := by
  unfold System.stopJob at hl ⊢
  split at hl
  · cases hl
  · rename_i old hf
    cases hl
    obtain ⟨lp, hlp, -, -, hexit⟩ := h.filed old (Table.find?_eq_some hf).1
    refine ⟨Loop.cancel w lp, ?_, rfl, rfl, hexit⟩
    rw [beginRetire_loops, cancelLoop_loops, if_pos rfl]
    simp [hlp]

-- A state with the same table and loops and more tasks ready hangs together as well.
theorem of_ready_sub (h : LoopsSound s) {s' : System} (ht : s'.table = s.table)
    (hl : s'.loops = s.loops) (hr : ∀ x ∈ s.ready, x ∈ s'.ready) : LoopsSound s' where
  ordered := ht ▸ h.ordered
  filed := by rw [ht, hl]; exact h.filed
  loop_inj := by rw [ht]; exact h.loop_inj
  live_filed := by rw [ht, hl]; exact h.live_filed
  cancelled_ready n l hn hc he := hr _ (h.cancelled_ready n l (hl ▸ hn) hc he)

theorem setCourier (h : LoopsSound s) (c : Nat) (k : Courier) : LoopsSound (s.setCourier c k) :=
  h.of_ready_sub rfl rfl fun _ hx => hx

-- Taking a task off the ready queue leaves every other ready task where it can still run.
variable {rest : List Task}

theorem pop_courier (h : LoopsSound s) {c : Nat} (hrest : ∀ x ∈ s.ready, x ≠ .courier c → x ∈ rest) :
    LoopsSound { s with ready := rest } where
  ordered := h.ordered
  filed := h.filed
  loop_inj := h.loop_inj
  live_filed := h.live_filed
  cancelled_ready n l hl hc he := hrest _ (h.cancelled_ready n l hl hc he) (by simp)

-- A loop that runs either ticks, exits after a cancellation, or is gone already.
theorem runLoop (h : LoopsSound s) {n : Nat} (hrest : ∀ x ∈ s.ready, x ≠ .loop n → x ∈ rest) :
    LoopsSound ({ s with ready := rest }.runLoop n) := by
  have ready_of_ne : ∀ m l, s.loops[m]? = some l → l.cancelled = true → l.exited = false →
      m ≠ n → Task.loop m ∈ rest := fun m l hl hc he hmn =>
    hrest _ (h.cancelled_ready m l hl hc he) (by simpa using hmn)
  cases hn : s.loops[n]? with
  | none =>
    rw [runLoop_of_none { s with ready := rest } n hn]
    refine ⟨h.ordered, h.filed, h.loop_inj, h.live_filed, fun m l hl hc he => ?_⟩
    exact ready_of_ne m l hl hc he (by rintro rfl; simp [hn] at hl)
  | some l =>
    cases he : l.exited
    · cases hc : l.cancelled
      · obtain ⟨l', ledger, hrun, hs, hc', he', -⟩ := runLoop_of_live { s with ready := rest } n hn he hc
        rw [hrun]
        refine ⟨h.ordered, ?_, h.loop_inj, ?_, ?_⟩
        · intro j hj
          obtain ⟨lj, hlj, hrestj⟩ := h.filed j hj
          by_cases hjn : j.loop = n
          · rw [hjn] at hlj ⊢
            rw [hn] at hlj
            cases hlj
            refine ⟨l', by simp [(List.getElem?_eq_some_iff.mp hn).1], ?_⟩
            exact ⟨hs.trans hrestj.1, hc', he'⟩
          · exact ⟨lj, by simp [Ne.symm hjn, hlj], hrestj⟩
        · intro m lm hlm hcm hem
          by_cases hmn : n = m
          · subst hmn
            exact h.live_filed n l hn hc he
          · simp only [List.getElem?_set, hmn, if_false] at hlm
            exact h.live_filed m lm hlm hcm hem
        · intro m lm hlm hcm hem
          by_cases hmn : n = m
          · subst hmn
            simp [(List.getElem?_eq_some_iff.mp hn).1] at hlm
            rw [← hlm, hc'] at hcm
            cases hcm
          · simp only [List.getElem?_set, hmn, if_false] at hlm
            exact ready_of_ne m lm hlm hcm hem (Ne.symm hmn)
      · rw [runLoop_of_cancelled { s with ready := rest } n hn he hc]
        have base : LoopsSound ({ s with ready := rest }.setLoop n
            { l with exited := true, callEnds := none }) := by
          have hlt := (List.getElem?_eq_some_iff.mp hn).1
          refine ⟨h.ordered, ?_, h.loop_inj, ?_, ?_⟩
          · intro j hj
            obtain ⟨lj, hlj, hrestj⟩ := h.filed j hj
            have hjn : n ≠ j.loop := by
              rintro rfl
              rw [hn] at hlj
              cases hlj
              rw [hc] at hrestj
              simp at hrestj
            exact ⟨lj, by simp [hjn, hlj], hrestj⟩
          · intro m lm hlm hcm hem
            by_cases hmn : n = m
            · subst hmn
              simp [hlt] at hlm
              rw [← hlm] at hem
              simp at hem
            · simp only [setLoop_loops, List.getElem?_set, hmn, if_false] at hlm
              exact h.live_filed m lm hlm hcm hem
          · intro m lm hlm hcm hem
            by_cases hmn : n = m
            · subst hmn
              simp [hlt] at hlm
              rw [← hlm] at hem
              simp at hem
            · simp only [setLoop_loops, List.getElem?_set, hmn, if_false] at hlm
              exact ready_of_ne m lm hlm hcm hem (Ne.symm hmn)
        cases hw : l.waiter with
        | none => rw [hw] at base; exact base
        | some c => rw [hw] at base; exact base.wake _
    · rw [runLoop_of_exited { s with ready := rest } n hn he]
      refine ⟨h.ordered, h.filed, h.loop_inj, h.live_filed, fun m lm hlm hcm hem => ?_⟩
      refine ready_of_ne m lm hlm hcm hem ?_
      rintro rfl
      rw [hn] at hlm
      cases hlm
      rw [he] at hem
      cases hem

theorem aside (h : LoopsSound s) {s' : System} (ha : Aside s s') : LoopsSound s' :=
  h.of_ready_sub ha.table ha.loops ha.ready

theorem deliver (h : LoopsSound s) (c : Nat) (listener : Listener) (e : Event Stamp) :
    LoopsSound (s.deliver c listener e).2 :=
  s.deliver_induct (fun r => LoopsSound r.2) c listener e (h.startJob _ _) (h.stopJob _ _)
    (fun _ => h.of_ready_sub rfl rfl fun _ hx => hx) h

theorem popMail (h : LoopsSound s) (c : Nat) (rest : List (Event Stamp)) :
    LoopsSound (s.popMail c rest) := by
  unfold System.popMail
  split
  · exact h.setCourier _ _
  · exact h

theorem setStage (h : LoopsSound s) (c : Nat) (stage : Stage) : LoopsSound (s.setStage c stage) := by
  unfold System.setStage
  split
  · exact h.setCourier _ _
  · exact h

theorem handOver (c : Nat) (listener : Listener) (q : List (Event Stamp)) :
    ∀ s, LoopsSound s → LoopsSound (System.handOver c listener q s) := by
  induction q with
  | nil =>
    intro s h
    unfold System.handOver
    split
    · exact h.setCourier _ _
    · exact h
  | cons e rest ih =>
    intro s h
    rw [handOver_cons]
    have hd := (h.popMail c rest).deliver c listener e
    generalize (s.popMail c rest).deliver c listener e = r at hd
    obtain ⟨_ | l, d⟩ := r
    · exact ih d hd
    · exact hd.setStage _ _

theorem runCourier (h : LoopsSound s) (c : Nat) : LoopsSound (s.runCourier c) := by
  unfold System.runCourier
  split
  · exact h
  · split
    · exact h
    · split
      · split
        · exact handOver _ _ _ _ (h.setCourier _ _).endRetire
        · exact h
      · exact handOver _ _ _ _ h

-- Any ready task may run, not only the first: the others stay ready.
theorem runTask_of_rest (h : LoopsSound s) {t : Task} (hrest : ∀ x ∈ s.ready, x ≠ t → x ∈ rest) :
    LoopsSound ({ s with ready := rest }.runTask t) := by
  cases t with
  | courier c => exact (h.pop_courier hrest).runCourier c
  | loop n => exact h.runLoop hrest

theorem runTask (h : LoopsSound s) {t : Task} (hr : s.ready = t :: rest) :
    LoopsSound ({ s with ready := rest }.runTask t) :=
  h.runTask_of_rest fun _ hx hne => List.mem_of_ne_of_mem hne (hr ▸ hx)

theorem quiesce (h : LoopsSound s) : LoopsSound s.quiesce :=
  quiesceWith_invariant LoopsSound (fun _ _ _ hs hr => hs.runTask hr) _ s h

theorem drain (h : LoopsSound s) (close : Bool) : LoopsSound (s.drain close).2 := by
  have ht := h.takeAllJobs close
  unfold System.drain
  dsimp only
  split
  · exact ht.quiesce
  · exact ht

theorem awaitRetire (h : LoopsSound s) : LoopsSound s.awaitRetire :=
  h.quiesce.endRetire

theorem startJobNow (h : LoopsSound s) (i : Interest Stamp) : LoopsSound (s.startJobNow i).2 := by
  have hs := h.startJob i none
  unfold System.startJobNow
  split <;> rename_i heq <;> rw [heq] at hs
  · exact hs.awaitRetire
  · exact hs

theorem stopJobNow (h : LoopsSound s) (app : String) : LoopsSound (s.stopJobNow app).2 := by
  have hs := h.stopJob app none
  unfold System.stopJobNow
  split <;> rename_i heq <;> rw [heq] at hs
  · exact hs.awaitRetire
  · exact hs

theorem advance (h : LoopsSound s) (ms : Nat) : LoopsSound (s.advance ms) :=
  advance_invariant s LoopsSound (fun _ _ h => h.of_ready_sub rfl rfl fun _ hx => hx)
    (fun s h => h.aside (aside_wakeDue s)) (fun _ h => h.quiesce) ms h

theorem shutdown (h : LoopsSound s) : LoopsSound s.shutdown.2 := by
  have ht := h.takeAllJobs true
  unfold System.shutdown
  split
  · exact h
  · dsimp only
    split
    · split
      · exact ht
      · exact ht.quiesce
    · exact ht

end LoopsSound

theorem loopsSound_closed : Closed LoopsSound where
  stamp _ h := h.of_ready_sub rfl rfl fun _ hx => hx
  store _ _ h := h.of_ready_sub rfl rfl fun _ hx => hx
  post s e h := h.aside (aside_post s e)
  openLog _ h := h.of_ready_sub rfl rfl fun _ hx => hx
  register s id listener h := h.aside (aside_register s id listener)
  deregister s id h := h.aside (aside_deregister s id)
  startJobNow _ i h := h.startJobNow i
  stopJobNow _ app h := h.stopJobNow app
  stopAll _ h := h.drain false
  restarted _ h := h.of_ready_sub rfl rfl fun _ hx => hx
  advance _ ms h := h.advance ms
  quiesce _ h := h.quiesce

end System

end RouteWatch
