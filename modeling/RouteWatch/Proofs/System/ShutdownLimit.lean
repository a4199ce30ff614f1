import RouteWatch.Proofs.System.Moves

-- A shutdown and its time limit.
namespace RouteWatch

open Schedule

namespace System

variable {s : System}

section Answer

theorem shutdown_of_no_scheduler (h : s.parts.scheduler = false) : s.shutdown = (.ok (), s) := by
  simp [shutdown, h]

-- With the scheduler part, a shutdown takes every job out and closes the scheduler; then it is
-- over at once if nothing is to be waited for, fails at a limit of 0, and else lets the tasks
-- run until none is ready.
theorem shutdown_of_scheduler (h : s.parts.scheduler = true) :
    s.shutdown =
      if s.table.jobs = [] ∧ s.table.retiring = 0 then (.ok (), (s.takeAllJobs true).2)
      else if s.shutdownLimit = 0 then (.error (.timedOut s.shutdownLimit), (s.takeAllJobs true).2)
      else (.ok (), (s.takeAllJobs true).2.quiesce) := by
  have hlimit : (s.takeAllJobs true).2.shutdownLimit = s.shutdownLimit := by
    rw [takeAllJobs_eq]
    exact (untouched_cancelAll _ _ _).shutdownLimit
  -- the drain waits when it took a job or a retirement is open
  have hwaits : (s.takeAllJobs true).2.drainWaits (s.takeAllJobs true).1 =
      !(decide (s.table.jobs = [] ∧ s.table.retiring = 0)) := by
    rw [Bool.eq_iff_iff]
    simp [drainWaits, takeAllJobs_eq, List.length_pos_iff]
  unfold shutdown
  simp only [h, Bool.not_true, Bool.false_eq_true, if_false]
  rw [hwaits, hlimit]
  by_cases hidle : s.table.jobs = [] ∧ s.table.retiring = 0 <;> simp [hidle]

theorem shutdown_fst_eq_ok_iff (s : System) :
    s.shutdown.1 = .ok () ↔
      s.parts.scheduler = false ∨ 1 ≤ s.shutdownLimit ∨ (s.table.jobs = [] ∧ s.table.retiring = 0) := by
  cases hsched : s.parts.scheduler
  · simp [shutdown_of_no_scheduler hsched]
  · rw [shutdown_of_scheduler hsched]
    by_cases hidle : s.table.jobs = [] ∧ s.table.retiring = 0
    · simp [hidle]
    · by_cases hlimit : s.shutdownLimit = 0
      · simp [hidle, hlimit]
      · simp only [if_neg hidle, if_neg hlimit, true_iff]
        exact Or.inr (Or.inl (Nat.one_le_iff_ne_zero.mpr hlimit))

-- A shutdown that fails names the limit it did not meet.
theorem shutdown_fst_of_ne_ok (s : System) (h : s.shutdown.1 ≠ .ok ()) :
    s.shutdown.1 = .error (.timedOut s.shutdownLimit) := by
  cases hsched : s.parts.scheduler
  · rw [shutdown_of_no_scheduler hsched] at h
    exact absurd rfl h
  · rw [shutdown_of_scheduler hsched] at h ⊢
    split at h
    · exact absurd rfl h
    · split at h
      · rw [if_neg ‹_›, if_pos ‹_›]
      · exact absurd rfl h

end Answer

-- A halted scheduler: closed, with no job, and no loop left that waits to tick.
structure Halted (s : System) : Prop where
  shut : Shut s
  idle : ∀ l ∈ s.loops, l.live = false

namespace Halted

theorem still (h : Halted s) {s' : System} (hs : Still s s') : Halted s' :=
  ⟨h.shut.still hs, by rw [hs.loops]; exact h.idle⟩

-- A loop of a halted scheduler that runs can only exit: it starts no call and ends none, and
-- every loop that has not exited stands as it was.
theorem runLoop (h : Halted s) (n : Nat) :
    Halted (s.runLoop n) ∧ (s.runLoop n).ledger = s.ledger ∧
      ∀ (m : Nat) (l : Loop), (s.runLoop n).loops[m]? = some l → l.exited = false →
        s.loops[m]? = some l := by
  cases hn : s.loops[n]? with
  | none =>
    rw [runLoop_of_none s n hn]
    exact ⟨h, rfl, fun _ _ hl _ => hl⟩
  | some l =>
    cases he : l.exited
    · have hc := Loop.cancelled_of_stopped (h.idle l (List.mem_of_getElem? hn)) he
      have hexit : Halted (s.setLoop n { l with exited := true, callEnds := none }) := by
        refine ⟨⟨h.shut.closed, h.shut.jobs⟩, fun l' hl' => ?_⟩
        rcases List.mem_or_eq_of_mem_set hl' with hl' | rfl
        · exact h.idle l' hl'
        · simp [Loop.live]
      have hkeep : ∀ (m : Nat) (l' : Loop),
          (s.setLoop n { l with exited := true, callEnds := none }).loops[m]? = some l' →
          l'.exited = false → s.loops[m]? = some l' := by
        intro m l' hm he'
        by_cases hnm : n = m
        · subst hnm
          simp only [setLoop_loops, List.getElem?_set_self (List.getElem?_eq_some_iff.mp hn).1,
            Option.some.injEq] at hm
          subst hm
          cases he'
        · simpa [hnm] using hm
      rw [runLoop_of_cancelled s n hn he hc]
      split
      · exact ⟨hexit.still ⟨by simp, by simp, by simp, by simp⟩, by simp,
          fun m l' hm he' => hkeep m l' (by simpa using hm) he'⟩
      · exact ⟨hexit, rfl, hkeep⟩
    · rw [runLoop_of_exited s n hn he]
      exact ⟨h, rfl, fun _ _ hl _ => hl⟩

-- Whatever moves a halted scheduler makes, it stays halted, its ledger stays as it was, and a
-- loop that has not exited stands as it was.
theorem move {x y : System × Nat} (hm : Move x y) (h : Halted x.1) :
    Halted y.1 ∧ y.1.ledger = x.1.ledger ∧
      ∀ (n : Nat) (l : Loop), y.1.loops[n]? = some l → l.exited = false → x.1.loops[n]? = some l := by
  -- every move but a run of a loop leaves the scheduler still
  have still : ∀ {s' : System}, Still x.1 s' → Halted s' ∧ s'.ledger = x.1.ledger ∧
      ∀ (n : Nat) (l : Loop), s'.loops[n]? = some l → l.exited = false → x.1.loops[n]? = some l :=
    fun hs => ⟨h.still hs, hs.ledger, fun _ _ hl _ => hs.loops ▸ hl⟩
  cases hm with
  | @run s p t ht =>
    have hpop : Still s { s with ready := s.ready.erase t } := ⟨rfl, rfl, rfl, rfl⟩
    cases t with
    | courier c => exact still (hpop.trans ((h.still hpop).shut.runCourier c))
    | loop n => exact (h.still hpop).runLoop n
  | stamp => exact still ⟨rfl, rfl, rfl, rfl⟩
  | store r => exact still ⟨rfl, rfl, rfl, rfl⟩
  | post e => exact still (Still.of_aside (aside_post _ e))
  | openLog => exact still ⟨rfl, rfl, rfl, rfl⟩
  | register id listener => exact still (Still.of_aside (aside_register _ id listener))
  | deregister id => exact still (Still.of_aside (aside_deregister _ id))
  | restarted => exact still ⟨rfl, rfl, rfl, rfl⟩
  | setTime x => exact still ⟨rfl, rfl, rfl, rfl⟩
  | wakeDue => exact still (Still.of_aside (aside_wakeDue _))
  | start i =>
    rw [h.shut.startJob i none]
    exact still (Still.refl _)
  | stop app =>
    rw [h.shut.stopJob app none]
    exact still (Still.refl _)
  | takeAll close => exact still (h.shut.takeAllJobs close)
  | retired => exact still (Still.endRetire _)

theorem moves {x y : System × Nat} (hxy : Relation.ReflTransGen Move x y) (h : Halted x.1) :
    Halted y.1 ∧ y.1.ledger = x.1.ledger ∧
      ∀ (n : Nat) (l : Loop), y.1.loops[n]? = some l → l.exited = false → x.1.loops[n]? = some l := by
  induction hxy with
  | refl => exact ⟨h, rfl, fun _ _ hl _ => hl⟩
  | tail _ hm ih =>
    obtain ⟨hh, hg, hl⟩ := ih
    obtain ⟨hh', hg', hl'⟩ := hh.move hm
    exact ⟨hh', hg'.trans hg, fun n l hy he => hl n l (hl' n l hy he) he⟩

end Halted

theorem LoopsSound.halted_takeAllJobs (h : LoopsSound s) : Halted (s.takeAllJobs true).2 :=
  ⟨⟨by simp [takeAllJobs_eq], by simp [takeAllJobs_eq]⟩, h.not_live_takeAllJobs true⟩

theorem LoopsSound.halted_shutdown (h : LoopsSound s) (hsched : s.parts.scheduler = true) :
    Halted s.shutdown.2 ∧ s.shutdown.2.ledger = s.ledger := by
  have ht := h.halted_takeAllJobs
  have hg : (s.takeAllJobs true).2.ledger = s.ledger := by simp [takeAllJobs_eq]
  have hq := ht.moves (moves_quiesce _ 0)
  rw [shutdown_of_scheduler hsched]
  split
  · exact ⟨ht, hg⟩
  · split
    · exact ⟨ht, hg⟩
    · exact ⟨hq.1, hq.2.1.trans hg⟩

-- Once the jobs are taken out, the tasks run until none is ready: every courier ends its update
-- and every loop exits, with no time passing.
theorem Coherent.settles_taken (h : Coherent s 0) :
    (s.takeAllJobs true).2.quiesce.table.retiring = 0 ∧
      ∀ l ∈ (s.takeAllJobs true).2.quiesce.loops, l.exited = true := by
  have ht : Coherent (s.takeAllJobs true).2 0 := h.move (.takeAll true)
  have hc : Coherent (s.takeAllJobs true).2.quiesce 0 := ht.moves (moves_quiesce _ 0)
  have hsettled := (quiesce_settles ht.ready).2
  have hhalt := (h.loops.halted_takeAllJobs.moves (moves_quiesce _ 0)).1
  refine ⟨?_, fun l hl => ?_⟩
  · rw [hc.couriers.count, hc.couriers.countP_of_settled hc.loops hsettled]
  · -- a loop that is not live was cancelled, and once nothing is ready a cancelled loop has exited
    obtain ⟨n, hn⟩ := List.mem_iff_getElem?.mp hl
    cases he : l.exited
    · rw [hc.loops.exited_of_settled hsettled hn (Loop.cancelled_of_stopped (hhalt.idle l hl) he)] at he
      cases he
    · rfl

-- Within a limit of 1 ms or more the wait is over when the shutdown returns.
theorem Coherent.shutdown_within_limit (h : Coherent s 0) (hsched : s.parts.scheduler = true)
    (hlimit : 1 ≤ s.shutdownLimit) :
    s.shutdown.2.table.retiring = 0 ∧ ∀ j ∈ s.table.jobs, s.shutdown.2.loopExited j.loop = true := by
  rw [shutdown_of_scheduler hsched]
  split
  · -- nothing to wait for: no job was taken, and no retirement was open
    rename_i hidle
    refine ⟨by simp [takeAllJobs_eq, hidle.2], fun j hj => ?_⟩
    rw [hidle.1] at hj
    cases hj
  · rw [if_neg (by omega)]
    obtain ⟨hret, hexit⟩ := h.settles_taken
    refine ⟨hret, fun j _ => ?_⟩
    unfold loopExited
    split
    · rename_i l hl
      exact hexit l (List.mem_of_getElem? hl)
    · rfl

-- In every state a scenario reaches, a shutdown succeeds exactly when the scheduler part is
-- missing, the limit is at least 1 ms, or there is nothing to wait for; else it fails naming its
-- limit. With the scheduler part the scheduler is closed with no job either way; within a limit
-- of 1 ms or more the loops it stopped have exited and no retirement is left; and whatever steps
-- come after, no call is started or ended from the shutdown on.
theorem shutdown_answers_by_its_limit (setup : Setup) (before after : List Step) :
    let s := (setup.after before).system
    let later := (runAll Scenario.step { setup.after before with system := s.shutdown.2 } after).2.system
    (s.shutdown.1 = .ok () ↔
      s.parts.scheduler = false ∨ 1 ≤ s.shutdownLimit ∨ (s.table.jobs = [] ∧ s.table.retiring = 0)) ∧
    (s.shutdown.1 ≠ .ok () → s.shutdown.1 = .error (.timedOut s.shutdownLimit)) ∧
    (s.parts.scheduler = true →
      s.shutdown.2.table.closed = true ∧ s.shutdown.2.table.jobs = [] ∧
      (1 ≤ s.shutdownLimit →
        s.shutdown.2.table.retiring = 0 ∧ ∀ j ∈ s.table.jobs, s.shutdown.2.loopExited j.loop = true) ∧
      later.ledger = s.ledger) := by
  intro s later
  have hc : Coherent s 0 := (after_reachable setup before).coherent
  refine ⟨shutdown_fst_eq_ok_iff s, shutdown_fst_of_ne_ok s, fun hsched => ?_⟩
  obtain ⟨hhalt, hledger⟩ := hc.loops.halted_shutdown hsched
  -- every later step is a run of moves, none of which touches a halted scheduler's ledger
  have hlater := hhalt.moves (Scenario.runAll_moves after { setup.after before with system := s.shutdown.2 })
  exact ⟨hhalt.shut.closed, hhalt.shut.jobs, hc.shutdown_within_limit hsched, hlater.2.1.trans hledger⟩

end System

end RouteWatch
