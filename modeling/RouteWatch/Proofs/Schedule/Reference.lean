import RouteWatch.Proofs.System.Loops
import RouteWatch.Proofs.Runs

-- The scheduler, called on its own and awaited call by call, behaves as a finite map from app
-- name to interest together with a flag that closes it for good.
namespace RouteWatch

open Schedule

-- A call a client makes on the scheduler; each is awaited before the next is made.
inductive SchedulerCall where
  | startJob (i : Interest Stamp)
  | stopJob (app : String)
  | stopAll
  | shutdown
  | update (e : Event Stamp)
  deriving Repr

-- The scheduler as its documentation describes it: the interest the job of each app name
-- ticks with, and whether it has been shut down.
structure Reference where
  jobs : JobMap
  closed : Bool

namespace Reference

def init : Reference := ⟨∅, false⟩

-- A start is refused once closed; otherwise the interest replaces what its app name had.
def start (m : Reference) (i : Interest Stamp) : Bool × Reference :=
  if m.closed then (false, m) else (true, { m with jobs := m.jobs.insert i.appName i })

-- A stop answers whether the app name had a job, and removes it.
def stop (m : Reference) (app : String) : Bool × Reference :=
  (decide (app ∈ m.jobs), { m with jobs := m.jobs.erase app })

-- What a call answers and leaves.
def call (m : Reference) : SchedulerCall → Reply × Reference
  | .startJob i => ((Reply.flag (m.start i).1), (m.start i).2)
  | .stopJob app => ((Reply.flag (m.stop app).1), (m.stop app).2)
  | .stopAll => (.count m.jobs.keys.card, { m with jobs := ∅ })
  | .shutdown => (.none, ⟨∅, true⟩)
  | .update e =>
    match e.kind with
    | .created | .updated => (.none, (m.start e.interest).2)
    | .deleted => (.none, (m.stop e.key).2)

end Reference

namespace System

-- A call of the scheduler, run to its end.
def callScheduler (s : System) : SchedulerCall → Reply × System
  | .startJob i => ((Reply.flag (s.startJobNow i).1), (s.startJobNow i).2)
  | .stopJob app => ((Reply.flag (s.stopJobNow app).1), (s.stopJobNow app).2)
  | .stopAll => (.count (s.drain false).1, (s.drain false).2)
  | .shutdown => (.none, (s.drain true).2)
  | .update e => (.none, s.observe e)

-- A scheduler used on its own: only loops are ready to run, and no courier waits for one.
structure Solo (s : System) : Prop where
  ready_loops : ∀ t ∈ s.ready, ∃ n, t = .loop n
  no_waiter : ∀ (n : Nat) (l : Loop), s.loops[n]? = some l → l.waiter = none

namespace Solo

variable {s : System}

theorem beginRetire (h : Solo s) : Solo s.beginRetire :=
  ⟨h.ready_loops, h.no_waiter⟩

theorem endRetire (h : Solo s) : Solo s.endRetire :=
  ⟨h.ready_loops, h.no_waiter⟩

theorem cancelLoop (h : Solo s) (n : Nat) : Solo (s.cancelLoop n none) := by
  refine ⟨?_, ?_⟩
  · intro t ht
    rcases (mem_cancelLoop_ready s n none).mp ht with ht | ⟨rfl, -⟩
    · exact h.ready_loops t ht
    · exact ⟨n, rfl⟩
  · intro m l hl
    rw [cancelLoop_loops] at hl
    split at hl
    · obtain ⟨l', -, rfl⟩ := Option.map_eq_some_iff.mp hl
      rfl
    · exact h.no_waiter m l hl

theorem fileJob (h : Solo s) (i : Interest Stamp) : Solo (s.fileJob i) := by
  refine ⟨?_, ?_⟩
  · intro t ht
    rcases (mem_fileJob_ready s i).mp ht with ht | rfl
    · exact h.ready_loops t ht
    · exact ⟨_, rfl⟩
  · intro m l hl
    rcases fileJob_loops_eq_some s i hl with ⟨-, hl⟩ | ⟨-, rfl⟩
    · exact h.no_waiter m l hl
    · rfl

theorem cancelAll (h : Solo s) (jobs : List Job) : Solo (s.cancelAll none jobs) := by
  refine ⟨?_, ?_⟩
  · intro t ht
    rcases (mem_cancelAll_ready s none jobs).mp ht with ht | ⟨j, -, rfl, -⟩
    · exact h.ready_loops t ht
    · exact ⟨_, rfl⟩
  · intro m l hl
    rw [cancelAll_loops] at hl
    split at hl
    · obtain ⟨l', -, rfl⟩ := Option.map_eq_some_iff.mp hl
      rfl
    · exact h.no_waiter m l hl

-- Running a loop wakes nothing when no courier waits for it.
theorem runLoop (h : Solo s) (hs : LoopsSound s) {n : Nat} {rest : List Task}
    (hready : s.ready = .loop n :: rest) :
    LoopsSound ({ s with ready := rest }.runLoop n) ∧ Solo ({ s with ready := rest }.runLoop n) ∧
      ({ s with ready := rest }.runLoop n).ready = rest := by
  have hrest : ∀ x ∈ s.ready, x ≠ .loop n → x ∈ rest := by
    intro x hx hne
    rw [hready] at hx
    exact (List.mem_cons.mp hx).resolve_left hne
  have hready' : ({ s with ready := rest }.runLoop n).ready = rest :=
    runLoop_ready { s with ready := rest } n (fun l hl => h.no_waiter n l hl)
  refine ⟨hs.runLoop hrest, ⟨?_, ?_⟩, hready'⟩
  · intro x hx
    rw [hready'] at hx
    exact h.ready_loops x (by simp [hready, hx])
  · intro m l hl
    obtain ⟨l', hl', hw⟩ := runLoop_waiter { s with ready := rest } n hl
    rw [← hw]
    exact h.no_waiter m l' hl'

-- Each run takes one loop off the queue and puts nothing back, and never touches the table.
theorem quiesce (h : Solo s) (hs : LoopsSound s) :
    LoopsSound s.quiesce ∧ Solo s.quiesce ∧ s.quiesce.ready = [] ∧ s.quiesce.table = s.table := by
  have settle := quiesceWith_settles
    (fun r => LoopsSound r ∧ Solo r ∧ r.table = s.table) (fun r => r.ready.length)
    (by
      rintro r t rest ⟨hsound, hr, htable⟩ hready
      obtain ⟨n, rfl⟩ := hr.ready_loops t (by simp [hready])
      obtain ⟨hsound', hsolo, hready'⟩ := hr.runLoop hsound hready
      rw [runTask_loop]
      refine ⟨⟨hsound', hsolo, by rw [runLoop_table]; exact htable⟩, ?_⟩
      rw [hready', hready, List.length_cons]
      omega)
    s.workBound s ⟨hs, h, rfl⟩ (by unfold workBound; omega)
  exact ⟨settle.1.1, settle.1.2.1, settle.2, settle.1.2.2⟩

end Solo

-- The scheduler, at rest between two calls, files exactly the jobs of `m`: no loop is
-- retiring and every cancelled loop has exited.
structure Refines (s : System) (m : Reference) : Prop where
  sound : LoopsSound s
  solo : Solo s
  mirrors : s.table.Mirrors m.jobs
  closed : s.table.closed = m.closed
  retiring : s.table.retiring = 0
  settled : ∀ (n : Nat) (l : Loop), s.loops[n]? = some l → l.cancelled = true → l.exited = true

variable {s : System} {m : Reference}

-- Settling leaves no cancelled loop behind, since each one waits in the ready queue.
theorem settled_of_quiesce (h : Solo s) (hs : LoopsSound s) :
    ∀ (n : Nat) (l : Loop), s.quiesce.loops[n]? = some l → l.cancelled = true → l.exited = true := by
  obtain ⟨hsound, -, hempty, -⟩ := h.quiesce hs
  intro n l hl hc
  cases he : l.exited
  · have := hsound.cancelled_ready n l hl hc he
    rw [hempty] at this
    cases this
  · rfl

-- The caller waits for the loop it cancelled: the queue empties and the count drops back.
theorem refines_awaitRetire (h : Solo s) (hs : LoopsSound s) {jobs : JobMap} {closed : Bool}
    (hm : s.table.Mirrors jobs) (hc : s.table.closed = closed) (hr : s.table.retiring = 1) :
    Refines s.awaitRetire ⟨jobs, closed⟩ := by
  obtain ⟨hsound, hsolo, -, htable⟩ := h.quiesce hs
  refine ⟨hsound.endRetire, hsolo.endRetire, ?_, ?_, ?_, settled_of_quiesce h hs⟩
  · exact Table.mirrors_of_jobs_eq hm (by simp [awaitRetire, htable])
  · simp [awaitRetire, htable, hc]
  · simp [awaitRetire, htable, hr]

theorem refines_startJobNow (h : Refines s m) (i : Interest Stamp) :
    (s.startJobNow i).1 = (m.start i).1 ∧ Refines (s.startJobNow i).2 (m.start i).2 := by
  cases hc : s.table.closed
  · have hmc : m.closed = false := h.closed ▸ hc
    have hopen := startJob_of_open s i none hc
    simp only [Reference.start, hmc, Bool.false_eq_true, if_false]
    cases hf : s.table.find? i.appName with
    | none =>
      have hnow : s.startJobNow i = (true, s.fileJob i) := by
        unfold startJobNow; rw [hopen, hf]
      rw [hnow]
      refine ⟨rfl, ⟨h.sound.fileJob_of_none hf, h.solo.fileJob i, ?_, ?_, ?_, ?_⟩⟩
      · exact Table.mirrors_put h.mirrors _
      · simp [hc]
      · simp [h.retiring]
      · intro n l hl hcl
        rcases fileJob_loops_eq_some s i hl with ⟨-, hl⟩ | ⟨-, rfl⟩
        · exact h.settled n l hl hcl
        · simp at hcl
    | some old =>
      have hnow : s.startJobNow i =
          (true, (((s.fileJob i).cancelLoop old.loop none).beginRetire).awaitRetire) := by
        unfold startJobNow; rw [hopen, hf]
      rw [hnow]
      refine ⟨rfl, refines_awaitRetire ((h.solo.fileJob i).cancelLoop _).beginRetire
        (h.sound.fileJob_of_some hf none).beginRetire ?_ ?_ ?_⟩
      · exact Table.mirrors_of_jobs_eq (Table.mirrors_put h.mirrors ⟨i, s.loops.length⟩) (by simp)
      · simp [hc]
      · simp [h.retiring]
  · have hmc : m.closed = true := h.closed ▸ hc
    have hnow : s.startJobNow i = (false, s) := by
      unfold startJobNow; rw [startJob_of_closed s i none hc]
    rw [hnow]
    exact ⟨by simp [Reference.start, hmc], by simpa [Reference.start, hmc] using h⟩

theorem refines_stopJobNow (h : Refines s m) (app : String) :
    (s.stopJobNow app).1 = (m.stop app).1 ∧ Refines (s.stopJobNow app).2 (m.stop app).2 := by
  have hhas := Table.hasJob_eq h.mirrors app
  cases hf : s.table.find? app with
  | none =>
    have hnow : s.stopJobNow app = (false, s) := by
      unfold stopJobNow stopJob; rw [hf]
    rw [hnow]
    simp only [Table.hasJob, hf, Option.isSome_none] at hhas
    refine ⟨by simp [Reference.stop, ← hhas], ⟨h.sound, h.solo, ?_, h.closed, h.retiring, h.settled⟩⟩
    exact Table.mirrors_erase_of_find?_none h.mirrors hf
  | some old =>
    have hstop := h.sound.stopJob app none
    have hnow : s.stopJobNow app = (true, (s.stopJob app none).2.awaitRetire) := by
      unfold stopJobNow; rw [show s.stopJob app none = (some old.loop, (s.stopJob app none).2) by
        unfold stopJob; rw [hf]]
    have hstate : (s.stopJob app none).2 =
        ({ s with table := s.table.erase app }.cancelLoop old.loop none).beginRetire := by
      unfold stopJob; rw [hf]
    rw [hnow]
    simp only [Table.hasJob, hf, Option.isSome_some] at hhas
    have hsolo : Solo (s.stopJob app none).2 := by
      rw [hstate]
      exact (Solo.cancelLoop (show Solo { s with table := s.table.erase app } from
        ⟨h.solo.ready_loops, h.solo.no_waiter⟩) _).beginRetire
    refine ⟨by simp [Reference.stop, ← hhas], refines_awaitRetire hsolo hstop ?_ ?_ ?_⟩
    · rw [hstate]
      exact Table.mirrors_of_jobs_eq (Table.mirrors_erase h.mirrors app) (by simp)
    · rw [hstate]; simp [h.closed]
    · rw [hstate]; simp [h.retiring]

theorem refines_drain (h : Refines s m) (close : Bool) :
    (s.drain close).1 = m.jobs.keys.card ∧
      Refines (s.drain close).2 ⟨∅, m.closed || close⟩ := by
  have hdrained := h.sound.takeAllJobs close
  have hsolo : Solo (s.takeAllJobs close).2 := by
    rw [takeAllJobs_eq]
    refine Solo.cancelAll ?_ _
    exact ⟨h.solo.ready_loops, h.solo.no_waiter⟩
  have htable : (s.takeAllJobs close).2.table =
      { s.table with jobs := [], closed := s.table.closed || close } := by
    rw [takeAllJobs_eq, cancelAll_table]
  have hcount : (s.takeAllJobs close).1 = m.jobs.keys.card := by
    rw [takeAllJobs_eq]
    exact Table.length_eq_card h.sound.ordered h.mirrors
  refine ⟨hcount, ?_⟩
  unfold drain
  dsimp only
  split
  · obtain ⟨hsound, hsolo', -, hq⟩ := hsolo.quiesce hdrained
    refine ⟨hsound, hsolo', ?_, ?_, ?_, settled_of_quiesce hsolo hdrained⟩
    · exact Table.mirrors_nil (by rw [hq, htable])
    · rw [hq, htable, h.closed]
    · rw [hq, htable]; exact h.retiring
  · -- Nothing was filed, so nothing was cancelled.
    rename_i hwait
    have hnil : s.table.jobs = [] := by
      simp only [drainWaits, htable, h.retiring] at hwait
      rw [takeAllJobs_eq] at hwait
      simpa using hwait
    refine ⟨hdrained, hsolo, ?_, ?_, ?_, ?_⟩
    · exact Table.mirrors_nil (by rw [htable])
    · rw [htable, h.closed]
    · rw [htable]; exact h.retiring
    · rw [takeAllJobs_eq, hnil]
      exact h.settled

theorem refines_call (h : Refines s m) (c : SchedulerCall) :
    (s.callScheduler c).1 = (m.call c).1 ∧ Refines (s.callScheduler c).2 (m.call c).2 := by
  cases c with
  | startJob i =>
    obtain ⟨hreply, hrel⟩ := refines_startJobNow h i
    exact ⟨by simp [callScheduler, Reference.call, hreply], hrel⟩
  | stopJob app =>
    obtain ⟨hreply, hrel⟩ := refines_stopJobNow h app
    exact ⟨by simp [callScheduler, Reference.call, hreply], hrel⟩
  | stopAll =>
    obtain ⟨hreply, hrel⟩ := refines_drain h false
    refine ⟨by simp [callScheduler, Reference.call, hreply], ?_⟩
    simp only [callScheduler, Reference.call]
    simpa using hrel
  | shutdown =>
    obtain ⟨-, hrel⟩ := refines_drain h true
    refine ⟨rfl, ?_⟩
    simp only [callScheduler, Reference.call]
    simpa using hrel
  | update e =>
    obtain ⟨kind, i⟩ := e
    cases kind
    · exact ⟨rfl, (refines_startJobNow h i).2⟩
    · exact ⟨rfl, (refines_startJobNow h i).2⟩
    · exact ⟨rfl, (refines_stopJobNow h i.appName).2⟩

-- What a client sees of the scheduler against the reference, and what holds of its loops:
-- at most one runs per app name, and each one that is not a filed job's has exited.
structure Observes (s : System) (m : Reference) : Prop where
  hasJob : ∀ app, s.table.hasJob app = decide (app ∈ m.jobs)
  snapshot : ∀ app, (s.table.find? app).map (·.snapshot) = m.jobs.lookup app
  active : s.table.jobs.length = m.jobs.keys.card
  closed : s.table.closed = m.closed
  retiring : s.table.retiring = 0
  one_loop : ∀ (a b : Nat) (la lb : Loop), s.loops[a]? = some la → s.loops[b]? = some lb →
    la.exited = false → lb.exited = false → la.snapshot.appName = lb.snapshot.appName → a = b
  unfiled_exited : ∀ (n : Nat) (l : Loop), s.loops[n]? = some l →
    (∀ j ∈ s.table.jobs, j.loop ≠ n) → l.exited = true
  refuses : m.closed = true → ∀ i, s.startJobNow i = (false, s)

-- A loop still running is a filed job's, with that job's snapshot.
theorem Refines.filed_of_running (h : Refines s m) {n : Nat} {l : Loop} (hl : s.loops[n]? = some l)
    (he : l.exited = false) : ∃ j ∈ s.table.jobs, j.loop = n ∧ j.snapshot = l.snapshot := by
  have hc : l.cancelled = false := by
    cases hc : l.cancelled
    · rfl
    · rw [h.settled n l hl hc] at he
      cases he
  obtain ⟨j, hj, rfl⟩ := h.sound.live_filed _ l hl hc he
  obtain ⟨l', hl', hsnap, -⟩ := h.sound.filed j hj
  rw [hl] at hl'
  cases hl'
  exact ⟨j, hj, rfl, hsnap.symm⟩

theorem Refines.observes (h : Refines s m) : Observes s m where
  hasJob := Table.hasJob_eq h.mirrors
  snapshot := h.mirrors
  active := Table.length_eq_card h.sound.ordered h.mirrors
  closed := h.closed
  retiring := h.retiring
  one_loop a b la lb ha hb hea heb hname := by
    obtain ⟨ja, hja, rfl, hsa⟩ := h.filed_of_running ha hea
    obtain ⟨jb, hjb, rfl, hsb⟩ := h.filed_of_running hb heb
    have hkey : ja.snapshot.appName = jb.snapshot.appName := by rw [hsa, hsb, hname]
    rw [Table.eq_of_appName_eq h.sound.ordered hja hjb hkey]
  unfiled_exited n l hl hunfiled := by
    cases he : l.exited
    · obtain ⟨j, hj, hjn, -⟩ := h.filed_of_running hl he
      exact absurd hjn (hunfiled j hj)
    · rfl
  refuses hc i := by
    unfold startJobNow
    rw [startJob_of_closed s i none (h.closed.trans hc)]

theorem refines_init {s : System} {period : Nat} (htable : s.table = Table.empty period)
    (hloops : s.loops = []) (hready : s.ready = []) : Refines s Reference.init where
  sound := ⟨by simp [htable, Table.empty, Table.Ordered], by simp [htable, Table.empty],
    by simp [htable, Table.empty], by simp [hloops], by simp [hloops]⟩
  solo := ⟨by simp [hready], by simp [hloops]⟩
  mirrors := Table.mirrors_nil (by simp [htable, Table.empty])
  closed := by simp [htable, Table.empty, Reference.init]
  retiring := by simp [htable, Table.empty]
  settled := by simp [hloops]

theorem scheduler_follows_reference (s : System) (period : Nat)
    (htable : s.table = Table.empty period) (hloops : s.loops = []) (hready : s.ready = [])
    (calls : List SchedulerCall) :
    (runAll callScheduler s calls).1 = (runAll Reference.call Reference.init calls).1 ∧
      Observes (runAll callScheduler s calls).2 (runAll Reference.call Reference.init calls).2 := by
  obtain ⟨hreplies, hrefines⟩ := runAll_simulation callScheduler Reference.call Refines
    (fun _ _ c h => refines_call h c) calls s Reference.init (refines_init htable hloops hready)
  exact ⟨hreplies, hrefines.observes⟩

theorem scheduler_follows_reference_on_fresh_scheduler :
    let s : System :=
      { now := 0, clock := 0, store := Registry.empty, hub := Hub.empty, couriers := [],
        table := Table.empty 100, loops := [], ready := [], executor := ⟨30, []⟩,
        ledger := Ledger.empty, logs := [], parts := Parts.all, restarted := false,
        shutdownLimit := 10000 }
    let web := Interest.new "web" "10.0.0.1" 0
    let calls := [.startJob web, .startJob (web.moveTo "10.0.0.2" 1), .stopAll,
      .update ⟨.created, web⟩, .shutdown, .startJob web]
    s.table = Table.empty 100 ∧ s.loops = [] ∧ s.ready = [] ∧
      (runAll callScheduler s calls).1 = (runAll Reference.call Reference.init calls).1 ∧
      Observes (runAll callScheduler s calls).2 (runAll Reference.call Reference.init calls).2 :=
  ⟨rfl, rfl, rfl, scheduler_follows_reference _ 100 rfl rfl rfl _⟩

end System

end RouteWatch
