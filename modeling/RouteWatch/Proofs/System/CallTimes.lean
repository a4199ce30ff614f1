import Mathlib
import RouteWatch.Proofs.System.Passing
import RouteWatch.Proofs.System.Quiet
import RouteWatch.Proofs.System.Retiring

-- When the executor is called.
namespace RouteWatch

open Schedule

namespace Schedule

-- Whether one of the table's jobs runs on loop `n`.
def Table.holds (t : Table) (n : Nat) : Bool :=
  t.jobs.any (·.loop == n)

end Schedule

namespace System

-- The table holds exactly the live loops.
theorem LoopsSound.holds_eq {s : System} (h : LoopsSound s) {n : Nat} {l : Loop}
    (hn : s.loops[n]? = some l) : s.table.holds n = l.live := by
  unfold Table.holds
  cases hlive : l.live with
  | true =>
    have hl : l.exited = false ∧ l.cancelled = false := by simpa [Loop.live] using hlive
    obtain ⟨j, hj, hjn⟩ := h.live_filed n l hn hl.2 hl.1
    exact List.any_eq_true.mpr ⟨j, hj, by simp [hjn]⟩
  | false =>
    refine List.any_eq_false.mpr fun j hj hjn => ?_
    obtain ⟨l', hl', -, hc, he⟩ := h.filed j hj
    have hjn' : j.loop = n := by simpa using hjn
    rw [hjn', hn, Option.some_inj] at hl'
    subst hl'
    simp [Loop.live, hc, he] at hlive

end System

namespace JobLife

-- A job's life after a step taken at `now`: a job the table no longer holds was taken out
-- then, unless its life had ended before.
def trackOne (now : Nat) (held : Bool) (L : JobLife) : JobLife :=
  if held then L else { L with ended := some (L.ended.getD now) }

-- The jobs' lives after a step taken at `now`, read off the interests of the loops after it
-- and the loops the table holds: a loop that is new is a job spawned now.
def track (now : Nat) (held : Nat → Bool) (snaps : List (Interest Stamp))
    (lives : List JobLife) : List JobLife :=
  snaps.mapIdx fun n i => trackOne now (held n) (lives.getD n ⟨i, now, none⟩)

section Track

variable {L : JobLife} {now p d : Nat} {b : Bool}

@[simp] theorem trackOne_snapshot : (trackOne now b L).snapshot = L.snapshot := by
  unfold trackOne
  split <;> rfl

@[simp] theorem trackOne_started : (trackOne now b L).started = L.started := by
  unfold trackOne
  split <;> rfl

theorem trackOne_ended_eq_none : (trackOne now b L).ended = none ↔ b = true ∧ L.ended = none := by
  unfold trackOne
  cases b <;> simp

theorem trackOne_ended_le (h : ∀ c, L.ended = some c → c ≤ now) :
    ∀ c, (trackOne now b L).ended = some c → c ≤ now := by
  intro c hc
  unfold trackOne at hc
  cases b with
  | true => exact h c hc
  | false =>
    cases hL : L.ended with
    | none => simp [hL] at hc; omega
    | some c' => simp [hL] at hc; exact hc ▸ h c' hL

theorem horizon_trackOne : (trackOne now b L).horizon now = L.horizon now := by
  unfold trackOne
  cases b <;> cases hL : L.ended <;> simp [horizon, hL]

@[simp] theorem calls_trackOne : (trackOne now b L).calls p d now = L.calls p d now := by
  unfold calls
  rw [horizon_trackOne, trackOne_started, trackOne_snapshot]

@[simp] theorem completed_trackOne :
    (trackOne now b L).completed p d now = L.completed p d now := by
  unfold completed
  rw [calls_trackOne, horizon_trackOne]

-- A job spawned now has made no call yet.
theorem calls_spawned (hp : 0 < p) (i : Interest Stamp) :
    (⟨i, now, none⟩ : JobLife).calls p d now = [] := by
  unfold calls
  rw [horizon_none rfl, ticksBy_eq_zero (show now < now + p by omega), List.range_zero,
    List.map_nil]

theorem completed_spawned (hp : 0 < p) (i : Interest Stamp) :
    (⟨i, now, none⟩ : JobLife).completed p d now = 0 := by
  unfold completed
  rw [calls_spawned hp, List.filter_nil, List.length_nil]

theorem getElem?_track {held : Nat → Bool} {snaps : List (Interest Stamp)}
    {lives : List JobLife} (n : Nat) :
    (track now held snaps lives)[n]? =
      snaps[n]?.map fun i => trackOne now (held n) (lives.getD n ⟨i, now, none⟩) := by
  unfold track
  rw [List.getElem?_mapIdx]

theorem length_track {held : Nat → Bool} {snaps : List (Interest Stamp)}
    {lives : List JobLife} : (track now held snaps lives).length = snaps.length := by
  unfold track
  rw [List.length_mapIdx]

-- Indices past the first `k` that add nothing leave the collection over the first `k` alone.
theorem flatMap_range_extend {β : Type} {f g : Nat → List β} {k : Nat}
    (hfg : ∀ n, n < k → f n = g n) (hnil : ∀ n, k ≤ n → f n = []) :
    ∀ m, k ≤ m → (List.range m).flatMap f = (List.range k).flatMap g
  | 0, hm => by
    obtain rfl : k = 0 := by omega
    rfl
  | m + 1, hm => by
    by_cases hk : k = m + 1
    · subst hk
      rw [List.flatMap_def, List.flatMap_def, List.map_congr_left]
      intro n hn
      exact hfg n (List.mem_range.mp hn)
    · rw [List.range_succ, List.flatMap_append, List.flatMap_singleton, hnil m (by omega),
        List.append_nil]
      exact flatMap_range_extend hfg hnil m (by omega)

theorem sum_range_extend {f g : Nat → Nat} {k : Nat}
    (hfg : ∀ n, n < k → f n = g n) (hzero : ∀ n, k ≤ n → f n = 0) :
    ∀ m, k ≤ m → ((List.range m).map f).sum = ((List.range k).map g).sum
  | 0, hm => by
    obtain rfl : k = 0 := by omega
    rfl
  | m + 1, hm => by
    by_cases hk : k = m + 1
    · subst hk
      rw [List.map_congr_left]
      intro n hn
      exact hfg n (List.mem_range.mp hn)
    · rw [List.range_succ, List.map_append, List.sum_append, List.map_singleton,
        List.sum_singleton, hzero m (by omega), Nat.add_zero]
      exact sum_range_extend hfg hzero m (by omega)

variable {held : Nat → Bool} {snaps : List (Interest Stamp)} {lives : List JobLife}

-- At an index the lives reach, the tracked life is that life, ended now if the table let go.
theorem getElem?_track_of_lt {n : Nat} (hn : n < lives.length)
    (hlen : lives.length ≤ snaps.length) :
    (track now held snaps lives)[n]? = some (trackOne now (held n) lives[n]) := by
  obtain ⟨i, hi⟩ : ∃ i, snaps[n]? = some i := ⟨_, List.getElem?_eq_getElem (by omega)⟩
  rw [getElem?_track, hi]
  simp only [Option.map_some]
  rw [List.getD_eq_getElem?_getD, List.getElem?_eq_getElem hn, Option.getD_some]

-- Past them, it is a job spawned now.
theorem getElem?_track_of_le {n : Nat} (hn : lives.length ≤ n) :
    (track now held snaps lives)[n]? =
      snaps[n]?.map fun i => trackOne now (held n) ⟨i, now, none⟩ := by
  rw [getElem?_track]
  simp only [List.getD_eq_getElem?_getD, List.getElem?_eq_none hn, Option.getD_none]

-- Read at the moment of the step, the tracked lives hold the calls the lives held.
theorem flatMap_calls_track (hp : 0 < p) (hlen : lives.length ≤ snaps.length) :
    (track now held snaps lives).flatMap (calls p d now) = lives.flatMap (calls p d now) := by
  rw [← flatMap_range_getElem?, ← flatMap_range_getElem?, length_track]
  refine flatMap_range_extend (fun n hn => ?_) (fun n hn => ?_) _ hlen
  · rw [getElem?_track_of_lt hn hlen, List.getElem?_eq_getElem hn]
    simp
  · rw [getElem?_track_of_le hn]
    cases snaps[n]? <;> simp [calls_spawned hp]

theorem sum_completed_track (hp : 0 < p) (hlen : lives.length ≤ snaps.length) :
    ((track now held snaps lives).map (completed p d now)).sum =
      (lives.map (completed p d now)).sum := by
  rw [← sum_range_getElem?, ← sum_range_getElem?, length_track]
  refine sum_range_extend (fun n hn => ?_) (fun n hn => ?_) _ hlen
  · rw [getElem?_track_of_lt hn hlen, List.getElem?_eq_getElem hn]
    simp
  · rw [getElem?_track_of_le hn]
    cases snaps[n]? <;> simp [completed_spawned hp]

end Track

end JobLife

namespace Loop.Paced

-- A loop just started stands before the first point of its grid.
theorem spawned {p d T : Nat} {l : Loop} (hp : 0 < p) (hends : l.callEnds = none)
    (hdl : l.deadline = T + p) : l.Paced p d (T + p) T := by
  have h0 : ticksBy (T + p) (gap p d) T = 0 := ticksBy_eq_zero (by omega)
  have h1 : ticksBy (T + p + waitOf d) (gap p d) T = 0 := ticksBy_eq_zero (by omega)
  exact .idle hends (by rw [h0, Nat.zero_mul, Nat.add_zero, hdl]) (by rw [h0, h1])

end Loop.Paced

namespace System

variable {lives : List JobLife} {s s' : System}

theorem TimedBy.ahead (h : TimedBy lives (fun _ => s.now) s) : Ahead s := by
  refine ⟨h.period, fun n l hn hlive => ?_⟩
  obtain ⟨L, hL⟩ := h.life hn
  have hend := ((h.loop n L l hL hn).2.2).mpr hlive
  exact (h.paced n L l hL hn hend).lt_due h.period

-- After a quiet step, each loop stands where a loop stood before it, which it keeps, or was
-- spawned in the step.
theorem TimedBy.quiet_index {τ : Nat → Nat} (h : TimedBy lives τ s) (hq : Quiet s s') {n : Nat}
    {l' : Loop} (hl' : s'.loops[n]? = some l') :
    (∃ L l, lives[n]? = some L ∧ s.loops[n]? = some l ∧ l.Keeps l') ∨
      (lives[n]? = none ∧ s.loops.length ≤ n) := by
  cases hL : lives[n]? with
  | some L =>
    obtain ⟨l, hl⟩ := h.loopOf hL
    obtain ⟨l'', hl'', hkeep⟩ := hq.kept n l hl
    rw [hl', Option.some_inj] at hl''
    exact Or.inl ⟨L, l, rfl, hl, hl'' ▸ hkeep⟩
  | none =>
    exact Or.inr ⟨rfl, h.length ▸ List.getElem?_eq_none_iff.mp hL⟩

-- The life tracked at a loop's index: the life before the step, or one spawned now, ended
-- unless the loop is live.
theorem LoopsSound.getElem?_track (hs' : LoopsSound s') {now n : Nat} {l' : Loop}
    (hl' : s'.loops[n]? = some l') :
    (JobLife.track now s'.table.holds (s'.loops.map Loop.snapshot) lives)[n]? =
      some (JobLife.trackOne now l'.live (lives.getD n ⟨l'.snapshot, now, none⟩)) := by
  rw [JobLife.getElem?_track, List.getElem?_map, hl', ← hs'.holds_eq hl']
  rfl

-- A step that takes no time spawns jobs and ends them, and nothing else: with the lives
-- tracked through it, every loop still stands as at now.
theorem TimedBy.track (h : TimedBy lives (fun _ => s.now) s) (hq : Quiet s s')
    (hs' : LoopsSound s') :
    TimedBy (JobLife.track s.now s'.table.holds (s'.loops.map Loop.snapshot) lives)
      (fun _ => s'.now) s' := by
  rw [hq.now]
  have hlen : lives.length ≤ (s'.loops.map Loop.snapshot).length := by
    rw [List.length_map, h.length]
    exact hq.length
  have hat : ∀ (n : Nat) (L' : JobLife) (l' : Loop),
      (JobLife.track s.now s'.table.holds (s'.loops.map Loop.snapshot) lives)[n]? = some L' →
      s'.loops[n]? = some l' →
      L' = JobLife.trackOne s.now l'.live (lives.getD n ⟨l'.snapshot, s.now, none⟩) :=
    fun n L' l' hL' hl' => (Option.some_inj.mp ((hs'.getElem?_track hl').symm.trans hL')).symm
  refine ⟨hq.period ▸ h.period, by rw [JobLife.length_track, List.length_map], ?_, ?_, ?_, ?_, ?_⟩
  · intro n L' l' hL' hl'
    rw [hat n L' l' hL' hl', JobLife.trackOne_snapshot, hq.period, JobLife.trackOne_ended_eq_none]
    rcases h.quiet_index hq hl' with ⟨L, l, hL, hl, hkeep⟩ | ⟨hL, hn⟩
    · obtain ⟨hsnap, hperiod, hlive⟩ := h.loop n L l hL hl
      rw [List.getD_eq_getElem?_getD, hL, Option.getD_some]
      refine ⟨hkeep.snapshot.trans hsnap, hkeep.period.trans hperiod, ?_⟩
      exact ⟨fun hb => hb.1, fun hb => ⟨hb, hlive.mpr (hkeep.timer hb).1⟩⟩
    · rw [List.getD_eq_getElem?_getD, hL, Option.getD_none]
      exact ⟨rfl, (hq.fresh n l' hn hl').1, by simp⟩
  · intro n L' l' hL' hl' hend
    rw [hat n L' l' hL' hl'] at hend ⊢
    obtain ⟨hb, hend⟩ := JobLife.trackOne_ended_eq_none.mp hend
    rw [JobLife.trackOne_started, hq.period, hq.executor]
    rcases h.quiet_index hq hl' with ⟨L, l, hL, hl, hkeep⟩ | ⟨hL, hn⟩
    · -- a kept live loop has kept its timer, so it stands as before
      rw [List.getD_eq_getElem?_getD, hL, Option.getD_some] at hend ⊢
      obtain ⟨-, hdl, hce⟩ := hkeep.timer hb
      exact (h.paced n L l hL hl hend).of_timer hdl hce
    · rw [List.getD_eq_getElem?_getD, hL, Option.getD_none]
      obtain ⟨-, hfresh⟩ := hq.fresh n l' hn hl'
      exact Loop.Paced.spawned h.period (hfresh hb).2 (hfresh hb).1
  · intro n L' c hL' hc
    obtain ⟨l', hl'⟩ : ∃ l', s'.loops[n]? = some l' := by
      have hlt := (List.getElem?_eq_some_iff.mp hL').1
      rw [JobLife.length_track, List.length_map] at hlt
      exact ⟨_, List.getElem?_eq_getElem hlt⟩
    rw [hat n L' l' hL' hl'] at hc
    refine JobLife.trackOne_ended_le (fun c' hc' => ?_) c hc
    rw [List.getD_eq_getElem?_getD] at hc'
    cases hL : lives[n]? with
    | none => rw [hL, Option.getD_none] at hc'; cases hc'
    | some L => rw [hL, Option.getD_some] at hc'; exact h.ended n L c' hL hc'
  · rw [hq.ledger, hq.period, hq.executor, JobLife.callsBy_const,
      JobLife.flatMap_calls_track h.period hlen, ← JobLife.callsBy_const]
    exact h.calls
  · rw [hq.ledger, hq.period, hq.executor, JobLife.completedBy_const,
      JobLife.sum_completed_track h.period hlen, ← JobLife.completedBy_const]
    exact h.completed

-- A settled system whose loops follow the grids of the jobs' lives at the current time, with
-- the period `p` and the executor `ex` it booted with.
structure Tracked (p : Nat) (ex : Executor) (lives : List JobLife) (s : System) : Prop where
  timed : TimedBy lives (fun _ => s.now) s
  well : ReadyWell s
  sound : LoopsSound s
  period : s.table.period = p
  executor : s.executor = ex

namespace Tracked

variable {p : Nat} {ex : Executor}

theorem ahead (h : Tracked p ex lives s) : Ahead s :=
  h.timed.ahead

-- The ledger of a tracked system holds the grids' points up to now.
theorem ledger (h : Tracked p ex lives s) :
    (s.ledger.calls.map Call.moment).Perm (lives.flatMap (JobLife.calls p ex.delay s.now)) ∧
      s.ledger.completed = (lives.map (JobLife.completed p ex.delay s.now)).sum := by
  have hcalls := h.timed.calls
  have hdone := h.timed.completed
  rw [JobLife.callsBy_const, h.period, h.executor] at hcalls
  rw [JobLife.completedBy_const, h.period, h.executor] at hdone
  exact ⟨hcalls, hdone⟩

-- The jobs whose lives go on are the jobs of the table.
theorem running_iff (h : Tracked p ex lives s) (i : Interest Stamp) :
    (∃ L ∈ lives, L.ended = none ∧ L.snapshot = i) ↔ ∃ j ∈ s.table.jobs, j.snapshot = i := by
  constructor
  · rintro ⟨L, hL, hend, rfl⟩
    obtain ⟨n, hn⟩ := List.mem_iff_getElem?.mp hL
    obtain ⟨l, hl⟩ := h.timed.loopOf hn
    obtain ⟨hsnap, -, hlive⟩ := h.timed.loop n L l hn hl
    have hrun : l.exited = false ∧ l.cancelled = false := by
      simpa [Loop.live] using hlive.mp hend
    -- a live loop is some job's, and that job carries the loop's interest
    obtain ⟨j, hj, hjn⟩ := h.sound.live_filed n l hl hrun.2 hrun.1
    obtain ⟨l', hl', hsnap', -⟩ := h.sound.filed j hj
    rw [hjn, hl, Option.some_inj] at hl'
    subst hl'
    exact ⟨j, hj, hsnap'.symm.trans hsnap⟩
  · rintro ⟨j, hj, rfl⟩
    obtain ⟨l, hl, hsnap, hc, he⟩ := h.sound.filed j hj
    obtain ⟨L, hL⟩ := h.timed.life hl
    obtain ⟨hsnapL, -, hlive⟩ := h.timed.loop j.loop L l hL hl
    exact ⟨L, List.mem_of_getElem? hL, hlive.mpr (by simp [Loop.live, hc, he]),
      hsnapL.symm.trans hsnap⟩

-- A step that takes no time, then the settling after it.
theorem settle_quiet {s₁ : System} (h : Tracked p ex lives s) (hq : Quiet s s₁)
    (hw : ReadyWell s₁) (hs : LoopsSound s₁) :
    Tracked p ex (JobLife.track s.now s₁.quiesce.table.holds
      (s₁.quiesce.loops.map Loop.snapshot) lives) s₁.quiesce := by
  have hq' : Quiet s s₁.quiesce := hq.trans (quiet_quiesce (hq.ahead h.ahead))
  have hs' := hs.quiesce
  exact ⟨h.timed.track hq' hs', hw.quiesce, hs', hq'.period.trans h.period,
    hq'.executor.trans h.executor⟩

-- A wait, then the settling after it: what was ready runs first, as a step that takes no
-- time; then every job moves along its grid, and none is spawned or ended.
theorem advance (h : Tracked p ex lives s) (ms : Nat) :
    Tracked p ex (JobLife.track s.now (s.advance ms).quiesce.table.holds
      ((s.advance ms).quiesce.loops.map Loop.snapshot) lives) (s.advance ms).quiesce := by
  have hq : Quiet s s.quiesce := quiet_quiesce h.ahead
  obtain ⟨hw, hr⟩ := quiesce_settles h.well
  have htimed := h.timed.track hq h.sound.quiesce
  have hnow : s.quiesce.now = s.now := (untouched_quiesce s).now
  have hadv : s.advance ms = { runUntil (s.quiesce.now + waitOf ms) (waitOf ms + 1) s.quiesce with
      now := s.quiesce.now + waitOf ms }.wakeDue := by
    rw [hnow]
    rfl
  obtain ⟨hwait, -, -, hend, hpass⟩ := wait_timed htimed hw hr (waitOf ms)
  rw [← hadv] at hwait hend hpass
  rw [hpass.table, hpass.snapshots]
  refine ⟨?_, (h.well.advance ms).quiesce, (h.sound.advance ms).quiesce,
    by rw [hpass.table, hq.period, h.period], by rw [hpass.executor, hq.executor, h.executor]⟩
  rw [hend]
  exact hwait

end Tracked

-- Every action that takes no time is a quiet step.
theorem perform_quiet {sc : Scenario} (ha : Ahead sc.system) (a : Action)
    (hadv : ∀ ms, a ≠ .advance ms) : Quiet sc.system (sc.perform a).2.system :=
  sc.perform_calm_all (quiet_calm ha) (fun _ hx => hx.trans (quiet_drain (hx.ahead ha) true))
    (fun _ hx => hx.trans (quiet_shutdown (hx.ahead ha))) a hadv (Quiet.refl _)

end System

-- One step of a scenario, with the lives of the jobs its scheduler spawned carried along.
def Scenario.stepTracked (r : Scenario × List JobLife) (st : Step) : Scenario × List JobLife :=
  ((r.1.step st).2, JobLife.track r.1.system.now (r.1.step st).2.system.table.holds
    ((r.1.step st).2.system.loops.map Loop.snapshot) r.2)

-- The lives of the jobs the scheduler spawned in a run of `steps` from the system `setup`
-- boots.
def Setup.lives (setup : Setup) (steps : List Step) : List JobLife :=
  (steps.foldl Scenario.stepTracked (⟨setup.boot, []⟩, [])).2

-- Carrying the lives along changes nothing of the run itself.
theorem Scenario.foldl_stepTracked_fst (steps : List Step) :
    ∀ r : Scenario × List JobLife,
      (steps.foldl Scenario.stepTracked r).1 = (runAll Scenario.step r.1 steps).2 := by
  induction steps with
  | nil => exact fun _ => rfl
  | cons st rest ih =>
    intro r
    rw [List.foldl_cons, ih, runAll_cons]
    rfl

namespace System.Tracked

variable {p : Nat} {ex : Executor}

theorem step {r : Scenario × List JobLife} (h : Tracked p ex r.2 r.1.system) {st : Step}
    (hst : st.settle = true) :
    Tracked p ex (Scenario.stepTracked r st).2 (Scenario.stepTracked r st).1.system := by
  obtain ⟨sc, lives⟩ := r
  show Tracked p ex (JobLife.track sc.system.now (sc.step st).2.system.table.holds
    ((sc.step st).2.system.loops.map Loop.snapshot) lives) (sc.step st).2.system
  obtain ⟨sc', hsc', hstep⟩ := sc.step_cases st
  rw [hstep, if_pos hst]
  rcases hsc' with rfl | ⟨a, -, rfl⟩
  · exact h.settle_quiet (Quiet.refl _) h.well h.sound
  · by_cases hadv : ∃ ms, a = .advance ms
    · obtain ⟨ms, rfl⟩ := hadv
      exact h.advance ms
    · exact h.settle_quiet (perform_quiet h.ahead a fun ms hm => hadv ⟨ms, hm⟩)
        (sc.perform_keeps_all readyWell_closed (fun _ hx => hx.drain true)
          (fun _ hx => hx.shutdown) a h.well)
        (sc.perform_keeps_all loopsSound_closed (fun _ hx => hx.drain true)
          (fun _ hx => hx.shutdown) a h.sound)

theorem run (steps : List Step) (hsettle : ∀ st ∈ steps, st.settle = true) :
    ∀ r : Scenario × List JobLife, Tracked p ex r.2 r.1.system →
      Tracked p ex (steps.foldl Scenario.stepTracked r).2
        (steps.foldl Scenario.stepTracked r).1.system := by
  induction steps with
  | nil => exact fun _ h => h
  | cons st rest ih =>
    intro r h
    rw [List.foldl_cons]
    exact ih (fun st' hst' => hsettle st' (List.mem_cons_of_mem _ hst')) _
      (h.step (hsettle st List.mem_cons_self))

-- The booted system has no loop and no call yet.
theorem boot (setup : Setup) :
    Tracked (effectivePeriod setup.period) setup.executor [] setup.boot := by
  have hsteady := boot_steady setup
  have hloops : setup.boot.loops = [] := rfl
  have hperiod : setup.boot.table.period = effectivePeriod setup.period := rfl
  refine ⟨⟨?_, by rw [hloops]; rfl, ?_, ?_, ?_, ?_, ?_⟩, hsteady.ready, hsteady.loops, hperiod, rfl⟩
  · rw [hperiod]
    exact effectivePeriod_pos setup.period
  · intro n L l hL
    simp at hL
  · intro n L l hL
    simp at hL
  · intro n L c hL
    simp at hL
  · rw [JobLife.callsBy_const]
    exact List.Perm.refl _
  · rw [JobLife.completedBy_const]
    rfl

end System.Tracked

-- Up to any moment of a run of settled steps, the executor has been called exactly at the
-- points of the jobs' grids: each job spawned at `s` with interest `i` and taken out at `c` (if
-- ever) is called for `i` at `s + p + j * gap p d` for every `j` with that point at most the end
-- of its life or now, and each such call has completed once its delay has passed by then too.
-- The jobs whose lives go on are those of the table.
theorem calls_follow_job_grids (setup : Setup) (steps : List Step)
    (hsettle : ∀ st ∈ steps, st.settle = true) :
    ((setup.after steps).system.ledger.calls.map Call.moment).Perm
        ((setup.lives steps).flatMap (JobLife.calls (effectivePeriod setup.period)
          setup.executor.delay (setup.after steps).system.now)) ∧
      (setup.after steps).system.ledger.completed =
        ((setup.lives steps).map (JobLife.completed (effectivePeriod setup.period)
          setup.executor.delay (setup.after steps).system.now)).sum ∧
      ∀ i, (∃ L ∈ setup.lives steps, L.ended = none ∧ L.snapshot = i) ↔
        ∃ j ∈ (setup.after steps).system.table.jobs, j.snapshot = i := by
  have h := System.Tracked.run steps hsettle (⟨setup.boot, []⟩, []) (System.Tracked.boot setup)
  rw [Scenario.foldl_stepTracked_fst] at h
  exact ⟨h.ledger.1, h.ledger.2, h.running_iff⟩

theorem calls_follow_job_grids_for_a_slow_job :
    let setup : Setup := ⟨1000, 1000, ⟨1500, []⟩, [], Parts.all⟩
    let steps : List Step := [⟨[], .ok (.startJob "a" "10.0.0.1"), true⟩,
      ⟨[], .ok (.advance 3000), true⟩, ⟨[], .ok (.startJob "b" "10.0.0.2"), true⟩,
      ⟨[], .ok (.stopJob "a"), true⟩, ⟨[], .ok (.advance 2000), true⟩]
    (∀ st ∈ steps, st.settle = true) ∧
      (((setup.after steps).system.ledger.calls.map Call.moment).Perm
          ((setup.lives steps).flatMap (JobLife.calls (effectivePeriod setup.period)
            setup.executor.delay (setup.after steps).system.now)) ∧
        (setup.after steps).system.ledger.completed =
          ((setup.lives steps).map (JobLife.completed (effectivePeriod setup.period)
            setup.executor.delay (setup.after steps).system.now)).sum ∧
        ∀ i, (∃ L ∈ setup.lives steps, L.ended = none ∧ L.snapshot = i) ↔
          ∃ j ∈ (setup.after steps).system.table.jobs, j.snapshot = i) :=
  ⟨by decide, calls_follow_job_grids _ _ (by decide)⟩

-- With a period past the far future, a job's second call comes one far future after its
-- first, not one period.
theorem second_call_waits_far_future_past_long_period :
    (Setup.after ⟨1000000000000, 10000, ⟨0, []⟩, [], Parts.all⟩
        [⟨[], .ok (.create "a" "1"), true⟩, ⟨[], .ok (.advance 946080000000), true⟩,
          ⟨[], .ok (.advance 946080000000), true⟩, ⟨[], .ok (.advance 946080000000), true⟩]
      ).system.ledger.calls.map Call.moment =
      [(1000000000000, "a", "1"), (1000000000000 + farFuture, "a", "1")] := by
  decide

end RouteWatch
