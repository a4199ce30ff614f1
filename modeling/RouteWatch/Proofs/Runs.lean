import RouteWatch.Scenario

-- Runs: a step function applied to a list of requests in turn, and the ready tasks run until none
-- is left.
namespace RouteWatch

-- Runs `step` on each request in turn, collecting the replies.
def runAll {σ α β : Type} (step : σ → α → β × σ) : σ → List α → List β × σ
  | s, [] => ([], s)
  | s, a :: rest =>
    let (b, s) := step s a
    let (bs, s) := runAll step s rest
    (b :: bs, s)

section Generic

variable {σ τ α β : Type} (step : σ → α → β × σ)

@[simp] theorem runAll_nil (s : σ) : runAll step s [] = ([], s) := rfl

theorem runAll_cons (s : σ) (a : α) (rest : List α) :
    runAll step s (a :: rest) =
      ((step s a).1 :: (runAll step (step s a).2 rest).1, (runAll step (step s a).2 rest).2) := rfl

theorem runAll_invariant (P : σ → Prop) (hstep : ∀ s a, P s → P (step s a).2) :
    ∀ (as : List α) (s : σ), P s → P (runAll step s as).2 := by
  intro as
  induction as with
  | nil => exact fun s hs => hs
  | cons a rest ih => exact fun s hs => ih _ (hstep s a hs)

-- A property that every allowed request keeps holds after any run of allowed requests.
theorem runAll_invariant_on (ok : α → Prop) (P : σ → Prop)
    (hstep : ∀ s a, ok a → P s → P (step s a).2) :
    ∀ (as : List α), (∀ a ∈ as, ok a) → ∀ (s : σ), P s → P (runAll step s as).2 := by
  intro as
  induction as with
  | nil => exact fun _ s hs => hs
  | cons a rest ih =>
    intro has s hs
    exact ih (fun b hb => has b (List.mem_cons_of_mem a hb)) _
      (hstep s a (has a List.mem_cons_self) hs)

theorem runAll_append (s : σ) (as bs : List α) :
    (runAll step s (as ++ bs)).2 = (runAll step (runAll step s as).2 bs).2 := by
  induction as generalizing s with
  | nil => rfl
  | cons a rest ih => exact ih _

-- Two machines that answer alike from related states, and stay related, answer alike forever.
theorem runAll_simulation (other : τ → α → β × τ) (R : σ → τ → Prop)
    (hstep : ∀ s t a, R s t → (step s a).1 = (other t a).1 ∧ R (step s a).2 (other t a).2) :
    ∀ (as : List α) (s : σ) (t : τ), R s t →
      (runAll step s as).1 = (runAll other t as).1 ∧ R (runAll step s as).2 (runAll other t as).2 := by
  intro as
  induction as with
  | nil => exact fun s t h => ⟨rfl, h⟩
  | cons a rest ih =>
    intro s t h
    obtain ⟨hreply, hrel⟩ := hstep s t a h
    obtain ⟨hreplies, hfinal⟩ := ih _ _ hrel
    rw [runAll_cons, runAll_cons, hreply, hreplies]
    exact ⟨rfl, hfinal⟩

end Generic

theorem runAll_step_eq_runSteps (sc : Scenario) (steps : List Step) :
    (runAll Scenario.step sc steps).1 = sc.runSteps steps := by
  induction steps generalizing sc with
  | nil => rfl
  | cons st rest ih =>
    rw [runAll_cons, ih]
    rfl

-- The scenario after `steps`, from the system `setup` boots.
def Setup.after (setup : Setup) (steps : List Step) : Scenario :=
  (runAll Scenario.step ⟨setup.boot, []⟩ steps).2

-- A step changes nothing (it is refused or cannot be read) or performs its action; then it
-- settles if asked.
theorem Scenario.step_cases (sc : Scenario) (st : Step) :
    ∃ sc', (sc' = sc ∨ ∃ a, st.action = .ok a ∧ sc' = (sc.perform a).2) ∧
      (sc.step st).2 = if st.settle then { sc' with system := sc'.system.quiesce } else sc' := by
  unfold Scenario.step
  split
  rename_i reply sc' hmatch
  refine ⟨sc', ?_, rfl⟩
  split at hmatch
  · cases hmatch
    exact Or.inl rfl
  · rename_i a _ ha
    exact Or.inr ⟨a, ha, by rw [hmatch]⟩
  · cases hmatch
    exact Or.inl rfl

-- A step whose needed parts are all there performs its action.
theorem Scenario.step_of_ok (sc : Scenario) {st : Step} {a : Action}
    (hneeds : st.needsFirst.find? (fun p => !sc.system.parts.has p) = none)
    (ha : st.action = .ok a) :
    (sc.step st).2 = if st.settle then { (sc.perform a).2 with system := (sc.perform a).2.system.quiesce }
      else (sc.perform a).2 := by
  simp only [Scenario.step, hneeds, ha]

theorem Parts.all_has (p : Part) : Parts.all.has p = true := by
  cases p <;> rfl

namespace System

-- The tasks run one by one; a measure that every run lowers bounds how many runs are left.
theorem quiesceWith_settles (P : System → Prop) (μ : System → Nat)
    (hstep : ∀ s t rest, P s → s.ready = t :: rest →
      P ({ s with ready := rest }.runTask t) ∧ μ ({ s with ready := rest }.runTask t) < μ s) :
    ∀ (fuel : Nat) (s : System), P s → μ s ≤ fuel →
      P (quiesceWith fuel s) ∧ (quiesceWith fuel s).ready = [] := by
  intro fuel
  induction fuel with
  | zero =>
    intro s hs hμ
    cases hr : s.ready with
    | nil => exact ⟨hs, hr⟩
    | cons t rest => exact absurd (hstep s t rest hs hr).2 (by omega)
  | succ fuel ih =>
    intro s hs hμ
    cases hr : s.ready with
    | nil =>
      unfold quiesceWith
      rw [hr]
      exact ⟨hs, hr⟩
    | cons t rest =>
      unfold quiesceWith
      rw [hr]
      obtain ⟨hP, hlt⟩ := hstep s t rest hs hr
      exact ih _ hP (by omega)

-- Without a measure, whatever every run keeps still holds once the fuel runs out.
theorem quiesceWith_invariant (P : System → Prop)
    (hstep : ∀ s t rest, P s → s.ready = t :: rest → P ({ s with ready := rest }.runTask t)) :
    ∀ (fuel : Nat) (s : System), P s → P (quiesceWith fuel s) := by
  intro fuel
  induction fuel with
  | zero => exact fun s hs => hs
  | succ fuel ih =>
    intro s hs
    unfold quiesceWith
    cases hr : s.ready with
    | nil => exact hs
    | cons t rest => exact ih _ (hstep s t rest hs hr)

-- A property of the system that each change a caller makes at one moment keeps: taking a
-- moment of record, storing, publishing, opening a log, registering and deregistering, starting
-- and stopping a job, stopping every job, marking the resync as used and settling. Closing the
-- scheduler, shutting down and letting time pass are left out.
structure Calm (P : System → Prop) : Prop where
  stamp : ∀ s, P s → P s.stamp.2
  store : ∀ s (r : Registry Stamp), P s → P { s with store := r }
  post : ∀ s e, P s → P (s.post e)
  openLog : ∀ s, P s → P s.openLog.2
  register : ∀ s id listener, P s → P (s.register id listener)
  deregister : ∀ s id, P s → P (s.deregister id)
  startJobNow : ∀ s i, P s → P (s.startJobNow i).2
  stopJobNow : ∀ s app, P s → P (s.stopJobNow app).2
  stopAll : ∀ s, P s → P (s.drain false).2
  restarted : ∀ s, P s → P { s with restarted := true }
  quiesce : ∀ s, P s → P s.quiesce

-- A property of the system that each change a caller makes keeps: taking a moment of record,
-- storing, publishing, opening a log, registering and deregistering, starting and stopping a job,
-- stopping every job, marking the resync as used, letting time pass and settling. Closing the
-- scheduler and shutting down are left out.
structure Closed (P : System → Prop) : Prop where
  stamp : ∀ s, P s → P s.stamp.2
  store : ∀ s (r : Registry Stamp), P s → P { s with store := r }
  post : ∀ s e, P s → P (s.post e)
  openLog : ∀ s, P s → P s.openLog.2
  register : ∀ s id listener, P s → P (s.register id listener)
  deregister : ∀ s id, P s → P (s.deregister id)
  startJobNow : ∀ s i, P s → P (s.startJobNow i).2
  stopJobNow : ∀ s app, P s → P (s.stopJobNow app).2
  stopAll : ∀ s, P s → P (s.drain false).2
  restarted : ∀ s, P s → P { s with restarted := true }
  advance : ∀ s ms, P s → P (s.advance ms)
  quiesce : ∀ s, P s → P s.quiesce

theorem Closed.calm {P : System → Prop} (hP : Closed P) : Calm P :=
  ⟨hP.stamp, hP.store, hP.post, hP.openLog, hP.register, hP.deregister, hP.startJobNow,
    hP.stopJobNow, hP.stopAll, hP.restarted, hP.quiesce⟩

namespace Calm

variable {P : System → Prop} (hP : Calm P) {s : System}
include hP

theorem change (f : Registry Stamp → Stamp → Except ServiceError (Change Stamp)) (h : P s) :
    P (s.change f).2 := by
  unfold System.change
  split
  rename_i now stamped hstamp
  have hs : P stamped := by
    have := hP.stamp _ h
    rwa [hstamp] at this
  split
  · exact h
  · exact hP.post _ _ (hP.store _ _ hs)

theorem publish (kind : EventKind) (app ip : String) (h : P s) : P (s.publish kind app ip) :=
  hP.post _ _ (hP.stamp _ h)

theorem observe (e : Event Stamp) (h : P s) : P (s.observe e) := by
  unfold System.observe
  split
  · exact hP.startJobNow _ _ h
  · exact hP.startJobNow _ _ h
  · exact hP.stopJobNow _ _ h

theorem posts (items : List (Interest Stamp)) (h : P s) :
    P (items.foldl (fun s i => s.post ⟨.created, i⟩) s) := by
  induction items generalizing s with
  | nil => exact h
  | cons i rest ih => exact ih (hP.post _ _ h)

theorem restart (h : P s) : P s.restart.2 := by
  unfold System.restart
  split
  · exact h
  · dsimp only
    split
    · exact hP.restarted _ h
    · exact hP.posts _ (hP.stopAll _ (hP.restarted _ h))

end Calm

end System

namespace Scenario

variable {P : System → Prop}

theorem need_keeps (sc : Scenario) (has : Bool) (why : Refusal) (f : Scenario → Reply × Scenario)
    (h : P sc.system) (hf : P (f sc).2.system) : P (sc.need has why f).2.system := by
  unfold need
  split
  · exact hf
  · exact h

-- Every action that takes no time, but closing the scheduler and shutting down, keeps a calm
-- property.
theorem perform_calm (hP : System.Calm P) (sc : Scenario) (a : Action)
    (ha : a ≠ .closeScheduler ∧ a ≠ .shutdown ∧ ∀ ms, a ≠ .advance ms)
    (h : P sc.system) : P (sc.perform a).2.system := by
  cases a with
  | create app ip =>
    exact sc.need_keeps _ _ _ h (hP.change (fun r now => Service.create r ⟨app, ip⟩ now) h)
  | update app ip =>
    exact sc.need_keeps _ _ _ h (hP.change (fun r now => Service.update r ⟨app, ip⟩ now) h)
  | removeApp app => exact sc.need_keeps _ _ _ h (hP.change (fun r _ => Service.removeApp r app) h)
  | removeIp ip => exact sc.need_keeps _ _ _ h (hP.change (fun r _ => Service.removeIp r ip) h)
  | findApp _ | findIp _ | list | hubSize | hasJob _ | snapshot _ | schedulerState =>
    exact sc.need_keeps _ _ _ h h
  | recorded _ =>
    simp only [perform]
    split <;> exact h
  | calls | callsFor _ | completed => exact h
  | registerRecorder id => exact sc.need_keeps _ _ _ h (hP.register _ _ _ (hP.openLog _ h))
  | registerSilent id => exact sc.need_keeps _ _ _ h (hP.register _ _ _ h)
  | registerScheduler =>
    exact sc.need_keeps _ _ _ h (sc.need_keeps _ _ _ h (hP.register _ _ _ h))
  | deregister id => exact sc.need_keeps _ _ _ h (hP.deregister _ _ h)
  | publish kind app ip => exact sc.need_keeps _ _ _ h (hP.publish _ _ _ h)
  | startJob app ip => exact sc.need_keeps _ _ _ h (hP.startJobNow _ _ (hP.stamp _ h))
  | stopJob app => exact sc.need_keeps _ _ _ h (hP.stopJobNow _ _ h)
  | stopAll => exact sc.need_keeps _ _ _ h (hP.stopAll _ h)
  | observe kind app ip => exact sc.need_keeps _ _ _ h (hP.observe _ (hP.stamp _ h))
  | restart => exact hP.restart h
  | advance ms => exact absurd rfl (ha.2.2 ms)
  | closeScheduler => exact absurd rfl ha.1
  | shutdown => exact absurd rfl ha.2.1

-- A calm property that closing the scheduler and shutting down keep as well is kept by every
-- action that takes no time.
theorem perform_calm_all (hP : System.Calm P) (hclose : ∀ s, P s → P (s.drain true).2)
    (hshutdown : ∀ s, P s → P s.shutdown.2) (sc : Scenario) (a : Action)
    (ha : ∀ ms, a ≠ .advance ms) (h : P sc.system) : P (sc.perform a).2.system := by
  by_cases hc : a = .closeScheduler
  · subst hc
    exact sc.need_keeps _ _ _ h (hclose _ h)
  · by_cases hs : a = .shutdown
    · subst hs
      exact hshutdown _ h
    · exact sc.perform_calm hP a ⟨hc, hs, ha⟩ h

variable (hP : System.Closed P)
include hP

-- Every action but closing the scheduler and shutting down keeps a closed property.
theorem perform_keeps (sc : Scenario) (a : Action) (ha : a ≠ .closeScheduler ∧ a ≠ .shutdown)
    (h : P sc.system) : P (sc.perform a).2.system := by
  by_cases hadv : ∃ ms, a = .advance ms
  · obtain ⟨ms, rfl⟩ := hadv
    exact hP.advance _ _ h
  · exact sc.perform_calm hP.calm a ⟨ha.1, ha.2, fun ms hm => hadv ⟨ms, hm⟩⟩ h

theorem step_keeps (sc : Scenario) (st : Step)
    (hst : ∀ a, st.action = .ok a → a ≠ .closeScheduler ∧ a ≠ .shutdown) (h : P sc.system) :
    P (sc.step st).2.system := by
  obtain ⟨sc', hsc', hstep⟩ := sc.step_cases st
  have h' : P sc'.system := by
    rcases hsc' with rfl | ⟨a, ha, rfl⟩
    · exact h
    · exact sc.perform_keeps hP a (hst a ha) h
  rw [hstep]
  split
  · exact hP.quiesce _ h'
  · exact h'

-- A closed property of the booted system holds after any steps that neither close the scheduler
-- nor shut down.
theorem after_keeps (setup : Setup) (steps : List Step)
    (hsteps : ∀ st ∈ steps, ∀ a, st.action = .ok a → a ≠ .closeScheduler ∧ a ≠ .shutdown)
    (h : P setup.boot) : P (setup.after steps).system :=
  runAll_invariant_on Scenario.step (fun st => ∀ a, st.action = .ok a → a ≠ .closeScheduler ∧ a ≠ .shutdown)
    (fun sc => P sc.system) (fun sc st hst hsc => sc.step_keeps hP st hst hsc) steps hsteps _ h

-- A closed property that closing the scheduler and shutting down keep as well holds after any
-- action.
theorem perform_keeps_all (hclose : ∀ s, P s → P (s.drain true).2)
    (hshutdown : ∀ s, P s → P s.shutdown.2) (sc : Scenario) (a : Action) (h : P sc.system) :
    P (sc.perform a).2.system := by
  by_cases hadv : ∃ ms, a = .advance ms
  · obtain ⟨ms, rfl⟩ := hadv
    exact hP.advance _ _ h
  · exact sc.perform_calm_all hP.calm hclose hshutdown a (fun ms hm => hadv ⟨ms, hm⟩) h

theorem runAll_keeps (hclose : ∀ s, P s → P (s.drain true).2)
    (hshutdown : ∀ s, P s → P s.shutdown.2) (steps : List Step) (sc : Scenario) (h : P sc.system) :
    P (runAll Scenario.step sc steps).2.system := by
  refine runAll_invariant Scenario.step (fun sc => P sc.system) (fun sc st hsc => ?_) steps sc h
  obtain ⟨sc', hsc', hstep⟩ := sc.step_cases st
  have h' : P sc'.system := by
    rcases hsc' with rfl | ⟨a, -, rfl⟩
    · exact hsc
    · exact sc.perform_keeps_all hP hclose hshutdown a hsc
  rw [hstep]
  split
  · exact hP.quiesce _ h'
  · exact h'

end Scenario

end RouteWatch
