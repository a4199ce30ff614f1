import RouteWatch.Schedule.Table
import RouteWatch.Service.Registry
import Mathlib.Data.Finmap

-- The job table read as a finite map from app name to the snapshot its job ticks with.
namespace RouteWatch.Schedule

abbrev JobMap := Finmap fun _ : String => Interest Stamp

namespace Table

-- App names strictly increase along the jobs.
def Ordered (jobs : List Job) : Prop :=
  Keyed.Ordered (·.snapshot.appName) jobs

-- The snapshot of the job filed under `app`.
def lookup (t : Table) (app : String) : Option (Interest Stamp) :=
  (t.find? app).map (·.snapshot)

-- The table files exactly the snapshots of `m`, each under its key.
def Mirrors (t : Table) (m : JobMap) : Prop :=
  ∀ app, t.lookup app = m.lookup app

theorem find?_eq_some {t : Table} {app : String} {j : Job} (h : t.find? app = some j) :
    j ∈ t.jobs ∧ j.snapshot.appName = app :=
  Keyed.find?_eq_some h

theorem find?_eq_none {t : Table} {app : String} (h : t.find? app = none) :
    ∀ j ∈ t.jobs, j.snapshot.appName ≠ app :=
  Keyed.find?_eq_none h

theorem find?_of_mem {t : Table} (ht : Ordered t.jobs) {j : Job} (hj : j ∈ t.jobs) :
    t.find? j.snapshot.appName = some j :=
  Keyed.find?_of_mem ht hj

theorem eq_of_appName_eq {t : Table} (ht : Ordered t.jobs) {j k : Job} (hj : j ∈ t.jobs)
    (hk : k ∈ t.jobs) (h : j.snapshot.appName = k.snapshot.appName) : j = k :=
  Keyed.eq_of_key_eq ht hj hk h

@[simp] theorem put_fst (t : Table) (j : Job) : (t.put j).1 = t.find? j.snapshot.appName := rfl

@[simp] theorem put_closed (t : Table) (j : Job) : (t.put j).2.closed = t.closed := rfl

@[simp] theorem put_retiring (t : Table) (j : Job) : (t.put j).2.retiring = t.retiring := rfl

@[simp] theorem put_period (t : Table) (j : Job) : (t.put j).2.period = t.period := rfl

@[simp] theorem erase_closed (t : Table) (a : String) : (t.erase a).closed = t.closed := rfl

@[simp] theorem erase_retiring (t : Table) (a : String) : (t.erase a).retiring = t.retiring := rfl

@[simp] theorem erase_period (t : Table) (a : String) : (t.erase a).period = t.period := rfl

theorem put_ordered (t : Table) (j : Job) (ht : Ordered t.jobs) : Ordered (t.put j).2.jobs :=
  Keyed.insert_ordered j ht

theorem erase_ordered (t : Table) (a : String) (ht : Ordered t.jobs) :
    Ordered (t.erase a).jobs :=
  List.Pairwise.filter _ ht

theorem mem_put {t : Table} (ht : Ordered t.jobs) {j x : Job} :
    x ∈ (t.put j).2.jobs ↔ x = j ∨ (x ∈ t.jobs ∧ x.snapshot.appName ≠ j.snapshot.appName) :=
  Keyed.mem_insert ht

theorem mem_erase {t : Table} {a : String} {x : Job} :
    x ∈ (t.erase a).jobs ↔ x ∈ t.jobs ∧ x.snapshot.appName ≠ a := by
  simp [erase]

theorem find?_put (t : Table) (j : Job) (app : String) :
    (t.put j).2.find? app = if j.snapshot.appName = app then some j else t.find? app :=
  Keyed.find?_insert j t.jobs app

theorem find?_erase (t : Table) (a app : String) :
    (t.erase a).find? app = if a = app then none else t.find? app :=
  Keyed.find?_filter_ne t.jobs a app

theorem mirrors_put {t : Table} {m : JobMap} (h : t.Mirrors m) (j : Job) :
    (t.put j).2.Mirrors (m.insert j.snapshot.appName j.snapshot) := by
  intro app
  unfold lookup
  rw [find?_put]
  by_cases hj : j.snapshot.appName = app
  · rw [if_pos hj, ← hj, Finmap.lookup_insert]
    rfl
  · rw [if_neg hj, Finmap.lookup_insert_of_ne _ (Ne.symm hj)]
    exact h app

theorem mirrors_erase {t : Table} {m : JobMap} (h : t.Mirrors m) (a : String) :
    (t.erase a).Mirrors (m.erase a) := by
  intro app
  unfold lookup
  rw [find?_erase]
  by_cases ha : a = app
  · rw [if_pos ha, ← ha, Finmap.lookup_erase]
    rfl
  · rw [if_neg ha, Finmap.lookup_erase_ne (Ne.symm ha)]
    exact h app

theorem mirrors_of_jobs_eq {t t' : Table} {m : JobMap} (h : t.Mirrors m) (hj : t'.jobs = t.jobs) :
    t'.Mirrors m := by
  intro app
  rw [← h app]
  simp only [lookup, find?, hj]

-- Erasing an app name the table has no job for changes nothing it mirrors.
theorem mirrors_erase_of_find?_none {t : Table} {m : JobMap} (h : t.Mirrors m) {a : String}
    (hf : t.find? a = none) : t.Mirrors (m.erase a) := by
  intro app
  by_cases ha : a = app
  · subst ha
    rw [Finmap.lookup_erase]
    simp [lookup, hf]
  · rw [Finmap.lookup_erase_ne (Ne.symm ha)]
    exact h app

theorem mirrors_nil {t : Table} (h : t.jobs = []) : t.Mirrors ∅ := by
  intro app
  simp [lookup, find?, h]

theorem hasJob_eq {t : Table} {m : JobMap} (h : t.Mirrors m) (app : String) :
    t.hasJob app = decide (app ∈ m) := by
  have hl := h app
  unfold lookup at hl
  have hsome : (t.find? app).isSome ↔ app ∈ m := by
    rw [← Finmap.lookup_isSome, ← hl, Option.isSome_map]
  unfold hasJob
  by_cases ha : app ∈ m
  · simpa [ha] using hsome.mpr ha
  · simpa [ha] using mt hsome.mp ha

-- Ordered app names are distinct, so the jobs are as many as the keys they mirror.
theorem length_eq_card {t : Table} {m : JobMap} (ht : Ordered t.jobs) (h : t.Mirrors m) :
    t.jobs.length = m.keys.card := by
  have hkeys : m.keys = (t.jobs.map fun j => j.snapshot.appName).toFinset := by
    ext app
    rw [Finmap.mem_keys, ← Finmap.lookup_isSome, ← h app, List.mem_toFinset, List.mem_map]
    constructor
    · intro hs
      obtain ⟨j, hj⟩ := Option.isSome_iff_exists.mp hs
      obtain ⟨k, hk, rfl⟩ := Option.map_eq_some_iff.mp hj
      exact ⟨k, (find?_eq_some hk).1, (find?_eq_some hk).2⟩
    · rintro ⟨j, hj, rfl⟩
      simp [lookup, find?_of_mem ht hj]
  have hnodup : (t.jobs.map fun j => j.snapshot.appName).Nodup :=
    List.pairwise_map.mpr (ht.imp String.ne_of_lt)
  rw [hkeys, List.toFinset_card_of_nodup hnodup, List.length_map]

end Table

end RouteWatch.Schedule
