import Mathlib
import RouteWatch.Schedule.Tick
import RouteWatch.Interest

-- The grid of a job's calls.
namespace RouteWatch

namespace Schedule

-- The distance between two calls of one job, for period `p` and calls of `d` ms.
def gap (p d : Nat) : Nat :=
  min (max p d) farFuture

-- How many of the moments `b`, `b + g`, `b + 2 * g`, ... come at or before `T`.
def ticksBy (b g T : Nat) : Nat :=
  if b ≤ T then (T - b) / g + 1 else 0

theorem gap_pos {p : Nat} (d : Nat) (hp : 0 < p) : 0 < gap p d := by
  unfold gap farFuture
  omega

theorem waitOf_le_gap (p d : Nat) : waitOf d ≤ gap p d := by
  unfold waitOf gap
  omega

theorem waitOf_pos {d : Nat} (hd : 0 < d) : 0 < waitOf d := by
  unfold waitOf farFuture
  omega

-- A tick taken on time sets the next deadline a period on, or the longest wait.
theorem nextDeadline_self (p now : Nat) : nextDeadline p now now = now + min p farFuture := by
  unfold nextDeadline lateness
  rw [if_neg (by omega)]
  split <;> omega

-- The deadline a tick at `now` sets lies at most one gap on, and on it unless calls are longer
-- than periods: a late tick only happens then, and it moves the deadline at most a period on.
theorem nextDeadline_le_gap {p D now : Nat} (d : Nat) (hD : D ≤ now)
    (h : D = now ∨ (waitOf d = gap p d ∧ p ≤ farFuture)) :
    nextDeadline p D now ≤ now + gap p d ∧
      (nextDeadline p D now = now + gap p d ∨ (waitOf d = gap p d ∧ p ≤ farFuture)) := by
  rcases h with rfl | ⟨hw, hp⟩
  · rw [nextDeadline_self]
    unfold gap waitOf at *
    omega
  · have hpg : p ≤ gap p d := by unfold gap; omega
    refine ⟨?_, Or.inr ⟨hw, hp⟩⟩
    unfold nextDeadline
    split
    · omega
    · rw [if_neg (by omega)]
      omega

section Grid

variable {b g T : Nat}

theorem lt_ticksBy_iff (hg : 0 < g) {j : Nat} : j < ticksBy b g T ↔ b + j * g ≤ T := by
  unfold ticksBy
  split
  · rw [Nat.lt_succ_iff, Nat.le_div_iff_mul_le hg]
    omega
  · simp only [Nat.not_lt_zero, false_iff]
    omega

theorem ticksBy_eq_of_iff (hg : 0 < g) {k : Nat} (h : ∀ j, j < k ↔ b + j * g ≤ T) :
    ticksBy b g T = k := by
  apply Nat.le_antisymm
  · apply Nat.le_of_not_lt
    intro hk
    exact Nat.lt_irrefl k ((h k).mpr ((lt_ticksBy_iff (b := b) (T := T) hg).mp hk))
  · apply Nat.le_of_not_lt
    intro hk
    exact Nat.lt_irrefl _ ((lt_ticksBy_iff (b := b) (T := T) hg).mpr ((h _).mp hk))

theorem ticksBy_eq_zero (h : T < b) : ticksBy b g T = 0 := by
  unfold ticksBy
  rw [if_neg (by omega)]

theorem ticksBy_eq_succ (hg : 0 < g) {k : Nat} (h1 : b + k * g ≤ T) (h2 : T < b + (k + 1) * g) :
    ticksBy b g T = k + 1 := by
  apply ticksBy_eq_of_iff hg
  intro j
  constructor
  · intro hj
    have : j * g ≤ k * g := Nat.mul_le_mul_right g (by omega)
    omega
  · intro hj
    exact Nat.lt_of_mul_lt_mul_right (a := g) (by omega)

theorem ticksBy_bracket (hg : 0 < g) {k : Nat} (h : ticksBy b g T = k + 1) :
    b + k * g ≤ T ∧ T < b + (k + 1) * g := by
  have hin := (lt_ticksBy_iff (b := b) (T := T) hg (j := k)).mp (by omega)
  have hout := mt (lt_ticksBy_iff (b := b) (T := T) hg (j := k + 1)).mpr (by omega)
  omega

theorem ticksBy_mono (hg : 0 < g) {T' : Nat} (h : T ≤ T') : ticksBy b g T ≤ ticksBy b g T' := by
  apply Nat.le_of_not_lt
  intro hlt
  have := (lt_ticksBy_iff (b := b) (T := T) hg).mp hlt
  exact Nat.lt_irrefl _ ((lt_ticksBy_iff (b := b) (T := T') hg).mpr (by omega))

-- A grid that starts later has no more points by any moment.
theorem ticksBy_le_of_le (hg : 0 < g) {b' : Nat} (h : b ≤ b') : ticksBy b' g T ≤ ticksBy b g T := by
  apply Nat.le_of_not_lt
  intro hlt
  have := (lt_ticksBy_iff (b := b') (T := T) hg).mp hlt
  exact Nat.lt_irrefl _ ((lt_ticksBy_iff (b := b) (T := T) hg).mpr (by omega))

-- While call `k` of a grid whose calls last `dd` runs, the calls before it have ended and it has
-- not.
theorem ticksBy_done_during (hg : 0 < g) {dd k : Nat} (hdd : dd ≤ g) (h1 : b + k * g ≤ T)
    (h2 : T < b + k * g + dd) : ticksBy (b + dd) g T = k := by
  cases k with
  | zero =>
    apply ticksBy_eq_zero
    simp only [Nat.zero_mul, Nat.add_zero] at h2
    omega
  | succ k =>
    have hk : (k + 1) * g = k * g + g := Nat.add_one_mul k g
    exact ticksBy_eq_succ hg (by omega) (by omega)

theorem ticksBy_done_at_end (hg : 0 < g) (dd k : Nat) : ticksBy (b + dd) g (b + k * g + dd) = k + 1 := by
  have hk : (k + 1) * g = k * g + g := Nat.add_one_mul k g
  exact ticksBy_eq_succ hg (by omega) (by omega)

end Grid

end Schedule

open Schedule

-- A job as the job table saw it: the interest its loop checks, the moment the loop started,
-- and the moment the job left the table, if it has.
structure JobLife where
  snapshot : Interest Stamp
  started : Nat
  ended : Option Nat
  deriving Repr

namespace JobLife

-- The last moment up to `T` at which the job was in the table.
def horizon (L : JobLife) (T : Nat) : Nat :=
  match L.ended with
  | some c => min c T
  | none => T

-- The calls of job `L` up to `T`, as moment, app name and address: the points of its grid
-- while it was in the table.
def calls (p d T : Nat) (L : JobLife) : List (Nat × String × String) :=
  (List.range (ticksBy (L.started + p) (gap p d) (L.horizon T))).map fun j =>
    (L.started + p + j * gap p d, L.snapshot.appName, L.snapshot.serviceIp)

-- How many calls of `L` up to `T` had ended by the last moment the job was in the table.
def completed (p d T : Nat) (L : JobLife) : Nat :=
  ((L.calls p d T).filter fun c => c.1 + waitOf d ≤ L.horizon T).length

variable {L : JobLife} {p d T T' : Nat}

@[simp] theorem horizon_none (h : L.ended = none) : L.horizon T = T := by
  simp [horizon, h]

theorem horizon_some {c : Nat} (h : L.ended = some c) (hc : c ≤ T) : L.horizon T = c := by
  simp [horizon, h, hc]

theorem calls_congr
    (h : ticksBy (L.started + p) (gap p d) (L.horizon T') = ticksBy (L.started + p) (gap p d) (L.horizon T)) :
    L.calls p d T' = L.calls p d T := by
  rw [calls, calls, h]

-- One more point of the grid comes at the end of the list.
theorem calls_succ
    (h : ticksBy (L.started + p) (gap p d) (L.horizon T') =
      ticksBy (L.started + p) (gap p d) (L.horizon T) + 1) :
    L.calls p d T' = L.calls p d T ++
      [(L.started + p + ticksBy (L.started + p) (gap p d) (L.horizon T) * gap p d,
        L.snapshot.appName, L.snapshot.serviceIp)] := by
  rw [calls, calls, h, List.range_succ, List.map_append, List.map_singleton]

-- Of the first `k` numbers, those below `m` are `min k m`.
theorem length_filter_range_lt (k m : Nat) :
    ((List.range k).filter fun j => decide (j < m)).length = min k m := by
  induction k with
  | zero => simp
  | succ k ih =>
    rw [List.range_succ, List.filter_append, List.length_append, ih]
    by_cases hk : k < m
    · simp [hk]
      omega
    · simp [hk]
      omega

-- The calls that ended are the points of the grid moved on by the length of a call.
theorem completed_eq (hp : 0 < p) :
    L.completed p d T = ticksBy (L.started + p + waitOf d) (gap p d) (L.horizon T) := by
  have hg := gap_pos d hp
  have hle := ticksBy_le_of_le hg (T := L.horizon T) (Nat.le_add_right (L.started + p) (waitOf d))
  have hiff : ∀ j, (decide ((L.started + p + j * gap p d, L.snapshot.appName,
      L.snapshot.serviceIp).1 + waitOf d ≤ L.horizon T)) =
      decide (j < ticksBy (L.started + p + waitOf d) (gap p d) (L.horizon T)) := by
    intro j
    rw [decide_eq_decide, lt_ticksBy_iff hg]
    dsimp only
    constructor <;> intro h <;> omega
  rw [completed, calls, List.filter_map, List.length_map]
  simp only [Function.comp_def, hiff]
  rw [length_filter_range_lt]
  omega

section Bookkeeping

-- The calls of the jobs of `lives`, job `n` up to `τ n`, in the order of the jobs.
def callsBy (p d : Nat) (lives : List JobLife) (τ : Nat → Nat) : List (Nat × String × String) :=
  (List.range lives.length).flatMap fun n => (lives[n]?.map (·.calls p d (τ n))).getD []

-- How many calls of the jobs of `lives` had ended, job `n` up to `τ n`.
def completedBy (p d : Nat) (lives : List JobLife) (τ : Nat → Nat) : Nat :=
  ((List.range lives.length).map fun n => (lives[n]?.map (·.completed p d (τ n))).getD 0).sum

theorem flatMap_range_getElem? {β : Type} (f : JobLife → List β) :
    ∀ lives : List JobLife,
      (List.range lives.length).flatMap (fun n => (lives[n]?.map f).getD []) = lives.flatMap f
  | [] => rfl
  | L :: rest => by
    rw [List.length_cons, List.range_succ_eq_map, List.flatMap_cons, List.flatMap_map]
    simp only [List.getElem?_cons_zero, Option.map_some, Option.getD_some,
      List.getElem?_cons_succ, List.flatMap_cons]
    rw [flatMap_range_getElem? f rest]

theorem sum_range_getElem? (f : JobLife → Nat) :
    ∀ lives : List JobLife,
      ((List.range lives.length).map fun n => (lives[n]?.map f).getD 0).sum = (lives.map f).sum
  | [] => rfl
  | L :: rest => by
    rw [List.length_cons, List.range_succ_eq_map, List.map_cons, List.map_map]
    simp only [List.getElem?_cons_zero, Option.map_some, Option.getD_some, Function.comp_def,
      List.getElem?_cons_succ, List.sum_cons, List.map_cons]
    rw [sum_range_getElem? f rest]

theorem callsBy_const (p d T : Nat) (lives : List JobLife) :
    callsBy p d lives (fun _ => T) = lives.flatMap (calls p d T) :=
  flatMap_range_getElem? _ lives

theorem completedBy_const (p d T : Nat) (lives : List JobLife) :
    completedBy p d lives (fun _ => T) = (lives.map (completed p d T)).sum :=
  sum_range_getElem? _ lives

-- A list built index by index, where one index gains `e` at its end, gains `e` as a multiset.
theorem perm_flatMap_range_of_update {β : Type} {f g : Nat → List β} {e : List β} {n : Nat}
    (hn : g n = f n ++ e) (hother : ∀ j, j ≠ n → g j = f j) :
    ∀ m, n < m → ((List.range m).flatMap g).Perm ((List.range m).flatMap f ++ e)
  | 0, h => absurd h (Nat.not_lt_zero n)
  | m + 1, h => by
    have hsame : ∀ k, k ≤ n → (List.range k).flatMap g = (List.range k).flatMap f := by
      intro k hk
      rw [List.flatMap_def, List.flatMap_def, List.map_congr_left]
      intro j hj
      exact hother j (by rw [List.mem_range] at hj; omega)
    rw [List.range_succ, List.flatMap_append, List.flatMap_append, List.flatMap_singleton,
      List.flatMap_singleton]
    by_cases hm : m = n
    · subst hm
      rw [hsame m (Nat.le_refl m), hn, List.append_assoc]
    · rw [hother m hm, List.append_assoc]
      have ih := perm_flatMap_range_of_update hn hother m (by omega)
      exact (ih.append_right (f m)).trans
        (by rw [List.append_assoc]; exact List.Perm.append_left _ List.perm_append_comm)

theorem sum_range_of_update {f g : Nat → Nat} {c n : Nat} (hn : g n = f n + c)
    (hother : ∀ j, j ≠ n → g j = f j) :
    ∀ m, n < m → ((List.range m).map g).sum = ((List.range m).map f).sum + c
  | 0, h => absurd h (Nat.not_lt_zero n)
  | m + 1, h => by
    rw [List.range_succ, List.map_append, List.map_append, List.sum_append, List.sum_append]
    by_cases hm : m = n
    · subst hm
      have hsame : (List.range m).map g = (List.range m).map f := by
        apply List.map_congr_left
        intro j hj
        exact hother j (by rw [List.mem_range] at hj; omega)
      simp only [hsame, List.map_singleton, List.sum_singleton, hn]
      omega
    · have ih := sum_range_of_update hn hother m (by omega)
      simp only [ih, List.map_singleton, List.sum_singleton, hother m hm]
      omega

variable {p d : Nat} {lives : List JobLife} {τ τ' : Nat → Nat}

theorem callsBy_congr
    (h : ∀ n (L : JobLife), lives[n]? = some L → L.calls p d (τ' n) = L.calls p d (τ n)) :
    callsBy p d lives τ' = callsBy p d lives τ := by
  unfold callsBy
  rw [List.flatMap_def, List.flatMap_def, List.map_congr_left]
  intro n _
  cases hL : lives[n]? with
  | none => rfl
  | some L => simp [h n L hL]

theorem completedBy_congr
    (h : ∀ n (L : JobLife), lives[n]? = some L → L.completed p d (τ' n) = L.completed p d (τ n)) :
    completedBy p d lives τ' = completedBy p d lives τ := by
  unfold completedBy
  congr 1
  apply List.map_congr_left
  intro n _
  cases hL : lives[n]? with
  | none => rfl
  | some L => simp [h n L hL]

-- Moving one job on to a later moment adds that job's new calls.
theorem callsBy_update {n : Nat} {L : JobLife} {e : List (Nat × String × String)}
    (hL : lives[n]? = some L) (he : L.calls p d (τ' n) = L.calls p d (τ n) ++ e)
    (hother : ∀ m, m ≠ n → τ' m = τ m) :
    (callsBy p d lives τ').Perm (callsBy p d lives τ ++ e) := by
  refine perm_flatMap_range_of_update (by simp [hL, he]) (fun j hj => by rw [hother j hj]) _
    (List.getElem?_eq_some_iff.mp hL).1

theorem completedBy_update {n : Nat} {L : JobLife} {c : Nat} (hL : lives[n]? = some L)
    (hc : L.completed p d (τ' n) = L.completed p d (τ n) + c)
    (hother : ∀ m, m ≠ n → τ' m = τ m) :
    completedBy p d lives τ' = completedBy p d lives τ + c :=
  sum_range_of_update (by simp [hL, hc]) (fun j hj => by rw [hother j hj]) _
    (List.getElem?_eq_some_iff.mp hL).1

end Bookkeeping

end JobLife

end RouteWatch
