import RouteWatch.Proofs.System.Settle
import RouteWatch.Proofs.Schedule.Cadence

-- Letting time pass.
namespace RouteWatch

open Schedule

-- A call as the moment it started, its app name and its address.
def Call.moment (c : Call) : Nat × String × String :=
  (c.time, c.appName, c.serviceIp)

namespace Ledger

variable (g : Ledger)

@[simp] theorem moments_start (ex : Executor) (now : Nat) (i : Interest Stamp) :
    (g.start ex now i).calls.map Call.moment =
      g.calls.map Call.moment ++ [(now, i.appName, i.serviceIp)] := by
  simp [start, calls, Call.moment]

@[simp] theorem completed_start (ex : Executor) (now : Nat) (i : Interest Stamp) :
    (g.start ex now i).completed = g.completed := rfl

@[simp] theorem calls_finish : g.finish.calls = g.calls := rfl

@[simp] theorem completed_finish : g.finish.completed = g.completed + 1 := rfl

end Ledger

-- Where a live loop stands at time `T` when its calls fall on the grid `b + j * gap p d` and
-- each lasts `waitOf d`: between calls, with every call so far ended and the deadline on the next
-- point of the grid; or inside call `k`, which ends after `T`, with a deadline on or before the
-- next point, and on it unless calls outlast periods.
inductive Loop.Paced (p d b T : Nat) (l : Loop) : Prop where
  | idle (hends : l.callEnds = none) (hdeadline : l.deadline = b + ticksBy b (gap p d) T * gap p d)
      (hdone : ticksBy (b + waitOf d) (gap p d) T = ticksBy b (gap p d) T)
  | busy (k : Nat) (hk : ticksBy b (gap p d) T = k + 1)
      (hends : l.callEnds = some (b + k * gap p d + waitOf d)) (hT : T < b + k * gap p d + waitOf d)
      (hdeadline : l.deadline ≤ b + (k + 1) * gap p d)
      (hgrid : l.deadline = b + (k + 1) * gap p d ∨ (waitOf d = gap p d ∧ p ≤ farFuture))

namespace Loop.Paced

variable {p d b T : Nat} {l : Loop}

theorem lt_due (hp : 0 < p) (h : l.Paced p d b T) : T < l.due := by
  have hg := gap_pos d hp
  cases h with
  | idle hends hdeadline _ =>
    unfold Loop.due
    rw [hends, Option.getD_none, hdeadline]
    have := mt (lt_ticksBy_iff (b := b) (T := T) hg (j := ticksBy b (gap p d) T)).mpr
      (Nat.lt_irrefl _)
    omega
  | busy k _ hends hT _ _ =>
    unfold Loop.due
    rw [hends, Option.getD_some]
    exact hT

theorem of_timer {l' : Loop} (h : l.Paced p d b T) (hd : l'.deadline = l.deadline)
    (hc : l'.callEnds = l.callEnds) : l'.Paced p d b T := by
  cases h with
  | idle hends hdeadline hdone => exact .idle (hc.trans hends) (hd.trans hdeadline) hdone
  | busy k hk hends hT hdeadline hgrid =>
    exact .busy k hk (hc.trans hends) hT (by rw [hd]; exact hdeadline) (by rw [hd]; exact hgrid)

-- A loop inside a call has a delay to wait for.
theorem delay_ne_zero (hp : 0 < p) (h : l.Paced p d b T) {e : Nat} (hends : l.callEnds = some e) :
    d ≠ 0 := by
  cases h with
  | idle hends' _ _ => rw [hends] at hends'; cases hends'
  | busy k hk _ hT _ _ =>
    intro hd
    subst hd
    have hb := ticksBy_bracket (gap_pos 0 hp) hk
    have hw : waitOf 0 = 0 := rfl
    omega

-- Before the loop is due nothing happens to it: at any later moment it stands as it stood.
theorem later (hp : 0 < p) (h : l.Paced p d b T) {T' : Nat} (hT : T ≤ T') (hdue : T' < l.due) :
    l.Paced p d b T' ∧ ticksBy b (gap p d) T' = ticksBy b (gap p d) T ∧
      ticksBy (b + waitOf d) (gap p d) T' = ticksBy (b + waitOf d) (gap p d) T := by
  have hg := gap_pos d hp
  have hdd := waitOf_le_gap p d
  cases h with
  | idle hends hdeadline hdone =>
    -- the next point of the grid is the deadline, still to come
    unfold Loop.due at hdue
    rw [hends, Option.getD_none, hdeadline] at hdue
    have hticks : ticksBy b (gap p d) T' = ticksBy b (gap p d) T := by
      apply Nat.le_antisymm
      · apply Nat.le_of_not_lt
        intro hlt
        have := (lt_ticksBy_iff (b := b) (T := T') hg).mp hlt
        omega
      · exact ticksBy_mono hg hT
    have hdone' : ticksBy (b + waitOf d) (gap p d) T' = ticksBy (b + waitOf d) (gap p d) T := by
      apply Nat.le_antisymm
      · calc ticksBy (b + waitOf d) (gap p d) T'
            ≤ ticksBy b (gap p d) T' := ticksBy_le_of_le hg (Nat.le_add_right b (waitOf d))
          _ = ticksBy b (gap p d) T := hticks
          _ = ticksBy (b + waitOf d) (gap p d) T := hdone.symm
      · exact ticksBy_mono hg hT
    exact ⟨.idle hends (by rw [hticks]; exact hdeadline) (by rw [hdone', hticks]; exact hdone),
      hticks, hdone'⟩
  | busy k hk hends hT' hdeadline hgrid =>
    -- the call in flight ends after `T'`, and the next point of the grid is later still
    unfold Loop.due at hdue
    rw [hends, Option.getD_some] at hdue
    have hb := ticksBy_bracket hg hk
    have hkg : (k + 1) * gap p d = k * gap p d + gap p d := Nat.add_one_mul k (gap p d)
    have hticks : ticksBy b (gap p d) T' = k + 1 := ticksBy_eq_succ hg (by omega) (by omega)
    have hdone := ticksBy_done_during hg hdd (b := b) (T := T) (by omega) hT'
    have hdone' := ticksBy_done_during hg hdd (b := b) (T := T') (by omega) hdue
    exact ⟨.busy k hticks hends hdue hdeadline hgrid, hticks.trans hk.symm,
      hdone'.trans hdone.symm⟩

-- Between calls, at its deadline, a loop takes the next point of the grid.
theorem tick_now (hp : 0 < p) (h : l.Paced p d b T) (hends : l.callEnds = none) {now : Nat}
    (hdl : l.deadline = now) :
    b + ticksBy b (gap p d) T * gap p d = now ∧
      ticksBy b (gap p d) now = ticksBy b (gap p d) T + 1 := by
  have hg := gap_pos d hp
  cases h with
  | idle _ hdeadline _ =>
    have hkg := Nat.add_one_mul (ticksBy b (gap p d) T) (gap p d)
    exact ⟨hdeadline.symm.trans hdl, ticksBy_eq_succ hg (by omega) (by omega)⟩
  | busy k _ hends' _ _ _ => rw [hends] at hends'; cases hends'

-- Without delay the call ends as it starts, and the next deadline is one gap on.
theorem tick_of_zero (hp : 0 < p) (h : l.Paced p d b T) (hends : l.callEnds = none) {now : Nat}
    (hdl : l.deadline = now) (hd : d = 0) (l' : Loop) (hc' : l'.callEnds = none)
    (hd' : l'.deadline = nextDeadline p now now) :
    l'.Paced p d b now ∧
      ticksBy (b + waitOf d) (gap p d) now = ticksBy (b + waitOf d) (gap p d) T + 1 := by
  subst hd
  have hw : waitOf 0 = 0 := rfl
  have hgap : gap p 0 = min p farFuture := by unfold gap; omega
  obtain ⟨hpoint, hticks⟩ := tick_now hp h hends hdl
  cases h with
  | idle _ _ hdone0 =>
    rw [hw, Nat.add_zero] at hdone0 ⊢
    have hkg := Nat.add_one_mul (ticksBy b (gap p 0) T) (gap p 0)
    refine ⟨.idle hc' ?_ (by rw [hw, Nat.add_zero]), hticks⟩
    rw [hd', nextDeadline_self, hticks, ← hgap]
    omega
  | busy k _ hends' _ _ _ => rw [hends] at hends'; cases hends'

-- With a delay the call runs on; the deadline it sets lies at most one gap on.
theorem tick_of_pos (hp : 0 < p) (h : l.Paced p d b T) (hends : l.callEnds = none) {now : Nat}
    (hdl : l.deadline = now) (hd : d ≠ 0) (l' : Loop) (hc' : l'.callEnds = some (now + waitOf d))
    (hd' : l'.deadline = nextDeadline p now now) :
    l'.Paced p d b now ∧
      ticksBy (b + waitOf d) (gap p d) now = ticksBy (b + waitOf d) (gap p d) T := by
  have hg := gap_pos d hp
  have hdd := waitOf_le_gap p d
  have hw := waitOf_pos (Nat.pos_of_ne_zero hd)
  obtain ⟨hpoint, hticks⟩ := tick_now hp h hends hdl
  obtain ⟨hle, hgrid⟩ := nextDeadline_le_gap (p := p) d (Nat.le_refl now) (Or.inl rfl)
  cases h with
  | idle _ _ hdone =>
    have hkg := Nat.add_one_mul (ticksBy b (gap p d) T) (gap p d)
    refine ⟨.busy (ticksBy b (gap p d) T) hticks (by rw [hc', hpoint]) (by omega)
      (by rw [hd']; omega) ?_, ?_⟩
    · rcases hgrid with hgrid | hgrid
      · exact Or.inl (by rw [hd', hgrid]; omega)
      · exact Or.inr hgrid
    · rw [hdone]
      exact ticksBy_done_during hg hdd (by omega) (by omega)
  | busy k _ hends' _ _ _ => rw [hends] at hends'; cases hends'

-- A call that ends when its deadline has come is followed at once by the next tick, which is
-- the next point of the grid.
theorem finish_tick (hp : 0 < p) (h : l.Paced p d b T) {now : Nat} (hends : l.callEnds = some now)
    (hdl : l.deadline ≤ now) (l' : Loop) (hc' : l'.callEnds = some (now + waitOf d))
    (hd' : l'.deadline = nextDeadline p l.deadline now) :
    b + ticksBy b (gap p d) T * gap p d = now ∧
      ticksBy b (gap p d) now = ticksBy b (gap p d) T + 1 ∧ l'.Paced p d b now ∧
      ticksBy (b + waitOf d) (gap p d) now = ticksBy (b + waitOf d) (gap p d) T + 1 := by
  have hg := gap_pos d hp
  have hdd := waitOf_le_gap p d
  have hd := h.delay_ne_zero hp hends
  have hw := waitOf_pos (Nat.pos_of_ne_zero hd)
  cases h with
  | idle hends' _ _ => rw [hends] at hends'; cases hends'
  | busy k hk hends' hT hdeadline hgrid =>
    rw [hends] at hends'
    cases hends'
    have hb := ticksBy_bracket hg hk
    have hkg := Nat.add_one_mul k (gap p d)
    have hkg' := Nat.add_one_mul (k + 1) (gap p d)
    -- the call ends exactly at the next point of the grid
    have hpoint : b + (k + 1) * gap p d = b + k * gap p d + waitOf d := by
      rcases hgrid with hgrid | ⟨hwg, -⟩ <;> omega
    obtain ⟨hle, hgrid'⟩ := nextDeadline_le_gap (p := p) d hdl (by
      rcases hgrid with hgrid | hgrid
      · exact Or.inl (by omega)
      · exact Or.inr hgrid)
    have hticks : ticksBy b (gap p d) (b + k * gap p d + waitOf d) = k + 1 + 1 :=
      ticksBy_eq_succ hg (by omega) (by omega)
    refine ⟨by rw [hk]; omega, by rw [hticks, hk], ?_, ?_⟩
    · refine .busy (k + 1) hticks (by rw [hc', hpoint]) (by omega) (by rw [hd']; omega) ?_
      rcases hgrid' with hgrid' | hgrid'
      · exact Or.inl (by rw [hd', hgrid']; omega)
      · exact Or.inr hgrid'
    · rw [ticksBy_done_at_end hg, ticksBy_done_during hg hdd (by omega) hT]

-- A call that ends before its deadline leaves the loop between calls.
theorem finish_idle (hp : 0 < p) (h : l.Paced p d b T) {now : Nat} (hends : l.callEnds = some now)
    (hdl : now < l.deadline) (l' : Loop) (hc' : l'.callEnds = none) (hd' : l'.deadline = l.deadline) :
    ticksBy b (gap p d) now = ticksBy b (gap p d) T ∧ l'.Paced p d b now ∧
      ticksBy (b + waitOf d) (gap p d) now = ticksBy (b + waitOf d) (gap p d) T + 1 := by
  have hg := gap_pos d hp
  have hdd := waitOf_le_gap p d
  cases h with
  | idle hends' _ _ => rw [hends] at hends'; cases hends'
  | busy k hk hends' hT hdeadline hgrid =>
    rw [hends] at hends'
    cases hends'
    have hb := ticksBy_bracket hg hk
    have hkg := Nat.add_one_mul k (gap p d)
    -- the deadline is the next point of the grid, still to come
    have hnext : l.deadline = b + (k + 1) * gap p d := by
      rcases hgrid with hgrid | ⟨hwg, -⟩
      · exact hgrid
      · omega
    have hticks : ticksBy b (gap p d) (b + k * gap p d + waitOf d) = k + 1 :=
      ticksBy_eq_succ hg (by omega) (by omega)
    refine ⟨by rw [hticks, hk], .idle hc' (by rw [hd', hticks, hnext]) ?_, ?_⟩
    · rw [ticksBy_done_at_end hg, hticks]
    · rw [ticksBy_done_at_end hg, ticksBy_done_during hg hdd (by omega) hT]

end Loop.Paced

namespace JobLife

variable {L : JobLife} {p d T now : Nat}

-- A tick at the next point of the grid adds that point to the job's calls.
theorem calls_tick (hL : L.ended = none)
    (hticks : ticksBy (L.started + p) (gap p d) now = ticksBy (L.started + p) (gap p d) T + 1)
    (hpoint : L.started + p + ticksBy (L.started + p) (gap p d) T * gap p d = now) :
    L.calls p d now = L.calls p d T ++ [(now, L.snapshot.appName, L.snapshot.serviceIp)] := by
  rw [calls_succ (T := T) (by rw [horizon_none hL, horizon_none hL]; exact hticks), horizon_none hL, hpoint]

theorem calls_still (hL : L.ended = none)
    (hticks : ticksBy (L.started + p) (gap p d) now = ticksBy (L.started + p) (gap p d) T) :
    L.calls p d now = L.calls p d T :=
  calls_congr (by rw [horizon_none hL, horizon_none hL]; exact hticks)

theorem completed_add (hp : 0 < p) (hL : L.ended = none) {c : Nat}
    (hdone : ticksBy (L.started + p + waitOf d) (gap p d) now =
      ticksBy (L.started + p + waitOf d) (gap p d) T + c) :
    L.completed p d now = L.completed p d T + c := by
  rw [completed_eq hp, completed_eq hp, horizon_none hL, horizon_none hL, hdone]

end JobLife

namespace System

variable (s : System) {n : Nat} {l : Loop}

theorem runLoop_of_idle (hn : s.loops[n]? = some l) (hlive : l.live = true)
    (hends : l.callEnds = none) : s.runLoop n = takeTicks n (s.now + 1 - l.deadline) l s := by
  have hl : l.exited = false ∧ l.cancelled = false := by simpa [Loop.live] using hlive
  simp [runLoop, hn, hl.1, hl.2, hends]

theorem runLoop_of_end (hn : s.loops[n]? = some l) (hlive : l.live = true) {e : Nat}
    (hends : l.callEnds = some e) (he : e ≤ s.now) :
    s.runLoop n = takeTicks n (s.now + 1 - l.deadline) { l with callEnds := none }
      { s with ledger := s.ledger.finish } := by
  have hl : l.exited = false ∧ l.cancelled = false := by simpa [Loop.live] using hlive
  simp [runLoop, hn, hl.1, hl.2, hends, he]

-- On an executor with a delay, a due loop takes one tick, whose call runs on.
theorem takeTicks_of_delay {fuel : Nat} (hfuel : 0 < fuel) (hdl : l.deadline ≤ s.now)
    (hd : s.executor.delay ≠ 0) :
    takeTicks n fuel l s = { s with
      loops := s.loops.set n
        { l with
          deadline := nextDeadline l.period l.deadline s.now
          callEnds := some (s.now + waitOf s.executor.delay) }
      ledger := s.ledger.start s.executor s.now l.snapshot } := by
  obtain ⟨fuel, rfl⟩ : ∃ f, fuel = f + 1 := ⟨fuel - 1, by omega⟩
  simp only [takeTicks, if_pos hdl, if_neg hd]
  rfl

-- Without delay, the call of the one tick due ends at once.
theorem takeTicks_one_of_zero (hdl : l.deadline = s.now) (hd : s.executor.delay = 0) :
    takeTicks n 1 l s = { s with
      loops := s.loops.set n { l with deadline := nextDeadline l.period l.deadline s.now },
      ledger := (s.ledger.start s.executor s.now l.snapshot).finish } := by
  simp only [takeTicks, if_pos (Nat.le_of_eq hdl), hd, if_true]
  rfl

variable {s}

-- What running a live loop at the moment it is due does, for the job whose grid it follows:
-- it stands as it must now, and the ledger gains the job's new calls and completions.
theorem runLoop_paced {p T : Nat} {L : JobLife} (hn : s.loops[n]? = some l)
    (hlive : l.live = true) (hperiod : l.period = p) (hp : 0 < p) (hdue : l.due = s.now)
    (hL : L.ended = none) (hsnap : l.snapshot = L.snapshot)
    (hpace : l.Paced p s.executor.delay (L.started + p) T) :
    ∃ l' g, s.runLoop n = { s with loops := s.loops.set n l', ledger := g } ∧
      l'.snapshot = l.snapshot ∧ l'.period = l.period ∧ l'.live = true ∧
      l'.Paced p s.executor.delay (L.started + p) s.now ∧
      (∃ e, L.calls p s.executor.delay s.now = L.calls p s.executor.delay T ++ e ∧
        g.calls.map Call.moment = s.ledger.calls.map Call.moment ++ e) ∧
      (∃ c, L.completed p s.executor.delay s.now = L.completed p s.executor.delay T + c ∧
        g.completed = s.ledger.completed + c) := by
  cases hends : l.callEnds with
  | none =>
    -- between calls: the loop is due at its deadline and takes one tick
    have hdl : l.deadline = s.now := by
      unfold Loop.due at hdue
      rwa [hends, Option.getD_none] at hdue
    obtain ⟨hpoint, hticks⟩ := hpace.tick_now hp hends hdl
    have hcalls := JobLife.calls_tick hL hticks hpoint
    rw [runLoop_of_idle s hn hlive hends, hdl, Nat.add_sub_cancel_left]
    by_cases hd : s.executor.delay = 0
    · obtain ⟨hpace', hdone⟩ := hpace.tick_of_zero hp hends hdl hd
        { l with deadline := nextDeadline l.period l.deadline s.now } hends
        (by rw [hperiod, hdl])
      refine ⟨_, _, takeTicks_one_of_zero s hdl hd, rfl, rfl, hlive, hpace', ⟨_, hcalls, ?_⟩,
        ⟨1, JobLife.completed_add hp hL hdone, by simp⟩⟩
      simp [hsnap]
    · obtain ⟨hpace', hdone⟩ := hpace.tick_of_pos hp hends hdl hd
        { l with
          deadline := nextDeadline l.period l.deadline s.now
          callEnds := some (s.now + waitOf s.executor.delay) } rfl (by rw [hperiod, hdl])
      refine ⟨_, _, takeTicks_of_delay s Nat.one_pos (Nat.le_of_eq hdl) hd, rfl, rfl, hlive,
        hpace', ⟨_, hcalls, ?_⟩, ⟨0, JobLife.completed_add hp hL hdone, by simp⟩⟩
      simp [hsnap]
  | some e =>
    -- inside a call: the loop is due when the call ends
    have he : e = s.now := by
      unfold Loop.due at hdue
      rwa [hends, Option.getD_some] at hdue
    subst he
    rw [runLoop_of_end s hn hlive hends (Nat.le_refl _)]
    by_cases hdl : l.deadline ≤ s.now
    · -- the deadline has come too: the next call starts as this one ends
      have hd := hpace.delay_ne_zero hp hends
      obtain ⟨hpoint, hticks, hpace', hdone⟩ := hpace.finish_tick hp hends hdl
        { l with
          deadline := nextDeadline l.period l.deadline s.now
          callEnds := some (s.now + waitOf s.executor.delay) } rfl (by rw [hperiod])
      rw [takeTicks_of_delay (l := { l with callEnds := none }) { s with ledger := s.ledger.finish }
        (by omega) hdl hd]
      refine ⟨_, _, rfl, rfl, rfl, hlive, hpace', ⟨_, JobLife.calls_tick hL hticks hpoint, ?_⟩,
        ⟨1, JobLife.completed_add hp hL hdone, by simp⟩⟩
      simp [hsnap]
    · obtain ⟨hticks, hpace', hdone⟩ := hpace.finish_idle hp hends (by omega)
        { l with callEnds := none } rfl rfl
      rw [show s.now + 1 - l.deadline = 0 by omega]
      refine ⟨_, _, rfl, rfl, rfl, hlive, hpace',
        ⟨[], by rw [JobLife.calls_still hL hticks, List.append_nil], by simp⟩,
        ⟨1, JobLife.completed_add hp hL hdone, by simp⟩⟩

end System

namespace System

section Due

variable (s : System)

-- Waking the due loops readies the live loops due by now, beside what was ready.
theorem mem_wakeDue_ready (x : Task) : x ∈ s.wakeDue.ready ↔ x ∈ s.ready ∨
    ∃ (n : Nat) (l : Loop), x = .loop n ∧ s.loops[n]? = some l ∧ l.live = true ∧ l.due ≤ s.now := by
  have hpairs : (∃ (n : Nat) (l : Loop), x = .loop n ∧ s.loops[n]? = some l ∧ l.live = true ∧
      l.due ≤ s.now) ↔ ∃ p ∈ s.loops.zipIdx, x = .loop p.2 ∧ p.1.live = true ∧ p.1.due ≤ s.now := by
    constructor
    · rintro ⟨n, l, hx, hn, hlive, hdue⟩
      exact ⟨(l, n), List.mem_zipIdx_iff_getElem?.mpr hn, hx, hlive, hdue⟩
    · rintro ⟨⟨l, n⟩, hp, hx, hlive, hdue⟩
      exact ⟨n, l, hx, List.mem_zipIdx_iff_getElem?.mp hp, hlive, hdue⟩
  rw [hpairs]
  clear hpairs
  unfold wakeDue
  generalize s.loops.zipIdx = ls
  -- waking keeps the time, so every pair is judged against the same moment
  induction ls generalizing s with
  | nil => simp
  | cons p rest ih =>
    obtain ⟨l, n⟩ := p
    rw [List.foldl_cons]
    dsimp only
    split
    · rename_i hdue
      simp only [Bool.and_eq_true, decide_eq_true_eq] at hdue
      refine (ih (s.wake (.loop n))).trans ?_
      rw [mem_wake_ready, wake_now]
      simp [hdue.1, hdue.2, or_assoc]
    · rename_i hdue
      simp only [Bool.and_eq_true, decide_eq_true_eq, not_and] at hdue
      refine (ih s).trans ?_
      simp only [List.mem_cons, exists_eq_or_imp]
      constructor
      · rintro (hx | hx)
        · exact Or.inl hx
        · exact Or.inr (Or.inr hx)
      · rintro (hx | ⟨-, hlive, hle⟩ | hx)
        · exact Or.inl hx
        · exact absurd hle (hdue hlive)
        · exact Or.inr hx

end Due

section Earliest

variable (F : Option Nat → Loop → Option Nat)
  (hF : ∀ acc l, F acc l = if l.live = true then some ((acc.map (min · l.due)).getD l.due) else acc)
include hF

-- The fold that finds the next moment a loop is due: what it finds is reached by a live loop
-- or by where it started, and lies below all of them.
theorem foldl_earliest : ∀ (ls : List Loop) (acc : Option Nat) (x : Nat),
    ls.foldl F acc = some x →
      ((∃ a, acc = some a ∧ a ≤ x) ∨ ∃ l ∈ ls, l.live = true ∧ l.due ≤ x) ∧
        (∀ a, acc = some a → x ≤ a) ∧ ∀ l ∈ ls, l.live = true → x ≤ l.due := by
  intro ls
  induction ls with
  | nil =>
    intro acc x h
    rw [List.foldl_nil] at h
    subst h
    exact ⟨Or.inl ⟨x, rfl, le_rfl⟩, fun a ha => (Option.some_inj.mp ha).le, by simp⟩
  | cons l rest ih =>
    intro acc x h
    rw [List.foldl_cons] at h
    obtain ⟨hlow, hup, hall⟩ := ih _ x h
    rw [hF] at hlow hup
    by_cases hlive : l.live = true
    · rw [if_pos hlive] at hlow hup
      have hx := hup _ rfl
      refine ⟨?_, fun a ha => ?_, fun l' hl' hlive' => ?_⟩
      · rcases hlow with ⟨a, ha, hax⟩ | ⟨l', hl', hlive', hdue'⟩
        · cases acc with
          | none =>
            simp only [Option.map_none, Option.getD_none, Option.some_inj] at ha
            exact Or.inr ⟨l, List.mem_cons_self, hlive, by omega⟩
          | some b =>
            simp only [Option.map_some, Option.getD_some, Option.some_inj] at ha
            by_cases hb : b ≤ x
            · exact Or.inl ⟨b, rfl, hb⟩
            · exact Or.inr ⟨l, List.mem_cons_self, hlive, by omega⟩
        · exact Or.inr ⟨l', List.mem_cons_of_mem _ hl', hlive', hdue'⟩
      · subst ha
        simp only [Option.map_some, Option.getD_some] at hx
        omega
      · rcases List.mem_cons.mp hl' with rfl | hl'
        · cases acc <;> simp at hx <;> omega
        · exact hall l' hl' hlive'
    · rw [if_neg hlive] at hlow hup
      refine ⟨?_, hup, fun l' hl' hlive' => ?_⟩
      · rcases hlow with hlow | ⟨l', hl', h'⟩
        · exact Or.inl hlow
        · exact Or.inr ⟨l', List.mem_cons_of_mem _ hl', h'⟩
      · rcases List.mem_cons.mp hl' with rfl | hl'
        · exact absurd hlive' hlive
        · exact hall l' hl' hlive'

theorem foldl_earliest_none : ∀ (ls : List Loop) (acc : Option Nat), ls.foldl F acc = none →
    acc = none ∧ ∀ l ∈ ls, l.live = false := by
  intro ls
  induction ls with
  | nil => exact fun acc h => ⟨h, by simp⟩
  | cons l rest ih =>
    intro acc h
    rw [List.foldl_cons] at h
    obtain ⟨hacc, hall⟩ := ih _ h
    rw [hF] at hacc
    by_cases hlive : l.live = true
    · rw [if_pos hlive] at hacc
      exact absurd hacc (Option.some_ne_none _)
    · rw [if_neg hlive] at hacc
      refine ⟨hacc, fun l' hl' => ?_⟩
      rcases List.mem_cons.mp hl' with rfl | hl'
      · simpa using hlive
      · exact hall l' hl'

end Earliest

variable {s : System}

theorem nextDue_some {x : Nat} (h : s.nextDue = some x) :
    (∃ (n : Nat) (l : Loop), s.loops[n]? = some l ∧ l.live = true ∧ l.due ≤ x) ∧
      ∀ (n : Nat) (l : Loop), s.loops[n]? = some l → l.live = true → x ≤ l.due := by
  unfold nextDue at h
  obtain ⟨hlow, -, hall⟩ := foldl_earliest _ (fun acc l => by cases acc <;> rfl) s.loops none x h
  refine ⟨?_, fun n l hn hlive => hall l (List.mem_of_getElem? hn) hlive⟩
  rcases hlow with ⟨a, ha, -⟩ | ⟨l, hl, hlive, hdue⟩
  · cases ha
  · obtain ⟨n, hn⟩ := List.mem_iff_getElem?.mp hl
    exact ⟨n, l, hn, hlive, hdue⟩

theorem nextDue_none (h : s.nextDue = none) (n : Nat) (l : Loop) (hn : s.loops[n]? = some l) :
    l.live = false := by
  unfold nextDue at h
  exact (foldl_earliest_none _ (fun acc l => by cases acc <;> rfl) s.loops none h).2 l
    (List.mem_of_getElem? hn)

end System

namespace System

-- The loops of `s` follow the grids of the jobs of `lives`, the `n`-th as at the moment `τ n`,
-- and the ledger holds exactly the calls and completions those grids have reached.
structure TimedBy (lives : List JobLife) (τ : Nat → Nat) (s : System) : Prop where
  period : 0 < s.table.period
  length : lives.length = s.loops.length
  loop : ∀ (n : Nat) (L : JobLife) (l : Loop), lives[n]? = some L → s.loops[n]? = some l →
    l.snapshot = L.snapshot ∧ l.period = s.table.period ∧ (L.ended = none ↔ l.live = true)
  paced : ∀ (n : Nat) (L : JobLife) (l : Loop), lives[n]? = some L → s.loops[n]? = some l →
    L.ended = none → l.Paced s.table.period s.executor.delay (L.started + s.table.period) (τ n)
  ended : ∀ (n : Nat) (L : JobLife) (c : Nat), lives[n]? = some L → L.ended = some c → c ≤ τ n
  calls : (s.ledger.calls.map Call.moment).Perm
    (JobLife.callsBy s.table.period s.executor.delay lives τ)
  completed : s.ledger.completed = JobLife.completedBy s.table.period s.executor.delay lives τ

-- `s'` is `s` later on: the table and the executor stand and every loop keeps its interest.
structure Passed (s s' : System) : Prop where
  table : s'.table = s.table
  executor : s'.executor = s.executor
  snapshots : s'.loops.map Loop.snapshot = s.loops.map Loop.snapshot

theorem Passed.refl (s : System) : Passed s s := ⟨rfl, rfl, rfl⟩

theorem Passed.trans {s₁ s₂ s₃ : System} (h : Passed s₁ s₂) (h' : Passed s₂ s₃) :
    Passed s₁ s₃ :=
  ⟨h'.table.trans h.table, h'.executor.trans h.executor, h'.snapshots.trans h.snapshots⟩

theorem map_snapshot_set {ls : List Loop} {n : Nat} {l l' : Loop} (hn : ls[n]? = some l)
    (hs : l'.snapshot = l.snapshot) : (ls.set n l').map Loop.snapshot = ls.map Loop.snapshot := by
  apply List.ext_getElem?
  intro i
  by_cases hi : i = n
  · subst hi
    have hlt : i < (ls.map Loop.snapshot).length := by
      simpa using (List.getElem?_eq_some_iff.mp hn).1
    simp [List.map_set, hs, List.getElem?_set_self hlt, hn]
  · simp [List.getElem?_set_ne (Ne.symm hi)]

namespace TimedBy

variable {lives : List JobLife} {τ : Nat → Nat} {s : System}

theorem life (h : TimedBy lives τ s) {n : Nat} {l : Loop} (hn : s.loops[n]? = some l) :
    ∃ L, lives[n]? = some L := by
  have hlt : n < lives.length := h.length ▸ (List.getElem?_eq_some_iff.mp hn).1
  exact ⟨_, List.getElem?_eq_getElem hlt⟩

theorem loopOf (h : TimedBy lives τ s) {n : Nat} {L : JobLife} (hL : lives[n]? = some L) :
    ∃ l, s.loops[n]? = some l := by
  have hlt : n < s.loops.length := h.length ▸ (List.getElem?_eq_some_iff.mp hL).1
  exact ⟨_, List.getElem?_eq_getElem hlt⟩

-- Only the table, the executor, the loops and the ledger count.
theorem of_frame (h : TimedBy lives τ s) {s' : System} (ht : s'.table = s.table)
    (hx : s'.executor = s.executor) (hl : s'.loops = s.loops) (hg : s'.ledger = s.ledger) :
    TimedBy lives τ s' := by
  obtain ⟨h1, h2, h3, h4, h5, h6, h7⟩ := h
  refine ⟨?_, ?_, ?_, ?_, h5, ?_, ?_⟩ <;> simp only [ht, hx, hl, hg] <;> assumption

-- Each job moves on to a later moment at which its loop is not yet due: its loop stands as it
-- must then, and it has no new calls.
theorem later (h : TimedBy lives τ s) {τ' : Nat → Nat} (hτ : ∀ n, τ n ≤ τ' n)
    (hdue : ∀ (n : Nat) (l : Loop), s.loops[n]? = some l → l.live = true → τ n < τ' n →
      τ' n < l.due) :
    TimedBy lives τ' s := by
  have hp := h.period
  -- a job whose loop is live keeps the count of its grid; one that ended stopped counting
  have hsame : ∀ (n : Nat) (L : JobLife), lives[n]? = some L →
      ticksBy (L.started + s.table.period) (gap s.table.period s.executor.delay) (L.horizon (τ' n)) =
        ticksBy (L.started + s.table.period) (gap s.table.period s.executor.delay) (L.horizon (τ n)) ∧
      ticksBy (L.started + s.table.period + waitOf s.executor.delay)
          (gap s.table.period s.executor.delay) (L.horizon (τ' n)) =
        ticksBy (L.started + s.table.period + waitOf s.executor.delay)
          (gap s.table.period s.executor.delay) (L.horizon (τ n)) := by
    intro n L hL
    cases hend : L.ended with
    | some c =>
      have hc := h.ended n L c hL hend
      rw [JobLife.horizon_some hend hc, JobLife.horizon_some hend (hc.trans (hτ n))]
      exact ⟨rfl, rfl⟩
    | none =>
      obtain ⟨l, hn⟩ := h.loopOf hL
      have hlive := ((h.loop n L l hL hn).2.2).mp hend
      have hpace := h.paced n L l hL hn hend
      rw [JobLife.horizon_none hend, JobLife.horizon_none hend]
      rcases Nat.lt_or_eq_of_le (hτ n) with hlt | heq
      · obtain ⟨-, h1, h2⟩ := hpace.later hp (hτ n) (hdue n l hn hlive hlt)
        exact ⟨h1, h2⟩
      · rw [heq]
        exact ⟨rfl, rfl⟩
  refine ⟨hp, h.length, h.loop, fun n L l hL hn hend => ?_, fun n L c hL hc => ?_, ?_, ?_⟩
  · have hpace := h.paced n L l hL hn hend
    have hlive := ((h.loop n L l hL hn).2.2).mp hend
    rcases Nat.lt_or_eq_of_le (hτ n) with hlt | heq
    · exact (hpace.later hp (hτ n) (hdue n l hn hlive hlt)).1
    · exact heq ▸ hpace
  · exact (h.ended n L c hL hc).trans (hτ n)
  · rw [JobLife.callsBy_congr fun n L hL => JobLife.calls_congr (hsame n L hL).1]
    exact h.calls
  · rw [JobLife.completedBy_congr fun n L hL => ?_]
    · exact h.completed
    · rw [JobLife.completed_eq hp, JobLife.completed_eq hp, (hsame n L hL).2]

-- One loop moves on to the moment `X`, and the ledger with it by the new points of its grid.
theorem update (h : TimedBy lives τ s) {s' : System} {n X Y : Nat} {L : JobLife} {l l' : Loop}
    (hL : lives[n]? = some L) (hn : s.loops[n]? = some l) (hended : L.ended = none)
    (hY : τ n = Y) (htable : s'.table = s.table) (hexec : s'.executor = s.executor)
    (hloops : s'.loops = s.loops.set n l') (hsnap : l'.snapshot = l.snapshot)
    (hperiod : l'.period = l.period) (hlive : l'.live = true)
    (hpace : l'.Paced s.table.period s.executor.delay (L.started + s.table.period) X)
    (hcalls : ∃ e, L.calls s.table.period s.executor.delay X =
        L.calls s.table.period s.executor.delay Y ++ e ∧
      s'.ledger.calls.map Call.moment = s.ledger.calls.map Call.moment ++ e)
    (hdone : ∃ c, L.completed s.table.period s.executor.delay X =
        L.completed s.table.period s.executor.delay Y + c ∧
      s'.ledger.completed = s.ledger.completed + c) :
    TimedBy lives (Function.update τ n X) s' := by
  subst hY
  have hlen : n < s.loops.length := (List.getElem?_eq_some_iff.mp hn).1
  have hother : ∀ m, m ≠ n → Function.update τ n X m = τ m := fun m hm =>
    Function.update_of_ne hm _ _
  -- at `n` stands the new loop, elsewhere the old ones
  have hget : ∀ (m : Nat) (lm : Loop), s'.loops[m]? = some lm →
      (m = n ∧ lm = l') ∨ (m ≠ n ∧ s.loops[m]? = some lm) := by
    intro m lm hm
    rw [hloops] at hm
    by_cases hmn : m = n
    · subst hmn
      rw [List.getElem?_set_self hlen] at hm
      exact Or.inl ⟨rfl, (Option.some_inj.mp hm).symm⟩
    · rw [List.getElem?_set_ne (Ne.symm hmn)] at hm
      exact Or.inr ⟨hmn, hm⟩
  obtain ⟨e, he, hg⟩ := hcalls
  obtain ⟨c, hc, hgc⟩ := hdone
  obtain ⟨hsnapL, hperiodL, -⟩ := h.loop n L l hL hn
  refine ⟨htable ▸ h.period, by rw [hloops, List.length_set]; exact h.length, ?_, ?_, ?_, ?_, ?_⟩
  · intro m M lm hM hm
    rw [htable]
    rcases hget m lm hm with ⟨rfl, rfl⟩ | ⟨-, hm⟩
    · obtain rfl : L = M := Option.some_inj.mp (hL.symm.trans hM)
      exact ⟨hsnap.trans hsnapL, hperiod.trans hperiodL, iff_of_true hended hlive⟩
    · exact h.loop m M lm hM hm
  · intro m M lm hM hm hM'
    rw [htable, hexec]
    rcases hget m lm hm with ⟨rfl, rfl⟩ | ⟨hmn, hm⟩
    · obtain rfl : L = M := Option.some_inj.mp (hL.symm.trans hM)
      rw [Function.update_self]
      exact hpace
    · rw [hother m hmn]
      exact h.paced m M lm hM hm hM'
  · intro m M c' hM hc'
    by_cases hmn : m = n
    · subst hmn
      obtain rfl : L = M := Option.some_inj.mp (hL.symm.trans hM)
      rw [hended] at hc'
      cases hc'
    · rw [hother m hmn]
      exact h.ended m M c' hM hc'
  · have he' : L.calls s.table.period s.executor.delay (Function.update τ n X n) =
        L.calls s.table.period s.executor.delay (τ n) ++ e := by
      rw [Function.update_self]
      exact he
    rw [htable, hexec, hg]
    exact (h.calls.append_right e).trans (JobLife.callsBy_update hL he' hother).symm
  · have hc' : L.completed s.table.period s.executor.delay (Function.update τ n X n) =
        L.completed s.table.period s.executor.delay (τ n) + c := by
      rw [Function.update_self]
      exact hc
    rw [htable, hexec, hgc, h.completed]
    exact (JobLife.completedBy_update hL hc' hother).symm

end TimedBy

end System

namespace System

variable {lives : List JobLife} {s : System}

-- Inside the settling of the moment `s.now`, reached from `T`: the ready queue holds the live
-- loops due now that have yet to run, which stand as at `T`, and the other loops stand as now.
structure Settling (lives : List JobLife) (T : Nat) (s₀ s : System) : Prop where
  well : ReadyWell s
  ready : ∀ t ∈ s.ready, ∃ (n : Nat) (l : Loop), t = .loop n ∧ s.loops[n]? = some l ∧
    l.live = true ∧ l.due = s.now
  timed : TimedBy lives (fun n => if Task.loop n ∈ s.ready then T else s.now) s
  passed : Passed s₀ s

-- The run of one ready loop: the ready queue holds each task once, so only its moment moves.
theorem Settling.step {T : Nat} {s₀ : System} (h : Settling lives T s₀ s) {t : Task}
    {rest : List Task} (hr : s.ready = t :: rest) :
    Settling lives T s₀ ({ s with ready := rest }.runTask t) := by
  obtain ⟨n, l, rfl, hn, hlive, hdue⟩ := h.ready t (by rw [hr]; exact List.mem_cons_self)
  have hnot : Task.loop n ∉ rest := (List.nodup_cons.mp (hr ▸ h.well.nodup)).1
  obtain ⟨L, hL⟩ := h.timed.life hn
  obtain ⟨hsnap, hperiod, hlife⟩ := h.timed.loop n L l hL hn
  have hended : L.ended = none := hlife.mpr hlive
  have hτ : (fun m => if Task.loop m ∈ s.ready then T else s.now) n = T := by simp [hr]
  have hpace : l.Paced s.table.period s.executor.delay (L.started + s.table.period) T :=
    hτ ▸ h.timed.paced n L l hL hn hended
  obtain ⟨l', g, hrun, hsnap', hperiod', hlive', hpace', hcalls, hdone⟩ :=
    runLoop_paced (s := { s with ready := rest }) hn hlive hperiod h.timed.period hdue hended
      hsnap hpace
  rw [runTask_loop, hrun]
  refine ⟨(h.well.pop hr).of_ready_eq rfl (by simp), fun t' ht' => ?_, ?_, ?_⟩
  · obtain ⟨m, lm, rfl, hm, hlm, hdm⟩ := h.ready t' (by rw [hr]; exact List.mem_cons_of_mem _ ht')
    have hmn : m ≠ n := fun hmn => hnot (hmn ▸ ht')
    refine ⟨m, lm, rfl, ?_, hlm, hdm⟩
    show (s.loops.set n l')[m]? = some lm
    rw [List.getElem?_set_ne (Ne.symm hmn)]
    exact hm
  · -- the loop just run leaves the queue and now stands as now
    have hnext : (fun m => if Task.loop m ∈ rest then T else s.now) =
        Function.update (fun m => if Task.loop m ∈ s.ready then T else s.now) n s.now := by
      funext m
      by_cases hmn : m = n
      · subst hmn
        simp [hnot]
      · rw [Function.update_of_ne hmn]
        simp [hr, hmn]
    show TimedBy lives (fun m => if Task.loop m ∈ rest then T else s.now) _
    rw [hnext]
    exact h.timed.update hL hn hended hτ rfl rfl rfl hsnap' hperiod' hlive' hpace' hcalls hdone
  · exact h.passed.trans ⟨rfl, rfl, map_snapshot_set hn hsnap'⟩

theorem Settling.quiesce {T : Nat} {s₀ : System} (h : Settling lives T s₀ s) :
    Settling lives T s₀ s.quiesce :=
  quiesceWith_invariant (Settling lives T s₀) (fun _ _ _ hx hr => hx.step hr) _ s h

-- Settling the moment `d`, when no live loop is due before it: every loop due at `d` runs
-- once, and after it every loop stands as at `d`.
theorem settle_at (h : TimedBy lives (fun _ => s.now) s) (hw : ReadyWell s) (hr : s.ready = [])
    {d : Nat} (hd : s.now ≤ d)
    (hdue : ∀ (n : Nat) (l : Loop), s.loops[n]? = some l → l.live = true → d ≤ l.due) :
    let s' := { s with now := d }.wakeDue.quiesce
    TimedBy lives (fun _ => d) s' ∧ ReadyWell s' ∧ s'.ready = [] ∧ s'.now = d ∧ Passed s s' := by
  obtain ⟨r, hwake, -⟩ := wakeDue_eq { s with now := d }
  have hmem : ∀ x, x ∈ ({ s with now := d } : System).wakeDue.ready ↔ ∃ (n : Nat) (l : Loop),
      x = .loop n ∧ s.loops[n]? = some l ∧ l.live = true ∧ l.due ≤ d := by
    intro x
    rw [mem_wakeDue_ready]
    simp only [hr, List.not_mem_nil, false_or]
  -- waking touches only the ready queue
  have hxnow : ({ s with now := d } : System).wakeDue.now = d := by rw [hwake]
  have hxl : ({ s with now := d } : System).wakeDue.loops = s.loops := by rw [hwake]
  have hxt : ({ s with now := d } : System).wakeDue.table = s.table := by rw [hwake]
  have hxx : ({ s with now := d } : System).wakeDue.executor = s.executor := by rw [hwake]
  have hxg : ({ s with now := d } : System).wakeDue.ledger = s.ledger := by rw [hwake]
  have hw0 : ReadyWell ({ s with now := d } : System) := hw.of_ready_eq rfl le_rfl
  have hstart : Settling lives s.now s ({ s with now := d } : System).wakeDue := by
    refine ⟨hw0.wakeDue, fun t ht => ?_, ?_, ⟨hxt, hxx, by rw [hxl]⟩⟩
    · obtain ⟨n, l, rfl, hn, hlive, hle⟩ := (hmem t).mp ht
      rw [hxl, hxnow]
      exact ⟨n, l, rfl, hn, hlive, Nat.le_antisymm hle (hdue n l hn hlive)⟩
    · refine (h.later (fun n => ?_) fun n l hn hlive hlt => ?_).of_frame hxt hxx hxl hxg
      · rw [hxnow]
        split <;> omega
      · -- a loop moved on to `d` was not woken, so it is not due by `d`
        rw [hxnow] at hlt ⊢
        by_cases hin : Task.loop n ∈ ({ s with now := d } : System).wakeDue.ready
        · rw [if_pos hin] at hlt
          omega
        · rw [if_neg hin]
          exact Nat.lt_of_not_le fun hle => hin ((hmem _).mpr ⟨n, l, rfl, hn, hlive, hle⟩)
  obtain ⟨hw', hr'⟩ := quiesce_settles hstart.well
  have hend := hstart.quiesce
  have hnow : ({ s with now := d } : System).wakeDue.quiesce.now = d :=
    (untouched_quiesce _).now.trans hxnow
  have hτ : (fun n => if Task.loop n ∈ ({ s with now := d } : System).wakeDue.quiesce.ready
      then s.now else ({ s with now := d } : System).wakeDue.quiesce.now) = fun _ => d := by
    funext n
    simp [hr', hnow]
  exact ⟨hτ ▸ hend.timed, hw', hr', hnow, hend.passed⟩

-- Waiting for `target` visits in turn every moment before it at which a loop is due, settling
-- each: after it every loop stands as at the last moment visited, and none is due before
-- `target`.
theorem runUntil_timed (target : Nat) : ∀ (fuel : Nat) (s : System),
    TimedBy lives (fun _ => s.now) s → ReadyWell s → s.ready = [] → s.now ≤ target →
      target < s.now + fuel →
      TimedBy lives (fun _ => (runUntil target fuel s).now) (runUntil target fuel s) ∧
        ReadyWell (runUntil target fuel s) ∧ (runUntil target fuel s).ready = [] ∧
        (runUntil target fuel s).now ≤ target ∧
        (∀ (n : Nat) (l : Loop), (runUntil target fuel s).loops[n]? = some l → l.live = true →
          target ≤ l.due) ∧ Passed s (runUntil target fuel s) := by
  intro fuel
  induction fuel with
  | zero => intro s _ _ _ hle hlt; omega
  | succ fuel ih =>
    intro s h hw hr hle hlt
    unfold runUntil
    cases hnext : s.nextDue with
    | none =>
      refine ⟨h, hw, hr, hle, fun n l hn hlive => ?_, Passed.refl s⟩
      rw [nextDue_none hnext n l hn] at hlive
      cases hlive
    | some x =>
      obtain ⟨⟨m, lm, hm, hlm, hxm⟩, hmin⟩ := nextDue_some hnext
      dsimp only
      split
      · rename_i hx
        -- the loop due first is due after now, since every live loop is
        have hnow : s.now < x := by
          obtain ⟨L, hL⟩ := h.life hm
          have hend := ((h.loop m L lm hL hm).2.2).mpr hlm
          have := (h.paced m L lm hL hm hend).lt_due h.period
          omega
        rw [Nat.max_eq_left hnow.le]
        obtain ⟨h', hw', hr', hnow', hpass⟩ := settle_at h hw hr hnow.le hmin
        have h'' := (funext fun _ => hnow'.symm : (fun _ : Nat => x) = fun _ => _) ▸ h'
        obtain ⟨a1, a2, a3, a4, a5, a6⟩ := ih _ h'' hw' hr' (by omega) (by omega)
        exact ⟨a1, a2, a3, a4, a5, hpass.trans a6⟩
      · rename_i hx
        refine ⟨h, hw, hr, hle, fun n l hn hlive => ?_, Passed.refl s⟩
        have := hmin n l hn hlive
        omega

-- What a wait of `wait` milliseconds does to a settled system: every loop stands as at the end
-- of the wait, and the ledger holds the points of the grids passed by then.
theorem wait_timed (h : TimedBy lives (fun _ => s.now) s) (hw : ReadyWell s) (hr : s.ready = [])
    (wait : Nat) :
    let s' := ({ runUntil (s.now + wait) (wait + 1) s with now := s.now + wait }.wakeDue).quiesce
    TimedBy lives (fun _ => s.now + wait) s' ∧ ReadyWell s' ∧ s'.ready = [] ∧
      s'.now = s.now + wait ∧ Passed s s' := by
  obtain ⟨h1, h2, h3, h4, h5, h6⟩ :=
    runUntil_timed (s.now + wait) (wait + 1) s h hw hr (by omega) (by omega)
  obtain ⟨k1, k2, k3, k4, k5⟩ := settle_at h1 h2 h3 h4 h5
  exact ⟨k1, k2, k3, k4, h6.trans k5⟩

end System

end RouteWatch
