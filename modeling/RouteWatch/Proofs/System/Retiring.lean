import RouteWatch.Proofs.System.Loops
import RouteWatch.Proofs.System.Settle

-- Retirements are counted.
namespace RouteWatch

open Schedule

namespace System

-- How the couriers inside an update, the loops they wait for and the count of retiring loops
-- hang together, while callers still wait for `pending` retirements of their own.
structure CouriersSound (s : System) (pending : Nat) : Prop where
  awaits : ∀ (c : Nat) (k : Courier) (n : Nat), s.couriers[c]? = some k → k.stage = .retiring n →
    k.exited = false ∧ ∃ lp : Loop, s.loops[n]? = some lp ∧ lp.cancelled = true ∧ lp.waiter = some c
  woken : ∀ (c : Nat) (k : Courier) (n : Nat) (lp : Loop), s.couriers[c]? = some k →
    k.stage = .retiring n → s.loops[n]? = some lp → lp.exited = true → .courier c ∈ s.ready
  awaited : ∀ (n : Nat) (lp : Loop) (c : Nat), s.loops[n]? = some lp → lp.cancelled = true →
    lp.exited = false → lp.waiter = some c → ∃ k : Courier, s.couriers[c]? = some k ∧ k.stage = .retiring n
  count : s.table.retiring = s.couriers.countP Courier.inUpdate + pending

variable {s : System}

theorem setCourier_couriers_of {c : Nat} {k : Courier} (hc : s.couriers[c]? = some k) (k' : Courier)
    (c' : Nat) : (s.setCourier c k').couriers[c']? = if c = c' then some k' else s.couriers[c']? := by
  simp [List.getElem?_set, (List.getElem?_eq_some_iff.mp hc).1]

-- Replacing one courier changes the count of those inside an update by the two couriers' part.
theorem countP_setCourier {c : Nat} {k : Courier} (hc : s.couriers[c]? = some k) (k' : Courier) :
    (s.setCourier c k').couriers.countP Courier.inUpdate + (if k.inUpdate then 1 else 0) =
      s.couriers.countP Courier.inUpdate + (if k'.inUpdate then 1 else 0) := by
  obtain ⟨hlt, heq⟩ := List.getElem?_eq_some_iff.mp hc
  have hpos : k.inUpdate = true → 0 < s.couriers.countP Courier.inUpdate := fun hk =>
    List.countP_pos_iff.mpr ⟨k, List.mem_of_getElem? hc, hk⟩
  rw [setCourier_couriers, List.countP_set hlt, heq]
  split <;> split <;> simp_all

namespace CouriersSound

variable {p : Nat}

-- A loop that nobody cancelled has no courier waiting for it.
theorem not_retiring_on_live (h : CouriersSound s p) {n : Nat} {lp : Loop}
    (hn : s.loops[n]? = some lp) (hlive : lp.cancelled = false) {c : Nat} {k : Courier}
    (hc : s.couriers[c]? = some k) : k.stage ≠ .retiring n := by
  intro hst
  obtain ⟨-, lp', hlp', hcan, -⟩ := h.awaits c k n hc hst
  rw [hn, Option.some.injEq] at hlp'
  rw [← hlp', hlive] at hcan
  cases hcan

theorem woken_sub (h : CouriersSound s p) {s' : System} (hsub : ∀ x ∈ s.ready, x ∈ s'.ready) :
    ∀ (c : Nat) (k : Courier) (n : Nat) (lp : Loop), s.couriers[c]? = some k →
      k.stage = .retiring n → s.loops[n]? = some lp → lp.exited = true → .courier c ∈ s'.ready :=
  fun c k n lp hk hst hl hex => hsub _ (h.woken c k n lp hk hst hl hex)

-- A change that keeps the couriers and the count: the loops the couriers wait for stay as they
-- were, a courier that must be woken still is, and every cancelled loop with a waiter was there.
theorem transfer (h : CouriersSound s p) {s' : System} (hc : s'.couriers = s.couriers)
    (hret : s'.table.retiring = s.table.retiring)
    (hkeep : ∀ (c : Nat) (k : Courier) (n : Nat), s.couriers[c]? = some k → k.stage = .retiring n → s'.loops[n]? = s.loops[n]?)
    (hr : ∀ (c : Nat) (k : Courier) (n : Nat) (lp : Loop), s.couriers[c]? = some k → k.stage = .retiring n → s.loops[n]? = some lp →
      lp.exited = true → .courier c ∈ s'.ready)
    (hnew : ∀ (n : Nat) (lp : Loop) (c : Nat), s'.loops[n]? = some lp → lp.cancelled = true → lp.exited = false →
      lp.waiter = some c → s.loops[n]? = some lp) : CouriersSound s' p where
  awaits c k n hk hst := by
    rw [hc] at hk
    rw [hkeep c k n hk hst]
    exact h.awaits c k n hk hst
  woken c k n lp hk hst hl hex := by
    rw [hc] at hk
    rw [hkeep c k n hk hst] at hl
    exact hr c k n lp hk hst hl hex
  awaited n lp c hl hcan hex hw := by
    rw [hc]
    exact h.awaited n lp c (hnew n lp c hl hcan hex hw) hcan hex hw
  count := by rw [hret, hc]; exact h.count

theorem aside (h : CouriersSound s p) {s' : System} (ha : Aside s s') : CouriersSound s' p where
  awaits c k' n hk hst := by
    obtain ⟨k, hk0, hph⟩ := ha.courier_back hk (by rw [hst]; simp)
    have hex : k.exited = k'.exited := congrArg Prod.snd hph
    rw [ha.loops, ← hex]
    exact h.awaits c k n hk0 ((congrArg Prod.fst hph).trans hst)
  woken c k' n lp hk hst hl hex := by
    obtain ⟨k, hk0, hph⟩ := ha.courier_back hk (by rw [hst]; simp)
    rw [ha.loops] at hl
    exact ha.ready _ (h.woken c k n lp hk0 ((congrArg Prod.fst hph).trans hst) hl hex)
  awaited n lp c hl hcan hex hw := by
    rw [ha.loops] at hl
    obtain ⟨k, hk, hst⟩ := h.awaited n lp c hl hcan hex hw
    obtain ⟨k', hk', hph⟩ := ha.courier hk
    exact ⟨k', hk', (congrArg Prod.fst hph).trans hst⟩
  count := by rw [ha.table, ha.countP_inUpdate]; exact h.count

theorem beginRetire (h : CouriersSound s p) : CouriersSound s.beginRetire (p + 1) where
  awaits := h.awaits
  woken := h.woken
  awaited := h.awaited
  count := by
    show s.table.retiring + 1 = s.couriers.countP Courier.inUpdate + (p + 1)
    rw [h.count]
    omega

theorem endRetire (h : CouriersSound s (p + 1)) : CouriersSound s.endRetire p where
  awaits := h.awaits
  woken := h.woken
  awaited := h.awaited
  count := by
    show s.table.retiring - 1 = s.couriers.countP Courier.inUpdate + p
    rw [h.count]
    omega

-- Cancelling, with no waiter, a loop that no courier waits for.
theorem cancel_none (h : CouriersSound s p) {n : Nat}
    (hn : ∀ (c : Nat) (k : Courier), s.couriers[c]? = some k → k.stage ≠ .retiring n) :
    CouriersSound (s.cancelLoop n none) p :=
  h.transfer (cancelLoop_couriers _ _ _) (by rw [cancelLoop_table])
    (fun c k m hk hst => by
      rw [cancelLoop_loops, if_neg]
      rintro rfl
      exact hn c k hk hst)
    (h.woken_sub fun _ hx => (mem_cancelLoop_ready _ _ _).mpr (Or.inl hx))
    (fun m lp c hl _ _ hw => by
      rw [cancelLoop_loops] at hl
      split at hl
      · obtain ⟨lp0, -, rfl⟩ := Option.map_eq_some_iff.mp hl
        simp at hw
      · exact hl)

theorem cancelAll_none (h : CouriersSound s p) (jobs : List Job)
    (hn : ∀ j ∈ jobs, ∀ (c : Nat) (k : Courier), s.couriers[c]? = some k → k.stage ≠ .retiring j.loop) :
    CouriersSound (s.cancelAll none jobs) p := by
  induction jobs generalizing s with
  | nil => exact h
  | cons j rest ih =>
    have step : s.cancelAll none (j :: rest) = (s.cancelLoop j.loop none).cancelAll none rest := rfl
    rw [step]
    refine ih (h.cancel_none (hn j List.mem_cons_self)) fun j' hj' c k hk => ?_
    rw [cancelLoop_couriers] at hk
    exact hn j' (List.mem_cons_of_mem _ hj') c k hk

-- A new loop runs and nobody waits for it.
theorem fileJob (h : CouriersSound s p) (i : Interest Stamp) : CouriersSound (s.fileJob i) p :=
  h.transfer (fileJob_couriers s i) (by simp)
    (fun c k m hk hst => by
      obtain ⟨-, lp, hlp, -⟩ := h.awaits c k m hk hst
      exact fileJob_loops_of_lt s i (List.getElem?_eq_some_iff.mp hlp).1)
    (h.woken_sub fun _ hx => (mem_fileJob_ready s i).mpr (Or.inl hx))
    (fun m lp c hl hcan _ _ => by
      rcases fileJob_loops_eq_some s i hl with ⟨-, hl⟩ | ⟨-, rfl⟩
      · exact hl
      · simp at hcan)

theorem ofTable (h : CouriersSound s p) (t : Table) (ht : t.retiring = s.table.retiring) :
    CouriersSound { s with table := t } p :=
  h.transfer rfl ht (fun _ _ _ _ _ => rfl) (h.woken_sub fun _ hx => hx) (fun _ _ _ hl _ _ _ => hl)

-- A caller's start hands back the replaced job's loop, cancelled with no waiter: one more
-- retirement for the caller to wait for.
theorem startJob_none (h : CouriersSound s p) (hs : LoopsSound s) (i : Interest Stamp) :
    CouriersSound (s.startJob i none).2 (p + ((s.startJob i none).1.2).elim 0 fun _ => 1) := by
  cases hc : s.table.closed
  · rw [startJob_of_open s i none hc]
    have hf := h.fileJob i
    cases hfind : s.table.find? i.appName with
    | none => exact hf
    | some old =>
      have hj := (Table.find?_eq_some hfind).1
      obtain ⟨lp, hlp, -, hcan, -⟩ := hs.filed old hj
      have hlp' : (s.fileJob i).loops[old.loop]? = some lp := by
        rw [fileJob_loops_of_lt s i (hs.loop_lt hj)]
        exact hlp
      exact (hf.cancel_none fun c k hk => hf.not_retiring_on_live hlp' hcan hk).beginRetire
  · rw [startJob_of_closed s i none hc]
    exact h

theorem stopJob_none (h : CouriersSound s p) (hs : LoopsSound s) (app : String) :
    CouriersSound (s.stopJob app none).2 (p + ((s.stopJob app none).1).elim 0 fun _ => 1) := by
  unfold System.stopJob
  cases hfind : s.table.find? app with
  | none => exact h
  | some j =>
    obtain ⟨lp, hlp, -, hcan, -⟩ := hs.filed j (Table.find?_eq_some hfind).1
    have he := h.ofTable (s.table.erase app) (Table.erase_retiring _ _)
    exact (he.cancel_none fun c k hk => h.not_retiring_on_live hlp hcan hk).beginRetire

theorem takeAllJobs (h : CouriersSound s p) (hs : LoopsSound s) (close : Bool) :
    CouriersSound (s.takeAllJobs close).2 p := by
  rw [takeAllJobs_eq]
  refine (h.ofTable { s.table with jobs := [], closed := s.table.closed || close } rfl).cancelAll_none
    _ fun j hj c k hk => ?_
  obtain ⟨lp, hlp, -, hcan, -⟩ := hs.filed j hj
  exact h.not_retiring_on_live hlp hcan hk

-- A courier between events may change in every way but its stage.
theorem setCourier_waiting (h : CouriersSound s p) {c : Nat} {k : Courier}
    (hc : s.couriers[c]? = some k) (hk : k.stage = .waiting) (k' : Courier)
    (hk' : k'.stage = .waiting) : CouriersSound (s.setCourier c k') p where
  awaits c' k'' m hk'' hst := by
    rw [setCourier_couriers_of hc] at hk''
    split at hk''
    · cases hk''
      rw [hk'] at hst
      cases hst
    · exact h.awaits c' k'' m hk'' hst
  woken c' k'' m lp hk'' hst hl hex := by
    rw [setCourier_couriers_of hc] at hk''
    split at hk''
    · cases hk''
      rw [hk'] at hst
      cases hst
    · exact h.woken c' k'' m lp hk'' hst hl hex
  awaited m lp c' hl hcan hex hw := by
    obtain ⟨k0, hk0, hst⟩ := h.awaited m lp c' hl hcan hex hw
    refine ⟨k0, ?_, hst⟩
    rw [setCourier_couriers_of hc, if_neg]
    · exact hk0
    · rintro rfl
      rw [hc, Option.some.injEq] at hk0
      rw [← hk0, hk] at hst
      cases hst
  count := by
    have := countP_setCourier hc k'
    simp only [Courier.inUpdate, hk, hk', bne_self_eq_false, Bool.false_eq_true, if_false, Nat.add_zero] at this
    rw [setCourier_table, h.count, this]

-- A courier between events starts to wait for a loop that nobody cancelled: the loop is
-- cancelled for it, counted as retiring, and the courier enters the update.
theorem retire (h : CouriersSound s p) {c : Nat} {k : Courier} (hc : s.couriers[c]? = some k)
    (hk : k.stage = .waiting) (hke : k.exited = false) {n : Nat} {lp : Loop}
    (hn : s.loops[n]? = some lp) (hlive : lp.cancelled = false) (hlx : lp.exited = false) :
    CouriersSound (((s.cancelLoop n (some c)).beginRetire).setStage c (.retiring n)) p := by
  let t := (s.cancelLoop n (some c)).beginRetire
  have htc : t.couriers[c]? = some k := by simpa [t] using hc
  rw [setStage_of_some _ htc]
  have hcour : ∀ c', (t.setCourier c { k with stage := .retiring n }).couriers[c']? =
      if c = c' then some { k with stage := .retiring n } else s.couriers[c']? := by
    intro c'
    rw [setCourier_couriers_of htc]
    simp [t]
  have hloop : ∀ m, (t.setCourier c { k with stage := .retiring n }).loops[m]? =
      if n = m then some (Loop.cancel (some c) lp) else s.loops[m]? := by
    intro m
    simp only [t, setCourier_loops, beginRetire_loops, cancelLoop_loops]
    split
    · rename_i hm
      subst hm
      rw [hn]
      rfl
    · rfl
  -- every other courier inside an update waits for another loop, and is not `c`
  have hother : ∀ c' k' m, s.couriers[c']? = some k' → k'.stage = .retiring m → c ≠ c' ∧ n ≠ m := by
    intro c' k' m hk' hst
    refine ⟨?_, ?_⟩
    · rintro rfl
      rw [hc, Option.some.injEq] at hk'
      rw [← hk', hk] at hst
      cases hst
    · rintro rfl
      exact h.not_retiring_on_live hn hlive hk' hst
  refine ⟨?_, ?_, ?_, ?_⟩
  · intro c' k' m hk' hst
    rw [hcour] at hk'
    split at hk'
    · rename_i hcc
      subst hcc
      cases hk'
      have hm : n = m := by simpa using hst
      subst hm
      exact ⟨hke, _, by rw [hloop, if_pos rfl], rfl, rfl⟩
    · obtain ⟨hx, lq, hlq, hcan, hw⟩ := h.awaits c' k' m hk' hst
      rw [hloop, if_neg (hother c' k' m hk' hst).2]
      exact ⟨hx, lq, hlq, hcan, hw⟩
  · intro c' k' m lq hk' hst hl hex
    rw [hcour] at hk'
    split at hk'
    · rename_i hcc
      subst hcc
      cases hk'
      have hm : n = m := by simpa using hst
      subst hm
      rw [hloop, if_pos rfl, Option.some.injEq] at hl
      rw [← hl] at hex
      simp [hlx] at hex
    · rw [hloop, if_neg (hother c' k' m hk' hst).2] at hl
      exact (mem_cancelLoop_ready _ _ _).mpr (Or.inl (h.woken c' k' m lq hk' hst hl hex))
  · intro m lq c' hl hcan hex hw
    rw [hloop] at hl
    split at hl
    · rename_i hm
      subst hm
      rw [Option.some.injEq] at hl
      rw [← hl] at hw
      cases hw
      exact ⟨_, by rw [hcour, if_pos rfl], rfl⟩
    · obtain ⟨k0, hk0, hst⟩ := h.awaited m lq c' hl hcan hex hw
      exact ⟨k0, by rw [hcour, if_neg (hother c' k0 m hk0 hst).1]; exact hk0, hst⟩
  · have hcnt := countP_setCourier htc { k with stage := .retiring n }
    have htcour : t.couriers = s.couriers := by simp [t]
    have hret : (t.setCourier c { k with stage := .retiring n }).table.retiring = s.table.retiring + 1 := by
      simp [t]
    have hk0 : k.inUpdate = false := by simp [Courier.inUpdate, hk]
    have hK : Courier.inUpdate { k with stage := .retiring n } = true := by simp [Courier.inUpdate]
    rw [htcour, hk0, hK] at hcnt
    simp only [if_true, Bool.false_eq_true, if_false, Nat.add_zero] at hcnt
    rw [hret, h.count]
    omega

-- A courier between events hands over its mailbox: each event is taken as its listener takes
-- it, and a replaced or stopped job's loop is the one the courier then waits for.
theorem handOver (c : Nat) (listener : Listener) :
    ∀ (q : List (Event Stamp)) (s : System) (k : Courier), LoopsSound s → CouriersSound s p →
      s.couriers[c]? = some k → k.stage = .waiting → k.exited = false →
      CouriersSound (System.handOver c listener q s) p := by
  intro q
  induction q with
  | nil =>
    intro s k _ h hc hk _
    rw [handOver_nil_of_some s hc]
    exact h.setCourier_waiting hc hk _ hk
  | cons e rest ih =>
    intro s k hs h hc hk hke
    rw [handOver_cons, popMail_of_some s hc]
    -- the courier takes the event off its mailbox and stands where it stood
    let x := s.setCourier c { k with queue := rest }
    have hx : CouriersSound x p := h.aside (aside_setCourier s hc _ rfl)
    have hxs : LoopsSound x := hs.setCourier _ _
    have hxc : x.couriers[c]? = some { k with queue := rest } := by
      rw [setCourier_couriers_of hc, if_pos rfl]
    -- a delivery that hands back no loop leaves the courier between events
    have next : ∀ y, LoopsSound y → CouriersSound y p → y.couriers = x.couriers →
        CouriersSound (System.handOver c listener rest y) p := fun y hys hy hyc =>
      ih y { k with queue := rest } hys hy (hyc ▸ hxc) hk hke
    -- one that hands back a loop nobody had cancelled makes the courier wait for it
    have wait : ∀ y n lp, CouriersSound y p → y.couriers = x.couriers → y.loops[n]? = some lp →
        lp.cancelled = false → lp.exited = false →
        CouriersSound (((y.cancelLoop n (some c)).beginRetire).setStage c (.retiring n)) p :=
      fun y n lp hy hyc hn hlive hlx => hy.retire (k := { k with queue := rest }) (hyc ▸ hxc) hk hke hn hlive hlx
    refine x.deliver_induct (fun r => CouriersSound (afterDeliver c listener rest r) p) c listener e
      ?_ ?_ ?_ ?_
    · cases hcl : x.table.closed
      · have hst := hxs.startJob e.interest (some c)
        rw [startJob_of_open x _ _ hcl] at hst ⊢
        cases hfind : x.table.find? e.interest.appName with
        | none =>
          rw [hfind] at hst
          exact next _ hst (hx.fileJob _) (fileJob_couriers x _)
        | some old =>
          have hj := (Table.find?_eq_some hfind).1
          obtain ⟨lp, hlp, -, hcan, hlx⟩ := hxs.filed old hj
          have hlp' : (x.fileJob e.interest).loops[old.loop]? = some lp := by
            rw [fileJob_loops_of_lt x _ (hxs.loop_lt hj)]
            exact hlp
          exact wait _ old.loop lp (hx.fileJob _) (fileJob_couriers x _) hlp' hcan hlx
      · rw [startJob_of_closed x _ _ hcl]
        exact next x hxs hx rfl
    · unfold System.stopJob
      cases hfind : x.table.find? e.key with
      | none => exact next x hxs hx rfl
      | some j =>
        obtain ⟨lp, hlp, -, hcan, hlx⟩ := hxs.filed j (Table.find?_eq_some hfind).1
        exact wait _ j.loop lp (hx.ofTable _ (Table.erase_retiring _ _)) rfl hlp hcan hlx
    · intro k'
      exact next _ (hxs.of_ready_sub rfl rfl fun _ h => h)
        (hx.aside (Aside.of_couriers (by rfl) (by rfl) (by rfl) (by intro _ h; exact h) (by rfl))) rfl
    · exact next x hxs hx rfl

-- A courier whose loop has exited ends its update: one retiring loop less.
theorem finish (h : CouriersSound s p) {rest : List Task} {c : Nat} {k : Courier}
    (hrest : ∀ x ∈ s.ready, x ≠ .courier c → x ∈ rest) (hc : s.couriers[c]? = some k) {l : Nat}
    (hst : k.stage = .retiring l) (hl : s.loopExited l = true) :
    CouriersSound (({ s with ready := rest }.setCourier c { k with stage := .waiting }).endRetire) p := by
  have hcour := setCourier_couriers_of (s := { s with ready := rest }) hc { k with stage := .waiting }
  obtain ⟨hke, lp, hlp, -, -⟩ := h.awaits c k l hc hst
  have hlx : lp.exited = true := by
    unfold loopExited at hl
    rwa [hlp] at hl
  refine ⟨?_, ?_, ?_, ?_⟩
  · intro c' k' m hk' hst'
    rw [endRetire_couriers, hcour] at hk'
    split at hk'
    · cases hk'
      cases hst'
    · exact h.awaits c' k' m hk' hst'
  · intro c' k' m lq hk' hst' hl' hex
    rw [endRetire_couriers, hcour] at hk'
    split at hk'
    · cases hk'
      cases hst'
    · rename_i hcc
      refine hrest _ (h.woken c' k' m lq hk' hst' hl' hex) ?_
      rintro ⟨⟩
      exact hcc rfl
  · intro m lq c' hl' hcan hex hw
    obtain ⟨k0, hk0, hst0⟩ := h.awaited m lq c' hl' hcan hex hw
    refine ⟨k0, ?_, hst0⟩
    rw [endRetire_couriers, hcour, if_neg]
    · exact hk0
    · -- the courier `c` waits for loop `l`, which has exited
      rintro rfl
      rw [hc, Option.some.injEq] at hk0
      rw [← hk0, hst] at hst0
      cases hst0
      have hl'' : s.loops[l]? = some lq := hl'
      rw [hlp, Option.some.injEq] at hl''
      rw [← hl'', hlx] at hex
      cases hex
  · have hcnt := countP_setCourier (s := { s with ready := rest }) hc { k with stage := .waiting }
    have hk1 : k.inUpdate = true := by simp [Courier.inUpdate, hst]
    have hK : Courier.inUpdate { k with stage := .waiting } = false := by simp [Courier.inUpdate]
    rw [hk1, hK] at hcnt
    simp only [if_true, Bool.false_eq_true, if_false, Nat.add_zero] at hcnt
    show s.table.retiring - 1 =
      ({ s with ready := rest }.setCourier c { k with stage := .waiting }).couriers.countP
        Courier.inUpdate + p
    rw [h.count]
    have : ({ s with ready := rest } : System).couriers = s.couriers := rfl
    rw [this] at hcnt
    omega

-- A cancelled loop exits: the courier waiting for it, if any, is woken.
theorem exit (h : CouriersSound s p) {n : Nat} {l : Loop} (hn : s.loops[n]? = some l)
    {r : System} (hc : r.couriers = s.couriers) (ht : r.table = s.table)
    (hl : r.loops = s.loops.set n { l with exited := true, callEnds := none })
    (hr : ∀ x ∈ s.ready, x ∈ r.ready) (hw : ∀ c, l.waiter = some c → .courier c ∈ r.ready) :
    CouriersSound r p := by
  have hloop : ∀ m, r.loops[m]? =
      if n = m then some { l with exited := true, callEnds := none } else s.loops[m]? := by
    intro m
    rw [hl, List.getElem?_set]
    simp [(List.getElem?_eq_some_iff.mp hn).1]
  refine ⟨?_, ?_, ?_, ?_⟩
  · intro c k m hk hst
    rw [hc] at hk
    obtain ⟨hx, lq, hlq, hcan, hwq⟩ := h.awaits c k m hk hst
    rw [hloop]
    split
    · rename_i hm
      subst hm
      rw [hn, Option.some.injEq] at hlq
      subst hlq
      exact ⟨hx, _, rfl, hcan, hwq⟩
    · exact ⟨hx, lq, hlq, hcan, hwq⟩
  · intro c k m lq hk hst hl' hex
    rw [hc] at hk
    rw [hloop] at hl'
    split at hl'
    · rename_i hm
      subst hm
      obtain ⟨-, lq', hlq', -, hwq⟩ := h.awaits c k n hk hst
      rw [hn, Option.some.injEq] at hlq'
      subst hlq'
      exact hw c hwq
    · exact hr _ (h.woken c k m lq hk hst hl' hex)
  · intro m lq c hl' hcan hex hwq
    rw [hloop] at hl'
    split at hl'
    · rw [Option.some.injEq] at hl'
      rw [← hl'] at hex
      cases hex
    · rw [hc]
      exact h.awaited m lq c hl' hcan hex hwq
  · rw [ht, hc]
    exact h.count

-- Taking a loop off the queue, wherever it stood, leaves every courier on it.
theorem runLoop (h : CouriersSound s p) {rest : List Task} {n : Nat}
    (hrest : ∀ x ∈ s.ready, x ≠ .loop n → x ∈ rest) :
    CouriersSound ({ s with ready := rest }.runLoop n) p := by
  have hx : CouriersSound { s with ready := rest } p :=
    h.transfer rfl rfl (fun _ _ _ _ _ => rfl)
      (fun c k m lq hk hst hl hex => hrest _ (h.woken c k m lq hk hst hl hex) (by simp))
      (fun _ _ _ hl _ _ _ => hl)
  cases hn : s.loops[n]? with
  | none =>
    rw [runLoop_of_none { s with ready := rest } n hn]
    exact hx
  | some l =>
    cases he : l.exited
    · cases hc : l.cancelled
      · -- a loop nobody cancelled ticks, and nobody waits for it
        obtain ⟨l', ledger, hrun, -, hc', -, -⟩ := runLoop_of_live { s with ready := rest } n hn he hc
        rw [hrun]
        refine hx.transfer rfl rfl (fun c k m hk hst => ?_) (hx.woken_sub fun _ h => h)
          (fun m lq c hl hcan _ _ => ?_)
        · have hnm : n ≠ m := by
            rintro rfl
            exact hx.not_retiring_on_live hn hc hk hst
          simp [hnm]
        · simp only [List.getElem?_set] at hl
          split at hl
          · split at hl
            · rw [Option.some.injEq] at hl
              rw [← hl, hc'] at hcan
              cases hcan
            · cases hl
          · exact hl
      · rw [runLoop_of_cancelled { s with ready := rest } n hn he hc]
        split
        · rename_i c hw
          refine hx.exit hn (by simp) (by simp) (by simp)
            (fun _ h => (mem_wake_ready _ _).mpr (Or.inl h)) fun c' hc' => ?_
          rw [hw, Option.some.injEq] at hc'
          rw [← hc']
          exact (mem_wake_ready _ _).mpr (Or.inr rfl)
        · rename_i hw
          exact hx.exit hn rfl rfl rfl (fun _ h => h) (by simp [hw])
    · rw [runLoop_of_exited { s with ready := rest } n hn he]
      exact hx

theorem runCourier (hs : LoopsSound s) (h : CouriersSound s p) {rest : List Task} {c : Nat}
    (hrest : ∀ x ∈ s.ready, x ≠ .courier c → x ∈ rest) :
    CouriersSound ({ s with ready := rest }.runCourier c) p := by
  have hxs : LoopsSound { s with ready := rest } := hs.pop_courier hrest
  -- taking the courier off the queue is harmless unless it has a loop's exit to go on from
  have pop : (∀ k n lp, s.couriers[c]? = some k → k.stage = .retiring n → s.loops[n]? = some lp →
      lp.exited = true → False) → CouriersSound { s with ready := rest } p := fun hno =>
    h.transfer rfl rfl (fun _ _ _ _ _ => rfl)
      (fun c' k n lp hk hst hl hex => by
        refine hrest _ (h.woken c' k n lp hk hst hl hex) ?_
        rintro ⟨⟩
        exact hno k n lp hk hst hl hex)
      (fun _ _ _ hl _ _ _ => hl)
  unfold System.runCourier
  split
  · rename_i hnone
    exact pop fun k _ _ hk _ _ _ => by
      have : s.couriers[c]? = none := hnone
      rw [this] at hk
      cases hk
  · rename_i k hk
    have hk' : s.couriers[c]? = some k := hk
    split
    · rename_i hexited
      exact pop fun k' n _ hk'' hst _ _ => by
        rw [hk', Option.some.injEq] at hk''
        subst hk''
        rw [(h.awaits c k n hk' hst).1] at hexited
        cases hexited
    · rename_i hexited
      have hke : k.exited = false := by simpa using hexited
      split
      · rename_i l hst
        split
        · rename_i hl
          refine handOver c k.listener k.queue _ { k with stage := .waiting }
            (hxs.setCourier _ _).endRetire (h.finish hrest hk' hst hl) ?_ rfl hke
          rw [endRetire_couriers, setCourier_couriers_of (s := { s with ready := rest }) hk', if_pos rfl]
        · rename_i hl
          exact pop fun k' n lp hk'' hst' hln hex => by
            rw [hk', Option.some.injEq] at hk''
            subst hk''
            rw [hst] at hst'
            cases hst'
            unfold loopExited at hl
            rw [hln] at hl
            exact hl hex
      · rename_i hst
        have hx := pop fun k' n _ hk'' hst' _ _ => by
          rw [hk', Option.some.injEq] at hk''
          subst hk''
          rw [hst] at hst'
          cases hst'
        exact handOver c k.listener k.queue _ k hxs hx hk' hst hke

-- Any ready task may run, not only the first: the others stay ready.
theorem runTask_of_rest (hs : LoopsSound s) (h : CouriersSound s p) {t : Task} {rest : List Task}
    (hrest : ∀ x ∈ s.ready, x ≠ t → x ∈ rest) : CouriersSound ({ s with ready := rest }.runTask t) p := by
  cases t with
  | courier c => exact h.runCourier hs hrest
  | loop n => exact h.runLoop hrest

theorem runTask (hs : LoopsSound s) (h : CouriersSound s p) {t : Task} {rest : List Task}
    (hr : s.ready = t :: rest) : CouriersSound ({ s with ready := rest }.runTask t) p :=
  h.runTask_of_rest hs fun _ hx hne => List.mem_of_ne_of_mem hne (hr ▸ hx)

theorem quiesce (hs : LoopsSound s) (h : CouriersSound s p) : CouriersSound s.quiesce p :=
  (quiesceWith_invariant (fun s => LoopsSound s ∧ CouriersSound s p)
    (fun _ _ _ hx hr => ⟨hx.1.runTask hr, hx.2.runTask hx.1 hr⟩) _ s ⟨hs, h⟩).2

theorem awaitRetire (hs : LoopsSound s) (h : CouriersSound s (p + 1)) :
    CouriersSound s.awaitRetire p :=
  (h.quiesce hs).endRetire

theorem startJobNow (hs : LoopsSound s) (h : CouriersSound s p) (i : Interest Stamp) :
    CouriersSound (s.startJobNow i).2 p := by
  have hc := h.startJob_none hs i
  have hl := hs.startJob i none
  unfold System.startJobNow
  split <;> rename_i heq <;> rw [heq] at hc hl
  · exact awaitRetire hl hc
  · exact hc

theorem stopJobNow (hs : LoopsSound s) (h : CouriersSound s p) (app : String) :
    CouriersSound (s.stopJobNow app).2 p := by
  have hc := h.stopJob_none hs app
  have hl := hs.stopJob app none
  unfold System.stopJobNow
  split <;> rename_i heq <;> rw [heq] at hc hl
  · exact awaitRetire hl hc
  · exact hc

theorem drain (hs : LoopsSound s) (h : CouriersSound s p) (close : Bool) :
    CouriersSound (s.drain close).2 p := by
  have ht := h.takeAllJobs hs close
  have hts := hs.takeAllJobs close
  unfold System.drain
  dsimp only
  split
  · exact ht.quiesce hts
  · exact ht

theorem advance (hs : LoopsSound s) (h : CouriersSound s p) (ms : Nat) :
    CouriersSound (s.advance ms) p :=
  (advance_invariant s (fun s => LoopsSound s ∧ CouriersSound s p)
    (fun _ _ hx => ⟨hx.1.of_ready_sub rfl rfl fun _ h => h,
      hx.2.aside (Aside.of_couriers (by rfl) (by rfl) (by rfl) (by intro _ h; exact h) (by rfl))⟩)
    (fun s hx => ⟨hx.1.aside (aside_wakeDue s), hx.2.aside (aside_wakeDue s)⟩)
    (fun _ hx => ⟨hx.1.quiesce, hx.2.quiesce hx.1⟩) ms ⟨hs, h⟩).2

end CouriersSound

-- Once nothing is ready, every cancelled loop has exited.
theorem LoopsSound.exited_of_settled (h : LoopsSound s) (hr : s.ready = []) {n : Nat} {lp : Loop}
    (hn : s.loops[n]? = some lp) (hc : lp.cancelled = true) : lp.exited = true := by
  cases he : lp.exited
  · have := h.cancelled_ready n lp hn hc he
    rw [hr] at this
    cases this
  · rfl

-- What holds between two steps of a scenario: the job table, the loops, the ready queue and
-- the retirements hang together, no caller is left waiting for a retirement, and a cancelled loop
-- that has not exited has a courier waiting for it.
structure Steady (s : System) : Prop where
  loops : LoopsSound s
  ready : ReadyWell s
  couriers : CouriersSound s 0
  orphans : ∀ (n : Nat) (lp : Loop), s.loops[n]? = some lp → lp.cancelled = true →
    lp.exited = false → lp.waiter ≠ none

namespace Steady

theorem aside (h : Steady s) {s' : System} (ha : Aside s s') (hw : ReadyWell s') : Steady s' where
  loops := h.loops.aside ha
  ready := hw
  couriers := h.couriers.aside ha
  orphans := by rw [ha.loops]; exact h.orphans

-- Once nothing is ready, no cancelled loop is left to exit.
theorem of_settled (hs : LoopsSound s) (hw : ReadyWell s) (hc : CouriersSound s 0)
    (hr : s.ready = []) : Steady s where
  loops := hs
  ready := hw
  couriers := hc
  orphans n lp hn hcan hex := by
    rw [hs.exited_of_settled hr hn hcan] at hex
    cases hex

theorem quiesce (h : Steady s) : Steady s.quiesce :=
  of_settled h.loops.quiesce (quiesce_settles h.ready).1 (h.couriers.quiesce h.loops)
    (quiesce_settles h.ready).2

theorem awaitRetire (hs : LoopsSound s) (hw : ReadyWell s) (hc : CouriersSound s 1) :
    Steady s.awaitRetire :=
  of_settled hs.awaitRetire hw.awaitRetire (hc.awaitRetire hs) (quiesce_settles hw).2

-- A start that replaces no job adds a loop nobody cancelled.
theorem startJob_of_none (h : Steady s) {i : Interest Stamp} {w : Option Nat}
    (hnone : (s.startJob i w).1.2 = none) :
    ∀ (n : Nat) (lp : Loop), (s.startJob i w).2.loops[n]? = some lp → lp.cancelled = true →
      lp.exited = false → lp.waiter ≠ none := by
  cases hc : s.table.closed
  · rw [startJob_of_open s i w hc] at hnone ⊢
    cases hfind : s.table.find? i.appName with
    | none =>
      intro n lp hl hcan hex
      rcases fileJob_loops_eq_some s i hl with ⟨-, hl⟩ | ⟨-, rfl⟩
      · exact h.orphans n lp hl hcan hex
      · simp at hcan
    | some old =>
      rw [hfind] at hnone
      cases hnone
  · rw [startJob_of_closed s i w hc]
    exact h.orphans

theorem startJobNow (h : Steady s) (i : Interest Stamp) : Steady (s.startJobNow i).2 := by
  have hc := h.couriers.startJob_none h.loops i
  have hl := h.loops.startJob i none
  have hw := (startJob_grows h.ready i none).1
  have ho := h.startJob_of_none (i := i) (w := none)
  unfold System.startJobNow
  split <;> rename_i heq <;> rw [heq] at hc hl hw ho
  · exact awaitRetire hl hw hc
  · exact ⟨hl, hw, hc, ho rfl⟩

theorem stopJobNow (h : Steady s) (app : String) : Steady (s.stopJobNow app).2 := by
  have hc := h.couriers.stopJob_none h.loops app
  have hl := h.loops.stopJob app none
  have hw := (stopJob_grows h.ready app none).1
  -- a stop that finds no job changes nothing
  have hsame : (s.stopJob app none).1 = none → (s.stopJob app none).2 = s := by
    unfold System.stopJob
    split
    · intro
      rfl
    · intro hsome
      cases hsome
  unfold System.stopJobNow
  split <;> rename_i heq <;> rw [heq] at hc hl hw hsame
  · exact awaitRetire hl hw hc
  · have hs : ((none, _) : Option Nat × System).2 = s := hsame rfl
    dsimp only at hs ⊢
    rw [hs]
    exact h

theorem drain (h : Steady s) (close : Bool) : Steady (s.drain close).2 := by
  have hc := h.couriers.takeAllJobs h.loops close
  have hl := h.loops.takeAllJobs close
  have hw := h.ready.takeAllJobs close
  unfold System.drain
  dsimp only
  split
  · exact of_settled hl.quiesce (quiesce_settles hw).1 (hc.quiesce hl) (quiesce_settles hw).2
  · -- no job was taken, so no loop was cancelled
    rename_i hwait
    have hnil : s.table.jobs = [] := by
      unfold drainWaits at hwait
      rw [takeAllJobs_eq] at hwait
      simp at hwait
      exact hwait.1
    refine ⟨hl, hw, hc, fun n lp hn => h.orphans n lp ?_⟩
    rw [takeAllJobs_eq, cancelAll_loops, hnil] at hn
    simpa using hn

theorem advance (h : Steady s) (ms : Nat) : Steady (s.advance ms) :=
  advance_invariant s Steady
    (fun s _ h => h.aside (Aside.of_couriers (by rfl) (by rfl) (by rfl) (by intro _ h; exact h) (by rfl))
      (h.ready.of_ready_eq rfl le_rfl))
    (fun s h => h.aside (aside_wakeDue s) h.ready.wakeDue) (fun _ h => h.quiesce) ms h

end Steady

-- A system with no loop, no courier, nothing ready and nothing retiring.
theorem Steady.of_empty (hl : s.loops = []) (hc : s.couriers = []) (hr : s.ready = [])
    (hj : s.table.jobs = []) (hret : s.table.retiring = 0) : Steady s where
  loops := ⟨by rw [hj]; exact Keyed.ordered_nil, by simp [hj], by simp [hj], by simp [hl],
    by simp [hl]⟩
  ready := ⟨by rw [hr]; exact List.nodup_nil, by simp [hr]⟩
  couriers := ⟨by simp [hc], by simp [hc], by simp [hl], by simp [hret, hc]⟩
  orphans := by simp [hl]

-- The booted system: the scheduler's courier is registered and nothing else has happened.
theorem boot_steady (setup : Setup) : Steady setup.boot := by
  unfold Setup.boot
  dsimp only
  refine Steady.aside ?_ (aside_register _ _ _) (ReadyWell.register ?_ _ _)
  · exact Steady.of_empty rfl rfl rfl rfl rfl
  · exact ⟨List.nodup_nil, fun _ hn => by cases hn⟩

theorem steady_closed : Closed Steady where
  stamp s h := h.aside (Aside.of_couriers rfl rfl rfl (fun _ h => h) rfl) (readyWell_closed.stamp s h.ready)
  store s r h :=
    h.aside (Aside.of_couriers rfl rfl rfl (fun _ h => h) rfl) (readyWell_closed.store s r h.ready)
  post s e h := h.aside (aside_post s e) (h.ready.post e)
  openLog s h := h.aside (Aside.of_couriers rfl rfl rfl (fun _ h => h) rfl) (readyWell_closed.openLog s h.ready)
  register s id listener h := h.aside (aside_register s id listener) (h.ready.register id listener)
  deregister s id h := h.aside (aside_deregister s id) (h.ready.deregister id)
  startJobNow _ i h := h.startJobNow i
  stopJobNow _ app h := h.stopJobNow app
  stopAll _ h := h.drain false
  restarted s h :=
    h.aside (Aside.of_couriers rfl rfl rfl (fun _ h => h) rfl) (readyWell_closed.restarted s h.ready)
  advance _ ms h := h.advance ms
  quiesce _ h := h.quiesce

end System

end RouteWatch
