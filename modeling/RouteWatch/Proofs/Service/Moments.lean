import RouteWatch.Proofs.System.Provenance
import RouteWatch.Proofs.System.Mirror
import RouteWatch.Proofs.System.Resync

-- The moments an interest carries.
namespace RouteWatch

section History

-- The exchange `x`, a step and its reply, created the interest of `app`.
def CreatedBy (app : String) (x : Step × Reply) : Prop :=
  (∃ ip, x.1.action = .ok (.create app ip)) ∧ ∃ i, x.2 = .changed (.ok i)

-- The exchange `x` moved the interest of `app` to a new address.
def UpdatedBy (app : String) (x : Step × Reply) : Prop :=
  (∃ ip, x.1.action = .ok (.update app ip)) ∧ ∃ i, x.2 = .changed (.ok i)

-- In the exchanges `hist`, an update of `app` comes after every creation of it.
def UpdatedSinceCreated (app : String) (hist : List (Step × Reply)) : Prop :=
  ∃ pre x post, hist = pre ++ x :: post ∧ UpdatedBy app x ∧ ∀ y ∈ post, ¬ CreatedBy app y

-- Some exchange of `hist`, the `k`-th, gave `i` back.
def GivenBack (hist : List (Step × Reply)) (i : Interest Stamp) : Prop :=
  ∃ (k : Nat) (st : Step), hist[k]? = some (st, .changed (.ok i))

variable {app : String} {hist : List (Step × Reply)} {x : Step × Reply}

theorem updatedSinceCreated_concat :
    UpdatedSinceCreated app (hist ++ [x]) ↔
      UpdatedBy app x ∨ (UpdatedSinceCreated app hist ∧ ¬ CreatedBy app x) := by
  constructor
  · rintro ⟨pre, y, post, heq, hy, hpost⟩
    -- the last exchange is the update, or it comes after the update
    rcases List.eq_nil_or_concat post with rfl | ⟨post, z, rfl⟩
    · obtain ⟨-, hxy⟩ := List.append_inj' heq rfl
      rw [List.singleton_inj.mp hxy]
      exact .inl hy
    · rw [List.concat_eq_append] at hpost heq
      have heq' : hist ++ [x] = (pre ++ y :: post) ++ [z] := by
        rw [heq]
        simp
      obtain ⟨rfl, hxz⟩ := List.append_inj' heq' rfl
      rw [List.singleton_inj.mp hxz]
      exact .inr ⟨⟨pre, y, post, rfl, hy, fun w hw => hpost w (List.mem_append_left _ hw)⟩,
        hpost z (List.mem_append_right _ (List.mem_singleton_self z))⟩
  · rintro (hx | ⟨⟨pre, y, post, rfl, hy, hpost⟩, hx⟩)
    · exact ⟨hist, x, [], rfl, hx, by simp⟩
    · refine ⟨pre, y, post ++ [x], by simp, hy, fun w hw => ?_⟩
      rcases List.mem_append.mp hw with hw | hw
      · exact hpost w hw
      · rw [List.mem_singleton.mp hw]
        exact hx

-- An exchange that neither creates nor updates `app` leaves its history as it was.
theorem updatedSinceCreated_concat_of_not (hc : ¬ CreatedBy app x) (hu : ¬ UpdatedBy app x) :
    UpdatedSinceCreated app (hist ++ [x]) ↔ UpdatedSinceCreated app hist := by
  rw [updatedSinceCreated_concat]
  exact ⟨fun h => h.elim (fun h => absurd h hu) And.left, fun h => .inr ⟨h, hc⟩⟩

theorem not_createdBy_of_reply (h : ∀ i, x.2 ≠ .changed (.ok i)) :
    ¬ CreatedBy app x ∧ ¬ UpdatedBy app x :=
  ⟨fun ⟨_, i, hi⟩ => h i hi, fun ⟨_, i, hi⟩ => h i hi⟩

theorem createdBy_iff {st : Step} {a : Action} {r : Reply} (ha : st.action = .ok a) :
    CreatedBy app (st, r) ↔ (∃ ip, a = .create app ip) ∧ ∃ i, r = .changed (.ok i) := by
  simp only [CreatedBy, ha, Except.ok.injEq]

theorem updatedBy_iff {st : Step} {a : Action} {r : Reply} (ha : st.action = .ok a) :
    UpdatedBy app (st, r) ↔ (∃ ip, a = .update app ip) ∧ ∃ i, r = .changed (.ok i) := by
  simp only [UpdatedBy, ha, Except.ok.injEq]

theorem givenBack_concat {i : Interest Stamp} (h : GivenBack hist i) : GivenBack (hist ++ [x]) i := by
  obtain ⟨k, st, hk⟩ := h
  refine ⟨k, st, ?_⟩
  rw [List.getElem?_append_left (List.getElem?_eq_some_iff.mp hk).1]
  exact hk

theorem givenBack_last {i : Interest Stamp} (h : x.2 = .changed (.ok i)) :
    GivenBack (hist ++ [x]) i :=
  ⟨hist.length, x.1, by rw [List.getElem?_concat_length, ← h]⟩

end History

namespace Interest

-- `i` was created no later than it was last updated, and at the same moment exactly when it
-- was not `updated` since its creation.
structure Dated (i : Interest Stamp) (updated : Prop) : Prop where
  created_le : i.createdAt ≤ i.updatedAt
  same_iff : i.createdAt = i.updatedAt ↔ ¬ updated

variable {i : Interest Stamp} {u u' : Prop}

theorem Dated.congr (h : i.Dated u) (hu : u' ↔ u) : i.Dated u' :=
  ⟨h.created_le, by rw [hu]; exact h.same_iff⟩

theorem dated_new (app ip : String) (now : Stamp) (hu : ¬ u) : (new app ip now).Dated u :=
  ⟨le_rfl, by simp [new, hu]⟩

-- An update takes a moment after the last one, so the two moments are apart from then on.
theorem Dated.moveTo (h : i.Dated u) {now : Stamp} (hlt : i.updatedAt < now) (ip : String)
    (hu : u') : (i.moveTo ip now).Dated u' := by
  have hlt' : i.createdAt < now := Nat.lt_of_le_of_lt h.created_le hlt
  refine ⟨Nat.le_of_lt hlt', ?_⟩
  simp only [Interest.moveTo, hu, not_true_eq_false, iff_false]
  exact Nat.ne_of_lt hlt'

end Interest

-- Each interest given back in `hist` is dated by the exchanges up to its own.
def RepliesDated (hist : List (Step × Reply)) : Prop :=
  ∀ (k : Nat) (st : Step) (i : Interest Stamp), hist[k]? = some (st, .changed (.ok i)) →
    i.Dated (UpdatedSinceCreated i.appName (hist.take (k + 1)))

theorem RepliesDated.concat {hist : List (Step × Reply)} {x : Step × Reply} (h : RepliesDated hist)
    (hx : ∀ i, x.2 = .changed (.ok i) → i.Dated (UpdatedSinceCreated i.appName (hist ++ [x]))) :
    RepliesDated (hist ++ [x]) := by
  intro k st i hk
  rcases Nat.lt_or_ge k hist.length with hlt | hge
  · rw [List.getElem?_append_left hlt] at hk
    rw [List.take_append_of_le_length (by omega)]
    exact h k st i hk
  · -- the exchange at `k` is the last one
    have hlt : k < hist.length + 1 := by simpa using (List.getElem?_eq_some_iff.mp hk).1
    obtain rfl : k = hist.length := by omega
    rw [List.getElem?_concat_length] at hk
    rw [List.take_of_length_le (by simp)]
    exact hx i (by rw [Option.some.inj hk])

namespace Registry

variable {Moment : Type}

-- A store built by putting interests holds only interests it was given.
theorem find?_foldl_put {seed : List (Interest Moment)} {r : Registry Moment} {app : String}
    {i : Interest Moment} (h : (seed.foldl put r).find? app = some i) :
    i ∈ seed ∨ r.find? app = some i := by
  induction seed generalizing r with
  | nil => exact .inr h
  | cons j rest ih =>
    rcases ih h with h | h
    · exact .inl (List.mem_cons_of_mem _ h)
    · rw [find?_put] at h
      split at h
      · cases h
        exact .inl List.mem_cons_self
      · exact .inr h

theorem mem_of_find?_ofList {seed : List (Interest Moment)} {app : String} {i : Interest Moment}
    (h : (ofList seed).find? app = some i) : i ∈ seed := by
  rcases find?_foldl_put h with h | h
  · exact h
  · simp [empty, find?] at h

end Registry

section Client

-- The actions that only ask: about the store, the hub, the scheduler or the executor.
def Action.Asks : Action → Prop
  | .findApp _ | .findIp _ | .list | .hubSize | .recorded _ => True
  | .hasJob _ | .snapshot _ | .schedulerState | .calls | .callsFor _ | .completed => True
  | _ => False

-- A client's action is one of the service's four changes, the passing of time, or a question.
theorem Action.serviceUse_cases {a : Action} (ha : a.ServiceUse) :
    (∃ app ip, a = .create app ip) ∨ (∃ app ip, a = .update app ip) ∨
      (∃ app, a = .removeApp app) ∨ (∃ ip, a = .removeIp ip) ∨ (∃ ms, a = .advance ms) ∨
        a.Asks := by
  cases a <;> simp [Action.ServiceUse, Action.Asks] at ha ⊢

-- A question leaves the scenario as it was, and its reply reports no change.
theorem Scenario.perform_of_asks (sc : Scenario) {a : Action} (ha : a.Asks) :
    (sc.perform a).2 = sc ∧ ∀ r, (sc.perform a).1 ≠ .changed r := by
  cases a
  all_goals simp only [Action.Asks] at ha
  -- the questions about the executor need no part
  case calls | callsFor | completed => simp [Scenario.perform]
  all_goals
    simp only [Scenario.perform, Scenario.need]
    split <;> simp

-- A change of the store is the system's call when the service is there, and refused otherwise.
theorem Scenario.perform_call (sc : Scenario) (why : Refusal)
    (call : System → Except ServiceError (Interest Stamp) × System) {reply : Reply} {sc' : Scenario}
    (h : sc.need sc.system.parts.service why (fun sc => sc.onSystem call .changed) = (reply, sc')) :
    (reply = .changed (call sc.system).1 ∧ sc'.system = (call sc.system).2) ∨
      ((∀ i, reply ≠ .changed (.ok i)) ∧ sc' = sc) := by
  unfold Scenario.need at h
  split at h
  · exact .inl ⟨(congrArg Prod.fst h).symm, (congrArg (·.2.system) h).symm⟩
  · cases h
    exact .inr ⟨(fun _ h => by cases h), rfl⟩

-- A step performs its action, or answers at once that it is refused or cannot be read; then it
-- settles if asked.
theorem Scenario.step_reply (sc : Scenario) (st : Step) :
    ∃ reply sc', (((∀ i, reply ≠ .changed (.ok i)) ∧ sc' = sc) ∨
        ∃ a, st.action = .ok a ∧ sc.perform a = (reply, sc')) ∧
      (sc.step st).1.reply = reply ∧
      (sc.step st).2 = if st.settle then { sc' with system := sc'.system.quiesce } else sc' := by
  unfold Scenario.step
  split
  rename_i reply sc' hmatch
  refine ⟨reply, sc', ?_, rfl, rfl⟩
  split at hmatch
  · cases hmatch
    exact .inl ⟨(fun _ h => by cases h), rfl⟩
  · rename_i a _ ha
    exact .inr ⟨a, ha, hmatch⟩
  · cases hmatch
    exact .inl ⟨(fun _ h => by cases h), rfl⟩

end Client

namespace System

variable {s s' : System} {hist : List (Step × Reply)} {x : Step × Reply} {st : Step}

-- What the exchanges `hist` of a client leave in the system `s`: every stored interest is
-- dated by them and was last updated before the next moment of record, every interest given back
-- was dated as of its exchange, and every interest in the scheduler's hands was given back.
structure Agreed (s : System) (hist : List (Step × Reply)) : Prop where
  dated : ∀ app i, s.store.find? app = some i → i.Dated (UpdatedSinceCreated app hist)
  before : ∀ app i, s.store.find? app = some i → i.updatedAt < s.clock
  replies : RepliesDated hist
  traced : Traced (GivenBack hist) s

-- Every interest stored under one app name in `s` and in `s'` has kept its creation moment.
def KeepsCreation (s s' : System) : Prop :=
  ∀ app i i', s.store.find? app = some i → s'.store.find? app = some i' →
    i'.createdAt = i.createdAt

theorem change_ok_state {f : Registry Stamp → Stamp → Except ServiceError (Change Stamp)}
    {c : Change Stamp} (h : f s.store s.clock = .ok c) :
    (s.change f).1 = .ok c.result ∧ (s.change f).2.store = c.store ∧
      (s.change f).2.clock = s.clock + 1 := by
  rw [change_of_ok h]
  exact ⟨rfl, (untouched_post _).store, (untouched_post _).clock⟩

-- A change that succeeds posts the interest it gives back.
theorem Traced.change_given (h : Traced (GivenBack hist) s)
    {f : Registry Stamp → Stamp → Except ServiceError (Change Stamp)}
    (hf : ∀ c, f s.store s.clock = .ok c → c.event.interest = c.result) (st : Step) :
    Traced (GivenBack (hist ++ [(st, .changed (s.change f).1)])) (s.change f).2 :=
  (h.mono fun _ => givenBack_concat).change fun c hc => by
    rw [hf c hc]
    exact givenBack_last (by rw [(change_ok_state hc).1])

theorem advance_store_clock (ms : Nat) :
    (s.advance ms).store = s.store ∧ (s.advance ms).clock = s.clock :=
  advance_invariant s (fun y => y.store = s.store ∧ y.clock = s.clock) (fun _ _ hy => hy)
    (fun y hy => by
      obtain ⟨r, hr, -⟩ := wakeDue_eq y
      rw [hr]
      exact hy)
    (fun y hy => ⟨(untouched_quiesce y).store.trans hy.1, (untouched_quiesce y).clock.trans hy.2⟩)
    ms ⟨rfl, rfl⟩

namespace Agreed

-- The exchange leaves the store as it was or takes interests out of it, and creates and updates
-- nothing; what it gives back, if anything, was stored.
theorem shrink (h : Agreed s hist) (hclock : s.clock ≤ s'.clock)
    (hstore : ∀ app i, s'.store.find? app = some i → s.store.find? app = some i)
    (hx : ∀ app, ¬ CreatedBy app x ∧ ¬ UpdatedBy app x)
    (hreply : ∀ i, x.2 = .changed (.ok i) → s.store.find? i.appName = some i)
    (ht : Traced (GivenBack (hist ++ [x])) s') :
    Agreed s' (hist ++ [x]) ∧ KeepsCreation s s' := by
  have hsame : ∀ app, UpdatedSinceCreated app (hist ++ [x]) ↔ UpdatedSinceCreated app hist :=
    fun app => updatedSinceCreated_concat_of_not (hx app).1 (hx app).2
  refine ⟨⟨fun app i hi => (h.dated app i (hstore app i hi)).congr (hsame app), fun app i hi => ?_,
    h.replies.concat fun i hi => (h.dated _ i (hreply i hi)).congr (hsame _), ht⟩,
    fun app i i' hi hi' => ?_⟩
  · exact Nat.lt_of_lt_of_le (h.before app i (hstore app i hi)) hclock
  · rw [hstore app i' hi'] at hi
    cases hi
    rfl

-- The exchange keeps the store and the clock and gives nothing back.
theorem keep (h : Agreed s hist) (hstore : s'.store = s.store) (hclock : s'.clock = s.clock)
    (hx : ∀ i, x.2 ≠ .changed (.ok i)) (ht : Traced (GivenBack hist) s') :
    Agreed s' (hist ++ [x]) ∧ KeepsCreation s s' :=
  h.shrink hclock.ge (fun _ _ hi => by rwa [hstore] at hi) (fun _ => not_createdBy_of_reply hx)
    (fun i hi => absurd hi (hx i)) (ht.mono fun _ => givenBack_concat)

-- The exchange stores `i`, updated at the moment it took, in place of what its app name had.
theorem put (h : Agreed s hist) {i : Interest Stamp} (hstore : s'.store = s.store.put i)
    (hclock : s'.clock = s.clock + 1) (hnow : i.updatedAt = s.clock)
    (hreply : x.2 = .changed (.ok i)) (hi : i.Dated (UpdatedSinceCreated i.appName (hist ++ [x])))
    (hx : ∀ app, app ≠ i.appName → ¬ CreatedBy app x ∧ ¬ UpdatedBy app x)
    (hcreated : ∀ j, s.store.find? i.appName = some j → i.createdAt = j.createdAt)
    (ht : Traced (GivenBack (hist ++ [x])) s') :
    Agreed s' (hist ++ [x]) ∧ KeepsCreation s s' := by
  have hself : s'.store.find? i.appName = some i := by
    rw [hstore, Registry.find?_put, if_pos rfl]
  have hother : ∀ app j, app ≠ i.appName → s'.store.find? app = some j →
      s.store.find? app = some j := by
    intro app j hne hj
    rwa [hstore, Registry.find?_put, if_neg (Ne.symm hne)] at hj
  refine ⟨⟨fun app j hj => ?_, fun app j hj => ?_, h.replies.concat fun j hj => ?_, ht⟩,
    fun app j j' hj hj' => ?_⟩
  · by_cases happ : app = i.appName
    · subst happ
      rw [hself] at hj
      cases hj
      exact hi
    · exact (h.dated app j (hother app j happ hj)).congr
        (updatedSinceCreated_concat_of_not (hx app happ).1 (hx app happ).2)
  · by_cases happ : app = i.appName
    · subst happ
      rw [hself] at hj
      cases hj
      rw [hnow, hclock]
      exact Nat.lt_succ_self _
    · rw [hclock]
      exact Nat.lt_succ_of_lt (h.before app j (hother app j happ hj))
  · rw [hreply] at hj
    cases hj
    exact hi
  · by_cases happ : app = i.appName
    · subst happ
      rw [hself] at hj'
      cases hj'
      exact hcreated j hj
    · rw [hother app j' happ hj'] at hj
      cases hj
      rfl

-- The exchange takes out the interest `i`, stored under its app name, and gives it back.
theorem erase (h : Agreed s hist) {i : Interest Stamp} (hstore : s'.store = s.store.erase i.appName)
    (hclock : s'.clock = s.clock + 1) (hi : s.store.find? i.appName = some i)
    (hreply : x.2 = .changed (.ok i)) (hx : ∀ app, ¬ CreatedBy app x ∧ ¬ UpdatedBy app x)
    (ht : Traced (GivenBack (hist ++ [x])) s') :
    Agreed s' (hist ++ [x]) ∧ KeepsCreation s s' := by
  refine h.shrink (by rw [hclock]; exact Nat.le_succ _) (fun app j hj => ?_) hx (fun j hj => ?_) ht
  · rw [hstore, Registry.find?_erase] at hj
    split at hj
    · cases hj
    · exact hj
  · rw [hreply] at hj
    cases hj
    exact hi

theorem untouched (h : Agreed s hist) (hu : Untouched s s') (ht : Traced (GivenBack hist) s') :
    Agreed s' hist := by
  refine ⟨fun app i hi => h.dated app i (hu.store ▸ hi), fun app i hi => ?_, h.replies, ht⟩
  rw [hu.clock]
  exact h.before app i (hu.store ▸ hi)

theorem quiesce (h : Agreed s hist) : Agreed s.quiesce hist :=
  h.untouched (untouched_quiesce s) h.traced.quiesce

-- A call the service refuses leaves the system as it was.
theorem change_error (h : Agreed s hist)
    {f : Registry Stamp → Stamp → Except ServiceError (Change Stamp)} {e : ServiceError}
    (hc : f s.store s.clock = .error e) (st : Step) :
    Agreed (s.change f).2 (hist ++ [(st, .changed (s.change f).1)]) ∧
      KeepsCreation s (s.change f).2 := by
  rw [change_of_error hc]
  exact h.keep rfl rfl (by simp) h.traced

theorem create (h : Agreed s hist) {app ip : String} (hst : st.action = .ok (.create app ip)) :
    Agreed (s.create ⟨app, ip⟩).2 (hist ++ [(st, .changed (s.create ⟨app, ip⟩).1)]) ∧
      KeepsCreation s (s.create ⟨app, ip⟩).2 := by
  unfold System.create
  cases hc : Service.create s.store ⟨app, ip⟩ s.clock with
  | error e => exact h.change_error hc st
  | ok c =>
    have ht := h.traced.change_given (f := fun r now => Service.create r ⟨app, ip⟩ now)
      (fun c hc => by rw [(Service.create_ok hc).2]) st
    obtain ⟨hnone, rfl⟩ := Service.create_ok hc
    obtain ⟨hres, hstore, hclock⟩ :=
      change_ok_state (f := fun r now => Service.create r ⟨app, ip⟩ now) hc
    have hx : (st, Reply.changed (s.change fun r now => Service.create r ⟨app, ip⟩ now).1).2 =
        .changed (.ok (Interest.new app ip s.clock)) := by
      rw [hres]
    refine h.put hstore hclock rfl hx (Interest.dated_new _ _ _ ?_) (fun app' hne => ?_)
      (fun j hj => ?_) ht
    · -- the exchange creates `app` and updates nothing
      rw [updatedSinceCreated_concat, updatedBy_iff hst, createdBy_iff hst]
      simp [Interest.new, hres]
    · rw [createdBy_iff hst, updatedBy_iff hst]
      simp only [Interest.new] at hne
      simp [Ne.symm hne]
    · simp [Interest.new, hnone] at hj

theorem update (h : Agreed s hist) {app ip : String} (hst : st.action = .ok (.update app ip)) :
    Agreed (s.update ⟨app, ip⟩).2 (hist ++ [(st, .changed (s.update ⟨app, ip⟩).1)]) ∧
      KeepsCreation s (s.update ⟨app, ip⟩).2 := by
  unfold System.update
  cases hc : Service.update s.store ⟨app, ip⟩ s.clock with
  | error e => exact h.change_error hc st
  | ok c =>
    have ht := h.traced.change_given (f := fun r now => Service.update r ⟨app, ip⟩ now)
      (fun c hc => by
      obtain ⟨_, _, rfl⟩ := Service.update_ok hc
      rfl) st
    obtain ⟨old, hold, rfl⟩ := Service.update_ok hc
    have hname : old.appName = app := (Registry.find?_eq_some_iff.mp hold).2
    obtain ⟨hres, hstore, hclock⟩ :=
      change_ok_state (f := fun r now => Service.update r ⟨app, ip⟩ now) hc
    have hx : (st, Reply.changed (s.change fun r now => Service.update r ⟨app, ip⟩ now).1).2 =
        .changed (.ok (old.moveTo ip s.clock)) := by
      rw [hres]
    refine h.put hstore hclock rfl hx ((h.dated app old hold).moveTo (h.before app old hold) ip ?_)
      (fun app' hne => ?_) (fun j hj => ?_) ht
    · -- the exchange updates `app`
      rw [Interest.moveTo_appName, hname, updatedSinceCreated_concat, updatedBy_iff hst]
      exact .inl ⟨⟨ip, rfl⟩, _, hx⟩
    · rw [Interest.moveTo_appName, hname] at hne
      rw [createdBy_iff hst, updatedBy_iff hst]
      simp [Ne.symm hne]
    · rw [Interest.moveTo_appName, hname, hold] at hj
      cases hj
      rfl

theorem removeApp (h : Agreed s hist) {app : String} (hst : st.action = .ok (.removeApp app)) :
    Agreed (s.removeApp app).2 (hist ++ [(st, .changed (s.removeApp app).1)]) ∧
      KeepsCreation s (s.removeApp app).2 := by
  unfold System.removeApp
  cases hc : Service.removeApp s.store app with
  | error e => exact h.change_error (f := fun r _ => Service.removeApp r app) hc st
  | ok c =>
    have ht := h.traced.change_given (f := fun r _ => Service.removeApp r app) (fun c hc => by
      obtain ⟨_, _, rfl⟩ := Service.removeApp_ok hc
      rfl) st
    obtain ⟨i, hi, rfl⟩ := Service.removeApp_ok hc
    have hname : i.appName = app := (Registry.find?_eq_some_iff.mp hi).2
    obtain ⟨hres, hstore, hclock⟩ := change_ok_state (f := fun r _ => Service.removeApp r app) hc
    refine h.erase (by rw [hstore, hname]) hclock (by rw [hname]; exact hi) (by rw [hres])
      (fun _ => ?_) ht
    rw [createdBy_iff hst, updatedBy_iff hst]
    simp

theorem removeIp (h : Agreed s hist) {ip : String} (hst : st.action = .ok (.removeIp ip)) :
    Agreed (s.removeIp ip).2 (hist ++ [(st, .changed (s.removeIp ip).1)]) ∧
      KeepsCreation s (s.removeIp ip).2 := by
  unfold System.removeIp
  cases hc : Service.removeIp s.store ip with
  | error e => exact h.change_error (f := fun r _ => Service.removeIp r ip) hc st
  | ok c =>
    have ht := h.traced.change_given (f := fun r _ => Service.removeIp r ip) (fun c hc => by
      obtain ⟨_, _, rfl⟩ := Service.removeIp_ok hc
      rfl) st
    obtain ⟨i, hi, rfl⟩ := Service.removeIp_ok hc
    have hstored : s.store.find? i.appName = some i :=
      Registry.find?_eq_some_iff.mpr ⟨(Registry.leastAt_of_findByIp? hi).1, rfl⟩
    obtain ⟨hres, hstore, hclock⟩ := change_ok_state (f := fun r _ => Service.removeIp r ip) hc
    refine h.erase hstore hclock hstored (by rw [hres]) (fun _ => ?_) ht
    rw [createdBy_iff hst, updatedBy_iff hst]
    simp

variable {sc sc' : Scenario} {reply : Reply}

-- A change of the store is the system's call, which agrees with the history, or it is refused.
theorem serviceCall (h : Agreed sc.system hist) {why : Refusal}
    (op : System → Except ServiceError (Interest Stamp) × System)
    (hop : Agreed (op sc.system).2 (hist ++ [(st, .changed (op sc.system).1)]) ∧
      KeepsCreation sc.system (op sc.system).2)
    (hperf : sc.need sc.system.parts.service why (fun sc => sc.onSystem op .changed) = (reply, sc')) :
    Agreed sc'.system (hist ++ [(st, reply)]) ∧ KeepsCreation sc.system sc'.system := by
  rcases Scenario.perform_call sc why op hperf with ⟨rfl, hsys⟩ | ⟨hr, rfl⟩
  · rw [hsys]
    exact hop
  · exact h.keep rfl rfl hr h.traced

theorem perform (h : Agreed sc.system hist) {a : Action} (ha : st.action = .ok a)
    (hu : a.ServiceUse) (hperf : sc.perform a = (reply, sc')) :
    Agreed sc'.system (hist ++ [(st, reply)]) ∧ KeepsCreation sc.system sc'.system := by
  rcases Action.serviceUse_cases hu with
    ⟨app, ip, rfl⟩ | ⟨app, ip, rfl⟩ | ⟨app, rfl⟩ | ⟨ip, rfl⟩ | ⟨ms, rfl⟩ | hasks
  · exact h.serviceCall (·.create ⟨app, ip⟩) (h.create ha) hperf
  · exact h.serviceCall (·.update ⟨app, ip⟩) (h.update ha) hperf
  · exact h.serviceCall (·.removeApp app) (h.removeApp ha) hperf
  · exact h.serviceCall (·.removeIp ip) (h.removeIp ha) hperf
  · -- time passes: the tasks run and the clock of record stays
    obtain ⟨rfl, rfl⟩ := Prod.mk.inj
      (show ((.none, { sc with system := sc.system.advance ms }) : Reply × Scenario) = (reply, sc')
        from hperf)
    exact h.keep (advance_store_clock ms).1 (advance_store_clock ms).2 (by simp)
      (h.traced.advance ms)
  · obtain ⟨hsc, hr⟩ := Scenario.perform_of_asks sc hasks
    rw [hperf] at hsc hr
    subst hsc
    exact h.keep rfl rfl (fun i => hr (.ok i)) h.traced

theorem step (h : Agreed sc.system hist) (hst : ∀ a, st.action = .ok a → a.ServiceUse) :
    Agreed (sc.step st).2.system (hist ++ [(st, (sc.step st).1.reply)]) ∧
      KeepsCreation sc.system (sc.step st).2.system := by
  obtain ⟨reply, sc', hcases, hreply, hsc⟩ := Scenario.step_reply sc st
  -- the exchange itself, then the settling, which keeps the store and the clock
  have hex : Agreed sc'.system (hist ++ [(st, reply)]) ∧ KeepsCreation sc.system sc'.system := by
    rcases hcases with ⟨hr, rfl⟩ | ⟨a, ha, hperf⟩
    · exact h.keep rfl rfl hr h.traced
    · exact h.perform ha (hst a ha) hperf
  rw [hreply, hsc]
  split
  · exact ⟨hex.1.quiesce, fun app i i' hi hi' =>
      hex.2 app i i' hi ((untouched_quiesce sc'.system).store ▸ hi')⟩
  · exact hex

theorem run (steps : List Step) (hsteps : ∀ st ∈ steps, ∀ a, st.action = .ok a → a.ServiceUse) :
    ∀ (sc : Scenario) (hist : List (Step × Reply)), Agreed sc.system hist →
      Agreed (runAll Scenario.step sc steps).2.system
        (hist ++ steps.zip ((runAll Scenario.step sc steps).1.map (·.reply))) := by
  induction steps with
  | nil =>
    intro sc hist h
    simpa using h
  | cons st rest ih =>
    intro sc hist h
    have hnext := (h.step (hsteps st List.mem_cons_self)).1
    have hrest := ih (fun st' hst' => hsteps st' (List.mem_cons_of_mem _ hst')) _ _ hnext
    rw [runAll_cons]
    simpa using hrest

end Agreed

-- The booted system holds the seed as new interests, stamped with the moments before its clock,
-- and nothing has reached the scheduler yet.
theorem boot_agreed (setup : Setup) : Agreed setup.boot [] := by
  obtain ⟨seeds, hstore, hseeds⟩ : ∃ seeds, setup.boot.store = Registry.ofList seeds ∧
      ∀ i ∈ seeds, i.createdAt = i.updatedAt ∧ i.updatedAt < setup.seed.length := by
    refine ⟨_, rfl, fun i hi => ?_⟩
    obtain ⟨⟨⟨a, ip⟩, n⟩, hmem, rfl⟩ := List.mem_map.mp hi
    have hn := (List.mem_zipIdx hmem).2.1
    exact ⟨rfl, by simpa [Interest.new] using hn⟩
  obtain ⟨hclock, hmail, hjobs, hloops⟩ : setup.boot.clock = setup.seed.length ∧
      (∀ k ∈ setup.boot.couriers, k.queue = []) ∧ setup.boot.table.jobs = [] ∧
      setup.boot.loops = [] := by
    simp [Setup.boot, register, Hub.mailbox?, Hub.empty, wake, Schedule.Table.empty]
  have hseed : ∀ app i, setup.boot.store.find? app = some i →
      i.createdAt = i.updatedAt ∧ i.updatedAt < setup.boot.clock := by
    intro app i hi
    rw [hstore] at hi
    rw [hclock]
    exact hseeds i (Registry.mem_of_find?_ofList hi)
  refine ⟨fun app i hi => ⟨Nat.le_of_eq (hseed app i hi).1, ?_⟩, fun app i hi => (hseed app i hi).2,
    fun k st i hk => by simp at hk, ⟨fun k hk e he => ?_, fun j hj => ?_, fun l hl => ?_⟩⟩
  · -- nothing was updated before the first exchange
    simp only [(hseed app i hi).1, true_iff]
    rintro ⟨pre, x, post, heq, -⟩
    simp at heq
  · rw [hmail k hk] at he
    cases he
  · rw [hjobs] at hj
    cases hj
  · rw [hloops] at hl
    cases hl

theorem interest_moments_follow_history (setup : Setup) (steps : List Step)
    (hsteps : ∀ st ∈ steps, ∀ a, st.action = .ok a → a.ServiceUse) :
    let run := runAll Scenario.step ⟨setup.boot, []⟩ steps
    let hist := steps.zip (run.1.map (·.reply))
    -- every stored interest
    (∀ i ∈ run.2.system.store.toList, i.createdAt ≤ i.updatedAt ∧
      (i.createdAt = i.updatedAt ↔ ¬ UpdatedSinceCreated i.appName hist)) ∧
    -- every interest a call gave back, as of that call
    (∀ k st i, hist[k]? = some (st, .changed (.ok i)) → i.createdAt ≤ i.updatedAt ∧
      (i.createdAt = i.updatedAt ↔ ¬ UpdatedSinceCreated i.appName (hist.take (k + 1)))) ∧
    -- every interest on its way to the scheduler or in its hands was given back by a call
    (∀ c ∈ run.2.system.couriers, ∀ e ∈ c.queue, GivenBack hist e.interest) ∧
    (∀ j ∈ run.2.system.table.jobs, GivenBack hist j.snapshot) ∧
    (∀ l ∈ run.2.system.loops, GivenBack hist l.snapshot) ∧
    -- and the next step keeps the creation moment of what stays stored
    ∀ st, (∀ a, st.action = .ok a → a.ServiceUse) → ∀ app i i',
      run.2.system.store.find? app = some i → (run.2.step st).2.system.store.find? app = some i' →
        i'.createdAt = i.createdAt := by
  intro run hist
  have h : Agreed run.2.system hist := by
    simpa using Agreed.run steps hsteps ⟨setup.boot, []⟩ [] (boot_agreed setup)
  refine ⟨fun i hi => ?_, fun k st i hk => ?_, h.traced.mail, h.traced.jobs, h.traced.loops,
    fun st hst => (h.step hst).2⟩
  · have hdated := h.dated i.appName i (Registry.find?_eq_some_iff.mpr ⟨hi, rfl⟩)
    exact ⟨hdated.created_le, hdated.same_iff⟩
  · exact ⟨(h.replies k st i hk).created_le, (h.replies k st i hk).same_iff⟩


theorem interest_moments_follow_history_over_seed_and_update :
    let setup : Setup := ⟨100, 10000, ⟨0, []⟩, [("a", "10.0.0.1")], Parts.all⟩
    let steps : List Step := [⟨[], .ok (.update "a" "10.0.0.2"), true⟩,
      ⟨[], .ok (.create "b" "10.0.0.3"), true⟩, ⟨[], .ok (.advance 250), true⟩]
    (∀ st ∈ steps, ∀ a, st.action = .ok a → a.ServiceUse) ∧
      let run := runAll Scenario.step ⟨setup.boot, []⟩ steps
      let hist := steps.zip (run.1.map (·.reply))
      (∀ i ∈ run.2.system.store.toList, i.createdAt ≤ i.updatedAt ∧
        (i.createdAt = i.updatedAt ↔ ¬ UpdatedSinceCreated i.appName hist)) ∧
      (∀ k st i, hist[k]? = some (st, .changed (.ok i)) → i.createdAt ≤ i.updatedAt ∧
        (i.createdAt = i.updatedAt ↔ ¬ UpdatedSinceCreated i.appName (hist.take (k + 1)))) ∧
      (∀ c ∈ run.2.system.couriers, ∀ e ∈ c.queue, GivenBack hist e.interest) ∧
      (∀ j ∈ run.2.system.table.jobs, GivenBack hist j.snapshot) ∧
      (∀ l ∈ run.2.system.loops, GivenBack hist l.snapshot) ∧
      ∀ st, (∀ a, st.action = .ok a → a.ServiceUse) → ∀ app i i',
        run.2.system.store.find? app = some i → (run.2.step st).2.system.store.find? app = some i' →
          i'.createdAt = i.createdAt := by
  intro setup steps
  have hsteps : ∀ st ∈ steps, ∀ a, st.action = .ok a → a.ServiceUse := by
    intro st hst a ha
    simp only [steps, List.mem_cons, List.mem_nil_iff, or_false] at hst
    rcases hst with rfl | rfl | rfl <;> cases ha <;> trivial
  exact ⟨hsteps, interest_moments_follow_history setup steps hsteps⟩

end System

end RouteWatch
