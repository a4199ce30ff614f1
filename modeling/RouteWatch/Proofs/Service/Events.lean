import RouteWatch.Service.Basic
import RouteWatch.Service.Registry.Lemmas
import RouteWatch.Proofs.Schedule.Jobs

-- Changes of the store read as events.
namespace RouteWatch

-- What an event files under its key: its interest, or nothing for a deletion.
def Event.filed {Moment : Type} (e : Event Moment) : Option (Interest Moment) :=
  match e.kind with
  | .created | .updated => some e.interest
  | .deleted => none

-- A change of `r` does what its event announces, and nothing else.
def Announces {Moment : Type} (r : Registry Moment) (c : Change Moment) : Prop :=
  ∀ app, c.store.find? app = if c.event.key = app then c.event.filed else r.find? app

namespace Service

variable {Moment : Type} {r : Registry Moment} {c : Change Moment}

-- A call succeeds when the store's change does, and announces what the store gave back.
theorem announce_eq_ok {kind : EventKind} {res : Except ServiceError (Interest Moment × Registry Moment)} :
    announce kind res = .ok c ↔ ∃ i r', res = .ok (i, r') ∧ c = ⟨i, r', ⟨kind, i⟩⟩ := by
  cases res with
  | error e => simp [announce]
  | ok p =>
    obtain ⟨i, r'⟩ := p
    simp only [announce, Except.ok.injEq]
    exact ⟨fun h => ⟨i, r', rfl, h.symm⟩, fun ⟨_, _, hp, hc⟩ => by cases hp; exact hc.symm⟩

theorem create_ok {app ip : String} {now : Moment} (h : create r ⟨app, ip⟩ now = .ok c) :
    r.find? app = none ∧
      c = ⟨Interest.new app ip now, r.put (Interest.new app ip now),
        ⟨.created, Interest.new app ip now⟩⟩ := by
  unfold create at h
  split at h
  · cases h
  · split at h
    · cases h
    · rename_i hnone
      dsimp only at h hnone
      -- the store's own check finds the name free, as the look-up did
      have hfree : r.find? (Interest.new app ip now).appName = none := hnone
      rw [Registry.create_of_find?_none hfree] at h
      obtain ⟨i, r', hres, rfl⟩ := announce_eq_ok.mp h
      cases hres
      exact ⟨hnone, rfl⟩

theorem update_ok {app ip : String} {now : Moment} (h : update r ⟨app, ip⟩ now = .ok c) :
    ∃ old, r.find? app = some old ∧
      c = ⟨old.moveTo ip now, r.put (old.moveTo ip now), ⟨.updated, old.moveTo ip now⟩⟩ := by
  unfold update at h
  split at h
  · cases h
  · rename_i old hold
    dsimp only at h hold
    -- the store's own look-up finds the interest the service found
    have hfound : r.find? (old.moveTo ip now).appName = some old := by
      rw [Interest.moveTo_appName, (Registry.find?_eq_some_iff.mp hold).2]
      exact hold
    rw [Registry.update_of_find?_some hfound] at h
    obtain ⟨i, r', hres, rfl⟩ := announce_eq_ok.mp h
    cases hres
    exact ⟨old, hold, rfl⟩

theorem removeApp_ok {app : String} (h : removeApp r app = .ok c) :
    ∃ i, r.find? app = some i ∧ c = ⟨i, r.erase app, ⟨.deleted, i⟩⟩ := by
  obtain ⟨i, r', hres, rfl⟩ := announce_eq_ok.mp h
  cases hf : r.find? app with
  | none =>
    rw [Registry.removeApp_of_find?_none hf] at hres
    cases hres
  | some j =>
    rw [Registry.removeApp_of_find?_some hf] at hres
    cases hres
    exact ⟨i, rfl, rfl⟩

theorem removeIp_ok {ip : String} (h : removeIp r ip = .ok c) :
    ∃ i, r.findByIp? ip = some i ∧ c = ⟨i, r.erase i.appName, ⟨.deleted, i⟩⟩ := by
  obtain ⟨i, r', hres, rfl⟩ := announce_eq_ok.mp h
  rw [Registry.removeIp_eq_findByIp?] at hres
  split at hres
  · cases hres
  · rename_i j hj
    cases hres
    exact ⟨i, hj, rfl⟩

theorem create_announces {req : Request} {now : Moment} (h : create r req now = .ok c) :
    Announces r c := by
  obtain ⟨app, ip⟩ := req
  obtain ⟨-, rfl⟩ := create_ok h
  exact Registry.find?_put r _

theorem update_announces {req : Request} {now : Moment} (h : update r req now = .ok c) :
    Announces r c := by
  obtain ⟨app, ip⟩ := req
  obtain ⟨old, -, rfl⟩ := update_ok h
  exact Registry.find?_put r _

-- A removal erases the app name it found, which is the key of its event.
theorem removeApp_announces {app : String} (h : removeApp r app = .ok c) : Announces r c := by
  obtain ⟨i, hi, rfl⟩ := removeApp_ok h
  have hname : i.appName = app := (Keyed.find?_eq_some hi).2
  intro a
  rw [← hname]
  exact Registry.find?_erase r _ a

theorem removeIp_announces {ip : String} (h : removeIp r ip = .ok c) : Announces r c := by
  obtain ⟨i, -, rfl⟩ := removeIp_ok h
  exact Registry.find?_erase r _

end Service

namespace Schedule

-- The scheduler's reading of an event: a creation or an update files its interest, a
-- deletion removes the key.
def JobMap.apply (m : JobMap) (e : Event Stamp) : JobMap :=
  match e.kind with
  | .created | .updated => m.insert e.key e.interest
  | .deleted => m.erase e.key

theorem JobMap.lookup_apply (m : JobMap) (e : Event Stamp) (app : String) :
    (m.apply e).lookup app = if e.key = app then e.filed else m.lookup app := by
  unfold JobMap.apply Event.filed
  by_cases h : e.key = app
  · subst h
    cases e.kind <;> simp
  · cases e.kind <;> simp [h, Finmap.lookup_insert_of_ne, Finmap.lookup_erase_ne, Ne.symm h]

-- Creating every interest of a list with distinct app names, in turn: each app name ends up
-- with its interest from the list, and the others keep what they had.
theorem JobMap.lookup_foldl_created {items : List (Interest Stamp)}
    (hitems : items.Pairwise fun a b => a.appName < b.appName) (m : JobMap) (app : String) :
    ((items.map fun i => (⟨.created, i⟩ : Event Stamp)).foldl JobMap.apply m).lookup app =
      (items.find? fun i => i.appName == app).or (m.lookup app) := by
  induction items generalizing m with
  | nil => simp
  | cons i rest ih =>
    have hrest := (List.pairwise_cons.mp hitems).2
    rw [List.map_cons, List.foldl_cons, ih hrest, JobMap.lookup_apply, List.find?_cons]
    by_cases hi : i.appName = app
    · -- the later interests have larger app names, so none of them is filed under `app`
      have hnone : rest.find? (fun j => j.appName == app) = none := by
        rw [List.find?_eq_none]
        intro j hj hja
        have hlt := (List.pairwise_cons.mp hitems).1 j hj
        rw [beq_iff_eq.mp hja, ← hi] at hlt
        exact String.lt_irrefl _ hlt
      simp [hi, hnone, Event.key, Event.filed]
    · have hne : (i.appName == app) = false := by simpa using hi
      simp [hi, hne, Event.key]

end Schedule

end RouteWatch
