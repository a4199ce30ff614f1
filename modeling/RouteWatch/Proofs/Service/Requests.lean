import RouteWatch.System.Control
import RouteWatch.Service.Registry.Lemmas

-- What each call of the interest service does to the system.
namespace RouteWatch

namespace System

variable {s : System} {f : Registry Stamp → Stamp → Except ServiceError (Change Stamp)}

theorem change_of_error {e : ServiceError} (h : f s.store s.clock = .error e) :
    s.change f = (.error e, s) := by
  simp [change, stamp, h]

theorem change_of_ok {c : Change Stamp} (h : f s.store s.clock = .ok c) :
    s.change f = (.ok c.result, ({ s with clock := s.clock + 1, store := c.store }).post c.event) := by
  simp [change, stamp, h]

theorem service_calls_answer_as_documented (s : System) (app ip : String) :
    let fresh : Interest Stamp := ⟨app, ip, s.clock, s.clock⟩
    -- a creation
    ((∀ c ∈ app.toList, Text.isBlank c = true) →
        s.create ⟨app, ip⟩ = (.error (.validation "app name must not be empty"), s)) ∧
    (¬ (∀ c ∈ app.toList, Text.isBlank c = true) → (∃ j ∈ s.store.toList, j.appName = app) →
        s.create ⟨app, ip⟩ = (.error (.alreadyExists app), s)) ∧
    (¬ (∀ c ∈ app.toList, Text.isBlank c = true) → (∀ j ∈ s.store.toList, j.appName ≠ app) →
        ∃ r : Registry Stamp, r.toList.Perm (fresh :: s.store.toList) ∧
          s.create ⟨app, ip⟩ =
            (.ok fresh, ({ s with clock := s.clock + 1, store := r }).post ⟨.created, fresh⟩)) ∧
    -- an update
    ((∀ j ∈ s.store.toList, j.appName ≠ app) → s.update ⟨app, ip⟩ = (.error (.notFound app), s)) ∧
    (∀ old ∈ s.store.toList, old.appName = app →
        ∃ r : Registry Stamp,
          r.toList.Perm ({ old with serviceIp := ip, updatedAt := s.clock } :: s.store.toList.erase old) ∧
          s.update ⟨app, ip⟩ = (.ok { old with serviceIp := ip, updatedAt := s.clock },
            ({ s with clock := s.clock + 1, store := r }).post
              ⟨.updated, { old with serviceIp := ip, updatedAt := s.clock }⟩)) ∧
    -- a removal by app name
    ((∀ j ∈ s.store.toList, j.appName ≠ app) → s.removeApp app = (.error (.notFound app), s)) ∧
    (∀ i ∈ s.store.toList, i.appName = app →
        ∃ r : Registry Stamp, r.toList = s.store.toList.erase i ∧
          s.removeApp app = (.ok i, ({ s with clock := s.clock + 1, store := r }).post ⟨.deleted, i⟩)) ∧
    -- a removal by address
    ((∀ j ∈ s.store.toList, j.serviceIp ≠ ip) → s.removeIp ip = (.error (.notFound ip), s)) ∧
    (∀ i, s.store.LeastAt ip i →
        ∃ r : Registry Stamp, r.toList = s.store.toList.erase i ∧
          s.removeIp ip = (.ok i, ({ s with clock := s.clock + 1, store := r }).post ⟨.deleted, i⟩)) := by
  intro fresh
  refine ⟨fun hb => ?_, fun hb hst => ?_, fun hb hfree => ?_, fun hfree => ?_, fun old hold hname => ?_,
    fun hfree => ?_, fun i hi hname => ?_, fun hnone => ?_, fun i hi => ?_⟩
  · -- a blank name is refused before the store is asked
    refine change_of_error ?_
    simp [Service.create, Text.allBlank_iff.mpr hb, ServiceError.blankAppName]
  · obtain ⟨j, hj, rfl⟩ := hst
    have hf : s.store.find? j.appName = some j := Registry.find?_eq_some_iff.mpr ⟨hj, rfl⟩
    have hb' : Text.allBlank j.appName = false :=
      Bool.eq_false_iff.mpr fun h => hb (Text.allBlank_iff.mp h)
    refine change_of_error ?_
    simp [Service.create, hb', hf]
  · have hf : s.store.find? app = none := Registry.find?_eq_none_iff.mpr hfree
    have hb' : Text.allBlank app = false := Bool.eq_false_iff.mpr fun h => hb (Text.allBlank_iff.mp h)
    -- nothing is stored under the name, so the new interest joins the listing
    have hlist := Registry.toList_put_perm s.store fresh
    rw [Registry.toList_erase_of_forall_ne hfree] at hlist
    exact ⟨s.store.put fresh, hlist,
      change_of_ok (c := ⟨fresh, s.store.put fresh, ⟨.created, fresh⟩⟩)
        (by simp [Service.create, Service.announce, Registry.create, Except.map, hb', hf, Interest.new,
          fresh])⟩
  · refine change_of_error ?_
    simp [Service.update, Registry.find?_eq_none_iff.mpr hfree]
  · subst hname
    have hf : s.store.find? old.appName = some old := Registry.find?_eq_some_iff.mpr ⟨hold, rfl⟩
    -- the old interest is the one entry of its app name, and the new one takes its place
    have hlist := Registry.toList_put_perm s.store (old.moveTo ip s.clock)
    rw [Interest.moveTo_appName, Registry.toList_erase_appName hold] at hlist
    exact ⟨s.store.put (old.moveTo ip s.clock), hlist,
      change_of_ok (c := ⟨old.moveTo ip s.clock, s.store.put (old.moveTo ip s.clock),
        ⟨.updated, old.moveTo ip s.clock⟩⟩) (by simp [Service.update, Service.announce, Registry.update, hf])⟩
  · refine change_of_error ?_
    simp [Service.removeApp, Service.announce, Registry.removeApp, Registry.find?_eq_none_iff.mpr hfree]
  · subst hname
    have hf : s.store.find? i.appName = some i := Registry.find?_eq_some_iff.mpr ⟨hi, rfl⟩
    exact ⟨s.store.erase i.appName, Registry.toList_erase_appName hi,
      change_of_ok (c := ⟨i, s.store.erase i.appName, ⟨.deleted, i⟩⟩)
        (by simp [Service.removeApp, Service.announce, Registry.removeApp, hf])⟩
  · refine change_of_error ?_
    simp [Service.removeIp, Service.announce, Registry.removeIp_eq_findByIp?,
      Registry.findByIp?_eq_none_iff.mpr hnone]
  · have hf := Registry.findByIp?_eq_some_iff.mpr hi
    exact ⟨s.store.erase i.appName, Registry.toList_erase_appName hi.1,
      change_of_ok (c := ⟨i, s.store.erase i.appName, ⟨.deleted, i⟩⟩)
        (by simp [Service.removeIp, Service.announce, Registry.removeIp_eq_findByIp?, hf])⟩

end System

end RouteWatch
