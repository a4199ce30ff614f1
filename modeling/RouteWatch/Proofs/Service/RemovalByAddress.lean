import RouteWatch.System.Control
import RouteWatch.Service.Registry.Lemmas

-- Removing by address removes what looking up by address finds.
namespace RouteWatch

namespace System

theorem wake_store (s : System) (t : Task) : (s.wake t).store = s.store := by
  unfold wake
  split <;> rfl

theorem send_store (s : System) (m : Nat) (e : Event Stamp) : (s.send m e).store = s.store := by
  unfold send
  split
  · rfl
  · dsimp only
    split
    · rw [wake_store]
      rfl
    · rfl

-- Publishing an event reaches the mailboxes only, never the store.
theorem post_store (s : System) (e : Event Stamp) : (s.post e).store = s.store := by
  unfold post
  generalize s.hub.mailboxes = ms
  induction ms generalizing s with
  | nil => rfl
  | cons m rest ih => rw [List.foldl_cons, ih, send_store]

theorem removeIp_of_findByIp?_some {s : System} {ip : String} {i : Interest Stamp}
    (h : s.store.findByIp? ip = some i) :
    (s.removeIp ip).1 = .ok i ∧ (s.removeIp ip).2.store = s.store.erase i.appName := by
  simp [removeIp, change, Service.removeIp, Service.announce, Registry.removeIp_eq_findByIp?, h, stamp,
    post_store]

theorem removeIp_of_findByIp?_none {s : System} {ip : String}
    (h : s.store.findByIp? ip = none) :
    s.removeIp ip = (.error (.notFound ip), s) := by
  simp [removeIp, change, Service.removeIp, Service.announce, Registry.removeIp_eq_findByIp?, h]

theorem removeIp_agrees_with_findByIp (s : System) (ip : String) (i : Interest Stamp) :
    (s.store.findByIp? ip = some i ↔ s.store.LeastAt ip i) ∧
    ((s.removeIp ip).1 = .ok i ∧ (s.removeIp ip).2.store.toList = s.store.toList.erase i ↔
      s.store.findByIp? ip = some i) ∧
    ((s.removeIp ip).1 = .error (.notFound ip) ∧ (s.removeIp ip).2 = s ↔
      s.store.findByIp? ip = none) := by
  refine ⟨Registry.findByIp?_eq_some_iff, ⟨fun ⟨hok, _⟩ => ?_, fun h => ?_⟩,
    ⟨fun ⟨herr, _⟩ => ?_, fun h => ?_⟩⟩
  · cases hf : s.store.findByIp? ip with
    | none =>
      rw [removeIp_of_findByIp?_none hf] at hok
      cases hok
    | some j =>
      rw [(removeIp_of_findByIp?_some hf).1] at hok
      cases hok
      rfl
  · obtain ⟨hok, hstore⟩ := removeIp_of_findByIp?_some h
    refine ⟨hok, ?_⟩
    rw [hstore]
    exact Registry.toList_erase_appName (Registry.findByIp?_eq_some_iff.mp h).1
  · cases hf : s.store.findByIp? ip with
    | none => rfl
    | some j =>
      rw [(removeIp_of_findByIp?_some hf).1] at herr
      cases herr
  · rw [removeIp_of_findByIp?_none h]
    exact ⟨rfl, rfl⟩

end System

end RouteWatch
