import RouteWatch.Proofs.System.Retiring

-- What the hub's side does to the couriers, the hub and the logs.
namespace RouteWatch

open Schedule

-- An entry of a list with one more element at its end: an old entry, or the new one.
theorem getElem?_append_singleton_eq_some {α : Type} {ls : List α} {x y : α} {q : Nat} :
    (ls ++ [x])[q]? = some y ↔ ls[q]? = some y ∨ (q = ls.length ∧ x = y) := by
  rw [List.getElem?_append]
  split
  · rename_i hq
    simp [Nat.ne_of_lt hq]
  · rename_i hq
    rw [List.getElem?_singleton, List.getElem?_eq_none (by omega)]
    by_cases h : q = ls.length
    · simp [h]
    · have : q - ls.length ≠ 0 := by omega
      simp [h, this]

namespace Hub

variable (h : Hub) (id : String) (m : Nat)

theorem mem_link {a : String} {b : Nat} :
    (a, b) ∈ (h.link id m).links ↔ (a = id ∧ b = m) ∨ (a ≠ id ∧ (a, b) ∈ h.links) := by
  unfold link
  split
  · rename_i hany
    obtain ⟨e, he, heid⟩ := List.any_eq_true.mp hany
    simp only [List.mem_map]
    constructor
    · rintro ⟨x, hx, hxe⟩
      by_cases hxid : x.1 = id
      · simp only [hxid, beq_self_eq_true, if_true, Prod.mk.injEq] at hxe
        exact Or.inl ⟨hxe.1.symm, hxe.2.symm⟩
      · have hne : (x.1 == id) = false := by simpa using hxid
        rw [hne, if_neg (by simp)] at hxe
        subst hxe
        exact Or.inr ⟨hxid, hx⟩
    · rintro (⟨rfl, rfl⟩ | ⟨hne, hab⟩)
      · exact ⟨e, he, by simp [beq_iff_eq.mp heid]⟩
      · exact ⟨(a, b), hab, by simp [hne]⟩
  · rename_i hany
    have hnot : ∀ x ∈ h.links, x.1 ≠ id := by
      intro x hx hxid
      exact hany (List.any_eq_true.mpr ⟨x, hx, by simp [hxid]⟩)
    simp only [List.mem_append, List.mem_singleton, Prod.mk.injEq]
    constructor
    · rintro (hab | ⟨rfl, rfl⟩)
      · exact Or.inr ⟨hnot _ hab, hab⟩
      · exact Or.inl ⟨rfl, rfl⟩
    · rintro (⟨rfl, rfl⟩ | ⟨-, hab⟩)
      · exact Or.inr ⟨rfl, rfl⟩
      · exact Or.inl hab

theorem keys_link (hk : (h.links.map Prod.fst).Nodup) : ((h.link id m).links.map Prod.fst).Nodup := by
  unfold link
  split
  · rw [List.map_map]
    have hsame : (Prod.fst ∘ fun e : String × Nat => if e.1 == id then (id, m) else e) = Prod.fst := by
      funext e
      by_cases he : e.1 = id <;> simp [he]
    rwa [hsame]
  · rename_i hany
    rw [List.map_append, List.nodup_append]
    refine ⟨hk, List.nodup_singleton _, ?_⟩
    intro a ha b hb hab
    simp only [List.map_cons, List.map_nil, List.mem_singleton] at hb
    obtain ⟨x, hx, rfl⟩ := List.mem_map.mp ha
    exact hany (List.any_eq_true.mpr ⟨x, hx, by simp [hab, hb]⟩)

theorem mem_unlink {a : String} {b : Nat} :
    (a, b) ∈ (h.unlink id).links ↔ a ≠ id ∧ (a, b) ∈ h.links := by
  simp [unlink, and_comm]

theorem keys_unlink (hk : (h.links.map Prod.fst).Nodup) : ((h.unlink id).links.map Prod.fst).Nodup :=
  hk.sublist (List.Sublist.map Prod.fst List.filter_sublist)

-- With each id listed once, an id's mailbox is the one it is listed with.
theorem mailbox?_eq_some_iff (hk : (h.links.map Prod.fst).Nodup) :
    h.mailbox? id = some m ↔ (id, m) ∈ h.links := by
  unfold mailbox?
  obtain ⟨links⟩ := h
  dsimp only at hk ⊢
  induction links with
  | nil => simp
  | cons x rest ih =>
    obtain ⟨a, b⟩ := x
    rw [List.map_cons, List.nodup_cons] at hk
    by_cases ha : a = id
    · subst ha
      have hnot : ∀ y, (a, y) ∉ rest := fun y hy => hk.1 (List.mem_map.mpr ⟨(a, y), hy, rfl⟩)
      simp only [List.lookup_cons_self, Option.some.injEq, List.mem_cons, Prod.mk.injEq, true_and]
      constructor
      · exact fun hb => Or.inl hb.symm
      · rintro (rfl | hy)
        · rfl
        · exact absurd hy (hnot m)
    · have hne : (id == a) = false := by simpa using Ne.symm ha
      simp [List.lookup_cons, hne, ih hk.2, Ne.symm ha]

theorem mem_mailboxes {r : Nat} : r ∈ h.mailboxes ↔ ∃ a, (a, r) ∈ h.links := by
  simp [mailboxes]

end Hub

namespace System

variable (s : System)

section Frame

@[simp] theorem wake_logs (t : Task) : (s.wake t).logs = s.logs := by unfold wake; split <;> rfl
@[simp] theorem wake_hub (t : Task) : (s.wake t).hub = s.hub := by unfold wake; split <;> rfl
@[simp] theorem setCourier_logs (c : Nat) (k : Courier) : (s.setCourier c k).logs = s.logs := rfl
@[simp] theorem setCourier_hub (c : Nat) (k : Courier) : (s.setCourier c k).hub = s.hub := rfl
@[simp] theorem setLoop_logs (n : Nat) (l : Loop) : (s.setLoop n l).logs = s.logs := rfl
@[simp] theorem beginRetire_logs : s.beginRetire.logs = s.logs := rfl
@[simp] theorem endRetire_logs : s.endRetire.logs = s.logs := rfl
@[simp] theorem endRetire_hub : s.endRetire.hub = s.hub := rfl

@[simp] theorem cancelLoop_logs (n : Nat) (w : Option Nat) : (s.cancelLoop n w).logs = s.logs := by
  unfold cancelLoop; split <;> simp

@[simp] theorem fileJob_logs (i : Interest Stamp) : (s.fileJob i).logs = s.logs := by
  simp [fileJob, spawnLoop_eq]

theorem startJob_logs (i : Interest Stamp) (w : Option Nat) : (s.startJob i w).2.logs = s.logs := by
  cases h : s.table.closed
  · rw [startJob_of_open s i w h]
    split <;> simp
  · rw [startJob_of_closed s i w h]

theorem stopJob_logs (app : String) (w : Option Nat) : (s.stopJob app w).2.logs = s.logs := by
  unfold stopJob
  split <;> simp

-- The scheduler and a silent observer write no log.
theorem deliver_logs_of_ne {c : Nat} {listener : Listener} (e : Event Stamp)
    (hl : ∀ j, listener ≠ .recorder j) : (s.deliver c listener e).2.logs = s.logs := by
  cases listener with
  | scheduler =>
    dsimp only [deliver]
    split
    · exact startJob_logs _ _ _
    · exact startJob_logs _ _ _
    · exact stopJob_logs _ _ _
  | recorder j => exact absurd rfl (hl j)
  | silent => rfl

-- Only the scheduler's updates make a courier wait.
theorem deliver_fst_of_ne {c : Nat} {listener : Listener} (e : Event Stamp)
    (hl : listener ≠ .scheduler) : (s.deliver c listener e).1 = none := by
  unfold deliver
  split
  · exact absurd rfl hl
  · rfl
  · rfl

theorem deliver_ready_of_mem {c : Nat} {listener : Listener} (e : Event Stamp) {x : Task}
    (hx : x ∈ s.ready) : x ∈ (s.deliver c listener e).2.ready :=
  s.deliver_induct (fun r => x ∈ r.2.ready) c listener e (startJob_ready_of_mem _ _ _ hx)
    (stopJob_ready_of_mem _ _ _ hx) (fun _ => hx) hx

theorem runLoop_logs (n : Nat) : (s.runLoop n).logs = s.logs := by
  cases hn : s.loops[n]? with
  | none => rw [runLoop_of_none s n hn]
  | some l =>
    cases he : l.exited
    · cases hc : l.cancelled
      · obtain ⟨l', ledger, hrun, -⟩ := runLoop_of_live s n hn he hc
        rw [hrun]
      · rw [runLoop_of_cancelled s n hn he hc]
        cases l.waiter <;> simp
    · rw [runLoop_of_exited s n hn he]

end Frame

section Mail

variable (e : Event Stamp)

theorem send_couriers (m r : Nat) :
    (s.send m e).couriers[r]? =
      if r = m then (s.couriers[m]?).map fun k => { k with queue := k.queue ++ [e] }
      else s.couriers[r]? := by
  unfold send
  split
  · rename_i hm
    split <;> simp_all
  · rename_i k hm
    have hset := setCourier_couriers_of hm
    dsimp only
    by_cases hr : r = m
    · subst hr
      split <;> simp only [wake_couriers, hset, if_true, hm, Option.map_some]
    · split <;> simp only [wake_couriers, hset, if_neg (Ne.symm hr)]

@[simp] theorem send_logs (m : Nat) : (s.send m e).logs = s.logs := by
  unfold send
  split
  · rfl
  · dsimp only
    split <;> simp

@[simp] theorem send_hub (m : Nat) : (s.send m e).hub = s.hub := by
  unfold send
  split
  · rfl
  · dsimp only
    split <;> simp

theorem send_ready_of_mem (m : Nat) {x : Task} (hx : x ∈ s.ready) : x ∈ (s.send m e).ready :=
  (aside_send s m e).ready x hx

-- A courier that waits for mail is woken by a letter.
theorem send_ready_self {m : Nat} {k : Courier} (hm : s.couriers[m]? = some k)
    (hw : k.stage = .waiting) : .courier m ∈ (s.send m e).ready := by
  unfold send
  rw [hm]
  dsimp only
  rw [if_pos hw]
  exact (mem_wake_ready _ _).mpr (Or.inr rfl)

-- Sending to each mailbox of a list that names none twice: each gets the letter once.
theorem foldl_send_couriers : ∀ (ms : List Nat) (s : System), ms.Nodup → ∀ r,
    (ms.foldl (fun s m => s.send m e) s).couriers[r]? =
      if r ∈ ms then (s.couriers[r]?).map fun k => { k with queue := k.queue ++ [e] }
      else s.couriers[r]?
  | [], s, _, r => by simp
  | m :: rest, s, hnd, r => by
    rw [List.foldl_cons, foldl_send_couriers rest _ (List.nodup_cons.mp hnd).2, send_couriers]
    by_cases hr : r = m
    · subst hr
      simp [(List.nodup_cons.mp hnd).1]
    · by_cases hrest : r ∈ rest <;> simp [hr, hrest]

theorem foldl_send_frame : ∀ (ms : List Nat) (s : System),
    (ms.foldl (fun s m => s.send m e) s).logs = s.logs ∧ (ms.foldl (fun s m => s.send m e) s).hub = s.hub
  | [], s => ⟨rfl, rfl⟩
  | m :: rest, s => by
    rw [List.foldl_cons]
    obtain ⟨h1, h2⟩ := foldl_send_frame rest (s.send m e)
    exact ⟨h1.trans (send_logs _ _ _), h2.trans (send_hub _ _ _)⟩

theorem foldl_send_ready : ∀ (ms : List Nat) (s : System), ms.Nodup →
    (∀ x ∈ s.ready, x ∈ (ms.foldl (fun s m => s.send m e) s).ready) ∧
      ∀ m ∈ ms, ∀ k, s.couriers[m]? = some k → k.stage = .waiting →
        .courier m ∈ (ms.foldl (fun s m => s.send m e) s).ready
  | [], s, _ => ⟨fun _ hx => hx, fun _ hm => by cases hm⟩
  | m :: rest, s, hnd => by
    obtain ⟨hsub, hwoke⟩ := foldl_send_ready rest (s.send m e) (List.nodup_cons.mp hnd).2
    rw [List.foldl_cons]
    refine ⟨fun x hx => hsub x (send_ready_of_mem _ _ _ hx), fun m' hm' k hk hw => ?_⟩
    rcases List.mem_cons.mp hm' with rfl | hm'
    · exact hsub _ (send_ready_self _ _ hk hw)
    · have hk' : (s.send m e).couriers[m']? = some k := by
        have hne : m' ≠ m := fun h => (List.nodup_cons.mp hnd).1 (h ▸ hm')
        rw [send_couriers, if_neg hne, hk]
      exact hwoke m' hm' k hk' hw

theorem release_couriers (m r : Nat) :
    (s.release m).couriers[r]? =
      if r = m then (s.couriers[m]?).map fun k => { k with linked := false } else s.couriers[r]? := by
  unfold release
  split
  · rename_i hm
    split <;> simp_all
  · rename_i k hm
    have hset := setCourier_couriers_of hm
    dsimp only
    by_cases hr : r = m
    · subst hr
      split <;> simp only [wake_couriers, hset, if_true, hm, Option.map_some]
    · split <;> simp only [wake_couriers, hset, if_neg (Ne.symm hr)]

theorem release_frame (m : Nat) : (s.release m).logs = s.logs ∧ (s.release m).hub = s.hub := by
  unfold release
  split
  · exact ⟨rfl, rfl⟩
  · dsimp only
    split <;> simp

-- A registration adds its courier at the end, and lets go of the mailbox its id had.
theorem register_couriers (id : String) (l : Listener) (r : Nat) :
    (s.register id l).couriers[r]? =
      ((s.couriers ++ [⟨l, [], true, .waiting, false⟩])[r]?).map fun k =>
        if s.hub.mailbox? id = some r then { k with linked := false } else k := by
  unfold register
  dsimp only
  split
  · rename_i o ho
    rw [release_couriers, wake_couriers, ho]
    by_cases hr : r = o
    · subst hr
      simp
    · simp [hr, Ne.symm hr]
  · rename_i ho
    simp [ho]

theorem register_frame (id : String) (l : Listener) :
    (s.register id l).logs = s.logs ∧ (s.register id l).hub = s.hub.link id s.couriers.length := by
  unfold register
  dsimp only
  split
  · simp [release_frame]
  · simp

theorem deregister_couriers (id : String) (r : Nat) :
    (s.deregister id).couriers[r]? =
      (s.couriers[r]?).map fun k => if s.hub.mailbox? id = some r then { k with linked := false } else k := by
  unfold deregister
  split
  · rename_i o ho
    rw [release_couriers, ho]
    by_cases hr : r = o
    · subst hr
      simp
    · simp [hr, Ne.symm hr]
  · rename_i ho
    simp [ho]

theorem deregister_keys (id : String) (hk : (s.hub.links.map Prod.fst).Nodup) :
    ((s.deregister id).hub.links.map Prod.fst).Nodup := by
  unfold deregister
  split
  · rw [(release_frame _ _).2]
    exact Hub.keys_unlink _ _ hk
  · exact hk

theorem deregister_frame (id : String) :
    (s.deregister id).logs = s.logs ∧
      ∀ a b, (a, b) ∈ (s.deregister id).hub.links ↔ a ≠ id ∧ (a, b) ∈ s.hub.links := by
  unfold deregister
  split
  · refine ⟨(release_frame _ _).1, fun a b => ?_⟩
    rw [(release_frame _ _).2]
    exact s.hub.mem_unlink id
  · rename_i ho
    refine ⟨rfl, fun a b => ⟨fun hab => ⟨?_, hab⟩, fun hab => hab.2⟩⟩
    rintro rfl
    have hne := List.lookup_eq_none_iff.mp ho (a, b) hab
    simp at hne

theorem listeners_setCourier {c : Nat} {k : Courier} (hk : s.couriers[c]? = some k) (k' : Courier)
    (hl : k'.listener = k.listener) :
    (s.setCourier c k').couriers.map Courier.listener = s.couriers.map Courier.listener := by
  apply List.ext_getElem?
  intro r
  rw [List.getElem?_map, List.getElem?_map, setCourier_couriers_of hk]
  split
  · rename_i hr
    subst hr
    simp [hk, hl]
  · rfl

theorem listeners_send (m : Nat) :
    (s.send m e).couriers.map Courier.listener = s.couriers.map Courier.listener := by
  apply List.ext_getElem?
  intro r
  rw [List.getElem?_map, List.getElem?_map, send_couriers]
  split
  · rename_i hr
    subst hr
    cases s.couriers[r]? <;> rfl
  · rfl

theorem listeners_post :
    (s.post e).couriers.map Courier.listener = s.couriers.map Courier.listener := by
  unfold post
  generalize s.hub.mailboxes = ms
  induction ms generalizing s with
  | nil => rfl
  | cons m rest ih => rw [List.foldl_cons, ih, listeners_send]

theorem listeners_register (id : String) (l : Listener) :
    (s.register id l).couriers.map Courier.listener = s.couriers.map Courier.listener ++ [l] := by
  have happ : s.couriers.map Courier.listener ++ [l] =
      (s.couriers ++ [(⟨l, [], true, .waiting, false⟩ : Courier)]).map Courier.listener := by simp
  rw [happ]
  apply List.ext_getElem?
  intro r
  rw [List.getElem?_map, List.getElem?_map, register_couriers, Option.map_map]
  congr 1
  funext k
  simp only [Function.comp_apply]
  split <;> rfl

theorem listeners_deregister (id : String) :
    (s.deregister id).couriers.map Courier.listener = s.couriers.map Courier.listener := by
  apply List.ext_getElem?
  intro r
  rw [List.getElem?_map, List.getElem?_map, deregister_couriers, Option.map_map]
  congr 1
  funext k
  simp only [Function.comp_apply]
  split <;> rfl

end Mail

end System

end RouteWatch
