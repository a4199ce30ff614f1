import RouteWatch.Proofs.Hub.Mail
import RouteWatch.Proofs.System.Untouched
import RouteWatch.Proofs.Runs

-- Every mailbox the hub links is read.
namespace RouteWatch

open Schedule

-- `k'` is courier `k` later on: it reads for the same listener, has the same link, and if it
-- was linked and running it still runs.
structure Courier.Keeps (k k' : Courier) : Prop where
  listener : k'.listener = k.listener
  linked : k'.linked = k.linked
  running : k.linked = true → k.exited = false → k'.exited = false

namespace Courier.Keeps

theorem refl (k : Courier) : k.Keeps k :=
  ⟨rfl, rfl, fun _ h => h⟩

theorem trans {k k' k'' : Courier} (h : k.Keeps k') (h' : k'.Keeps k'') : k.Keeps k'' :=
  ⟨h'.listener.trans h.listener, h'.linked.trans h.linked,
    fun hl he => h'.running (h.linked.trans hl) (h.running hl he)⟩

theorem mail (k : Courier) (q : List (Event Stamp)) : k.Keeps { k with queue := q } :=
  ⟨rfl, rfl, fun _ h => h⟩

theorem stage (k : Courier) (st : Stage) : k.Keeps { k with stage := st } :=
  ⟨rfl, rfl, fun _ h => h⟩

theorem done (k : Courier) : k.Keeps { k with queue := [], exited := !k.linked } :=
  ⟨rfl, rfl, fun hl _ => by simp [hl]⟩

end Courier.Keeps

namespace System

-- Every courier of `s` is still there in `s'`, keeping its listener and its link.
def CouriersKept (s s' : System) : Prop :=
  ∀ (r : Nat) (k : Courier), s.couriers[r]? = some k → ∃ k', s'.couriers[r]? = some k' ∧ k.Keeps k'

namespace CouriersKept

variable {s s' s'' : System}

theorem refl (s : System) : CouriersKept s s :=
  fun _ k hk => ⟨k, hk, Courier.Keeps.refl k⟩

theorem trans (h : CouriersKept s s') (h' : CouriersKept s' s'') : CouriersKept s s'' := by
  intro r k hk
  obtain ⟨k', hk', hkk⟩ := h r k hk
  obtain ⟨k'', hk'', hkk'⟩ := h' r k' hk'
  exact ⟨k'', hk'', hkk.trans hkk'⟩

theorem of_eq (hc : s'.couriers = s.couriers) : CouriersKept s s' :=
  fun _ k hk => ⟨k, hc ▸ hk, Courier.Keeps.refl k⟩

end CouriersKept

section Kept

variable (s : System)

theorem couriersKept_setCourier {c : Nat} {k k' : Courier} (hc : s.couriers[c]? = some k)
    (hk : k.Keeps k') : CouriersKept s (s.setCourier c k') := by
  intro r x hx
  rw [setCourier_couriers_of hc]
  split
  · rename_i hcr
    subst hcr
    rw [hc] at hx
    cases hx
    exact ⟨k', rfl, hk⟩
  · exact ⟨x, hx, Courier.Keeps.refl x⟩

theorem couriersKept_handOver (c : Nat) (listener : Listener) :
    ∀ (q : List (Event Stamp)) (s : System), CouriersKept s (handOver c listener q s)
  | [], s => by
    unfold handOver
    split
    · rename_i k hk
      exact couriersKept_setCourier s hk (Courier.Keeps.done k)
    · exact CouriersKept.refl s
  | e :: rest, s => by
    rw [handOver_cons]
    have hpop : CouriersKept s (s.popMail c rest) := by
      unfold popMail
      split
      · rename_i k hk
        exact couriersKept_setCourier s hk (Courier.Keeps.mail k rest)
      · exact CouriersKept.refl s
    have hd := hpop.trans (CouriersKept.of_eq (deliver_couriers (s.popMail c rest) c listener e))
    cases h : (s.popMail c rest).deliver c listener e with
    | mk res s2 =>
      rw [h] at hd
      cases res with
      | none => exact hd.trans (couriersKept_handOver c listener rest s2)
      | some l =>
        rw [afterDeliver_some]
        unfold setStage
        split
        · rename_i k hk
          exact hd.trans (couriersKept_setCourier s2 hk (Courier.Keeps.stage k _))
        · exact hd

theorem couriersKept_runCourier (c : Nat) : CouriersKept s (s.runCourier c) := by
  unfold runCourier
  cases hk : s.couriers[c]? with
  | none => exact CouriersKept.refl s
  | some k =>
    dsimp only
    split
    · exact CouriersKept.refl s
    · split
      · split
        · -- the update is over: back to waiting, then on with the mailbox
          exact ((couriersKept_setCourier s hk (Courier.Keeps.stage k .waiting)).trans
            (CouriersKept.of_eq (endRetire_couriers _))).trans (couriersKept_handOver c _ _ _)
        · exact CouriersKept.refl s
      · exact couriersKept_handOver c _ _ s

theorem couriersKept_runTask (t : Task) : CouriersKept s (s.runTask t) := by
  cases t with
  | courier c => exact couriersKept_runCourier s c
  | loop n => exact CouriersKept.of_eq (runLoop_couriers s n)

theorem couriersKept_quiesce : CouriersKept s s.quiesce :=
  quiesceWith_invariant (CouriersKept s)
    (fun x t rest hx _ => hx.trans
      ((CouriersKept.of_eq rfl).trans (couriersKept_runTask { x with ready := rest } t))) _ s
    (CouriersKept.refl s)

theorem couriersKept_send (m : Nat) (e : Event Stamp) : CouriersKept s (s.send m e) := by
  intro r k hk
  rw [send_couriers]
  split
  · rename_i hr
    subst hr
    rw [hk]
    exact ⟨_, rfl, Courier.Keeps.mail k _⟩
  · exact ⟨k, hk, Courier.Keeps.refl k⟩

theorem couriersKept_post (e : Event Stamp) : CouriersKept s (s.post e) := by
  unfold post
  generalize s.hub.mailboxes = ms
  induction ms generalizing s with
  | nil => exact CouriersKept.refl s
  | cons m rest ih => exact (couriersKept_send s m e).trans (ih _)

section Calls

-- A caller's own calls on the scheduler leave the hub and the couriers' links alone.

theorem untouched_awaitRetire : Untouched s s.awaitRetire :=
  (untouched_quiesce s).trans ⟨rfl, rfl, rfl, rfl, rfl, rfl, rfl, rfl⟩

theorem couriersKept_awaitRetire : CouriersKept s s.awaitRetire :=
  (couriersKept_quiesce s).trans (CouriersKept.of_eq rfl)

theorem untouched_startJobNow (i : Interest Stamp) : Untouched s (s.startJobNow i).2 := by
  have h := untouched_startJob s i none
  unfold startJobNow
  split <;> rename_i heq <;> rw [heq] at h
  · exact h.trans (untouched_awaitRetire _)
  · exact h

theorem couriersKept_startJobNow (i : Interest Stamp) : CouriersKept s (s.startJobNow i).2 := by
  have h : CouriersKept s (s.startJob i none).2 := CouriersKept.of_eq (startJob_couriers s i none)
  unfold startJobNow
  split <;> rename_i heq <;> rw [heq] at h
  · exact h.trans (couriersKept_awaitRetire _)
  · exact h

theorem untouched_stopJobNow (app : String) : Untouched s (s.stopJobNow app).2 := by
  have h := untouched_stopJob s app none
  unfold stopJobNow
  split <;> rename_i heq <;> rw [heq] at h
  · exact h.trans (untouched_awaitRetire _)
  · exact h

theorem couriersKept_stopJobNow (app : String) : CouriersKept s (s.stopJobNow app).2 := by
  have h : CouriersKept s (s.stopJob app none).2 := CouriersKept.of_eq (stopJob_couriers s none app)
  unfold stopJobNow
  split <;> rename_i heq <;> rw [heq] at h
  · exact h.trans (couriersKept_awaitRetire _)
  · exact h

theorem untouched_drain (close : Bool) : Untouched s (s.drain close).2 := by
  have h : Untouched s (s.takeAllJobs close).2 := by
    rw [takeAllJobs_eq]
    exact (Untouched.inner s _ _ _ _ _ _).trans (untouched_cancelAll _ _ _)
  unfold drain
  dsimp only
  split
  · exact h.trans (untouched_quiesce _)
  · exact h

theorem couriersKept_drain (close : Bool) : CouriersKept s (s.drain close).2 := by
  have h : CouriersKept s (s.takeAllJobs close).2 := by
    rw [takeAllJobs_eq]
    exact CouriersKept.of_eq (cancelAll_couriers _ _ _)
  unfold drain
  dsimp only
  split
  · exact h.trans (couriersKept_quiesce _)
  · exact h

end Calls

end Kept

-- The hub lists each id once and each mailbox under one id, and the courier of every linked
-- mailbox is linked and still runs.
structure Wired (s : System) : Prop where
  keys : (s.hub.links.map Prod.fst).Nodup
  single : ∀ (a b : String) (m : Nat), (a, m) ∈ s.hub.links → (b, m) ∈ s.hub.links → a = b
  live : ∀ m ∈ s.hub.mailboxes, ∃ k, s.couriers[m]? = some k ∧ k.linked = true ∧ k.exited = false

namespace Wired

variable {s s' : System}

theorem mailboxes_nodup (h : Wired s) : s.hub.mailboxes.Nodup := by
  apply List.Nodup.map_on _ (List.Nodup.of_map Prod.fst h.keys)
  rintro ⟨a, m⟩ ha ⟨b, m'⟩ hb (hm : m = m')
  subst hm
  rw [h.single a b m ha hb]

theorem lt_of_mem (h : Wired s) {m : Nat} (hm : m ∈ s.hub.mailboxes) : m < s.couriers.length := by
  obtain ⟨k, hk, -⟩ := h.live m hm
  exact (List.getElem?_eq_some_iff.mp hk).1

theorem of_kept (h : Wired s) (hh : s'.hub = s.hub) (hk : CouriersKept s s') : Wired s' where
  keys := hh ▸ h.keys
  single := hh ▸ h.single
  live m hm := by
    rw [hh] at hm
    obtain ⟨k, hkm, hl, he⟩ := h.live m hm
    obtain ⟨k', hk', hkk⟩ := hk m k hkm
    exact ⟨k', hk', hkk.linked.trans hl, hkk.running hl he⟩

theorem quiesce (h : Wired s) : Wired s.quiesce :=
  h.of_kept (untouched_quiesce s).hub (couriersKept_quiesce s)

-- A registration links a new mailbox whose courier runs, and lets go of the mailbox its id
-- had, which no other id lists.
theorem register (h : Wired s) (id : String) (l : Listener) : Wired (s.register id l) := by
  have hhub := (register_frame s id l).2
  have hfresh : ∀ a, (a, s.couriers.length) ∉ s.hub.links := fun a ha =>
    Nat.lt_irrefl _ (h.lt_of_mem ((s.hub.mem_mailboxes).mpr ⟨a, ha⟩))
  refine ⟨hhub ▸ Hub.keys_link _ _ _ h.keys, ?_, ?_⟩
  · intro a b m ha hb
    rw [hhub, Hub.mem_link] at ha hb
    rcases ha with ⟨rfl, rfl⟩ | ⟨-, ha⟩ <;> rcases hb with ⟨rfl, hbm⟩ | ⟨-, hb⟩
    · rfl
    · exact absurd hb (hfresh b)
    · subst hbm
      exact absurd ha (hfresh a)
    · exact h.single a b m ha hb
  · intro m hm
    rw [hhub, Hub.mem_mailboxes] at hm
    obtain ⟨a, ha⟩ := hm
    rw [register_couriers]
    rcases (Hub.mem_link _ _ _).mp ha with ⟨rfl, rfl⟩ | ⟨hna, ha⟩
    · -- the new mailbox, which no id had before
      have hnot : s.hub.mailbox? a ≠ some s.couriers.length := fun ho =>
        hfresh a ((s.hub.mailbox?_eq_some_iff _ _ h.keys).mp ho)
      simp [hnot]
    · obtain ⟨k, hk, hl, he⟩ := h.live m ((s.hub.mem_mailboxes).mpr ⟨a, ha⟩)
      have hnot : s.hub.mailbox? id ≠ some m := fun ho =>
        hna (h.single a id m ha ((s.hub.mailbox?_eq_some_iff id m h.keys).mp ho))
      refine ⟨k, ?_, hl, he⟩
      rw [List.getElem?_append_left (List.getElem?_eq_some_iff.mp hk).1, hk]
      simp [hnot]

-- A deregistration lets go of the id's mailbox, which no other id lists.
theorem deregister (h : Wired s) (id : String) : Wired (s.deregister id) := by
  have hlinks := (deregister_frame s id).2
  refine ⟨deregister_keys s id h.keys, fun a b m ha hb =>
    h.single a b m ((hlinks a m).mp ha).2 ((hlinks b m).mp hb).2, ?_⟩
  intro m hm
  obtain ⟨a, ha⟩ := ((s.deregister id).hub.mem_mailboxes).mp hm
  obtain ⟨hna, ha⟩ := (hlinks a m).mp ha
  obtain ⟨k, hk, hl, he⟩ := h.live m ((s.hub.mem_mailboxes).mpr ⟨a, ha⟩)
  have hnot : s.hub.mailbox? id ≠ some m := fun ho =>
    hna (h.single a id m ha ((s.hub.mailbox?_eq_some_iff id m h.keys).mp ho))
  refine ⟨k, ?_, hl, he⟩
  rw [deregister_couriers, hk]
  simp [hnot]

end Wired

theorem wired_closed : Closed Wired where
  stamp _ h := h.of_kept rfl (CouriersKept.of_eq rfl)
  store _ _ h := h.of_kept rfl (CouriersKept.of_eq rfl)
  post s e h := h.of_kept (foldl_send_frame e s.hub.mailboxes s).2 (couriersKept_post s e)
  openLog _ h := h.of_kept rfl (CouriersKept.of_eq rfl)
  register _ id l h := h.register id l
  deregister _ id h := h.deregister id
  startJobNow s i h := h.of_kept (untouched_startJobNow s i).hub (couriersKept_startJobNow s i)
  stopJobNow s app h := h.of_kept (untouched_stopJobNow s app).hub (couriersKept_stopJobNow s app)
  stopAll s h := h.of_kept (untouched_drain s false).hub (couriersKept_drain s false)
  restarted _ h := h.of_kept rfl (CouriersKept.of_eq rfl)
  advance s ms h := advance_invariant s Wired (fun _ _ hx => hx.of_kept rfl (CouriersKept.of_eq rfl))
    (fun x hx => by
      obtain ⟨r, hr, -⟩ := wakeDue_eq x
      rw [hr]
      exact hx.of_kept rfl (CouriersKept.of_eq rfl))
    (fun _ hx => hx.quiesce) ms h
  quiesce _ h := h.quiesce

theorem wired_boot (setup : Setup) : Wired setup.boot := by
  unfold Setup.boot
  refine Wired.register ⟨?_, ?_, ?_⟩ _ _ <;> simp [Hub.empty, Hub.mailboxes]

end System

end RouteWatch
