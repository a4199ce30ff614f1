import Mathlib
import RouteWatch.Proofs.Hub.Contract
import RouteWatch.Proofs.Hub.Mail

-- Every registration on the hub gets exactly its events.
namespace RouteWatch

open Schedule
namespace System

-- Registers `who` under `id`; a recorder gets a new log.
def join (s : System) (id : String) : Joiner → System
  | .scheduler => s.register id .scheduler
  | .recorder => s.openLog.2.register id (.recorder s.openLog.1)
  | .silent => s.register id .silent

-- Makes a call on the hub.
def hubCall (s : System) : HubCall → System
  | .join id who => s.join id who
  | .leave id => s.deregister id
  | .publish e => s.post e

end System

-- What happens next beside the hub: a call, or a run of one ready task, wherever it stands in
-- the ready queue.
inductive HubMove where
  | call (c : HubCall)
  | run (t : Task)
  deriving Repr

def HubMove.call? : HubMove → Option HubCall
  | .call c => some c
  | .run _ => none

-- A task that is not ready does not run.
def System.hubMove (s : System) : HubMove → System
  | .call c => s.hubCall c
  | .run t => if t ∈ s.ready then { s with ready := s.ready.erase t }.runTask t else s

section Carrying

variable {calls : List HubCall} {s s' : System}

-- The courier `k` of a registration of `id` that the calls `later` followed carries what the
-- hub owes it: it stays linked while the registration is current; what it has handed over, then
-- the mail it holds, is what the registration is due, and a recorder's log is what it has handed
-- over; it exits only when let go of with no mail left; and only the scheduler's updates make it
-- wait.
structure Carried (s : System) (k : Courier) (id : String) (later : List HubCall) : Prop where
  linked : k.linked = current id later
  handed : ∃ handed, handed ++ k.queue = dueTo id later ∧
    ∀ j, k.listener = .recorder j → s.logs[j]? = some handed
  exited : k.exited = true → k.queue = [] ∧ k.linked = false
  waits : k.listener ≠ .scheduler → k.stage = .waiting

-- The hub and the couriers of `s` are what the calls `calls` made of them: one courier per
-- registration, in order; the hub links the id of each current registration to its courier; each
-- courier carries its registration; each recorder's log is open and kept by one courier.
structure Carries (calls : List HubCall) (s : System) : Prop where
  count : s.couriers.length = (registrations calls).length
  keys : (s.hub.links.map Prod.fst).Nodup
  links : ∀ id m, (id, m) ∈ s.hub.links ↔
    ∃ later, (registrations calls)[m]? = some (id, later) ∧ current id later = true
  couriers : ∀ (r : Nat) k, s.couriers[r]? = some k →
    ∃ id later, (registrations calls)[r]? = some (id, later) ∧ Carried s k id later
  owners : ∀ (r r' : Nat) j, (s.couriers.map Courier.listener)[r]? = some (.recorder j) →
    (s.couriers.map Courier.listener)[r']? = some (.recorder j) → r = r'
  opened : ∀ j, Listener.recorder j ∈ s.couriers.map Courier.listener → j < s.logs.length

-- Every courier that waits for mail and holds some is ready to run, but perhaps courier `c`.
def Prompt (s : System) (c : Option Nat) : Prop :=
  ∀ (r : Nat) k, s.couriers[r]? = some k → k.stage = .waiting → k.queue ≠ [] → c ≠ some r →
    .courier r ∈ s.ready

-- One call on the hub, seen from a courier: it gets the call's event while its registration is
-- current, and is unlinked when the call ends it.
theorem Carried.call {k k' : Courier} {id : String} {later : List HubCall}
    (hcar : Carried s k id later) (c : HubCall)
    (hq : k'.queue = k.queue ++ if current id later then c.event?.toList else [])
    (hlinked : k'.linked = (k.linked && !c.ends id)) (hl : k'.listener = k.listener)
    (hs : k'.stage = k.stage) (he : k'.exited = k.exited)
    (hlogs : ∀ j, k.listener = .recorder j → s'.logs[j]? = s.logs[j]?) :
    Carried s' k' id (later ++ [c]) where
  linked := by rw [hlinked, hcar.linked, current_append_single]
  handed := by
    obtain ⟨handed, hdue, hlog⟩ := hcar.handed
    refine ⟨handed, ?_, fun j hj => (hlogs j (hl ▸ hj)).trans (hlog j (hl ▸ hj))⟩
    rw [hq, ← List.append_assoc, hdue, dueTo_append_single]
    cases hc : c.ends id
    · simp
    · simp [HubCall.event?_of_ends hc]
  exited := by
    intro hex
    obtain ⟨hq0, hl0⟩ := hcar.exited (he ▸ hex)
    have hcur : current id later = false := hcar.linked.symm.trans hl0
    exact ⟨by simp [hq, hq0, hcur], by simp [hlinked, hl0]⟩
  waits := fun hne => hs ▸ hcar.waits (hl ▸ hne)

theorem Carried.logs_congr {k : Courier} {id : String} {later : List HubCall}
    (hcar : Carried s k id later) (hlogs : ∀ j, k.listener = .recorder j → s'.logs[j]? = s.logs[j]?) :
    Carried s' k id later where
  linked := hcar.linked
  handed := by
    obtain ⟨handed, hdue, hlog⟩ := hcar.handed
    exact ⟨handed, hdue, fun j hj => (hlogs j hj).trans (hlog j hj)⟩
  exited := hcar.exited
  waits := hcar.waits

-- The courier takes the first event off its mail and hands it over.
theorem Carried.pop {k : Courier} {id : String} {later : List HubCall} {e : Event Stamp}
    {rest : List (Event Stamp)} (hcar : Carried s k id later) (hq : k.queue = e :: rest)
    (hlog : ∀ j handed, k.listener = .recorder j → s.logs[j]? = some handed →
      s'.logs[j]? = some (handed ++ [e])) :
    Carried s' { k with queue := rest } id later where
  linked := hcar.linked
  handed := by
    obtain ⟨handed, hdue, hl⟩ := hcar.handed
    refine ⟨handed ++ [e], ?_, fun j hj => hlog j handed hj (hl j hj)⟩
    rw [List.append_assoc, List.singleton_append, ← hq, hdue]
  exited hx := by
    have := (hcar.exited hx).1
    rw [hq] at this
    cases this
  waits := hcar.waits

namespace Carries

theorem frame (h : Carries calls s) (hc : s'.couriers = s.couriers) (hl : s'.logs = s.logs)
    (hh : s'.hub = s.hub) : Carries calls s' where
  count := hc ▸ h.count
  keys := hh ▸ h.keys
  links := hh ▸ h.links
  couriers r k hk := by
    obtain ⟨id, later, hreg, hcar⟩ := h.couriers r k (hc ▸ hk)
    exact ⟨id, later, hreg, hcar.logs_congr fun j _ => by rw [hl]⟩
  owners := hc ▸ h.owners
  opened := hc ▸ hl ▸ h.opened

theorem mem_mailboxes_iff (h : Carries calls s) {r : Nat} {id : String} {later : List HubCall}
    (hreg : (registrations calls)[r]? = some (id, later)) :
    r ∈ s.hub.mailboxes ↔ current id later = true := by
  rw [Hub.mem_mailboxes]
  constructor
  · rintro ⟨a, ha⟩
    obtain ⟨later', hr, hcur⟩ := (h.links a r).mp ha
    rw [hreg, Option.some.injEq, Prod.mk.injEq] at hr
    obtain ⟨rfl, rfl⟩ := hr
    exact hcur
  · exact fun hcur => ⟨id, (h.links id r).mpr ⟨later, hreg, hcur⟩⟩

theorem mailboxes_nodup (h : Carries calls s) : s.hub.mailboxes.Nodup := by
  apply List.Nodup.map_on _ (List.Nodup.of_map Prod.fst h.keys)
  rintro ⟨a, m⟩ ha ⟨b, m'⟩ hb (hm : m = m')
  subst hm
  obtain ⟨la, hra, -⟩ := (h.links a m).mp ha
  obtain ⟨lb, hrb, -⟩ := (h.links b m).mp hb
  rw [hra, Option.some.injEq, Prod.mk.injEq] at hrb
  rw [hrb.1]

-- Letting go of the mailbox an id had unlinks exactly the courier of its current registration.
theorem linked_release (h : Carries calls s) {r : Nat} {k : Courier} {id' : String}
    {later : List HubCall} (hreg : (registrations calls)[r]? = some (id', later)) (hcar : Carried s k id' later)
    (id : String) : (if s.hub.mailbox? id = some r then false else k.linked) = (k.linked && !(id == id')) := by
  by_cases hm : s.hub.mailbox? id = some r
  · obtain ⟨later', hr, -⟩ := (h.links id r).mp ((s.hub.mailbox?_eq_some_iff id r h.keys).mp hm)
    rw [hreg, Option.some.injEq, Prod.mk.injEq] at hr
    simp [hm, hr.1]
  · rw [if_neg hm]
    by_cases hid : id = id'
    · subst hid
      have hoff : current id later = false := by
        by_contra hc
        exact hm ((s.hub.mailbox?_eq_some_iff _ _ h.keys).mpr
          ((h.links id r).mpr ⟨later, hreg, by simpa using hc⟩))
      simp [hcar.linked, hoff]
    · simp [hid]

theorem openLog (h : Carries calls s) : Carries calls s.openLog.2 where
  count := h.count
  keys := h.keys
  links := h.links
  couriers r k hk := by
    obtain ⟨id, later, hreg, hcar⟩ := h.couriers r k hk
    refine ⟨id, later, hreg, hcar.logs_congr fun j hj => ?_⟩
    have hlt := h.opened j (List.mem_map.mpr ⟨k, List.mem_of_getElem? hk, hj⟩)
    exact List.getElem?_append_left hlt
  owners := h.owners
  opened j hj := by
    have := h.opened j hj
    simp only [System.openLog, List.length_append, List.length_singleton]
    omega

-- Publishing: every courier of a current registration gets the event at the end of its mail.
theorem post (h : Carries calls s) (e : Event Stamp) : Carries (calls ++ [.publish e]) (s.post e) := by
  have hcour : ∀ r, (s.post e).couriers[r]? =
      if r ∈ s.hub.mailboxes then (s.couriers[r]?).map fun k => { k with queue := k.queue ++ [e] }
      else s.couriers[r]? :=
    System.foldl_send_couriers e s.hub.mailboxes s h.mailboxes_nodup
  have hlogs : (s.post e).logs = s.logs := (System.foldl_send_frame e s.hub.mailboxes s).1
  have hhub : (s.post e).hub = s.hub := (System.foldl_send_frame e s.hub.mailboxes s).2
  have hlis := System.listeners_post s e
  refine ⟨?_, ?_, ?_, ?_, ?_, ?_⟩
  · have hlen := congrArg List.length hlis
    simp only [List.length_map] at hlen
    simp [hlen, h.count, registrations_append, registrations_single, HubCall.joins?]
  · exact hhub ▸ h.keys
  · intro a b
    rw [hhub, h.links, current_registration_append_single]
    simp [HubCall.ends, HubCall.joins?]
  · intro r k' hr
    rw [hcour] at hr
    cases hk : s.couriers[r]? with
    | none => simp [hk] at hr
    | some k =>
      obtain ⟨id, later, hreg, hcar⟩ := h.couriers r k hk
      refine ⟨id, later ++ [.publish e], registrations_after hreg _, ?_⟩
      have hlog : ∀ j, k.listener = .recorder j → (s.post e).logs[j]? = s.logs[j]? := by
        intro j _
        rw [hlogs]
      by_cases hc : current id later = true
      · -- a current registration gets the event at the end of its mail
        rw [if_pos ((h.mem_mailboxes_iff hreg).mpr hc), hk, Option.map_some, Option.some.injEq] at hr
        subst hr
        exact hcar.call _ (by simp [hc, HubCall.event?]) (by simp [HubCall.ends]) rfl rfl rfl hlog
      · rw [if_neg (mt (h.mem_mailboxes_iff hreg).mp hc), hk, Option.some.injEq] at hr
        subst hr
        exact hcar.call _ (by simp [hc]) (by simp [HubCall.ends]) rfl rfl rfl hlog
  · rw [hlis]
    exact h.owners
  · rw [hlis, hlogs]
    exact h.opened

-- A call that registers or deregisters `id` lets go of the mailbox `id` had; every courier
-- still carries its registration, the one let go of unlinked.
theorem carried_release (h : Carries calls s) {r : Nat} {k : Courier} {id' : String}
    {later : List HubCall} (hreg : (registrations calls)[r]? = some (id', later))
    (hcar : Carried s k id' later) (id : String) {c : HubCall} (hc : c.event? = none)
    (hends : c.ends id' = (id == id')) (hlogs : s'.logs = s.logs) :
    Carried s' (if s.hub.mailbox? id = some r then { k with linked := false } else k) id'
      (later ++ [c]) := by
  refine hcar.call c ?_ ?_ ?_ ?_ ?_ fun j _ => by rw [hlogs]
  · simp only [hc, Option.toList_none, ite_self, List.append_nil]
    split <;> rfl
  · rw [hends, ← h.linked_release hreg hcar id]
    split <;> rfl
  all_goals split <;> rfl

-- A listener keeping no log already kept, put at the end, leaves every log with one owner.
theorem owners_append {ls : List Listener} {l : Listener}
    (h : ∀ (r r' : Nat) j, ls[r]? = some (.recorder j) → ls[r']? = some (.recorder j) → r = r')
    (hfresh : ∀ j, l = .recorder j → Listener.recorder j ∉ ls) (r r' j : Nat)
    (hr : (ls ++ [l])[r]? = some (.recorder j)) (hr' : (ls ++ [l])[r']? = some (.recorder j)) :
    r = r' := by
  -- an owner is an old one, or the new listener at the end
  rcases getElem?_append_singleton_eq_some.mp hr with h1 | ⟨rfl, hl⟩ <;>
    rcases getElem?_append_singleton_eq_some.mp hr' with h2 | ⟨rfl, hl'⟩
  · exact h r r' j h1 h2
  · exact absurd (List.mem_of_getElem? h1) (hfresh j hl')
  · exact absurd (List.mem_of_getElem? h2) (hfresh j hl)
  · rfl

-- Registering: a new courier for the new registration, the one it replaces let go of.
theorem register (h : Carries calls s) (id : String) (who : Joiner) (l : Listener)
    (hfresh : ∀ j, l = .recorder j →
      s.logs[j]? = some [] ∧ Listener.recorder j ∉ s.couriers.map Courier.listener) :
    Carries (calls ++ [.join id who]) (s.register id l) := by
  obtain ⟨hlogs, hhub⟩ := System.register_frame s id l
  have hlis := System.listeners_register s id l
  have hlen : (s.register id l).couriers.length = s.couriers.length + 1 := by
    simpa using congrArg List.length hlis
  refine ⟨?_, ?_, ?_, ?_, ?_, ?_⟩
  · simp [hlen, h.count, registrations_append, registrations_single, HubCall.joins?]
  · rw [hhub]
    exact Hub.keys_link _ _ _ h.keys
  · intro a b
    rw [hhub, Hub.mem_link, h.links, current_registration_append_single, h.count]
    simp only [HubCall.ends, HubCall.joins?, beq_eq_false_iff_ne, Option.some.injEq]
    constructor
    · rintro (⟨rfl, rfl⟩ | ⟨hne, hcur⟩)
      · exact Or.inr ⟨rfl, rfl⟩
      · exact Or.inl ⟨hcur, Ne.symm hne⟩
    · rintro (⟨hcur, hne⟩ | ⟨rfl, rfl⟩)
      · exact Or.inr ⟨Ne.symm hne, hcur⟩
      · exact Or.inl ⟨rfl, rfl⟩
  · intro r k' hr
    rw [System.register_couriers] at hr
    by_cases hlt : r < s.couriers.length
    · -- a courier of an earlier registration
      rw [List.getElem?_append_left hlt] at hr
      obtain ⟨k, hk⟩ : ∃ k, s.couriers[r]? = some k := ⟨_, List.getElem?_eq_getElem hlt⟩
      obtain ⟨id', later, hreg, hcar⟩ := h.couriers r k hk
      rw [hk, Option.map_some, Option.some.injEq] at hr
      subst hr
      exact ⟨id', later ++ [.join id who], registrations_after hreg _,
        h.carried_release hreg hcar id rfl rfl hlogs⟩
    · -- the new courier: no mailbox of the hub is beyond the couriers
      have hm : s.hub.mailbox? id ≠ some r := fun hm => by
        obtain ⟨later', hr', -⟩ := (h.links id r).mp ((s.hub.mailbox?_eq_some_iff id r h.keys).mp hm)
        have := (List.getElem?_eq_some_iff.mp hr').1
        have := h.count
        omega
      rw [List.getElem?_append_right (by omega), List.getElem?_singleton] at hr
      simp only [hm, if_false, Option.map_id', Option.ite_none_right_eq_some,
        Option.some.injEq] at hr
      obtain ⟨hr0, rfl⟩ := hr
      have := h.count
      refine ⟨id, [], getElem?_registrations_append_single.mpr (Or.inr ⟨by omega, rfl, rfl⟩),
        ⟨rfl, ⟨[], rfl, fun j hj => ?_⟩, by simp, fun _ => rfl⟩⟩
      rw [hlogs]
      exact (hfresh j hj).1
  · rw [hlis]
    exact owners_append h.owners fun j hj => (hfresh j hj).2
  · rw [hlis, hlogs]
    intro j hj
    rcases List.mem_append.mp hj with hj | hj
    · exact h.opened j hj
    · exact (List.getElem?_eq_some_iff.mp (hfresh j (List.mem_singleton.mp hj).symm).1).1

-- Deregistering: the courier of the current registration of `id` is let go of.
theorem deregister (h : Carries calls s) (id : String) :
    Carries (calls ++ [.leave id]) (s.deregister id) := by
  obtain ⟨hlogs, hlinks⟩ := System.deregister_frame s id
  have hlis := System.listeners_deregister s id
  have hlen : (s.deregister id).couriers.length = s.couriers.length := by
    simpa using congrArg List.length hlis
  refine ⟨?_, System.deregister_keys s id h.keys, ?_, ?_, ?_, ?_⟩
  · simp [hlen, h.count, registrations_append, registrations_single, HubCall.joins?]
  · intro a b
    rw [hlinks, h.links, current_registration_append_single]
    simp only [HubCall.ends, HubCall.joins?, beq_eq_false_iff_ne, reduceCtorEq, and_false,
      or_false]
    exact ⟨fun hl => ⟨hl.2, Ne.symm hl.1⟩, fun hl => ⟨Ne.symm hl.2, hl.1⟩⟩
  · intro r k' hr
    rw [System.deregister_couriers] at hr
    cases hk : s.couriers[r]? with
    | none => simp [hk] at hr
    | some k =>
      obtain ⟨id', later, hreg, hcar⟩ := h.couriers r k hk
      rw [hk, Option.map_some, Option.some.injEq] at hr
      subst hr
      exact ⟨id', later ++ [.leave id], registrations_after hreg _,
        h.carried_release hreg hcar id rfl rfl hlogs⟩
  · rw [hlis]
    exact h.owners
  · rw [hlis, hlogs]
    exact h.opened

theorem join (h : Carries calls s) (id : String) (who : Joiner) :
    Carries (calls ++ [.join id who]) (s.join id who) := by
  cases who with
  | scheduler => exact h.register id _ _ fun j hj => by cases hj
  | recorder =>
    refine h.openLog.register id _ _ fun j hj => ?_
    cases hj
    exact ⟨by simp [System.openLog], fun hmem => absurd (h.opened _ hmem) (Nat.lt_irrefl _)⟩
  | silent => exact h.register id _ _ fun j hj => by cases hj

theorem hubCall (h : Carries calls s) (c : HubCall) : Carries (calls ++ [c]) (s.hubCall c) := by
  cases c with
  | join id who => exact h.join id who
  | leave id => exact h.deregister id
  | publish e => exact h.post e

-- Replacing courier `c` by one with the same listener, the logs growing, where each courier
-- still carries its registration.
theorem update (h : Carries calls s) {c : Nat} {k : Courier} (hk : s.couriers[c]? = some k)
    (k' : Courier) (hl : k'.listener = k.listener) (hc : s'.couriers = s.couriers.set c k')
    (hh : s'.hub = s.hub) (hlen : s.logs.length ≤ s'.logs.length)
    (hself : ∀ id later, (registrations calls)[c]? = some (id, later) → Carried s k id later →
      Carried s' k' id later)
    (hother : ∀ (r : Nat) k₀ id later, r ≠ c → s.couriers[r]? = some k₀ → Carried s k₀ id later →
      Carried s' k₀ id later) : Carries calls s' := by
  have hset : ∀ r, s'.couriers[r]? = if c = r then some k' else s.couriers[r]? := by
    intro r
    rw [hc]
    exact System.setCourier_couriers_of hk k' r
  have hlis : s'.couriers.map Courier.listener = s.couriers.map Courier.listener := by
    rw [hc]
    exact System.listeners_setCourier s hk k' hl
  refine ⟨by simpa [hc] using h.count, hh ▸ h.keys, hh ▸ h.links, fun r k'' hr => ?_,
    hlis ▸ h.owners, fun j hj => Nat.lt_of_lt_of_le (h.opened j (hlis ▸ hj)) hlen⟩
  rw [hset] at hr
  split at hr
  · rename_i hcr
    subst hcr
    cases hr
    obtain ⟨id, later, hreg, hcar⟩ := h.couriers c k hk
    exact ⟨id, later, hreg, hself id later hreg hcar⟩
  · rename_i hcr
    obtain ⟨id, later, hreg, hcar⟩ := h.couriers r k'' hr
    exact ⟨id, later, hreg, hother r k'' id later (Ne.symm hcr) hr hcar⟩

theorem setCourier (h : Carries calls s) {c : Nat} {k : Courier} (hk : s.couriers[c]? = some k)
    (k' : Courier) (hl : k'.listener = k.listener)
    (hcar : ∀ id later, (registrations calls)[c]? = some (id, later) → Carried s k id later →
      Carried s k' id later) : Carries calls (s.setCourier c k') :=
  h.update hk k' hl rfl rfl le_rfl
    (fun id later hreg hc => (hcar id later hreg hc).logs_congr fun _ _ => rfl)
    (fun _ _ _ _ _ _ hc => hc.logs_congr fun _ _ => rfl)

-- Handing over the first event of a courier's mail: the listener takes it, and a recorder puts
-- it at the end of its log, which no other courier keeps.
theorem handOne (h : Carries calls s) {c : Nat} {k : Courier} {e : Event Stamp}
    {rest : List (Event Stamp)} (hk : s.couriers[c]? = some k) (hq : k.queue = e :: rest) :
    Carries calls ((s.popMail c rest).deliver c k.listener e).2 := by
  rw [System.popMail_of_some s hk rest]
  by_cases hrec : ∃ j, k.listener = .recorder j
  · obtain ⟨j, hj⟩ := hrec
    have hd : ∀ s' : System, s'.deliver c k.listener e = (none, s'.record j e) := fun s' => by
      rw [hj]
      rfl
    rw [hd]
    refine h.update hk { k with queue := rest } rfl rfl rfl (by simp [System.record]) (fun id later _ hcar => ?_)
      (fun r k₀ id later hne hk₀ hcar => hcar.logs_congr fun j' hj' => ?_)
    · refine hcar.pop hq fun j' handed hj' hlog => ?_
      rw [hj, Listener.recorder.injEq] at hj'
      subst hj'
      simp [System.record, hlog]
    · -- another courier keeps another log
      have hjj : j' ≠ j := fun hjj => hne (h.owners r c j' (by simp [hk₀, hj'])
        (by simp [hk, hj, hjj]))
      simp [System.record, Ne.symm hjj]
  · replace hrec : ∀ j, k.listener ≠ .recorder j := fun j hj => hrec ⟨j, hj⟩
    have h1 := h.setCourier hk { k with queue := rest } rfl fun id later _ hcar =>
      hcar.pop hq fun j _ hj => absurd hj (hrec j)
    exact h1.frame (System.deliver_couriers _ c _ e) (System.deliver_logs_of_ne _ e hrec)
      (System.untouched_deliver _ c _ e).hub

end Carries

namespace Prompt

variable {c : Option Nat}

-- Mail waiting to be handed over was there before, or its courier is ready.
theorem of_queues (h : Prompt s c) (hr : ∀ x ∈ s.ready, x ∈ s'.ready)
    (hk : ∀ (r : Nat) k', s'.couriers[r]? = some k' → k'.stage = .waiting → k'.queue ≠ [] →
      c ≠ some r → (∃ k, s.couriers[r]? = some k ∧ k.stage = .waiting ∧ k.queue ≠ []) ∨
        .courier r ∈ s'.ready) : Prompt s' c := by
  intro r k' hk' hw hq hc
  rcases hk r k' hk' hw hq hc with ⟨k, hk0, hw0, hq0⟩ | hin
  · exact hr _ (h r k hk0 hw0 hq0 hc)
  · exact hin

-- Courier `c` was the one left aside; once it holds no mail or waits for an update, none is.
theorem settle {c : Nat} (h : Prompt s (some c)) (hr : ∀ x ∈ s.ready, x ∈ s'.ready)
    (hother : ∀ r, r ≠ c → s'.couriers[r]? = s.couriers[r]?)
    (hself : ∀ k', s'.couriers[c]? = some k' → k'.stage = .waiting → k'.queue = []) :
    Prompt s' none := by
  intro r k' hk' hw hq _
  by_cases hrc : r = c
  · subst hrc
    exact absurd (hself k' hk' hw) hq
  · rw [hother r hrc] at hk'
    exact hr _ (h r k' hk' hw hq fun hc => hrc (Option.some.inj hc).symm)

theorem keep {c : Nat} (h : Prompt s (some c)) (hr : ∀ x ∈ s.ready, x ∈ s'.ready)
    (hother : ∀ r, r ≠ c → s'.couriers[r]? = s.couriers[r]?) : Prompt s' (some c) := by
  intro r k' hk' hw hq hc
  have hrc : r ≠ c := fun hrc => hc (hrc ▸ rfl)
  rw [hother r hrc] at hk'
  exact hr _ (h r k' hk' hw hq hc)

-- Registering: the couriers there were keep their stage and mail, and the new one has none.
theorem register (h : Prompt s none) (id : String) (l : Listener) : Prompt (s.register id l) none :=
  h.of_queues (System.aside_register s id l).ready fun r k' hk' hw hq _ => by
    rw [System.register_couriers] at hk'
    obtain ⟨k, hk, rfl⟩ := Option.map_eq_some_iff.mp hk'
    rcases getElem?_append_singleton_eq_some.mp hk with hk | ⟨-, rfl⟩
    · exact Or.inl ⟨k, hk, by split at hw <;> exact hw, by split at hq <;> exact hq⟩
    · split at hq <;> exact absurd rfl hq

theorem hubCall (h : Prompt s none) (hc : Carries calls s) (call : HubCall) :
    Prompt (s.hubCall call) none := by
  cases call with
  | join id who =>
    cases who with
    | scheduler => exact h.register id _
    | recorder => exact register (s := s.openLog.2) h id _
    | silent => exact h.register id _
  | leave id =>
    show Prompt (s.deregister id) none
    exact h.of_queues (System.aside_deregister s id).ready fun r k' hk' hw hq _ => by
      rw [System.deregister_couriers] at hk'
      obtain ⟨k, hk, rfl⟩ := Option.map_eq_some_iff.mp hk'
      exact Or.inl ⟨k, hk, by split at hw <;> exact hw, by split at hq <;> exact hq⟩
  | publish e =>
    -- a courier that gets the event and waits for mail is woken
    show Prompt (s.post e) none
    have hnd := hc.mailboxes_nodup
    refine h.of_queues (System.aside_post s e).ready fun r k' hk' hw _ _ => ?_
    have hcour : (s.post e).couriers[r]? = _ := System.foldl_send_couriers e s.hub.mailboxes s hnd r
    rw [hcour] at hk'
    split at hk'
    · rename_i hm
      obtain ⟨k, hk, rfl⟩ := Option.map_eq_some_iff.mp hk'
      exact Or.inr ((System.foldl_send_ready e _ s hnd).2 r hm k hk hw)
    · exact Or.inl ⟨k', hk', hw, by assumption⟩

end Prompt

namespace Carries

-- A courier hands over its mail until it has none or an update makes it wait; every other
-- courier stays where it was.
theorem handOver (c : Nat) : ∀ (q : List (Event Stamp)) (s : System) (k : Courier),
    Carries calls s → Prompt s (some c) → s.couriers[c]? = some k → k.queue = q →
      k.stage = .waiting →
      Carries calls (System.handOver c k.listener q s) ∧
        Prompt (System.handOver c k.listener q s) none
  | [], s, k, h, hp, hk, hq, _ => by
    rw [System.handOver_nil_of_some s hk]
    have hset := System.setCourier_couriers_of hk { k with queue := [], exited := !k.linked }
    refine ⟨h.setCourier hk _ rfl fun id later _ hcar => ?_,
      hp.settle (fun _ hx => hx) (fun r hr => by rw [hset, if_neg (Ne.symm hr)]) fun k' hk' _ => ?_⟩
    · obtain ⟨handed, hdue, hlog⟩ := hcar.handed
      exact ⟨hcar.linked, ⟨handed, by rw [← hdue, hq], hlog⟩,
        fun hx => ⟨rfl, by simpa using hx⟩, hcar.waits⟩
    · rw [hset, if_pos rfl] at hk'
      cases hk'
      rfl
  | e :: rest, s, k, h, hp, hk, hq, hw => by
    rw [System.handOver_cons]
    have h1 := h.handOne hk hq
    have hset := System.setCourier_couriers_of hk { k with queue := rest }
    have hk1 : ((s.popMail c rest).deliver c k.listener e).2.couriers[c]? =
        some { k with queue := rest } := by
      rw [System.deliver_couriers, System.popMail_of_some s hk, hset, if_pos rfl]
    have hp1 : Prompt ((s.popMail c rest).deliver c k.listener e).2 (some c) :=
      hp.keep (fun x hx => System.deliver_ready_of_mem _ e (by rwa [System.popMail_of_some s hk]))
        fun r hr => by
          rw [System.deliver_couriers, System.popMail_of_some s hk, hset, if_neg (Ne.symm hr)]
    have hfst : k.listener ≠ .scheduler → ((s.popMail c rest).deliver c k.listener e).1 = none :=
      System.deliver_fst_of_ne _ e
    cases hd : (s.popMail c rest).deliver c k.listener e with
    | mk r s2 =>
      rw [hd] at h1 hk1 hp1 hfst
      cases r with
      | none => exact handOver c rest s2 { k with queue := rest } h1 hp1 hk1 rfl hw
      | some l =>
        -- only the scheduler's updates make the courier wait, for the loop handed back
        have hsch : k.listener = .scheduler := by
          by_contra hne
          cases hfst hne
        rw [System.afterDeliver_some, System.setStage_of_some s2 hk1]
        have hset2 := System.setCourier_couriers_of hk1 { k with queue := rest, stage := .retiring l }
        refine ⟨h1.setCourier hk1 _ rfl fun id later _ hcar =>
            ⟨hcar.linked, hcar.handed, hcar.exited, fun hne => absurd hsch hne⟩,
          hp1.settle (fun _ hx => hx) (fun r hr => by rw [hset2, if_neg (Ne.symm hr)])
            fun k' hk' hw' => ?_⟩
        rw [hset2, if_pos rfl] at hk'
        cases hk'
        cases hw'

-- A courier's run: an exited courier holds no mail; one that waits for a loop goes on once the
-- loop has exited.
theorem runCourier (h : Carries calls s) {c : Nat} (hp : Prompt s (some c)) :
    Carries calls (s.runCourier c) ∧ Prompt (s.runCourier c) none := by
  have hstays : ∀ k, s.couriers[c]? = some k → (k.stage = .waiting → k.queue = []) →
      Carries calls s ∧ Prompt s none := fun k hk hq =>
    ⟨h, hp.settle (fun _ hx => hx) (fun _ _ => rfl) fun k' hk' => by
      rw [hk] at hk'
      cases hk'
      exact hq⟩
  unfold System.runCourier
  cases hk : s.couriers[c]? with
  | none =>
    exact ⟨h, hp.settle (fun _ hx => hx) (fun _ _ => rfl) fun k' hk' => by simp [hk] at hk'⟩
  | some k =>
    obtain ⟨id, later, -, hcar⟩ := h.couriers c k hk
    dsimp only
    split
    · rename_i hx
      exact hstays k hk fun _ => (hcar.exited hx).1
    · split
      · rename_i l hst
        split
        · -- the loop has exited: the update is over and the courier hands over what it holds
          let k' : Courier := { k with stage := .waiting }
          have hset := System.setCourier_couriers_of hk k'
          have h' : Carries calls (s.setCourier c k').endRetire :=
            (h.setCourier hk k' rfl fun _ _ _ hcar =>
              ⟨hcar.linked, hcar.handed, hcar.exited, fun _ => rfl⟩).frame rfl rfl rfl
          have hp' : Prompt (s.setCourier c k').endRetire (some c) :=
            hp.keep (fun _ hx => hx) fun r hr => by
              rw [System.endRetire_couriers, hset, if_neg (Ne.symm hr)]
          have hk' : (s.setCourier c k').endRetire.couriers[c]? = some k' := by
            rw [System.endRetire_couriers, hset, if_pos rfl]
          exact handOver c k.queue _ k' h' hp' hk' rfl rfl
        · exact hstays k hk fun hw => by rw [hst] at hw; cases hw
      · rename_i hst
        exact handOver c k.queue s k h hp hk rfl hst

theorem runLoop (h : Carries calls s) (hp : Prompt s none) (n : Nat) :
    Carries calls (s.runLoop n) ∧ Prompt (s.runLoop n) none :=
  ⟨h.frame (System.runLoop_couriers _ n) (System.runLoop_logs _ n) (System.untouched_runLoop _ n).hub,
    hp.of_queues (fun _ hx => System.runLoop_ready_of_mem _ n hx) fun r k' hk' hw hq _ =>
      Or.inl ⟨k', by rwa [System.runLoop_couriers] at hk', hw, hq⟩⟩

-- Running a ready task, taken off the queue wherever it stood: every other ready task stays.
theorem runTask (h : Carries calls s) (hp : Prompt s none) {t : Task} {rest : List Task}
    (hrest : ∀ x ∈ s.ready, x ≠ t → x ∈ rest) :
    Carries calls ({ s with ready := rest }.runTask t) ∧
      Prompt ({ s with ready := rest }.runTask t) none := by
  have h' : Carries calls { s with ready := rest } := h.frame rfl rfl rfl
  -- the courier taken off the ready queue is the one left aside
  have hp' : ∀ c, t = .courier c → Prompt { s with ready := rest } (some c) := by
    rintro c rfl r k hk hw hq hc
    exact hrest _ (hp r k hk hw hq (by simp)) fun hrc => hc (by cases hrc; rfl)
  cases t with
  | loop n =>
    refine h'.runLoop (fun r k hk hw hq _ => ?_) n
    exact hrest _ (hp r k hk hw hq (by simp)) fun hrc => by cases hrc
  | courier c => exact h'.runCourier (hp' c rfl)

theorem hubMove (h : Carries calls s) (hp : Prompt s none) (m : HubMove) :
    Carries (calls ++ m.call?.toList) (s.hubMove m) ∧ Prompt (s.hubMove m) none := by
  cases m with
  | call c => exact ⟨h.hubCall c, hp.hubCall h c⟩
  | run t =>
    simp only [HubMove.call?, Option.toList_none, List.append_nil, System.hubMove]
    split
    · exact h.runTask hp fun _ hx hne => (List.mem_erase_of_ne hne).mpr hx
    · exact ⟨h, hp⟩

-- The calls made so far are carried through any moves, each call adding itself.
theorem hubMoves : ∀ (moves : List HubMove) (calls : List HubCall) (s : System),
    Carries calls s → Prompt s none →
      Carries (calls ++ moves.filterMap HubMove.call?) (moves.foldl System.hubMove s) ∧
        Prompt (moves.foldl System.hubMove s) none
  | [], calls, s, h, hp => by simpa using ⟨h, hp⟩
  | m :: moves, calls, s, h, hp => by
    have hm := h.hubMove hp m
    have := hubMoves moves _ _ hm.1 hm.2
    rw [List.append_assoc] at this
    cases m <;> simpa [List.filterMap_cons, HubMove.call?] using this

-- The ids the hub holds, each once, are the registered ids.
theorem size (h : Carries calls s) : s.hub.size = (registeredIds calls).card := by
  have hids : (s.hub.links.map Prod.fst).toFinset = registeredIds calls := by
    ext id
    rw [List.mem_toFinset, mem_registeredIds, List.mem_map]
    constructor
    · rintro ⟨⟨a, m⟩, hm, rfl⟩
      obtain ⟨later, hr, hcur⟩ := (h.links a m).mp hm
      exact ⟨m, later, hr, hcur⟩
    · rintro ⟨m, later, hr, hcur⟩
      exact ⟨(id, m), (h.links id m).mpr ⟨later, hr, hcur⟩, rfl⟩
  rw [← hids, List.toFinset_card_of_nodup h.keys, List.length_map]
  rfl

theorem empty (hc : s.couriers = []) (hh : s.hub = Hub.empty) : Carries [] s where
  count := by simp [hc, registrations]
  keys := by simp [hh, Hub.empty]
  links id m := by simp [hh, Hub.empty, registrations]
  couriers r k hk := by simp [hc] at hk
  owners r r' j hr := by simp [hc] at hr
  opened j hj := by simp [hc] at hj

end Carries


end Carrying

-- Starting from a system with no mailbox, after any calls on the hub and any runs of ready tasks
-- in between, in any order: the hub holds one mailbox per registered id; there is one courier per
-- registration; the events a registration's courier has handed over to its observer, followed by
-- the mail it still holds, are exactly the events the registration is due, in the order they were
-- published, and a recorder's log is what was handed over; only the scheduler's updates make a
-- courier wait; and once nothing is ready, a courier not inside an update holds no mail.
theorem registrations_get_their_events (s₀ : System) (hcour : s₀.couriers = [])
    (hhub : s₀.hub = Hub.empty) (moves : List HubMove) :
    let s := moves.foldl System.hubMove s₀
    let calls := moves.filterMap HubMove.call?
    s.hub.size = (registeredIds calls).card ∧
      s.couriers.length = (registrations calls).length ∧
      ∀ (r : Nat) id later (k : Courier), (registrations calls)[r]? = some (id, later) →
        s.couriers[r]? = some k →
        (∃ handed, handed ++ k.queue = dueTo id later ∧
          ∀ j, k.listener = .recorder j → s.logs[j]? = some handed) ∧
        (k.listener ≠ .scheduler → k.stage = .waiting) ∧
        (s.ready = [] → k.stage = .waiting → k.queue = []) := by
  intro s calls
  have hp₀ : Prompt s₀ none := fun r k hk => by simp [hcour] at hk
  obtain ⟨h, hp⟩ := Carries.hubMoves moves [] s₀ (Carries.empty hcour hhub) hp₀
  rw [List.nil_append] at h
  refine ⟨h.size, h.count, fun r id later k hreg hk => ?_⟩
  obtain ⟨id', later', hreg', hcar⟩ := h.couriers r k hk
  rw [hreg, Option.some.injEq, Prod.mk.injEq] at hreg'
  obtain ⟨rfl, rfl⟩ := hreg'
  refine ⟨hcar.handed, hcar.waits, fun hnil hw => ?_⟩
  by_contra hq
  have hin := hp r k hk hw hq (by simp)
  rw [hnil] at hin
  cases hin

theorem registrations_get_their_events_after_boot :
    let s₀ : System :=
      { (Setup.boot ⟨0, 0, ⟨0, []⟩, [], Parts.all⟩) with couriers := [], hub := Hub.empty }
    let moves := [HubMove.call (.join "a" .recorder),
      .call (.publish ⟨.created, Interest.new "b" "1" 0⟩), .run (.courier 0)]
    s₀.couriers = [] ∧ s₀.hub = Hub.empty ∧
      let s := moves.foldl System.hubMove s₀
      let calls := moves.filterMap HubMove.call?
      s.hub.size = (registeredIds calls).card ∧
        s.couriers.length = (registrations calls).length ∧
        ∀ (r : Nat) id later (k : Courier), (registrations calls)[r]? = some (id, later) →
        s.couriers[r]? = some k →
          (∃ handed, handed ++ k.queue = dueTo id later ∧
            ∀ j, k.listener = .recorder j → s.logs[j]? = some handed) ∧
          (k.listener ≠ .scheduler → k.stage = .waiting) ∧
          (s.ready = [] → k.stage = .waiting → k.queue = []) :=
  ⟨rfl, rfl, registrations_get_their_events _ rfl rfl _⟩

end RouteWatch
