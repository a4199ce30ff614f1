import Mathlib.Data.Finmap
import Mathlib.Data.String.Basic
import RouteWatch.Proofs.Runs
import RouteWatch.Proofs.Service.Events
import RouteWatch.Service.Registry.Lemmas
import RouteWatch.Text.ByteOrder

-- The store of interests is a finite map from app name to interest.
namespace RouteWatch

-- A call on the store: its four checked changes, and its look-ups by app name and by address.
inductive StoreCall (Moment : Type) where
  | create (i : Interest Moment)
  | update (i : Interest Moment)
  | removeApp (app : String)
  | removeIp (ip : String)
  | find (app : String)
  | findByIp (ip : String)

-- What the store answers to a call.
inductive StoreReply (Moment : Type) where
  | created (r : Except ServiceError Unit)
  | changed (r : Except ServiceError (Interest Moment))
  | found (i : Option (Interest Moment))

namespace StoreReply

variable {Moment : Type}

def error? : StoreReply Moment → Option ServiceError
  | .created (.error e) | .changed (.error e) => some e
  | _ => none

end StoreReply

namespace Registry

variable {Moment : Type}

-- Answers a call; a refused change leaves the store as it was.
def call (r : Registry Moment) : StoreCall Moment → StoreReply Moment × Registry Moment
  | .create i =>
    match r.create i with
    | .ok r' => (.created (.ok ()), r')
    | .error e => (.created (.error e), r)
  | .update i =>
    match r.update i with
    | .ok p => (.changed (.ok p.1), p.2)
    | .error e => (.changed (.error e), r)
  | .removeApp app =>
    match r.removeApp app with
    | .ok p => (.changed (.ok p.1), p.2)
    | .error e => (.changed (.error e), r)
  | .removeIp ip =>
    match r.removeIp ip with
    | .ok p => (.changed (.ok p.1), p.2)
    | .error e => (.changed (.error e), r)
  | .find app => (.found (r.find? app), r)
  | .findByIp ip => (.found (r.findByIp? ip), r)

end Registry

abbrev InterestMap (Moment : Type) := Finmap fun _ : String => Interest Moment

namespace InterestMap

variable {Moment : Type}

-- The interests of `seed` inserted in turn, each under its app name.
def ofSeed (seed : List (Interest Moment)) : InterestMap Moment :=
  seed.foldl (fun m i => m.insert i.appName i) ∅

-- The app names whose interest is routed to `ip`.
def routedTo (m : InterestMap Moment) (ip : String) : Finset String :=
  m.keys.filter fun app => (m.lookup app).any fun i => i.serviceIp == ip

-- The least of them, if any.
def leastAt? (m : InterestMap Moment) (ip : String) : Option String :=
  if h : (m.routedTo ip).Nonempty then some ((m.routedTo ip).min' h) else none

-- A finite map answering the calls of the store: insert if absent, replace if present, remove
-- if present, remove the least app name routed to an address, look up.
def call (m : InterestMap Moment) : StoreCall Moment → StoreReply Moment × InterestMap Moment
  | .create i =>
    if i.appName ∈ m then (.created (.error (.alreadyExists i.appName)), m)
    else (.created (.ok ()), m.insert i.appName i)
  | .update i =>
    if i.appName ∈ m then (.changed (.ok i), m.insert i.appName i)
    else (.changed (.error (.notFound i.appName)), m)
  | .removeApp app =>
    match m.lookup app with
    | some i => (.changed (.ok i), m.erase app)
    | none => (.changed (.error (.notFound app)), m)
  | .removeIp ip =>
    match (m.leastAt? ip).bind fun app => (m.lookup app).map (app, ·) with
    | some (app, i) => (.changed (.ok i), m.erase app)
    | none => (.changed (.error (.notFound ip)), m)
  | .find app => (.found (m.lookup app), m)
  | .findByIp ip => (.found ((m.leastAt? ip).bind m.lookup), m)

theorem leastAt?_eq_some_iff {m : InterestMap Moment} {ip a : String} :
    m.leastAt? ip = some a ↔ a ∈ m.routedTo ip ∧ ∀ b ∈ m.routedTo ip, a ≤ b := by
  unfold leastAt?
  split
  · rename_i hne
    rw [Option.some.injEq]
    constructor
    · rintro rfl
      exact ⟨Finset.min'_mem _ hne, fun b hb => Finset.min'_le _ b hb⟩
    · rintro ⟨ha, hleast⟩
      exact le_antisymm (Finset.min'_le _ a ha) (Finset.le_min' _ hne a hleast)
  · rename_i hne
    simp only [reduceCtorEq, false_iff, not_and]
    exact fun ha => absurd ⟨a, ha⟩ hne

theorem leastAt?_eq_none_iff {m : InterestMap Moment} {ip : String} :
    m.leastAt? ip = none ↔ m.routedTo ip = ∅ := by
  unfold leastAt?
  split
  · rename_i hne
    simp only [reduceCtorEq, false_iff]
    exact hne.ne_empty
  · rename_i hne
    simpa [Finset.not_nonempty_iff_eq_empty] using hne

end InterestMap

namespace Registry

variable {Moment : Type} {r : Registry Moment} {m : InterestMap Moment}

-- The store files exactly what the map holds, each under its key.
def Stands (r : Registry Moment) (m : InterestMap Moment) : Prop :=
  ∀ app, r.find? app = m.lookup app

theorem stands_put (h : r.Stands m) (i : Interest Moment) :
    (r.put i).Stands (m.insert i.appName i) := by
  intro app
  rw [find?_put]
  by_cases happ : i.appName = app
  · subst happ
    simp
  · rw [if_neg happ, Finmap.lookup_insert_of_ne _ (Ne.symm happ), h app]

theorem stands_erase (h : r.Stands m) (a : String) : (r.erase a).Stands (m.erase a) := by
  intro app
  rw [find?_erase]
  by_cases happ : a = app
  · subst happ
    simp
  · rw [if_neg happ, Finmap.lookup_erase_ne (Ne.symm happ), h app]

theorem stands_ofList (seed : List (Interest Moment)) :
    (ofList seed).Stands (InterestMap.ofSeed seed) := by
  unfold ofList InterestMap.ofSeed
  -- the seed is put and inserted in the same order, one interest at a time
  suffices ∀ (r : Registry Moment) (m : InterestMap Moment), r.Stands m →
      (seed.foldl put r).Stands (seed.foldl (fun m i => m.insert i.appName i) m) from
    this empty ∅ fun app => by simp [empty, find?]
  induction seed with
  | nil => exact fun _ _ h => h
  | cons i rest ih => exact fun r m h => ih _ _ (stands_put h i)

theorem isSome_find?_iff (h : r.Stands m) (app : String) : (r.find? app).isSome ↔ app ∈ m := by
  rw [h app]
  exact Finmap.lookup_isSome

-- The map routes to an address the app names the store lists as routed there.
theorem mem_routedTo (h : r.Stands m) (ip a : String) : a ∈ m.routedTo ip ↔ a ∈ r.namesAt ip := by
  rw [InterestMap.routedTo, Finset.mem_filter, Finmap.mem_keys, ← Finmap.lookup_isSome, ← h a,
    mem_namesAt]
  cases hf : r.find? a with
  | none =>
    simp only [Option.isSome_none, Bool.false_eq_true, false_and, false_iff, not_exists, not_and]
    exact fun j hj _ hja => find?_eq_none_iff.mp hf j hj hja
  | some i =>
    obtain ⟨hi, rfl⟩ := find?_eq_some_iff.mp hf
    simp only [Option.isSome_some, Option.any_some, beq_iff_eq, true_and]
    -- the store files one interest per app name
    exact ⟨fun hip => ⟨i, hi, hip, rfl⟩, fun ⟨j, hj, hip, hja⟩ => by
      rw [Keyed.eq_of_key_eq r.ordered hj hi hja] at hip
      exact hip⟩

-- The least app name the map routes to an address is the app name of the store's look-up.
theorem leastAt?_eq (h : r.Stands m) (ip : String) :
    m.leastAt? ip = (r.findByIp? ip).map Interest.appName := by
  rw [← leastName?_namesAt]
  cases hl : leastName? (r.namesAt ip) with
  | none =>
    rw [InterestMap.leastAt?_eq_none_iff, Finset.eq_empty_iff_forall_notMem]
    intro a ha
    rw [leastName?_eq_none_iff] at hl
    simpa [hl] using (mem_routedTo h ip a).mp ha
  | some a =>
    obtain ⟨ha, hleast⟩ := leastName?_eq_some_iff.mp hl
    exact InterestMap.leastAt?_eq_some_iff.mpr ⟨(mem_routedTo h ip a).mpr ha,
      fun b hb => hleast b ((mem_routedTo h ip b).mp hb)⟩

-- The map's look-up by address finds what the store's does.
theorem findByIp?_eq (h : r.Stands m) (ip : String) :
    (m.leastAt? ip).bind m.lookup = r.findByIp? ip := by
  rw [leastAt?_eq h]
  cases hf : r.findByIp? ip with
  | none => rfl
  | some i =>
    rw [Option.map_some, Option.bind_some, ← h i.appName]
    exact find?_eq_some_iff.mpr ⟨(leastAt_of_findByIp? hf).1, rfl⟩

-- Each call answers as the map does and leaves the store standing for the map after it.
theorem call_stands (h : r.Stands m) (c : StoreCall Moment) :
    (r.call c).1 = (m.call c).1 ∧ (r.call c).2.Stands (m.call c).2 := by
  cases c with
  | create i =>
    have hmem := isSome_find?_iff h i.appName
    simp only [call, create, InterestMap.call]
    cases hf : r.find? i.appName with
    | some j =>
      have : i.appName ∈ m := hmem.mp (by simp [hf])
      simp [this, h]
    | none =>
      have : i.appName ∉ m := fun hm => by simpa [hf] using hmem.mpr hm
      simp [this, stands_put h i]
  | update i =>
    have hmem := isSome_find?_iff h i.appName
    simp only [call, update, InterestMap.call]
    cases hf : r.find? i.appName with
    | some j =>
      have : i.appName ∈ m := hmem.mp (by simp [hf])
      simp [this, stands_put h i]
    | none =>
      have : i.appName ∉ m := fun hm => by simpa [hf] using hmem.mpr hm
      simp [this, h]
  | removeApp app =>
    simp only [call, removeApp, InterestMap.call, ← h app]
    cases r.find? app with
    | some i => exact ⟨rfl, stands_erase h app⟩
    | none => exact ⟨rfl, h⟩
  | removeIp ip =>
    have hfind := findByIp?_eq h ip
    simp only [call, InterestMap.call, removeIp_eq_findByIp?]
    cases hf : r.findByIp? ip with
    | none =>
      have hnone : m.leastAt? ip = none := by simp [leastAt?_eq h, hf]
      simp [hnone, h]
    | some i =>
      -- the map's least name is the found interest's, filed under it in both
      have hleast : m.leastAt? ip = some i.appName := by simp [leastAt?_eq h, hf]
      have hlook : m.lookup i.appName = some i := by simpa [hleast, hf] using hfind
      simp [hleast, hlook, stands_erase h i.appName]
  | find app => exact ⟨by simp [call, InterestMap.call, h app], h⟩
  | findByIp ip => exact ⟨by simp [call, InterestMap.call, findByIp?_eq h ip], h⟩

-- A refused call leaves the store as it was.
theorem call_of_error (r : Registry Moment) (c : StoreCall Moment) (hc : (r.call c).1.error?.isSome) :
    (r.call c).2 = r := by
  cases c with
  | create i =>
    simp only [call] at hc ⊢
    split <;> simp_all [StoreReply.error?]
  | update i =>
    simp only [call] at hc ⊢
    split <;> simp_all [StoreReply.error?]
  | removeApp app =>
    simp only [call] at hc ⊢
    split <;> simp_all [StoreReply.error?]
  | removeIp ip =>
    simp only [call] at hc ⊢
    split <;> simp_all [StoreReply.error?]
  | find app => rfl
  | findByIp ip => rfl

theorem toList_utf8_ordered (r : Registry Moment) :
    r.toList.Pairwise fun a b => Text.utf8 a.appName < Text.utf8 b.appName :=
  r.ordered.imp Text.lt_iff_utf8_lt.mp

end Registry

theorem store_runs_as_finite_map {Moment : Type} (seed : List (Interest Moment))
    (calls : List (StoreCall Moment)) :
    let r := runAll Registry.call (Registry.ofList seed) calls
    let m := runAll InterestMap.call (InterestMap.ofSeed seed) calls
    r.1 = m.1 ∧ (∀ app, r.2.find? app = m.2.lookup app) ∧
      (∀ app i, m.2.lookup app = some i → i.appName = app) ∧
      (∀ i, i ∈ r.2.toList ↔ m.2.lookup i.appName = some i) ∧
      r.2.toList.Pairwise (fun a b => a.appName < b.appName) ∧
      r.2.toList.Pairwise (fun a b => Text.utf8 a.appName < Text.utf8 b.appName) ∧
      ∀ (x : Registry Moment) (c : StoreCall Moment), (x.call c).1.error?.isSome → (x.call c).2 = x := by
  intro r m
  obtain ⟨hreplies, hstands⟩ := runAll_simulation Registry.call InterestMap.call Registry.Stands
    (fun _ _ c h => Registry.call_stands h c) calls _ _ (Registry.stands_ofList seed)
  refine ⟨hreplies, hstands, fun app i hi => ?_, fun i => ?_, r.2.ordered,
    Registry.toList_utf8_ordered r.2, Registry.call_of_error⟩
  · rw [← hstands app] at hi
    exact (Registry.find?_eq_some_iff.mp hi).2
  · rw [← hstands i.appName, Registry.find?_eq_some_iff]
    exact ⟨fun hi => ⟨hi, rfl⟩, And.left⟩

end RouteWatch
