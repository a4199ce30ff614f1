import Mathlib
import RouteWatch.Interest

-- The hub's contract, read off the calls made on it alone.
namespace RouteWatch

-- Who a call registers: the scheduler, a new recorder with a log of its own, or an observer
-- that does nothing.
inductive Joiner where
  | scheduler
  | recorder
  | silent
  deriving DecidableEq, Repr

inductive HubCall where
  | join (id : String) (who : Joiner)
  | leave (id : String)
  | publish (e : Event Stamp)
  deriving Repr

namespace HubCall

def joins? : HubCall → Option String
  | .join id _ => some id
  | _ => none

-- Whether a call ends a registration of `id`: it registers `id` again or deregisters it.
def ends (id : String) : HubCall → Bool
  | .join id' _ => id' == id
  | .leave id' => id' == id
  | .publish _ => false

def event? : HubCall → Option (Event Stamp)
  | .publish e => some e
  | _ => none

-- The ids registered after a call, from those registered before it.
def ids (before : Finset String) : HubCall → Finset String
  | .join id _ => insert id before
  | .leave id => before.erase id
  | .publish _ => before

end HubCall

-- Whether a registration of `id` is still current after the calls `later`.
def current (id : String) (later : List HubCall) : Bool :=
  later.all fun c => !c.ends id

-- The events due to a registration of `id` that the calls `later` followed: those published
-- before `id` is registered again or deregistered.
def dueTo (id : String) (later : List HubCall) : List (Event Stamp) :=
  (later.takeWhile fun c => !c.ends id).filterMap HubCall.event?

-- The registrations that `calls` make, in order, each with its id and the calls after it.
def registrations : List HubCall → List (String × List HubCall)
  | [] => []
  | c :: rest =>
    match c.joins? with
    | some id => (id, rest) :: registrations rest
    | none => registrations rest

-- The ids registered once `calls` are made.
def registeredIds (calls : List HubCall) : Finset String :=
  calls.foldl HubCall.ids ∅

section Contract

variable {id : String} {later calls : List HubCall} {c : HubCall}

@[simp] theorem current_nil : current id [] = true := rfl

theorem current_append_single : current id (later ++ [c]) = (current id later && !c.ends id) := by
  simp [current]

-- One more call adds its event to what a registration is due while the registration is current
-- and the call does not end it.
theorem dueTo_append_single :
    dueTo id (later ++ [c]) =
      dueTo id later ++ if current id later && !c.ends id then c.event?.toList else [] := by
  unfold dueTo
  by_cases h : current id later = true
  · have hall : ∀ a ∈ later, (!a.ends id) = true := by simpa [current] using h
    rw [List.takeWhile_append_of_pos hall, (List.takeWhile_eq_self_iff).mpr hall,
      List.filterMap_append, h, Bool.true_and]
    cases hc : c.ends id <;> cases c <;> simp_all [HubCall.event?]
  · have hlen : (later.takeWhile fun a => !a.ends id).length ≠ later.length := by
      intro hl
      apply h
      have := List.takeWhile_eq_self_iff.mp ((List.takeWhile_prefix _).eq_of_length hl)
      simpa [current] using this
    rw [List.takeWhile_append, if_neg hlen]
    simp [h]

theorem registrations_append (calls calls' : List HubCall) :
    registrations (calls ++ calls') =
      (registrations calls).map (fun r => (r.1, r.2 ++ calls')) ++ registrations calls' := by
  induction calls with
  | nil => simp [registrations]
  | cons c' rest ih =>
    cases h : c'.joins? <;> simp [registrations, h, ih]

theorem registrations_single (c : HubCall) :
    registrations [c] = (c.joins?.map fun id => (id, ([] : List HubCall))).toList := by
  cases h : c.joins? <;> simp [registrations, h]

theorem getElem?_registrations_append_single {r : Nat} {x : String × List HubCall} :
    (registrations (calls ++ [c]))[r]? = some x ↔
      (∃ y, (registrations calls)[r]? = some y ∧ x = (y.1, y.2 ++ [c])) ∨
        (r = (registrations calls).length ∧ c.joins? = some x.1 ∧ x.2 = []) := by
  rw [registrations_append, List.getElem?_append, registrations_single]
  split
  · rename_i hr
    rw [List.getElem?_map, Option.map_eq_some_iff]
    simp only [List.length_map] at hr
    constructor
    · rintro ⟨y, hy, rfl⟩
      exact Or.inl ⟨y, hy, rfl⟩
    · rintro (⟨y, hy, rfl⟩ | ⟨rfl, -⟩)
      · exact ⟨y, hy, rfl⟩
      · exact absurd hr (Nat.lt_irrefl _)
  · rename_i hr
    simp only [List.length_map] at hr ⊢
    have hnone : (registrations calls)[r]? = none := List.getElem?_eq_none (by omega)
    simp only [hnone, reduceCtorEq, false_and, exists_false, false_or]
    obtain ⟨a, b⟩ := x
    cases hj : c.joins? with
    | none => simp
    | some id' =>
      rw [Option.map_some, Option.toList_some, List.getElem?_singleton]
      by_cases heq : r - (registrations calls).length = 0
      · simp only [heq, if_true, Option.some.injEq, Prod.mk.injEq]
        constructor
        · rintro ⟨rfl, rfl⟩
          exact ⟨by omega, rfl, rfl⟩
        · rintro ⟨-, h1, h2⟩
          exact ⟨h1, h2.symm⟩
      · simp only [heq, if_false, reduceCtorEq, false_iff, not_and]
        intro h
        omega

-- A registration is current after one more call when it was current before and the call does
-- not end it, or when the call made it.
theorem current_registration_append_single {r : Nat} :
    (∃ later, (registrations (calls ++ [c]))[r]? = some (id, later) ∧ current id later = true) ↔
      ((∃ later, (registrations calls)[r]? = some (id, later) ∧ current id later = true) ∧
          c.ends id = false) ∨
        (r = (registrations calls).length ∧ c.joins? = some id) := by
  constructor
  · rintro ⟨later, hr, hcur⟩
    rcases getElem?_registrations_append_single.mp hr with ⟨y, hy, hx⟩ | hj
    · obtain ⟨rfl, rfl⟩ := Prod.mk.inj hx
      rw [current_append_single, Bool.and_eq_true] at hcur
      exact Or.inl ⟨⟨y.2, by rw [hy], hcur.1⟩, by simpa using hcur.2⟩
    · exact Or.inr ⟨hj.1, hj.2.1⟩
  · rintro (⟨⟨later, hr, hcur⟩, hend⟩ | ⟨hr, hj⟩)
    · exact ⟨later ++ [c], getElem?_registrations_append_single.mpr
        (Or.inl ⟨(id, later), hr, rfl⟩), by simp [current_append_single, hcur, hend]⟩
    · exact ⟨[], getElem?_registrations_append_single.mpr (Or.inr ⟨hr, hj, rfl⟩), rfl⟩

-- An id is registered exactly when one of its registrations is current.
theorem mem_registeredIds (calls : List HubCall) (id : String) :
    id ∈ registeredIds calls ↔
      ∃ (r : Nat) (later : List HubCall), (registrations calls)[r]? = some (id, later) ∧ current id later = true := by
  induction calls using List.reverseRecOn with
  | nil => simp [registeredIds, registrations]
  | append_singleton calls c ih =>
    unfold registeredIds at ih ⊢
    rw [List.foldl_append, List.foldl_cons, List.foldl_nil]
    -- the registrations current after `c`: those current before that `c` does not end, and the
    -- one `c` makes
    have hafter : (∃ (r : Nat) (later : List HubCall), (registrations (calls ++ [c]))[r]? = some (id, later) ∧
        current id later = true) ↔
        (id ∈ calls.foldl HubCall.ids ∅ ∧ c.ends id = false) ∨ c.joins? = some id := by
      rw [ih]
      constructor
      · rintro ⟨r, hr⟩
        rcases current_registration_append_single.mp hr with ⟨hcur, hend⟩ | ⟨-, hj⟩
        · exact Or.inl ⟨⟨r, hcur⟩, hend⟩
        · exact Or.inr hj
      · rintro (⟨⟨r, hcur⟩, hend⟩ | hj)
        · exact ⟨r, current_registration_append_single.mpr (Or.inl ⟨hcur, hend⟩)⟩
        · exact ⟨_, current_registration_append_single.mpr (Or.inr ⟨rfl, hj⟩)⟩
    rw [hafter]
    cases c with
    | join id' who =>
      by_cases h : id' = id
      · subst h
        simp [HubCall.ids, HubCall.ends, HubCall.joins?]
      · simp [HubCall.ids, HubCall.ends, HubCall.joins?, h, Ne.symm h]
    | leave id' =>
      by_cases h : id' = id
      · subst h
        simp [HubCall.ids, HubCall.ends, HubCall.joins?]
      · simp [HubCall.ids, HubCall.ends, HubCall.joins?, h, Ne.symm h]
    | publish e => simp [HubCall.ids, HubCall.ends, HubCall.joins?]

end Contract

namespace HubCall

theorem event?_of_ends {c : HubCall} {id : String} (h : c.ends id = true) : c.event? = none := by
  cases c <;> simp_all [ends, event?]

end HubCall

theorem registrations_after {calls : List HubCall} {r : Nat} {id : String} {later : List HubCall}
    (hr : (registrations calls)[r]? = some (id, later)) (c : HubCall) :
    (registrations (calls ++ [c]))[r]? = some (id, later ++ [c]) :=
  getElem?_registrations_append_single.mpr (Or.inl ⟨(id, later), hr, rfl⟩)

end RouteWatch
