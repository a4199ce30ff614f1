import RouteWatch.Service.Registry

-- The order of the store at work: since app names strictly increase along the entries, two
-- stored interests with one app name are one interest, the first interest routed to an address
-- is the one with the least app name, and removing an app name removes exactly its entry.
namespace RouteWatch

namespace Registry

variable {Moment : Type}

theorem leastAt_of_findByIp? {r : Registry Moment} {ip : String} {i : Interest Moment}
    (h : r.findByIp? ip = some i) : r.LeastAt ip i := by
  obtain ⟨hp, before, after, hsplit, hnone⟩ := List.find?_eq_some_iff_append.mp h
  have hord := r.ordered
  unfold LeastAt toList
  rw [hsplit] at hord ⊢
  refine ⟨by simp, by simpa using hp, ?_⟩
  intro j hj hip
  rcases List.mem_append.mp hj with hj | hj
  · have := hnone j hj
    simp [hip] at this
  · rcases List.mem_cons.mp hj with rfl | hj
    · exact String.le_refl _
    · have hlater := (List.pairwise_cons.mp (List.pairwise_append.mp hord).2.1).1 j hj
      exact String.not_lt.mp (String.lt_asymm hlater)

theorem findByIp?_eq_some_iff {r : Registry Moment} {ip : String} {i : Interest Moment} :
    r.findByIp? ip = some i ↔ r.LeastAt ip i := by
  refine ⟨leastAt_of_findByIp?, fun hi => ?_⟩
  obtain ⟨hmem, hip, hleast⟩ := hi
  cases hfind : r.findByIp? ip with
  | none =>
    have := List.find?_eq_none.mp hfind i hmem
    simp [hip] at this
  | some b =>
    obtain ⟨hbmem, hbip, hbleast⟩ := leastAt_of_findByIp? hfind
    have hname : b.appName = i.appName :=
      String.le_antisymm (hbleast i hmem hip) (hleast b hbmem hbip)
    rw [Keyed.eq_of_key_eq r.ordered hbmem hmem hname]

theorem findByIp?_eq_none_iff {r : Registry Moment} {ip : String} :
    r.findByIp? ip = none ↔ ∀ j ∈ r.toList, j.serviceIp ≠ ip := by
  unfold findByIp? toList
  simp

-- Every stored interest is filed under its own app name, and the listing holds exactly the
-- stored interests.
theorem find?_eq_some_iff {r : Registry Moment} {app : String} {i : Interest Moment} :
    r.find? app = some i ↔ i ∈ r.toList ∧ i.appName = app := by
  refine ⟨Keyed.find?_eq_some, ?_⟩
  rintro ⟨hi, rfl⟩
  exact Keyed.find?_of_mem r.ordered hi

theorem find?_eq_none_iff {r : Registry Moment} {app : String} :
    r.find? app = none ↔ ∀ j ∈ r.toList, j.appName ≠ app := by
  refine ⟨Keyed.find?_eq_none, fun h => ?_⟩
  unfold find?
  rw [List.find?_eq_none]
  intro j hj
  simpa using h j hj

theorem toList_put_perm (r : Registry Moment) (i : Interest Moment) :
    (r.put i).toList.Perm (i :: (r.erase i.appName).toList) :=
  Keyed.perm_insert i r.ordered

theorem toList_erase_of_forall_ne {r : Registry Moment} {a : String}
    (h : ∀ j ∈ r.toList, j.appName ≠ a) : (r.erase a).toList = r.toList :=
  List.filter_eq_self.mpr fun j hj => by simpa using h j hj

theorem toList_erase_appName [DecidableEq Moment] {r : Registry Moment} {i : Interest Moment} (hi : i ∈ r.toList) :
    (r.erase i.appName).toList = r.toList.erase i :=
  Keyed.filter_key_ne_eq_erase r.ordered hi

theorem find?_put (r : Registry Moment) (i : Interest Moment) (app : String) :
    (r.put i).find? app = if i.appName = app then some i else r.find? app :=
  Keyed.find?_insert i r.entries app

theorem find?_erase (r : Registry Moment) (a app : String) :
    (r.erase a).find? app = if a = app then none else r.find? app :=
  Keyed.find?_filter_ne r.entries a app

section Changes

variable {r : Registry Moment} {i : Interest Moment}

theorem create_of_find?_none (h : r.find? i.appName = none) : r.create i = .ok (r.put i) := by
  simp [create, h]

theorem update_of_find?_some {old : Interest Moment} (h : r.find? i.appName = some old) :
    r.update i = .ok (i, r.put i) := by
  simp [update, h]

theorem removeApp_of_find?_some {app : String} (h : r.find? app = some i) :
    r.removeApp app = .ok (i, r.erase app) := by
  simp [removeApp, h]

theorem removeApp_of_find?_none {app : String} (h : r.find? app = none) :
    r.removeApp app = .error (.notFound app) := by
  simp [removeApp, h]

end Changes

section Least

-- Each step of the minimum keeps the least name seen so far.
theorem foldl_least (rest : List String) (m : String) :
    let x := rest.foldl (fun m b => if b < m then b else m) m
    (x = m ∨ x ∈ rest) ∧ x ≤ m ∧ ∀ b ∈ rest, x ≤ b := by
  induction rest generalizing m with
  | nil => exact ⟨Or.inl rfl, String.le_refl m, by simp⟩
  | cons b rest ih =>
    dsimp only
    rw [List.foldl_cons]
    obtain ⟨hmem, hle, hall⟩ := ih (if b < m then b else m)
    -- the new running minimum lies below both `m` and `b`
    have hm : (if b < m then b else m) ≤ m := by
      split
      · exact String.not_lt.mp (String.lt_asymm ‹b < m›)
      · exact String.le_refl m
    have hb : (if b < m then b else m) ≤ b := by
      split
      · exact String.le_refl b
      · exact String.not_lt.mp ‹¬b < m›
    refine ⟨?_, String.le_trans hle hm, ?_⟩
    · rcases hmem with hx | hx
      · rw [hx]
        split
        · exact Or.inr List.mem_cons_self
        · exact Or.inl rfl
      · exact Or.inr (List.mem_cons_of_mem b hx)
    · intro c hc
      rcases List.mem_cons.mp hc with rfl | hc
      · exact String.le_trans hle hb
      · exact hall c hc

theorem leastName?_eq_some_iff {names : List String} {a : String} :
    leastName? names = some a ↔ a ∈ names ∧ ∀ b ∈ names, a ≤ b := by
  cases names with
  | nil => simp [leastName?]
  | cons m rest =>
    obtain ⟨hmem, hle, hall⟩ := foldl_least rest m
    simp only [leastName?, Option.some.injEq]
    constructor
    · rintro rfl
      refine ⟨?_, fun b hb => ?_⟩
      · rcases hmem with h | h
        · rw [h]
          exact List.mem_cons_self
        · exact List.mem_cons_of_mem m h
      · rcases List.mem_cons.mp hb with rfl | hb
        · exact hle
        · exact hall b hb
    · -- two least members of one list are one name
      rintro ⟨ha, hleast⟩
      have hx : rest.foldl (fun m b => if b < m then b else m) m ∈ m :: rest := by
        rcases hmem with h | h
        · rw [h]
          exact List.mem_cons_self
        · exact List.mem_cons_of_mem m h
      refine String.le_antisymm ?_ (hleast _ hx)
      rcases List.mem_cons.mp ha with rfl | ha
      · exact hle
      · exact hall a ha

theorem leastName?_eq_none_iff {names : List String} : leastName? names = none ↔ names = [] := by
  cases names <;> simp [leastName?]

theorem mem_namesAt {r : Registry Moment} {ip a : String} :
    a ∈ r.namesAt ip ↔ ∃ j ∈ r.toList, j.serviceIp = ip ∧ j.appName = a := by
  simp [namesAt, toList, and_assoc]

-- The least name routed to an address is the app name of the look-up's interest.
theorem leastName?_namesAt (r : Registry Moment) (ip : String) :
    leastName? (r.namesAt ip) = (r.findByIp? ip).map Interest.appName := by
  cases hf : r.findByIp? ip with
  | none =>
    rw [Option.map_none, leastName?_eq_none_iff, List.eq_nil_iff_forall_not_mem]
    intro a ha
    obtain ⟨j, hj, hip, -⟩ := mem_namesAt.mp ha
    exact findByIp?_eq_none_iff.mp hf j hj hip
  | some i =>
    obtain ⟨hi, hip, hleast⟩ := leastAt_of_findByIp? hf
    rw [Option.map_some, leastName?_eq_some_iff]
    refine ⟨mem_namesAt.mpr ⟨i, hi, hip, rfl⟩, fun b hb => ?_⟩
    obtain ⟨j, hj, hjip, rfl⟩ := mem_namesAt.mp hb
    exact hleast j hj hjip

-- The removal by address takes out what the look-up by address finds; its second look-up,
-- by the least name, always finds the interest, so its own refusal never happens.
theorem removeIp_eq_findByIp? (r : Registry Moment) (ip : String) :
    r.removeIp ip = match r.findByIp? ip with
      | none => .error (.notFound ip)
      | some i => .ok (i, r.erase i.appName) := by
  unfold removeIp
  rw [leastName?_namesAt]
  cases hf : r.findByIp? ip with
  | none => rfl
  | some i =>
    have hfind : r.find? i.appName = some i :=
      find?_eq_some_iff.mpr ⟨(leastAt_of_findByIp? hf).1, rfl⟩
    exact removeApp_of_find?_some hfind

end Least

end Registry

end RouteWatch
