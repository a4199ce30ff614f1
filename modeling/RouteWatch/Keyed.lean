-- Lists kept in strictly increasing order of a string key, so that they hold one element per key:
-- the shape of the store of interests and of the scheduler's job table. `insert` puts an element
-- in its place, in place of the one with the same key; a key is looked up by `List.find?` and
-- removed by `List.filter`.
namespace RouteWatch.Keyed

variable {α : Type} (key : α → String)

-- Puts `x` in its place, in place of the element with the same key.
def insert (x : α) : List α → List α
  | [] => [x]
  | y :: rest =>
    if key x < key y then x :: y :: rest
    else if key x = key y then x :: rest
    else y :: insert x rest

-- Keys strictly increase along the list.
def Ordered (l : List α) : Prop :=
  l.Pairwise fun a b => key a < key b

variable {key}

@[simp] theorem ordered_nil : Ordered key ([] : List α) := List.Pairwise.nil

theorem mem_insert_of_mem {x y : α} {l : List α} (h : y ∈ insert key x l) : y = x ∨ y ∈ l := by
  induction l with
  | nil => simpa [insert] using h
  | cons z rest ih =>
    unfold insert at h
    split at h
    · simpa using h
    · split at h
      · simp only [List.mem_cons] at h ⊢
        rcases h with h | h
        · exact Or.inl h
        · exact Or.inr (Or.inr h)
      · simp only [List.mem_cons] at h ⊢
        rcases h with h | h
        · exact Or.inr (Or.inl h)
        · rcases ih h with h | h
          · exact Or.inl h
          · exact Or.inr (Or.inr h)

-- Keys that are neither below nor equal lie above.
theorem lt_of_not_lt {a b : String} (h : ¬ a < b) (hne : a ≠ b) : b < a := by
  rcases String.le_total a b with hab | hba
  · exact absurd (String.le_antisymm hab (String.not_lt.mp h)) hne
  · exact Classical.byContradiction fun hn =>
      hne (String.le_antisymm (String.not_lt.mp hn) hba)

theorem insert_ordered (x : α) {l : List α} (hl : Ordered key l) : Ordered key (insert key x l) := by
  induction l with
  | nil => simp [Ordered, insert]
  | cons z rest ih =>
    have hz := (List.pairwise_cons.mp hl).1
    have hrest := (List.pairwise_cons.mp hl).2
    unfold insert
    split
    · rename_i hlt
      refine List.pairwise_cons.mpr ⟨?_, hl⟩
      intro y hy
      rcases List.mem_cons.mp hy with rfl | hy
      · exact hlt
      · exact String.lt_trans hlt (hz y hy)
    · split
      · rename_i heq
        exact List.pairwise_cons.mpr ⟨fun y hy => heq ▸ hz y hy, hrest⟩
      · rename_i hlt heq
        refine List.pairwise_cons.mpr ⟨?_, ih hrest⟩
        intro y hy
        rcases mem_insert_of_mem hy with rfl | hy
        · exact lt_of_not_lt hlt heq
        · exact hz y hy

-- The inserted element hides every later element of its key, and no earlier one has it.
theorem find?_insert (x : α) (l : List α) (k : String) :
    (insert key x l).find? (fun y => key y == k) =
      if key x = k then some x else l.find? fun y => key y == k := by
  induction l with
  | nil => by_cases h : key x = k <;> simp [insert, h]
  | cons z rest ih =>
    unfold insert
    by_cases hlt : key x < key z
    · rw [if_pos hlt]
      by_cases h : key x = k <;> simp [h]
    · rw [if_neg hlt]
      by_cases heq : key x = key z
      · rw [if_pos heq]
        by_cases h : key x = k
        · simp [h]
        · have hz : key z ≠ k := heq ▸ h
          simp [h, hz]
      · rw [if_neg heq]
        by_cases h : key x = k
        · have hz : key z ≠ k := fun hz => heq (h.trans hz.symm)
          simp [hz, ih, h]
        · rw [List.find?_cons, List.find?_cons, ih]
          simp [h]

-- In an ordered list the element of `x`'s key is the one that `x` replaces.
theorem mem_insert {x y : α} {l : List α} (hl : Ordered key l) :
    y ∈ insert key x l ↔ y = x ∨ (y ∈ l ∧ key y ≠ key x) := by
  induction l with
  | nil => simp [insert]
  | cons z rest ih =>
    have hz := (List.pairwise_cons.mp hl).1
    have hrest := (List.pairwise_cons.mp hl).2
    unfold insert
    by_cases hlt : key x < key z
    · have above : ∀ w ∈ z :: rest, key w ≠ key x := by
        intro w hw
        rcases List.mem_cons.mp hw with rfl | hw
        · exact (String.ne_of_lt hlt).symm
        · exact (String.ne_of_lt (String.lt_trans hlt (hz w hw))).symm
      rw [if_pos hlt]
      simp only [List.mem_cons]
      constructor
      · rintro (h | h | h)
        · exact Or.inl h
        · exact Or.inr ⟨Or.inl h, above y (h ▸ List.mem_cons_self)⟩
        · exact Or.inr ⟨Or.inr h, above y (List.mem_cons_of_mem _ h)⟩
      · rintro (h | ⟨h | h, _⟩)
        · exact Or.inl h
        · exact Or.inr (Or.inl h)
        · exact Or.inr (Or.inr h)
    · by_cases heq : key x = key z
      · rw [if_neg hlt, if_pos heq]
        simp only [List.mem_cons]
        constructor
        · rintro (h | h)
          · exact Or.inl h
          · exact Or.inr ⟨Or.inr h, fun hy => String.ne_of_lt (hz y h) (heq.symm.trans hy.symm)⟩
        · rintro (h | ⟨h | h, hne⟩)
          · exact Or.inl h
          · exact absurd (by rw [h]; exact heq.symm) hne
          · exact Or.inr h
      · have hzx : key z ≠ key x := fun h => heq h.symm
        rw [if_neg hlt, if_neg heq]
        simp only [List.mem_cons, ih hrest]
        constructor
        · rintro (h | h | ⟨h, hne⟩)
          · exact Or.inr ⟨Or.inl h, h ▸ hzx⟩
          · exact Or.inl h
          · exact Or.inr ⟨Or.inr h, hne⟩
        · rintro (h | ⟨h | h, hne⟩)
          · exact Or.inr (Or.inl h)
          · exact Or.inl h
          · exact Or.inr (Or.inr ⟨h, hne⟩)

theorem find?_filter_ne (l : List α) (a k : String) :
    (l.filter fun y => key y != a).find? (fun y => key y == k) =
      if a = k then none else l.find? fun y => key y == k := by
  induction l with
  | nil => by_cases h : a = k <;> simp [h]
  | cons z rest ih =>
    by_cases hz : key z = a
    · have hza : (key z != a) = false := by simp [hz]
      rw [List.filter_cons_of_neg (by simp [hza]), ih]
      by_cases h : a = k
      · simp [h]
      · simp [h, hz]
    · rw [List.filter_cons_of_pos (by simpa using hz), List.find?_cons, List.find?_cons, ih]
      by_cases h : a = k
      · have : (key z == k) = false := by simp [← h, hz]
        simp [h, this]
      · simp [h]

theorem find?_eq_some {l : List α} {k : String} {x : α}
    (h : l.find? (fun y => key y == k) = some x) : x ∈ l ∧ key x = k :=
  ⟨List.mem_of_find?_eq_some h, by simpa using List.find?_some h⟩

theorem find?_eq_none {l : List α} {k : String} (h : l.find? (fun y => key y == k) = none) :
    ∀ x ∈ l, key x ≠ k := by
  intro x hx heq
  simpa [heq] using List.find?_eq_none.mp h x hx

-- In an ordered list the element of a key is the one filed under it.
theorem find?_of_mem {l : List α} (hl : Ordered key l) {x : α} (hx : x ∈ l) :
    l.find? (fun y => key y == key x) = some x := by
  induction l with
  | nil => simp at hx
  | cons z rest ih =>
    have hz := (List.pairwise_cons.mp hl).1
    rcases List.mem_cons.mp hx with rfl | hx
    · simp
    · have hne : key z ≠ key x := String.ne_of_lt (hz x hx)
      simp [hne, ih (List.pairwise_cons.mp hl).2 hx]

-- Strictly increasing keys leave no room for two elements of one key.
theorem eq_of_key_eq {l : List α} (hl : Ordered key l) {x y : α} (hx : x ∈ l) (hy : y ∈ l)
    (h : key x = key y) : x = y := by
  have hfx := find?_of_mem hl hx
  rw [h, find?_of_mem hl hy] at hfx
  exact (Option.some.inj hfx).symm

-- Filtering out one key of an ordered list takes out the one element of that key.
theorem filter_key_ne_eq_erase [DecidableEq α] {l : List α} (hl : Ordered key l) {x : α}
    (hx : x ∈ l) : l.filter (fun y => key y != key x) = l.erase x := by
  induction l with
  | nil => simp at hx
  | cons z rest ih =>
    rw [Ordered, List.pairwise_cons] at hl
    rcases List.mem_cons.mp hx with rfl | hx'
    · rw [List.erase_cons_head, List.filter_cons_of_neg (by simp), List.filter_eq_self]
      intro y hy
      have := String.ne_of_lt (hl.1 y hy)
      simp [Ne.symm this]
    · have hne : key z ≠ key x := String.ne_of_lt (hl.1 x hx')
      have hzx : ¬ (z == x) = true := by
        intro h
        exact hne (by rw [beq_iff_eq.mp h])
      rw [List.erase_cons_tail hzx, List.filter_cons_of_pos (by simpa using hne), ih hl.2 hx']

-- In an ordered list, inserting puts `x` in place of the element of its key, if there is one.
theorem perm_insert (x : α) {l : List α} (hl : Ordered key l) :
    (insert key x l).Perm (x :: l.filter fun y => key y != key x) := by
  induction l with
  | nil => simp [insert]
  | cons z rest ih =>
    have hz := (List.pairwise_cons.mp hl).1
    have hrest := (List.pairwise_cons.mp hl).2
    -- the elements after `z` have keys above that of `z`
    have above : ∀ y ∈ rest, key z < key y := hz
    unfold insert
    by_cases hlt : key x < key z
    · rw [if_pos hlt]
      have hkeep : (z :: rest).filter (fun y => key y != key x) = z :: rest := by
        rw [List.filter_eq_self]
        intro y hy
        rcases List.mem_cons.mp hy with rfl | hy
        · simpa using (String.ne_of_lt hlt).symm
        · simpa using (String.ne_of_lt (String.lt_trans hlt (above y hy))).symm
      rw [hkeep]
    · rw [if_neg hlt]
      by_cases heq : key x = key z
      · rw [if_pos heq, List.filter_cons_of_neg (by simp [heq])]
        have hkeep : rest.filter (fun y => key y != key x) = rest := by
          rw [List.filter_eq_self]
          intro y hy
          simpa [heq] using (String.ne_of_lt (above y hy)).symm
        rw [hkeep]
      · rw [if_neg heq, List.filter_cons_of_pos (by simpa using Ne.symm heq)]
        exact ((ih hrest).cons z).trans (List.Perm.swap x z _)

end RouteWatch.Keyed
