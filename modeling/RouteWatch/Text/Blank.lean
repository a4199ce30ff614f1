-- Blank characters: the Unicode White_Space property, 25 code points in 10 ranges.
namespace RouteWatch.Text

-- The ranges of White_Space, each as its first and last code point, in increasing order.
def blankRanges : List (Nat × Nat) :=
  [(0x09, 0x0D), (0x20, 0x20), (0x85, 0x85), (0xA0, 0xA0), (0x1680, 0x1680),
   (0x2000, 0x200A), (0x2028, 0x2029), (0x202F, 0x202F), (0x205F, 0x205F), (0x3000, 0x3000)]

-- A character is blank when its code point lies in one of `blankRanges`.
def isBlank (c : Char) : Bool :=
  blankRanges.any fun r => r.1 ≤ c.toNat && c.toNat ≤ r.2

def dropBlanks (cs : List Char) : List Char :=
  cs.dropWhile isBlank

def trim (s : String) : String :=
  String.ofList (dropBlanks (dropBlanks s.toList).reverse).reverse

-- A text is blank when it holds blanks only; the empty text is blank.
def allBlank (s : String) : Bool :=
  s.toList.all isBlank

theorem allBlank_iff {s : String} : allBlank s = true ↔ ∀ c ∈ s.toList, isBlank c = true := by
  simp [allBlank]

theorem dropBlanks_eq_nil_iff {cs : List Char} : dropBlanks cs = [] ↔ ∀ c ∈ cs, isBlank c = true := by
  induction cs with
  | nil => simp [dropBlanks]
  | cons c rest ih =>
    by_cases hc : isBlank c = true
    · have hdrop : dropBlanks (c :: rest) = dropBlanks rest := by simp [dropBlanks, hc]
      rw [hdrop, ih]
      simp [hc]
    · simp [dropBlanks, hc]

-- What is left after the blanks in front starts with a character that is not blank, so it is
-- blank throughout only when nothing is left.
theorem dropBlanks_eq_nil_of_blank {cs : List Char} (h : ∀ c ∈ dropBlanks cs, isBlank c = true) :
    dropBlanks cs = [] := by
  induction cs with
  | nil => rfl
  | cons c rest ih =>
    by_cases hc : isBlank c = true
    · simp only [dropBlanks, List.dropWhile_cons, hc, if_true] at h ⊢
      exact ih h
    · -- the first character is not blank, so it stays
      have hkeep : dropBlanks (c :: rest) = c :: rest := by
        simp [dropBlanks, hc]
      rw [hkeep] at h
      exact absurd (h c List.mem_cons_self) hc

-- A text trims to nothing exactly when it is blank.
theorem trim_eq_empty_iff {s : String} : trim s = "" ↔ allBlank s = true := by
  rw [allBlank_iff, trim, String.ofList_eq_empty_iff, List.reverse_eq_nil_iff, dropBlanks_eq_nil_iff]
  simp only [List.mem_reverse]
  exact ⟨fun h => dropBlanks_eq_nil_iff.mp (dropBlanks_eq_nil_of_blank h),
    fun h c hc => h c (List.dropWhile_subset _ hc)⟩

example : isBlank '\u3000' = true ∧ isBlank '\u200B' = false ∧ isBlank '\uFEFF' = false := by
  decide

end RouteWatch.Text
