import Mathlib

-- Text order: comparing two texts code point by code point gives the same answer as comparing
-- their UTF-8 bytes one by one.
namespace RouteWatch.Text

def utf8 (s : String) : List UInt8 :=
  s.toByteArray.data.toList

theorem utf8_eq_flatMap (s : String) : utf8 s = s.toList.flatMap String.utf8EncodeChar := by
  rw [utf8, ← String.utf8Encode_toList]
  simp [List.utf8Encode]

theorem val_toNat_le (c : Char) : c.val.toNat ≤ 0x10ffff := by
  have := c.valid
  simp only [UInt32.isValidChar, Nat.isValidChar] at this
  omega

-- The encodings of two characters part at a byte that orders them as their code points.
theorem utf8EncodeChar_append_lt {c d : Char} (h : c < d) (rest rest' : List UInt8) :
    String.utf8EncodeChar c ++ rest < String.utf8EncodeChar d ++ rest' := by
  have hcd : c.val.toNat < d.val.toNat := h
  have hd := val_toNat_le d
  -- the digits of a four-byte code point, read one division at a time
  have h12 : ∀ v : Nat, v / 4096 = v / 64 / 64 := fun v => by rw [Nat.div_div_eq_div_mul]
  have h18 : ∀ v : Nat, v / 262144 = v / 64 / 64 / 64 := fun v => by
    rw [Nat.div_div_eq_div_mul, Nat.div_div_eq_div_mul]
  simp only [String.utf8EncodeChar, h12, h18]
  split_ifs <;>
    simp only [List.cons_append, List.nil_append, List.cons_lt_cons_iff, UInt8.lt_iff_toNat_lt,
      ← UInt8.toNat_inj, UInt8.toNat_ofNat'] <;>
    omega

theorem utf8EncodeChar_ne_nil (c : Char) : String.utf8EncodeChar c ≠ [] := by
  intro h
  have := String.length_utf8EncodeChar c
  rw [h] at this
  have := c.utf8Size_pos
  simp_all

-- A common first part leaves the order to what follows it.
theorem append_lt_append_left {p l l' : List UInt8} : p ++ l < p ++ l' ↔ l < l' := by
  induction p with
  | nil => rfl
  | cons b p ih => simp [ih]

theorem flatMap_lt_of_lt {l l' : List Char} (h : l < l') :
    l.flatMap String.utf8EncodeChar < l'.flatMap String.utf8EncodeChar := by
  induction l generalizing l' with
  | nil =>
    cases l' with
    | nil => exact absurd h (List.lt_irrefl _)
    | cons d ds =>
      obtain ⟨b, bs, hb⟩ := List.exists_cons_of_ne_nil (utf8EncodeChar_ne_nil d)
      simp [hb, List.nil_lt_cons]
  | cons c cs ih =>
    cases l' with
    | nil => exact absurd h (List.not_lt_nil _)
    | cons d ds =>
      rw [List.flatMap_cons, List.flatMap_cons]
      rcases List.cons_lt_cons_iff.mp h with hlt | ⟨rfl, hrest⟩
      · exact utf8EncodeChar_append_lt hlt _ _
      · exact append_lt_append_left.mpr (ih hrest)

theorem lt_iff_utf8_lt {a b : String} : a < b ↔ utf8 a < utf8 b := by
  rw [utf8_eq_flatMap, utf8_eq_flatMap]
  constructor
  · exact fun h => flatMap_lt_of_lt (String.lt_iff_toList_lt.mp h)
  · intro h
    by_contra hnot
    rcases lt_or_eq_of_le (String.not_lt.mp hnot) with hba | rfl
    · exact List.lt_asymm h (flatMap_lt_of_lt (String.lt_iff_toList_lt.mp hba))
    · exact List.lt_irrefl _ h

example : ("zeta" : String) < "é" ∧ ("\uFFFF" : String) < "😀" ∧ utf8 "é" = [0xC3, 0xA9] := by
  decide

end RouteWatch.Text
