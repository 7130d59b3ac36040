import Mathlib.Tactic.SplitIfs

/-!
# Characters by their numbers

Which characters are digits, and which letter is the small form of which, is decided by their
numbers: the decimal digits begin at 48, the capital letters at 65 and the small ones at 97. These
lemmas turn questions about characters into arithmetic.
-/

namespace PixelBuffer.Text

/-- Characters are ordered by their numbers. -/
theorem char_le_iff (c d : Char) : c ≤ d ↔ c.toNat ≤ d.toNat := by
  rw [Char.le_def, UInt32.le_iff_toNat_le]
  exact Iff.rfl

/-- The character of a number below the surrogates has that number. -/
theorem toNat_ofNat {n : Nat} (h : n < 0xD800) : (Char.ofNat n).toNat = n := by
  have hvalid : n.isValidChar := Or.inl h
  rw [show Char.ofNat n = Char.ofNatAux n hvalid from dif_pos hvalid]
  rfl

/-- The small letters come 32 places after the capital ones. -/
theorem toNat_toLower (c : Char) :
    c.toLower.toNat = if 65 ≤ c.toNat ∧ c.toNat ≤ 90 then c.toNat + 32 else c.toNat := by
  have hlow : 'A'.val ≤ c.val ↔ 65 ≤ c.toNat := UInt32.le_iff_toNat_le
  have hhigh : c.val ≤ 'Z'.val ↔ c.toNat ≤ 90 := UInt32.le_iff_toNat_le
  unfold Char.toLower
  simp only [ge_iff_le, hlow, hhigh]
  split
  · rename_i hcapital
    have hle : c.val.toNat ≤ 90 := hcapital.2
    show (c.val + 32).toNat = c.val.toNat + 32
    rw [UInt32.toNat_add, show (32 : UInt32).toNat = 32 from rfl, Nat.mod_eq_of_lt (by omega)]
  · rfl

/-- The number of the character of a digit. -/
theorem toNat_digitChar {digit : Nat} (h : digit < 16) :
    (Nat.digitChar digit).toNat = if digit < 10 then 48 + digit else 87 + digit := by
  have hall : ∀ digit : Fin 16, (Nat.digitChar digit).toNat =
      if digit.val < 10 then 48 + digit.val else 87 + digit.val := by
    decide
  exact hall ⟨digit, h⟩

/-- Digits below sixteen with the same character are the same. -/
theorem eq_of_digitChar_eq {digit other : Nat} (hdigit : digit < 16) (hother : other < 16)
    (h : Nat.digitChar digit = Nat.digitChar other) : digit = other := by
  rw [← Char.toNat_inj, toNat_digitChar hdigit, toNat_digitChar hother] at h
  split_ifs at h <;> omega

/-- Decimal digits have no small and capital form. -/
theorem toLower_of_isDigit {c : Char} (h : c.isDigit = true) : c.toLower = c := by
  have hle : c.toNat ≤ 57 := by
    simp only [Char.isDigit, Bool.and_eq_true, decide_eq_true_eq] at h
    exact UInt32.le_iff_toNat_le.mp h.2
  rw [← Char.toNat_inj, toNat_toLower, if_neg (by omega)]

end PixelBuffer.Text
