/-!
# Machine words

Buffer geometry is computed in exact naturals and stored in machine words. `word32?` and `word64?`
admit exactly the naturals a word can hold, so no result wraps unnoticed. `saturatingAdd` is the
one operation on words that may lose information, and says how.
-/

namespace PixelBuffer

/-- The 32-bit word whose value is `n`, if there is one. -/
def word32? (n : Nat) : Option UInt32 :=
  if n < UInt32.size then some (UInt32.ofNat n) else none

/-- The 64-bit word whose value is `n`, if there is one. -/
def word64? (n : Nat) : Option UInt64 :=
  if n < UInt64.size then some (UInt64.ofNat n) else none

/-- The sum of two 64-bit words, or the largest word when the sum is larger. -/
def saturatingAdd (a b : UInt64) : UInt64 :=
  UInt64.ofNat (min (a.toNat + b.toNat) (UInt64.size - 1))

/-- The least number of groups of `d` that hold `n` items. -/
def ceilDiv (n d : Nat) : Nat :=
  (n + d - 1) / d

/-- A 32-bit word stands for `n` exactly when its value is `n`. -/
theorem word32?_eq_some_iff {n : Nat} {w : UInt32} : word32? n = some w ↔ w.toNat = n := by
  unfold word32?
  split
  · rename_i h
    rw [Option.some.injEq, ← UInt32.toNat_inj, UInt32.toNat_ofNat', Nat.mod_eq_of_lt h]
    exact eq_comm
  · rename_i h
    simp only [reduceCtorEq, false_iff]
    intro hw
    exact h (hw ▸ w.toNat_lt)

/-- A 64-bit word stands for `n` exactly when its value is `n`. -/
theorem word64?_eq_some_iff {n : Nat} {w : UInt64} : word64? n = some w ↔ w.toNat = n := by
  unfold word64?
  split
  · rename_i h
    rw [Option.some.injEq, ← UInt64.toNat_inj, UInt64.toNat_ofNat', Nat.mod_eq_of_lt h]
    exact eq_comm
  · rename_i h
    simp only [reduceCtorEq, false_iff]
    intro hw
    exact h (hw ▸ w.toNat_lt)

/-- No 32-bit word stands for `n` exactly when `n` is too large. -/
theorem word32?_eq_none_iff {n : Nat} : word32? n = none ↔ UInt32.size ≤ n := by
  unfold word32?
  split <;> simp_all

/-- A saturating sum is the exact sum, cut at the largest word. -/
theorem toNat_saturatingAdd (a b : UInt64) :
    (saturatingAdd a b).toNat = min (a.toNat + b.toNat) (UInt64.size - 1) := by
  unfold saturatingAdd
  rw [UInt64.toNat_ofNat', Nat.mod_eq_of_lt]
  exact Nat.lt_of_le_of_lt (Nat.min_le_right _ _) (by decide)

end PixelBuffer
