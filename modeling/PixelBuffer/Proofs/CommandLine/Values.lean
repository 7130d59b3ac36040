import PixelBuffer.CommandLine.Settings
import PixelBuffer.Proofs.Number

/-!
# Codes and masks on a command line

The code of a format and the usage mask are given as literals (`Number.Literal`). A literal counts
as a code when its integer fits a signed 32-bit word (`readFormat_eq_ok_iff`), and as a mask when it
fits a signed 64-bit word, in which a negative integer stands for the mask with the same bits
(`readUsage_eq_ok_iff`). So a mask is read from its digits only up to the 63rd bit: the digits of a
mask with the highest bit spell a number beyond the signed word, and are refused
(`readUsage_spelled`).
-/

namespace PixelBuffer

open Number

/-! ## Codes -/

/-- A code is read exactly from a literal for an integer that fits a signed 32-bit word. -/
theorem readFormat_eq_ok_iff {text : String} {code : Int32} :
    readFormat text = .ok code ↔
      ∃ number, Literal text.toList number ∧ -2 ^ 31 ≤ number ∧ number ≤ 2 ^ 31 - 1 ∧
        code.toInt = number := by
  unfold readFormat
  constructor
  · intro h
    split at h
    case h_1 => cases h
    case h_2 number hread =>
      obtain ⟨hliteral, -⟩ := readInteger_eq_ok_iff.mp hread
      split at h
      · rename_i hrange
        cases h
        exact ⟨number, hliteral, hrange.1, Int.le_sub_one_of_lt hrange.2,
          Int32.toInt_ofInt_of_le hrange.1 hrange.2⟩
      · cases h
  · intro h
    obtain ⟨number, hliteral, hlow, hhigh, hcode⟩ := h
    have hread : readInteger text.toList = .ok number :=
      readInteger_eq_ok_iff.mpr ⟨hliteral, by omega, by omega⟩
    have hrange : -0x80000000 ≤ number ∧ number < 0x80000000 := by omega
    rw [hread]
    show (if -0x80000000 ≤ number ∧ number < 0x80000000 then
      Except.ok (Int32.ofInt number) else .error (ValueFault.codeRange text)) = .ok code
    rw [if_pos hrange, ← hcode, Int32.ofInt_toInt]

/-- The literals are the texts that are read as integers, and as codes, wherever the integer fits the
word. A literal stands for one integer, which leading zeros do not change; texts without digits, with
a sign before the mark, with two marks, or with a space before or behind them are refused. -/
theorem readInteger_literal :
    (∀ (text : String),
      (∀ number, readInteger text.toList = .ok number ↔
        Literal text.toList number ∧ -2 ^ 63 ≤ number ∧ number ≤ 2 ^ 63 - 1) ∧
      (∀ code, readFormat text = .ok code ↔
        ∃ number, Literal text.toList number ∧ -2 ^ 31 ≤ number ∧ number ≤ 2 ^ 31 - 1 ∧
          code.toInt = number) ∧
      (∀ number other, Literal text.toList number → Literal text.toList other →
        number = other) ∧
      (Malformed text.toList → ∃ fault, readInteger text.toList = .error fault)) ∧
      ∀ (base : Nat) (digits : List Char) (number zeros : Nat), 0 < base →
        Spells base digits number →
        Spells base (List.replicate zeros '0' ++ digits) number := by
  refine ⟨fun text => ⟨?_, ?_, ?_, ?_⟩, ?_⟩
  · intro number
    exact readInteger_eq_ok_iff
  · intro code
    exact readFormat_eq_ok_iff
  · intro number other hnumber hother
    exact hnumber.unique hother
  · intro hmalformed
    cases hread : readInteger text.toList with
    | error fault => exact ⟨fault, rfl⟩
    | ok number => exact absurd (readInteger_eq_ok_iff.mp hread).1 (hmalformed.not_literal number)
  · intro base digits number zeros hbase hspells
    exact hspells.leading_zeros hbase zeros

/-! ## Masks -/

/-- The texts that spell a mask: the decimal digits of its bits, or their hexadecimal digits, small
or capital, behind a zero and the mark. -/
inductive Usage.Spelled (usage : Usage) : List Char → Prop
  | decimal : Spelled usage (Nat.toDigits 10 usage.bits.toNat)
  | hexadecimal {mark : Char} {digits : List Char} (isMark : IsMark mark)
      (digits_eq : digits.map Char.toLower = Nat.toDigits 16 usage.bits.toNat) :
      Spelled usage ('0' :: mark :: digits)

/-- The digits of a number, each small or capital, spell it. -/
theorem spells_of_toLower {base number : Nat} (hbase : 1 < base) {digits : List Char}
    (h : digits.map Char.toLower = Nat.toDigits base number) : Spells base digits number := by
  induction number using Nat.strongRecOn generalizing digits with
  | ind number ih =>
      rw [Nat.toDigits_eq_if hbase] at h
      split at h
      · rename_i hlt
        obtain ⟨c, rfl, hc⟩ := List.map_eq_singleton_iff.mp h
        simpa using Spells.append .nil ⟨hlt, hc⟩
      · rename_i hle
        obtain ⟨before, last, rfl, hbefore, hlast⟩ := List.map_eq_append_iff.mp h
        obtain ⟨c, rfl, hc⟩ := List.map_eq_singleton_iff.mp hlast
        have hsmaller : number / base < number := Nat.div_lt_self (by omega) hbase
        have hdigit : IsDigit base c (number % base) := ⟨Nat.mod_lt _ (by omega), hc⟩
        have hspells := Spells.append (ih _ hsmaller hbefore) hdigit
        rwa [Nat.div_add_mod'] at hspells

/-- Decimal digits have no small and capital form. -/
theorem map_toLower_toDigits (number : Nat) :
    (Nat.toDigits 10 number).map Char.toLower = Nat.toDigits 10 number := by
  refine (List.map_congr_left fun c hc => ?_).trans (List.map_id _)
  exact Text.toLower_of_isDigit (Nat.isDigit_of_mem_toDigits (by omega) (by omega) hc)

/-- The text of a mask is read as its bits, or refused for its size. -/
theorem Usage.Spelled.readInteger_eq {usage : Usage} {chars : List Char}
    (h : usage.Spelled chars) :
    readInteger chars =
      if usage.bits.toNat ≤ 2 ^ 63 - 1 then .ok (usage.bits.toNat : Int) else .error .tooLarge := by
  cases h with
  | decimal =>
      have hspells := spells_of_toLower (by omega) (map_toLower_toDigits usage.bits.toNat)
      rw [readInteger_eq_readSigned fun c hc isMark => hspells.not_mem (.inr (.inl isMark)) hc]
      exact hspells.readSigned_eq (by omega) Nat.toDigits_ne_nil
  | @hexadecimal _ digits isMark digits_eq =>
      have hspells := spells_of_toLower (by omega) digits_eq
      have hdigits : digits ≠ [] := by
        intro hnil
        rw [hnil] at digits_eq
        exact Nat.toDigits_ne_nil digits_eq.symm
      rw [readInteger_marked isMark]
      exact hspells.readSigned_eq (Nat.le_refl 16) hdigits

/-- A mask is read exactly from the literals for its bits as a signed word. -/
theorem readUsage_eq_ok_iff {text : String} {usage : Usage} :
    readUsage text = .ok usage ↔ Literal text.toList usage.bits.toInt64.toInt := by
  obtain ⟨bits⟩ := usage
  unfold readUsage
  constructor
  · intro h
    split at h
    case h_1 => cases h
    case h_2 number hread =>
      cases h
      obtain ⟨hliteral, hlow, hhigh⟩ := readInteger_eq_ok_iff.mp hread
      show Literal text.toList (Int64.ofInt number).toUInt64.toInt64.toInt
      rw [Int64.toInt64_toUInt64, Int64.toInt_ofInt_of_le hlow (by omega)]
      exact hliteral
  · intro h
    have hread : readInteger text.toList = .ok bits.toInt64.toInt :=
      readInteger_eq_ok_iff.mpr
        ⟨h, bits.toInt64.le_toInt, Int.le_sub_one_of_lt bits.toInt64.toInt_lt⟩
    rw [hread]
    show Except.ok (⟨(Int64.ofInt bits.toInt64.toInt).toUInt64⟩ : Usage) = .ok ⟨bits⟩
    rw [Int64.ofInt_toInt, UInt64.toUInt64_toInt64]

/-- A text that spells a mask is read as it exactly when the mask lacks the highest bit, and is
refused as too large otherwise. Every mask is read from the literals for its bits as a signed word,
and from no other text. -/
theorem readUsage_spelled (usage : Usage) (text : String) :
    (usage.Spelled text.toList →
      readUsage text =
        if usage.bits.toNat < 2 ^ 63 then .ok usage else .error (.code text .tooLarge)) ∧
      (readUsage text = .ok usage ↔ Literal text.toList usage.bits.toInt64.toInt) := by
  refine ⟨fun hspelled => ?_, readUsage_eq_ok_iff⟩
  have hread := hspelled.readInteger_eq
  unfold readUsage
  by_cases hsmall : usage.bits.toNat ≤ 2 ^ 63 - 1
  · rw [hread, if_pos hsmall, if_pos (by omega)]
    show Except.ok (⟨(Int64.ofNat usage.bits.toNat).toUInt64⟩ : Usage) = .ok usage
    rw [Int64.toUInt64_ofNat', UInt64.ofNat_toNat]
  · rw [hread, if_neg hsmall, if_neg (by omega)]

/-- The mask with only the highest bit is not read from its hexadecimal digits. -/
theorem readUsage_highest_bit :
    ¬ ∀ (usage : Usage) (text : String), usage.Spelled text.toList →
      readUsage text = .ok usage := by
  intro h
  have hspelled : (⟨0x8000000000000000⟩ : Usage).Spelled "0x8000000000000000".toList :=
    .hexadecimal (.inl rfl) (by decide)
  have hread := h ⟨0x8000000000000000⟩ "0x8000000000000000" hspelled
  revert hread
  decide

end PixelBuffer
