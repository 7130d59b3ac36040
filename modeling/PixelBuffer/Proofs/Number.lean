import Mathlib.Algebra.Group.Int.Defs
import Mathlib.Algebra.Group.Nat.Defs
import Mathlib.Data.List.Induction
import Mathlib.Tactic.Common
import PixelBuffer.Number
import PixelBuffer.Proofs.Text.Characters

/-!
# Which texts are numbers

`Number.Literal` says which texts stand for an integer, and for which one, without saying how they
are read: digits spell a natural number, a numeral is an optional sign and at least one digit, and a
literal is a decimal numeral, or a hexadecimal one behind its mark. The readers accept exactly these
texts, as long as the integer fits a signed 64-bit word (`Number.readInteger_eq_ok_iff`). Texts that
come close to a literal are listed by `Number.Malformed`; none of them is one
(`Number.Malformed.not_literal`).
-/

namespace PixelBuffer

namespace Number

/-! ## Numbers in text -/

/-- The character stands for a value below the base: a decimal digit for its own, and a letter from
`a` on, in either case, for one from ten on. -/
def IsDigit (base : Nat) (c : Char) (value : Nat) : Prop :=
  value < base ∧ c.toLower = Nat.digitChar value

/-- The digits spell a number: the last one counts once, and those before it as often as the base.
No digits spell zero. -/
inductive Spells (base : Nat) : List Char → Nat → Prop
  | nil : Spells base [] 0
  | append {digits : List Char} {number value : Nat} {c : Char} (before : Spells base digits number)
      (last : IsDigit base c value) : Spells base (digits ++ [c]) (number * base + value)

/-- The character before digits that gives the sign. -/
def IsSign (c : Char) : Prop := c = '+' ∨ c = '-'

/-- The character after a zero that announces hexadecimal digits. -/
def IsMark (c : Char) : Prop := c = 'x' ∨ c = 'X'

/-- A numeral is one or more digits, perhaps behind a sign. -/
inductive Numeral (base : Nat) : List Char → Int → Prop
  | unsigned {digits : List Char} {number : Nat} (nonempty : digits ≠ [])
      (spells : Spells base digits number) : Numeral base digits number
  | plus {digits : List Char} {number : Nat} (nonempty : digits ≠ [])
      (spells : Spells base digits number) : Numeral base ('+' :: digits) number
  | minus {digits : List Char} {number : Nat} (nonempty : digits ≠ [])
      (spells : Spells base digits number) : Numeral base ('-' :: digits) (-number)

/-- A literal is a decimal numeral, or a hexadecimal one behind a zero and the mark. -/
inductive Literal : List Char → Int → Prop
  | decimal {chars : List Char} {number : Int} (numeral : Numeral 10 chars number) :
      Literal chars number
  | hexadecimal {mark : Char} {chars : List Char} {number : Int} (isMark : IsMark mark)
      (numeral : Numeral 16 chars number) : Literal ('0' :: mark :: chars) number

/-- Texts that come close to a literal. -/
inductive Malformed : List Char → Prop
  /-- There are no digits, with or without a sign. -/
  | withoutDigits {signs : List Char} (areSigns : ∀ c ∈ signs, IsSign c) : Malformed signs
  /-- There are no digits behind the mark, with or without a sign. -/
  | withoutHexDigits {mark : Char} {signs : List Char} (isMark : IsMark mark)
      (areSigns : ∀ c ∈ signs, IsSign c) : Malformed ('0' :: mark :: signs)
  /-- The sign stands before the mark. -/
  | signBeforeMark {sign mark : Char} (isSign : IsSign sign) (isMark : IsMark mark)
      (rest : List Char) : Malformed (sign :: '0' :: mark :: rest)
  /-- The mark stands twice. -/
  | markTwice {mark again : Char} (isMark : IsMark mark) (isAgain : IsMark again)
      (rest : List Char) : Malformed ('0' :: mark :: '0' :: again :: rest)
  /-- A space stands before the number. -/
  | spaceBefore (rest : List Char) : Malformed (' ' :: rest)
  /-- A space stands behind the number. -/
  | spaceBehind (chars : List Char) : Malformed (chars ++ [' '])

/-! ## One digit -/

/-- A digit is recognized exactly when it is one of the base. -/
theorem digit?_eq_some_iff {base : Nat} (hbase : base ≤ 16) {c : Char} {value : Nat} :
    digit? base c = some value ↔ IsDigit base c value := by
  unfold digit? IsDigit
  simp only [Text.char_le_iff, Option.ite_none_right_eq_some, Option.some.injEq,
    show '0'.toNat = 48 from rfl, show '9'.toNat = 57 from rfl, show 'a'.toNat = 97 from rfl,
    show 'z'.toNat = 122 from rfl, show 'A'.toNat = 65 from rfl, show 'Z'.toNat = 90 from rfl]
  constructor
  · intro h
    obtain ⟨hvalue, rfl⟩ := h
    have hsixteen := Nat.lt_of_lt_of_le hvalue hbase
    refine ⟨hvalue, ?_⟩
    rw [← Char.toNat_inj, Text.toNat_toLower, Text.toNat_digitChar hsixteen]
    split_ifs at hvalue ⊢ <;> omega
  · intro h
    obtain ⟨hvalue, hc⟩ := h
    have hsixteen := Nat.lt_of_lt_of_le hvalue hbase
    rw [← Char.toNat_inj, Text.toNat_toLower, Text.toNat_digitChar hsixteen] at hc
    split_ifs at hc ⊢ <;> omega

/-- Signs, marks and spaces are no digits. -/
theorem not_isDigit {base : Nat} {c : Char} (hc : IsSign c ∨ IsMark c ∨ c = ' ') (value : Nat) :
    ¬ IsDigit base c value := by
  intro hdigit
  have hlower : c.toLower ≠ Nat.digitChar value := by
    rcases hc with (rfl | rfl) | (rfl | rfl) | rfl <;>
      exact (Nat.digitChar_ne _ (by decide)).symm
  exact hlower hdigit.2

/-! ## Digits one after another -/

section Reading

variable {base limit number : Nat} {excess : NumberFault} {digits : List Char}

/-- Each character of digits that spell a number is a digit. -/
theorem Spells.isDigit (h : Spells base digits number) :
    ∀ c ∈ digits, ∃ value, IsDigit base c value := by
  induction h with
  | nil => simp
  | append before last ih =>
      intro c hc
      rcases List.mem_append.mp hc with hbefore | hlast
      · exact ih c hbefore
      · rw [List.mem_singleton.mp hlast]
        exact ⟨_, last⟩

/-- Digits that spell a number contain no sign, mark or space. -/
theorem Spells.not_mem (h : Spells base digits number) {c : Char}
    (hc : IsSign c ∨ IsMark c ∨ c = ' ') : c ∉ digits := by
  intro hmem
  obtain ⟨value, hdigit⟩ := h.isDigit c hmem
  exact not_isDigit hc value hdigit

/-- Reading digits in two parts is reading the second from the value of the first. -/
theorem readDigits_append (value : Nat) (digits rest : List Char) :
    readDigits base limit excess value (digits ++ rest) =
      (readDigits base limit excess value digits).bind
        fun value => readDigits base limit excess value rest := by
  induction digits generalizing value with
  | nil => rfl
  | cons c digits ih =>
      simp only [List.cons_append, readDigits]
      split
      · rfl
      · split
        · rfl
        · exact ih _

/-- Digits that spell a number are read as it, or refused for its size. -/
theorem Spells.readDigits_eq (hbase : base ≤ 16) (h : Spells base digits number) :
    readDigits base limit excess 0 digits =
      if number ≤ limit then .ok number else .error excess := by
  induction h with
  | nil => rfl
  | @append digits number value c before last ih =>
      have hpos : 0 < base := Nat.zero_lt_of_lt last.1
      have hgrows : number ≤ number * base + value :=
        Nat.le_add_right_of_le (Nat.le_mul_of_pos_right number hpos)
      rw [readDigits_append, ih]
      by_cases hnumber : number ≤ limit
      · rw [if_pos hnumber]
        show readDigits base limit excess number [c] = _
        simp only [readDigits, (digit?_eq_some_iff hbase).mpr last]
        by_cases hlimit : number * base + value ≤ limit
        · rw [if_neg (Nat.not_lt.mpr hlimit), if_pos hlimit]
        · rw [if_pos (Nat.lt_of_not_le hlimit), if_neg hlimit]
      · -- the part before the last digit is too large already
        rw [if_neg hnumber, if_neg (by omega)]
        rfl

/-- What is read as a number are digits that spell it. -/
theorem spells_of_readDigits (hbase : base ≤ 16)
    (h : readDigits base limit excess 0 digits = .ok number) :
    Spells base digits number ∧ number ≤ limit := by
  induction digits using List.reverseRecOn generalizing number with
  | nil =>
      cases h
      exact ⟨.nil, Nat.zero_le limit⟩
  | append_singleton before c ih =>
      rw [readDigits_append] at h
      cases hbefore : readDigits base limit excess 0 before with
      | error fault =>
          rw [hbefore] at h
          cases h
      | ok value =>
          rw [hbefore] at h
          replace h : readDigits base limit excess value [c] = .ok number := h
          simp only [readDigits] at h
          split at h
          · cases h
          · rename_i digit hdigit
            split at h
            · cases h
            · rename_i hlimit
              cases h
              exact ⟨.append (ih hbefore).1 ((digit?_eq_some_iff hbase).mp hdigit),
                Nat.le_of_not_lt hlimit⟩

/-- Digits spell at most one number. -/
theorem Spells.unique (hbase : base ≤ 16) {other : Nat} (h : Spells base digits number)
    (hother : Spells base digits other) : number = other := by
  -- a reader with a limit that neither exceeds answers both
  have hread := @Spells.readDigits_eq base (number + other) number .tooLarge digits hbase h
  have hread' := @Spells.readDigits_eq base (number + other) other .tooLarge digits hbase hother
  rw [if_pos (by omega)] at hread hread'
  exact Except.ok.inj (hread.symm.trans hread')

/-- Zeros before digits change nothing. -/
theorem Spells.leading_zeros (hbase : 0 < base) (h : Spells base digits number) (zeros : Nat) :
    Spells base (List.replicate zeros '0' ++ digits) number := by
  have hzero : IsDigit base '0' 0 := ⟨hbase, rfl⟩
  induction h with
  | nil =>
      induction zeros with
      | zero => exact .nil
      | succ zeros ih =>
          rw [List.append_nil] at ih ⊢
          rw [List.replicate_succ']
          simpa using Spells.append ih hzero
  | append before last ih =>
      rw [← List.append_assoc]
      exact .append ih last

/-! ## Numerals -/

/-- Digits, if there are any, are read from zero on. -/
theorem readNatural_eq (hdigits : digits ≠ []) :
    readNatural base limit excess digits = readDigits base limit excess 0 digits := by
  cases digits with
  | nil => exact absurd rfl hdigits
  | cons c rest => rfl

/-- A natural number is read, and turned into an integer, exactly from one or more digits that spell
one within the limit. -/
theorem readNatural_map_eq_ok_iff (hbase : base ≤ 16) {f : Nat → Int} {result : Int} :
    (readNatural base limit excess digits).map f = .ok result ↔
      ∃ number, digits ≠ [] ∧ Spells base digits number ∧ number ≤ limit ∧ f number = result := by
  constructor
  · intro h
    have hdigits : digits ≠ [] := by
      intro hnil
      rw [hnil] at h
      cases h
    rw [readNatural_eq hdigits] at h
    cases hread : readDigits base limit excess 0 digits with
    | error fault =>
        rw [hread] at h
        cases h
    | ok number =>
        rw [hread] at h
        obtain ⟨hspells, hlimit⟩ := spells_of_readDigits hbase hread
        exact ⟨number, hdigits, hspells, hlimit, Except.ok.inj h⟩
  · intro h
    obtain ⟨number, hdigits, hspells, hlimit, rfl⟩ := h
    rw [readNatural_eq hdigits, hspells.readDigits_eq hbase, if_pos hlimit]
    rfl

/-- Digits that spell a number are read as it without a sign, or refused for its size. -/
theorem Spells.readSigned_eq (hbase : base ≤ 16) (hdigits : digits ≠ [])
    (h : Spells base digits number) :
    readSigned base digits =
      if number ≤ 2 ^ 63 - 1 then .ok (number : Int) else .error .tooLarge := by
  have hunsigned : readSigned base digits =
      (readNatural base 0x7FFFFFFFFFFFFFFF .tooLarge digits).map Int.ofNat := by
    unfold readSigned
    split
    case h_1 => exact absurd rfl hdigits
    case h_2 => exact absurd List.mem_cons_self (h.not_mem (.inl (.inl rfl)))
    case h_3 => exact absurd List.mem_cons_self (h.not_mem (.inl (.inr rfl)))
    case h_4 => rfl
  rw [hunsigned, readNatural_eq hdigits, h.readDigits_eq hbase,
    show 0x7FFFFFFFFFFFFFFF = 2 ^ 63 - 1 from rfl]
  split <;> rfl

/-- A signed integer is read exactly from a numeral for it, if it fits a signed 64-bit word. -/
theorem readSigned_eq_ok_iff (hbase : base ≤ 16) {chars : List Char} {result : Int} :
    readSigned base chars = .ok result ↔
      Numeral base chars result ∧ -2 ^ 63 ≤ result ∧ result ≤ 2 ^ 63 - 1 := by
  constructor
  · intro h
    unfold readSigned at h
    split at h
    case h_1 => cases h
    case h_2 =>
      obtain ⟨number, hdigits, hspells, hlimit, rfl⟩ := (readNatural_map_eq_ok_iff hbase).mp h
      refine ⟨.plus hdigits hspells, ?_⟩
      simp only [Int.ofNat_eq_natCast]
      omega
    case h_3 =>
      obtain ⟨number, hdigits, hspells, hlimit, rfl⟩ := (readNatural_map_eq_ok_iff hbase).mp h
      refine ⟨.minus hdigits hspells, ?_⟩
      simp only [Int.ofNat_eq_natCast]
      omega
    case h_4 =>
      obtain ⟨number, hdigits, hspells, hlimit, rfl⟩ := (readNatural_map_eq_ok_iff hbase).mp h
      refine ⟨.unsigned hdigits hspells, ?_⟩
      simp only [Int.ofNat_eq_natCast]
      omega
  · intro h
    obtain ⟨hnumeral, hlow, hhigh⟩ := h
    cases hnumeral with
    | @unsigned _ number hdigits hspells =>
        rw [hspells.readSigned_eq hbase hdigits, if_pos (by omega)]
    | @plus _ number hdigits hspells =>
        exact (readNatural_map_eq_ok_iff hbase).mpr
          ⟨number, hdigits, hspells, by omega, rfl⟩
    | @minus _ number hdigits hspells =>
        exact (readNatural_map_eq_ok_iff hbase).mpr
          ⟨number, hdigits, hspells, by omega, rfl⟩

end Reading

section Numerals

variable {base : Nat} {chars : List Char} {number other : Int}

/-- No numeral contains a mark or a space. -/
theorem Numeral.not_mem (h : Numeral base chars number) {c : Char} (hc : IsMark c ∨ c = ' ') :
    c ∉ chars := by
  have hsign : c ≠ '+' ∧ c ≠ '-' := by
    rcases hc with (rfl | rfl) | rfl <;> decide
  cases h with
  | unsigned _ spells => exact spells.not_mem (.inr hc)
  | plus _ spells => exact List.not_mem_cons_of_ne_of_not_mem hsign.1 (spells.not_mem (.inr hc))
  | minus _ spells => exact List.not_mem_cons_of_ne_of_not_mem hsign.2 (spells.not_mem (.inr hc))

/-- A numeral does not consist of signs. -/
theorem Numeral.not_signs (h : Numeral base chars number) : ¬ ∀ c ∈ chars, IsSign c := by
  intro hsigns
  have hnone : ∀ {digits : List Char} {number : Nat}, digits ≠ [] → Spells base digits number →
      (∀ c ∈ digits, c ∈ chars) → False := by
    intro digits number hdigits hspells hsub
    obtain ⟨c, hc⟩ := List.exists_mem_of_ne_nil digits hdigits
    exact hspells.not_mem (.inl (hsigns c (hsub c hc))) hc
  cases h with
  | unsigned nonempty spells => exact hnone nonempty spells fun c hc => hc
  | plus nonempty spells => exact hnone nonempty spells fun c hc => List.mem_cons_of_mem _ hc
  | minus nonempty spells => exact hnone nonempty spells fun c hc => List.mem_cons_of_mem _ hc

/-- A numeral stands for at most one integer. -/
theorem Numeral.unique (hbase : base ≤ 16) (h : Numeral base chars number)
    (hother : Numeral base chars other) : number = other := by
  cases h with
  | unsigned _ spells =>
      cases hother with
      | unsigned _ spells' => exact congrArg Int.ofNat (spells.unique hbase spells')
      | plus => exact absurd List.mem_cons_self (spells.not_mem (.inl (.inl rfl)))
      | minus => exact absurd List.mem_cons_self (spells.not_mem (.inl (.inr rfl)))
  | plus _ spells =>
      cases hother with
      | unsigned _ spells' => exact absurd List.mem_cons_self (spells'.not_mem (.inl (.inl rfl)))
      | plus _ spells' => exact congrArg Int.ofNat (spells.unique hbase spells')
  | minus _ spells =>
      cases hother with
      | unsigned _ spells' => exact absurd List.mem_cons_self (spells'.not_mem (.inl (.inr rfl)))
      | minus _ spells' =>
          exact congrArg (fun value => -Int.ofNat value) (spells.unique hbase spells')

/-! ## Literals -/

/-- What holds a mark at its second place is no numeral. -/
theorem Numeral.not_marked {first mark : Char} {rest : List Char} (isMark : IsMark mark) :
    ¬ Numeral base (first :: mark :: rest) number := by
  intro h
  exact h.not_mem (.inl isMark) (List.mem_cons_of_mem first List.mem_cons_self)

/-- A literal stands for at most one integer. -/
theorem Literal.unique (h : Literal chars number) (hother : Literal chars other) :
    number = other := by
  cases h with
  | decimal numeral =>
      cases hother with
      | decimal numeral' => exact numeral.unique (by omega) numeral'
      | hexadecimal isMark => exact absurd numeral (Numeral.not_marked isMark)
  | hexadecimal isMark numeral =>
      cases hother with
      | decimal numeral' => exact absurd numeral' (Numeral.not_marked isMark)
      | hexadecimal _ numeral' => exact numeral.unique (Nat.le_refl 16) numeral'

/-- No literal contains a space. -/
theorem Literal.space_not_mem (h : Literal chars number) : ' ' ∉ chars := by
  cases h with
  | decimal numeral => exact numeral.not_mem (.inr rfl)
  | @hexadecimal mark _ _ isMark numeral =>
      have hmark : ' ' ≠ mark := by
        rcases isMark with rfl | rfl <;> decide
      exact List.not_mem_cons_of_ne_of_not_mem (by decide)
        (List.not_mem_cons_of_ne_of_not_mem hmark (numeral.not_mem (.inr rfl)))

/-- A text that comes close to a literal is none. -/
theorem Malformed.not_literal (h : Malformed chars) (number : Int) : ¬ Literal chars number := by
  intro hliteral
  cases h with
  | withoutDigits areSigns =>
      cases hliteral with
      | decimal numeral => exact numeral.not_signs areSigns
      | hexadecimal =>
          have hzero : IsSign '0' := areSigns '0' List.mem_cons_self
          rcases hzero with hzero | hzero <;> cases hzero
  | withoutHexDigits isMark areSigns =>
      cases hliteral with
      | decimal numeral => exact Numeral.not_marked isMark numeral
      | hexadecimal _ numeral => exact numeral.not_signs areSigns
  | @signBeforeMark sign _ isSign isMark rest =>
      cases hliteral with
      | decimal numeral =>
          exact numeral.not_mem (.inl isMark)
            (List.mem_cons_of_mem sign (List.mem_cons_of_mem '0' List.mem_cons_self))
      | hexadecimal => rcases isSign with hzero | hzero <;> cases hzero
  | markTwice isMark isAgain rest =>
      cases hliteral with
      | decimal numeral => exact Numeral.not_marked isMark numeral
      | hexadecimal _ numeral => exact Numeral.not_marked isAgain numeral
  | spaceBefore rest => exact hliteral.space_not_mem List.mem_cons_self
  | spaceBehind before => exact hliteral.space_not_mem (by simp)

/-- A text without a mark is read in base ten. -/
theorem readInteger_eq_readSigned (h : ∀ c ∈ chars, ¬ IsMark c) :
    readInteger chars = readSigned 10 chars := by
  unfold readInteger
  split
  case h_1 => exact absurd (.inl rfl) (h 'x' (by simp))
  case h_2 => exact absurd (.inr rfl) (h 'X' (by simp))
  case h_3 => rfl

/-- A text behind a zero and a mark is read in base sixteen. -/
theorem readInteger_marked {mark : Char} (isMark : IsMark mark) :
    readInteger ('0' :: mark :: chars) = readSigned 16 chars := by
  rcases isMark with rfl | rfl <;> rfl

/-- An integer is read exactly from a literal for it, if it fits a signed 64-bit word. -/
theorem readInteger_eq_ok_iff :
    readInteger chars = .ok number ↔
      Literal chars number ∧ -2 ^ 63 ≤ number ∧ number ≤ 2 ^ 63 - 1 := by
  constructor
  · intro h
    unfold readInteger at h
    split at h
    case h_1 =>
      obtain ⟨hnumeral, hrange⟩ := (readSigned_eq_ok_iff (Nat.le_refl 16)).mp h
      exact ⟨.hexadecimal (.inl rfl) hnumeral, hrange⟩
    case h_2 =>
      obtain ⟨hnumeral, hrange⟩ := (readSigned_eq_ok_iff (Nat.le_refl 16)).mp h
      exact ⟨.hexadecimal (.inr rfl) hnumeral, hrange⟩
    case h_3 =>
      obtain ⟨hnumeral, hrange⟩ := (readSigned_eq_ok_iff (by omega)).mp h
      exact ⟨.decimal hnumeral, hrange⟩
  · intro h
    obtain ⟨hliteral, hrange⟩ := h
    cases hliteral with
    | decimal numeral =>
        rw [readInteger_eq_readSigned fun c hc isMark => numeral.not_mem (.inl isMark) hc]
        exact (readSigned_eq_ok_iff (by omega)).mpr ⟨numeral, hrange⟩
    | hexadecimal isMark numeral =>
        rw [readInteger_marked isMark]
        exact (readSigned_eq_ok_iff (Nat.le_refl 16)).mpr ⟨numeral, hrange⟩

/-- The sign stands behind the mark, and the least integer has no counterpart above zero. -/
example : readInteger "0x-8000000000000000".toList = .ok (-2 ^ 63) ∧
    readInteger "0x8000000000000000".toList = .error .tooLarge ∧
    ∀ number, readInteger "-0x8".toList ≠ .ok number := by
  refine ⟨by decide, by decide, fun number h => ?_⟩
  exact (Malformed.signBeforeMark (.inr rfl) (.inl rfl) ['8']).not_literal number
    (readInteger_eq_ok_iff.mp h).1

end Numerals

end Number

end PixelBuffer
