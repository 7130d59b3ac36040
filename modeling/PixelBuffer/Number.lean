/-!
# Numbers in text

An integer is written as an optional sign and one or more digits. `readSigned` accepts what a signed
64-bit word can hold, `readUnsigned` what an unsigned one can, and `readInteger` is `readSigned` in
base ten, or in base sixteen after the mark `0x` or `0X`. Of several faults in a text the first one
from the left counts.
-/

namespace PixelBuffer

/-- Why a text is not a number. -/
inductive NumberFault where
  | empty
  | invalidDigit
  | tooLarge
  | tooSmall
deriving DecidableEq

namespace NumberFault

/-- The wording of a fault. -/
def message : NumberFault → String
  | .empty => "cannot parse integer from empty string"
  | .invalidDigit => "invalid digit found in string"
  | .tooLarge => "number too large to fit in target type"
  | .tooSmall => "number too small to fit in target type"

end NumberFault

namespace Number

/-- The value of a digit, if the base has it. -/
def digit? (base : Nat) (c : Char) : Option Nat :=
  let value :=
    if '0' ≤ c ∧ c ≤ '9' then c.toNat - '0'.toNat
    else if 'a' ≤ c ∧ c ≤ 'z' then c.toNat - 'a'.toNat + 10
    else if 'A' ≤ c ∧ c ≤ 'Z' then c.toNat - 'A'.toNat + 10
    else base
  if value < base then some value else none

/-- The number that digits spell after `value`, when it never exceeds `limit`. -/
def readDigits (base limit : Nat) (excess : NumberFault) :
    (value : Nat) → List Char → Except NumberFault Nat
  | value, [] => .ok value
  | value, c :: rest =>
      match digit? base c with
      | none => .error .invalidDigit
      | some digit =>
          if limit < value * base + digit then .error excess
          else readDigits base limit excess (value * base + digit) rest

/-- The number that one or more digits spell; a sign with no digit behind it is not one. -/
def readNatural (base limit : Nat) (excess : NumberFault) : List Char → Except NumberFault Nat
  | [] => .error .invalidDigit
  | digits => readDigits base limit excess 0 digits

/-- An optional sign and digits, within a signed 64-bit word. -/
def readSigned (base : Nat) : List Char → Except NumberFault Int
  | [] => .error .empty
  | '+' :: digits => (readNatural base 0x7FFFFFFFFFFFFFFF .tooLarge digits).map Int.ofNat
  | '-' :: digits =>
      (readNatural base 0x8000000000000000 .tooSmall digits).map fun value => -Int.ofNat value
  | digits => (readNatural base 0x7FFFFFFFFFFFFFFF .tooLarge digits).map Int.ofNat

/-- An optional plus sign and digits, within an unsigned 64-bit word. -/
def readUnsigned (base : Nat) : List Char → Except NumberFault Nat
  | [] => .error .empty
  | '+' :: digits => readNatural base (UInt64.size - 1) .tooLarge digits
  | digits => readNatural base (UInt64.size - 1) .tooLarge digits

/-- A signed integer in base ten, or in base sixteen after its mark. -/
def readInteger : List Char → Except NumberFault Int
  | '0' :: 'x' :: digits => readSigned 16 digits
  | '0' :: 'X' :: digits => readSigned 16 digits
  | digits => readSigned 10 digits

end Number

end PixelBuffer
