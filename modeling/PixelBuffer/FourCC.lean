/-!
# Four character codes

A pixel format is identified by four bytes. `FourCC.toCode` and `FourCC.ofCode` pass between the
bytes and the 32-bit code that holds the first byte lowest; `FourCC.text` shows graphic ASCII bytes
as themselves and every other byte as an escape.
-/

namespace PixelBuffer

/-- The four bytes that identify a pixel format, first character first. -/
structure FourCC where
  first : UInt8
  second : UInt8
  third : UInt8
  fourth : UInt8
deriving DecidableEq, Inhabited

namespace FourCC

/-- The bytes in order. -/
def bytes (format : FourCC) : List UInt8 :=
  [format.first, format.second, format.third, format.fourth]

/-- The code whose lowest byte is the first character. -/
def toCode (format : FourCC) : UInt32 :=
  UInt32.ofNat (format.first.toNat + 0x100 * format.second.toNat + 0x10000 * format.third.toNat +
    0x1000000 * format.fourth.toNat)

/-- The format whose first character is the lowest byte of `code`. -/
def ofCode (code : UInt32) : FourCC where
  first := UInt8.ofNat code.toNat
  second := UInt8.ofNat (code.toNat / 0x100)
  third := UInt8.ofNat (code.toNat / 0x10000)
  fourth := UInt8.ofNat (code.toNat / 0x1000000)

/-- Every code is the code of its format. -/
@[simp] theorem toCode_ofCode (code : UInt32) : (ofCode code).toCode = code := by
  have hlt := code.toNat_lt
  rw [← UInt32.toNat_inj]
  simp only [toCode, ofCode, UInt32.toNat_ofNat', UInt8.toNat_ofNat']
  omega

/-- Every format is the format of its code. -/
@[simp] theorem ofCode_toCode (format : FourCC) : ofCode format.toCode = format := by
  obtain ⟨first, second, third, fourth⟩ := format
  have hfirst := first.toNat_lt
  have hsecond := second.toNat_lt
  have hthird := third.toNat_lt
  have hfourth := fourth.toNat_lt
  simp only [toCode, ofCode, FourCC.mk.injEq, ← UInt8.toNat_inj, UInt32.toNat_ofNat',
    UInt8.toNat_ofNat']
  omega

/-- The format spelled by four characters. -/
def ofChars (first second third fourth : Char) : FourCC where
  first := UInt8.ofNat first.toNat
  second := UInt8.ofNat second.toNat
  third := UInt8.ofNat third.toNat
  fourth := UInt8.ofNat fourth.toNat

/-- A byte that prints as a visible ASCII character. -/
def isGraphic (byte : UInt8) : Bool :=
  0x21 ≤ byte.toNat && byte.toNat ≤ 0x7e

/-- The characters that show one byte: itself, or a two-digit escape. -/
def byteChars (byte : UInt8) : List Char :=
  if isGraphic byte then [Char.ofNat byte.toNat]
  else ['\\', 'x', Nat.digitChar (byte.toNat / 16), Nat.digitChar (byte.toNat % 16)]

/-- The characters that show a format. -/
def chars (format : FourCC) : List Char :=
  format.bytes.flatMap byteChars

/-- The text that shows a format. -/
def text (format : FourCC) : String :=
  String.ofList format.chars

end FourCC

end PixelBuffer
