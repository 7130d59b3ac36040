/-!
# Hexadecimal text

Codes and masks are written in lower-case hexadecimal without padding, with or without the `0x`
mark.
-/

namespace PixelBuffer.Text

/-- The lower-case hexadecimal digits of `n`, without padding. -/
def hexDigits (n : Nat) : String :=
  String.ofList (Nat.toDigits 16 n)

/-- The lower-case hexadecimal digits of `n` after the mark `0x`. -/
def hex (n : Nat) : String :=
  "0x" ++ hexDigits n

end PixelBuffer.Text
