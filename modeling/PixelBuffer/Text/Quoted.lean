import PixelBuffer.Text.Digits
import PixelBuffer.Text.Hidden

/-!
# Quoted text

Diagnostics show a text between quotes. Quotes, backslashes and line ends are escaped, and a
character without a visible form is shown by its number.
-/

namespace PixelBuffer.Text

/-- A character by its number in braces. -/
def numbered (c : Char) : List Char :=
  ['\\', 'u', '\x7b'] ++ (hexDigits c.toNat).toList ++ ['\x7d']

/-- The characters that show one character between quotes. -/
def quotedChar (c : Char) : List Char :=
  if c = '\x00' then ['\\', '0']
  else if c = '\t' then ['\\', 't']
  else if c = '\n' then ['\\', 'n']
  else if c = '\r' then ['\\', 'r']
  else if c = '"' then ['\\', '"']
  else if c = '\\' then ['\\', '\\']
  else if isHidden c then numbered c
  else [c]

/-- A text between quotes. -/
def quoted (text : String) : String :=
  String.ofList ('"' :: text.toList.flatMap quotedChar ++ ['"'])

end PixelBuffer.Text
