import PixelBuffer.Failure

/-!
# Image sizes
-/

namespace PixelBuffer

/-- The dimensions of an image in pixels. -/
structure Size where
  width : UInt32
  height : UInt32
deriving DecidableEq

namespace Size

/-- An image without pixels. -/
def isEmpty (size : Size) : Bool :=
  size.width == 0 || size.height == 0

/-- The failure that reports this size as unusable. -/
def invalid (size : Size) : Failure :=
  .invalidSize size.width.toNat size.height.toNat

/-- The size with the given signed dimensions, both of which must be positive. -/
def ofSigned (width height : Int32) : Except Failure Size :=
  if 0 < width ∧ 0 < height then .ok ⟨width.toUInt32, height.toUInt32⟩
  else .error (.invalidSize width.toInt height.toInt)

/-- Width and height joined by an `x`. -/
def text (size : Size) : String :=
  toString size.width ++ "x" ++ toString size.height

/-- The shape of a size in diagnostics. -/
def description (size : Size) : String :=
  Text.record "Size" [("width", toString size.width), ("height", toString size.height)]

end Size

end PixelBuffer
