import PixelBuffer.FourCC
import PixelBuffer.Size
import PixelBuffer.Word

/-!
# Plane geometry

A format stores an image in one or more planes. A plane stores each group of horizontally adjacent
pixels in a fixed number of bytes, and one of its rows covers one or more rows of the image. From
that follow the bytes of a row, the rows of a plane and the bytes of a plane and of a frame. A
quantity that does not fit its machine word has no value; nothing wraps.
-/

namespace PixelBuffer

/-- How a plane stores the pixels of an image. -/
structure PlaneGeometry where
  /-- Bytes that the plane uses for one group of pixels. -/
  bytesPerGroup : Nat
  /-- Rows of the image that one row of the plane covers. -/
  verticalSubsampling : Nat
deriving DecidableEq

/-- How a format stores an image. -/
structure FormatGeometry where
  name : String
  format : FourCC
  /-- Horizontally adjacent pixels that share a group. -/
  pixelsPerGroup : Nat
  planes : List PlaneGeometry
deriving DecidableEq

/-- The product of a count and a length, when it fits 64 bits. -/
def product64? (count length : Nat) : Option Nat :=
  if count * length < UInt64.size then some (count * length) else none

namespace PlaneGeometry

/-- Bytes of one row, a multiple of `align` bytes, when they fit 32 bits. -/
def rowBytes? (plane : PlaneGeometry) (pixelsPerGroup : Nat) (width align : UInt32) :
    Option UInt32 := do
  let tight ← product64? (ceilDiv width.toNat pixelsPerGroup) plane.bytesPerGroup
  let step := max align.toNat 1
  let padded ← product64? (ceilDiv tight step) step
  word32? padded

/-- Rows of the plane for an image of the given height. -/
def rows (plane : PlaneGeometry) (height : UInt32) : UInt32 :=
  UInt32.ofNat (ceilDiv height.toNat plane.verticalSubsampling)

/-- Bytes of the plane when its rows are `stride` bytes apart. -/
def bytes (plane : PlaneGeometry) (height stride : UInt32) : UInt64 :=
  stride.toUInt64 * (plane.rows height).toUInt64

/-- Bytes of the plane with rows that are not padded. -/
def tightBytes? (plane : PlaneGeometry) (pixelsPerGroup : Nat) (size : Size) : Option UInt64 :=
  (plane.rowBytes? pixelsPerGroup size.width 1).map (plane.bytes size.height)

/-- The shape of a plane geometry in diagnostics. -/
def description (plane : PlaneGeometry) : String :=
  Text.record "PlaneInfo" [("bytes_per_group", toString plane.bytesPerGroup),
    ("vertical_sub_sampling", toString plane.verticalSubsampling)]

end PlaneGeometry

namespace FormatGeometry

/-- Number of planes. -/
def planeCount (geometry : FormatGeometry) : Nat :=
  geometry.planes.length

/-- Bytes of one row of a plane, if the format has the plane and they fit 32 bits. -/
def rowBytes? (geometry : FormatGeometry) (width : UInt32) (plane : Nat) (align : UInt32) :
    Option UInt32 := do
  let plane ← geometry.planes[plane]?
  plane.rowBytes? geometry.pixelsPerGroup width align

/-- Rows of a plane; a plane that the format does not have has none. -/
def rows (geometry : FormatGeometry) (height : UInt32) (plane : Nat) : UInt32 :=
  match geometry.planes[plane]? with
  | some plane => plane.rows height
  | none => 0

/-- Bytes of a plane when its rows are `stride` bytes apart. -/
def planeBytes (geometry : FormatGeometry) (height : UInt32) (plane : Nat) (stride : UInt32) :
    UInt64 :=
  stride.toUInt64 * (geometry.rows height plane).toUInt64

/-- Bytes of a plane with rows that are not padded. -/
def tightBytes? (geometry : FormatGeometry) (size : Size) (plane : Nat) : Option UInt64 := do
  let plane ← geometry.planes[plane]?
  plane.tightBytes? geometry.pixelsPerGroup size

/-- Bytes of all planes with rows that are not padded. -/
def frameBytes? (geometry : FormatGeometry) (size : Size) : Option UInt64 :=
  geometry.planes.foldlM
    (fun total plane => do
      let bytes ← plane.tightBytes? geometry.pixelsPerGroup size
      word64? (total.toNat + bytes.toNat))
    0

/-- The shape of a format code in diagnostics. -/
def codeDescription (format : FourCC) : String :=
  Text.tagged "PixelFormat" (Text.sequence (format.bytes.map fun byte => toString byte.toNat))

/-- The shape of a format geometry in diagnostics. -/
def description (geometry : FormatGeometry) : String :=
  Text.record "FormatInfo" [("name", "\"" ++ geometry.name ++ "\""),
    ("format", codeDescription geometry.format),
    ("pixels_per_group", toString geometry.pixelsPerGroup),
    ("planes", Text.sequence (geometry.planes.map PlaneGeometry.description))]

end FormatGeometry

end PixelBuffer
