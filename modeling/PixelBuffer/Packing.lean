import PixelBuffer.Geometry

/-!
# Packing planes into one buffer

`FormatGeometry.pack?` places the planes of a format one after another from byte zero, with rows
padded to an alignment, and rounds the whole up to pages. There is no layout when a stride, an
offset, a plane or the total does not fit 32 bits.
-/

namespace PixelBuffer

/-- Bytes in a page of memory. -/
def pageBytes : Nat := 4096

/-- Bytes in the pages that hold a number of bytes. The pages are counted exactly and multiplied in
64 bits, where the product may wrap. -/
def pagedBytes (bytes : UInt64) : UInt64 :=
  UInt64.ofNat (ceilDiv bytes.toNat pageBytes) * UInt64.ofNat pageBytes

/-- Where a plane lies: bytes between its rows, its first byte and its number of bytes. -/
structure PlaneRecord where
  stride : UInt32
  offset : UInt32
  size : UInt32
deriving DecidableEq, Inhabited

/-- The planes of an image placed in one buffer. -/
structure PackedLayout where
  planes : List PlaneRecord
  /-- Pixels between the rows of the first plane. -/
  pixelStride : UInt32
  /-- Bytes to reserve, a whole number of pages. -/
  total : UInt64
deriving DecidableEq

/-- The planes placed one after another from `start`, and the byte where the last one ends. -/
def placePlanes? (pixelsPerGroup : Nat) (width height align : UInt32) :
    List PlaneGeometry → UInt64 → Option (List PlaneRecord × UInt64)
  | [], start => some ([], start)
  | plane :: rest, start => do
      let stride ← plane.rowBytes? pixelsPerGroup width align
      let bytes := plane.bytes height stride
      let offset ← word32? start.toNat
      let size ← word32? bytes.toNat
      let next ← word64? (start.toNat + bytes.toNat)
      let (records, stop) ← placePlanes? pixelsPerGroup width height align rest next
      pure (⟨stride, offset, size⟩ :: records, stop)

namespace FormatGeometry

/-- Whole pixels between rows that are `stride` bytes apart in the first plane. -/
def pixelsInStride (geometry : FormatGeometry) (records : List PlaneRecord) : Nat :=
  match records, geometry.planes with
  | record :: _, plane :: _ =>
      record.stride.toNat * geometry.pixelsPerGroup / plane.bytesPerGroup
  | _, _ => 0

/-- The planes of an image placed one after another, with rows padded to `align` bytes. -/
def pack? (geometry : FormatGeometry) (width height align : UInt32) : Option PackedLayout := do
  let (records, stop) ← placePlanes? geometry.pixelsPerGroup width height align geometry.planes 0
  let total := pagedBytes stop
  if total.toNat < UInt32.size then
    let pixelStride ← word32? (geometry.pixelsInStride records)
    pure ⟨records, pixelStride, total⟩
  else none

end FormatGeometry

end PixelBuffer
