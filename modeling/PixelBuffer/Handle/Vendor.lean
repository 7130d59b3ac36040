import PixelBuffer.Handle
import PixelBuffer.Packing

/-!
# The vendor block

A service may describe the planes of a buffer in the first 18 integers of its handle: a mark, an
identifier, width, height, format, the number of planes, and then three columns of four slots for
the strides, offsets and sizes. Every field is a 32-bit word stored as a signed integer.

`VendorBlock.encode` writes such a block. `Handle.vendor?` reads one back as a `VendorReport`, which
may report any number of planes; only the first four can have a slot.
-/

namespace PixelBuffer

/-- The first integer of a block that describes planes. -/
def vendorMark : Int32 := 0x45464742

/-- Planes that a block has slots for. -/
def vendorSlots : Nat := 4

/-- What a service writes about a buffer. -/
structure VendorBlock where
  id : UInt32
  width : UInt32
  height : UInt32
  format : FourCC
  planes : List PlaneRecord
deriving DecidableEq

/-- What a handle says about its buffer. -/
structure VendorReport where
  id : UInt32
  width : UInt32
  height : UInt32
  format : FourCC
  planeCount : UInt32
  slots : List PlaneRecord
deriving DecidableEq

namespace PlaneRecord

/-- The shape of a plane record in diagnostics. -/
def description (record : PlaneRecord) : String :=
  Text.record "VendorPlane" [("stride", toString record.stride),
    ("offset", toString record.offset), ("size", toString record.size)]

end PlaneRecord

namespace VendorBlock

/-- The record in a slot; a slot beyond the given planes holds zeros. -/
def slot (block : VendorBlock) (index : Nat) : PlaneRecord :=
  block.planes.getD index ⟨0, 0, 0⟩

/-- The integers of a block. The number of planes is written as it is, also when there are more
planes than slots. -/
def encode (block : VendorBlock) : List Int32 :=
  [ vendorMark, block.id.toInt32, block.width.toInt32, block.height.toInt32,
    block.format.toCode.toInt32, (UInt32.ofNat block.planes.length).toInt32,
    (block.slot 0).stride.toInt32, (block.slot 1).stride.toInt32,
    (block.slot 2).stride.toInt32, (block.slot 3).stride.toInt32,
    (block.slot 0).offset.toInt32, (block.slot 1).offset.toInt32,
    (block.slot 2).offset.toInt32, (block.slot 3).offset.toInt32,
    (block.slot 0).size.toInt32, (block.slot 1).size.toInt32,
    (block.slot 2).size.toInt32, (block.slot 3).size.toInt32 ]

/-- The shape of a block in diagnostics. -/
def description (block : VendorBlock) : String :=
  Text.record "VendorMetadata" [("id", toString block.id), ("width", toString block.width),
    ("height", toString block.height),
    ("format", FormatGeometry.codeDescription block.format),
    ("planes", Text.sequence (block.planes.map PlaneRecord.description))]

end VendorBlock

namespace VendorReport

/-- Reads a block from the front of a list of integers. -/
def ofInts? : List Int32 → Option VendorReport
  | mark :: id :: width :: height :: format :: count ::
      stride0 :: stride1 :: stride2 :: stride3 ::
      offset0 :: offset1 :: offset2 :: offset3 ::
      size0 :: size1 :: size2 :: size3 :: _ =>
      if mark = vendorMark then
        some
          { id := id.toUInt32
            width := width.toUInt32
            height := height.toUInt32
            format := FourCC.ofCode format.toUInt32
            planeCount := count.toUInt32
            slots :=
              [ ⟨stride0.toUInt32, offset0.toUInt32, size0.toUInt32⟩,
                ⟨stride1.toUInt32, offset1.toUInt32, size1.toUInt32⟩,
                ⟨stride2.toUInt32, offset2.toUInt32, size2.toUInt32⟩,
                ⟨stride3.toUInt32, offset3.toUInt32, size3.toUInt32⟩ ] }
      else none
  | _ => none

/-- The record of a plane that is reported and has a slot. -/
def plane? (report : VendorReport) (index : Nat) : Option PlaneRecord :=
  if index < min report.planeCount.toNat vendorSlots then report.slots[index]? else none

end VendorReport

namespace Handle

/-- What a handle says about its buffer, if it carries a block. -/
def vendor? (handle : Handle) : Option VendorReport :=
  VendorReport.ofInts? handle.ints

/-- The descriptor of a reported plane: the only one, when the handle has one, and otherwise the one
at the index of the plane. -/
def planeDescriptor? (handle : Handle) (report : VendorReport) (index : Nat) : Option Descriptor :=
  if index < report.planeCount.toNat then
    match handle.descriptors with
    | [descriptor] => some descriptor
    | descriptors => descriptors[index]?
  else none

end Handle

end PixelBuffer
