import PixelBuffer.Plane.Layout

/-!
# Buffers

A buffer is a handle together with the planes found in it. It answers for its handle: the handle
goes back to the service when the buffer is dropped.
-/

namespace PixelBuffer

/-- A handle and its planes. -/
structure Buffer where
  planes : List Plane
  handle : Handle
  format : FourCC
  geometry : FormatGeometry
  size : Size
  /-- Pixels between the rows of the first plane, as the service chose. -/
  stride : UInt32
  usage : Usage
deriving DecidableEq

namespace Buffer

/-- The number that the service gave the buffer, if its handle carries one. -/
def id? (buffer : Buffer) : Option UInt32 :=
  buffer.handle.vendor?.map VendorReport.id

/-- Bytes of all planes. -/
def totalLength (buffer : Buffer) : UInt64 :=
  (buffer.planes.map Plane.length).foldl (· + ·) 0

/-- A new descriptor for the file of a plane. -/
def duplicatePlane (buffer : Buffer) (plane : Nat) : Act (Except IoFault Descriptor) :=
  match buffer.planes[plane]? with
  | none => pure (.error (.noSuchPlane buffer.planes.length))
  | some plane => Act.onPlatform (·.duplicateShare plane.share)

/-- Size, format, stride and the planes of a buffer on one line. -/
def text (platform : Platform) (showDescriptor : Descriptor → String) (buffer : Buffer) : String :=
  let planes := buffer.planes.map fun plane =>
    " [fd:" ++ plane.descriptorText platform showDescriptor ++ " " ++ plane.extent ++ "]"
  buffer.size.text ++ " " ++ buffer.format.text ++ " stride:" ++ toString buffer.stride ++
    String.join planes

/-- The shape of a buffer in diagnostics. -/
def description (platform : Platform) (showDescriptor : Descriptor → String) (buffer : Buffer) :
    String :=
  Text.record "PortableBuffer"
    [("planes", Text.sequence (buffer.planes.map (Plane.description platform showDescriptor))),
      ("guard", Text.record "HandleGuard"
        [("handle", buffer.handle.description showDescriptor)]),
      ("format", FormatGeometry.codeDescription buffer.format),
      ("info", buffer.geometry.description),
      ("size", buffer.size.description),
      ("stride", toString buffer.stride),
      ("usage", buffer.usage.description)]

end Buffer

end PixelBuffer
