import PixelBuffer.World

/-!
# Planes of a buffer

A plane is a run of bytes in the file behind a shared descriptor.
-/

namespace PixelBuffer

/-- A run of bytes in the file behind a share. -/
structure Plane where
  share : Share
  offset : UInt64
  length : UInt64
deriving DecidableEq

namespace Plane

/-- The byte after the last one. -/
def stop (plane : Plane) : UInt64 :=
  plane.offset + plane.length

/-- Offset and length joined by a plus sign. -/
def extent (plane : Plane) : String :=
  toString plane.offset ++ "+" ++ toString plane.length

/-- The descriptor of a plane as shown by `showDescriptor`. -/
def descriptorText (platform : Platform) (showDescriptor : Descriptor → String) (plane : Plane) :
    String :=
  ((platform.descriptorOf? plane.share).map showDescriptor).getD "-1"

/-- The shape of a plane in diagnostics. -/
def description (platform : Platform) (showDescriptor : Descriptor → String) (plane : Plane) :
    String :=
  Text.record "Plane"
    [("fd", Text.tagged "SharedFd"
        (Text.record "OwnedFd" [("fd", plane.descriptorText platform showDescriptor)])),
      ("offset", toString plane.offset), ("length", toString plane.length)]

end Plane

namespace Platform

/-- Lets go of the shares of planes, in order. -/
def releasePlanes (platform : Platform) (planes : List Plane) : Platform :=
  planes.foldl (fun platform plane => platform.release plane.share) platform

/-- Adds an owner to the shares of planes, in order. -/
def retainPlanes (platform : Platform) (planes : List Plane) : Platform :=
  planes.foldl (fun platform plane => platform.retain plane.share) platform

end Platform

end PixelBuffer
