import PixelBuffer.Platform

/-!
# Buffer handles

A platform service hands out a buffer as a `Handle`: descriptors that the handle owns, and integers
whose meaning belongs to the service. An `Offer` describes a handle that is still to be opened.
-/

namespace PixelBuffer

/-- Descriptors and integers that stand for one buffer. -/
structure Handle where
  descriptors : List Descriptor
  ints : List Int32
deriving DecidableEq

/-- A handle to be: where its descriptors come from, and its integers. -/
structure Offer where
  sources : List Source
  ints : List Int32

namespace Handle

/-- The shape of a handle in diagnostics, with descriptors shown by `showDescriptor`. -/
def description (showDescriptor : Descriptor → String) (handle : Handle) : String :=
  Text.record "NativeHandle"
    [("fds", Text.sequence (handle.descriptors.map showDescriptor)),
      ("num_ints", toString handle.ints.length)]

end Handle

namespace Platform

/-- Opens the descriptors of an offer. -/
def accept (platform : Platform) (offer : Offer) : Handle × Platform :=
  let (descriptors, platform) := platform.openSources offer.sources
  (⟨descriptors, offer.ints⟩, platform)

/-- Closes every descriptor of a handle. -/
def closeHandle (platform : Platform) (handle : Handle) : Platform :=
  handle.descriptors.foldl close platform

end Platform

end PixelBuffer
