import PixelBuffer.Handle
import PixelBuffer.Event

/-!
# Allocation services

A service reserves the memory of buffers. It answers a request with a status or a grant, and takes
handles back; it keeps a state of its own and reports events. A grant only describes its handle: the
descriptors are opened by whoever asked, and closed by them once the service took the handle back.
-/

namespace PixelBuffer

/-- What is asked of a service. -/
structure Request where
  width : UInt32
  height : UInt32
  /-- The device code of the pixel format. -/
  format : Int32
  layers : UInt32
  usage : Usage
  /-- Who asks. -/
  requestor : String
deriving DecidableEq

/-- What a service grants. A grant without a handle breaks the service's contract. -/
structure Grant where
  handle? : Option Offer
  /-- Pixels between the rows of the first plane. -/
  stride : UInt32

/-- A service with states in `σ`. -/
structure Service (σ : Type) where
  /-- Answers a request. -/
  allocate : Request → σ → Except Status Grant × σ × List Event
  /-- Takes a handle back. -/
  free : Handle → σ → Except Status Unit × σ × List Event

end PixelBuffer
