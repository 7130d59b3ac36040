import PixelBuffer.Buffer
import PixelBuffer.Client
import PixelBuffer.Resolver

/-!
# The allocator

An `Allocator` requests buffers from a service and finds their planes. Nothing invalid reaches the
service: the size, the code and the bytes of the frame are checked first. A handle that the service
granted goes back to it exactly once, at once when no buffer comes of it, and otherwise when the
buffer is dropped; a service that does not take it back is logged and changes nothing else.
-/

namespace PixelBuffer

/-- A service, and the meaning of the device codes that buffers are asked for with. -/
structure Allocator (σ : Type) where
  service : Service σ
  resolver : Resolver := .standard

/-- The name that the allocator gives the service. -/
def requestor : String := "edgefirst-framebuffer"

namespace Allocator

variable {σ : Type}

open Client (inWorld)

/-- Gives the handle of a buffer back. -/
def returnHandle (allocator : Allocator σ) (handle : Handle) : StateM (Client σ) Unit := do
  inWorld (Act.log (.freeing handle))
  match ← Client.free allocator.service handle with
  | .ok () => inWorld (Act.log .freed)
  | .error status => inWorld (Act.log (.notFreed status))

/-- Gives back a handle without descriptors. -/
def rejectHandle (allocator : Allocator σ) (handle : Handle) : StateM (Client σ) Unit := do
  inWorld (Act.log (.noDescriptors handle))
  match ← Client.free allocator.service handle with
  | .ok () => pure ()
  | .error status => inWorld (Act.log (.unusableNotFreed status))

/-- Drops a buffer: its planes first, then its handle. -/
def drop (allocator : Allocator σ) (buffer : Buffer) : StateM (Client σ) Unit := do
  inWorld (Act.changePlatform (·.releasePlanes buffer.planes))
  allocator.returnHandle buffer.handle

/-- The request for one layer of the given format, size and usage. -/
def request (code : Int32) (size : Size) (usage : Usage) : Request where
  width := size.width
  height := size.height
  format := code
  layers := 1
  usage := usage
  requestor := requestor

/-- Requests a handle with descriptors, and the pixels between its rows. -/
def requestHandle (allocator : Allocator σ) (code : Int32) (size : Size) (usage : Usage) :
    StateM (Client σ) (Except Failure (Handle × UInt32)) := do
  inWorld (Act.log (.requesting code size usage))
  match ← Client.request allocator.service (request code size usage) with
  | .error status =>
      inWorld (Act.log (.refused status))
      pure (.error (.allocationFailed status))
  | .ok (none, _) =>
      inWorld (Act.log .noHandle)
      pure (.error .invalidHandle)
  | .ok (some handle, stride) =>
      if handle.descriptors.isEmpty then
        allocator.rejectHandle handle
        pure (.error .invalidHandle)
      else pure (.ok (handle, stride))

/-- What a code stands for, provided a frame of the given size can be described at all. -/
def check (allocator : Allocator σ) (code : Int32) (size : Size) : Except Failure Resolved :=
  if size.isEmpty then .error size.invalid
  else
    match allocator.resolver.resolve code with
    | .error failure => .error failure
    | .ok resolved =>
        match resolved.geometry.frameBytes? size with
        | none => .error size.invalid
        | some _ => .ok resolved

/-- Allocates a buffer and finds its planes. -/
def allocate (allocator : Allocator σ) (code : Int32) (size : Size) (usage : Usage) :
    StateM (Client σ) (Except Failure Buffer) := do
  match allocator.check code size with
  | .error failure => pure (.error failure)
  | .ok resolved =>
      match ← allocator.requestHandle code size usage with
      | .error failure => pure (.error failure)
      | .ok (handle, stride) =>
          match ← inWorld (handle.findPlanes resolved.geometry size) with
          | .error failure =>
              allocator.returnHandle handle
              pure (.error failure)
          | .ok planes =>
              pure (.ok ⟨planes, handle, resolved.format, resolved.geometry, size, stride, usage⟩)

end Allocator

end PixelBuffer
