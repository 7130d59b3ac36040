import PixelBuffer.FourCC
import PixelBuffer.Handle
import PixelBuffer.Size
import PixelBuffer.Usage

/-!
# Log events

Everything the library reports while it works is an `Event`. Its severity, the component that
reports it and its wording follow from what happened.
-/

namespace PixelBuffer

/-- Severities, least first. -/
inductive Level where
  | debug
  | info
  | warn
  | error
deriving DecidableEq

/-- The part of the system that reports an event. -/
inductive Component where
  | probe
  | allocator
  | buffer
  | service
  /-- The driver of the memory heaps, which is no part of this library. -/
  | heapDriver
deriving DecidableEq

/-- A heap of memory that devices can share. -/
inductive HeapKind where
  /-- Contiguous memory. -/
  | cma
  | system
deriving DecidableEq

/-- Something that happened. -/
inductive Event where
  /-- The probe starts to allocate. -/
  | probing (count : Nat) (size : Size) (formatName memoryName : String)
  /-- The probe is about to let its buffers go. -/
  | releasing (count : Nat)
  /-- A buffer is requested from the service. -/
  | requesting (code : Int32) (size : Size) (usage : Usage)
  /-- The service refused the request. -/
  | refused (status : Status)
  /-- The service granted the request without a handle. -/
  | noHandle
  /-- The service granted a handle without descriptors. -/
  | noDescriptors (handle : Handle)
  /-- The service did not take back a handle without descriptors. -/
  | unusableNotFreed (status : Status)
  /-- A handle goes back to the service. -/
  | freeing (handle : Handle)
  /-- The service took back the handle of a buffer. -/
  | freed
  /-- The service did not take back the handle of a buffer. -/
  | notFreed (status : Status)
  /-- What a handle says about its buffer. -/
  | reported (id width height : UInt32) (planeCount : Nat)
  /-- What a handle says about one plane. -/
  | reportedPlane (index : Nat) (size offset stride : UInt32)
  /-- A handle says nothing about its planes. -/
  | unreported
  /-- The memory behind a descriptor was measured. -/
  | measured (descriptor : Descriptor) (bytes : UInt64)
  /-- A plane was found. -/
  | found (index : Nat) (descriptor? : Option Descriptor) (offset length : UInt64)
  /-- A request is not acceptable as such. -/
  | badRequest (width height layers : UInt32)
  /-- A request names an unknown device code. -/
  | unknownCode (code : Int32)
  /-- A request names a format without a known layout. -/
  | unknownLayout (format : FourCC)
  /-- The planes of a request do not fit one buffer. -/
  | tooLarge (width height : UInt32) (format : FourCC)
  /-- Memory was reserved for a request. -/
  | reserved (id width height : UInt32) (format : FourCC) (bytes : UInt64) (requestor : String)
  /-- A memory file could not be created. -/
  | noMemoryFile (bytes : UInt64) (fault : IoFault)
  /-- A heap is about to be opened. -/
  | openingHeap (heap : HeapKind)
  /-- A heap could not be opened. -/
  | noHeap (heap : HeapKind) (fault : IoFault)
  /-- A heap gave no memory. -/
  | noHeapMemory (heap : HeapKind) (bytes : UInt64) (fault : IoFault)
  /-- A service closes a handle. -/
  | closing (handle : Handle)

namespace Level

/-- The rank of a severity. -/
def rank : Level → Nat
  | .debug => 0
  | .info => 1
  | .warn => 2
  | .error => 3

/-- The word for a severity. -/
def text : Level → String
  | .debug => "DEBUG"
  | .info => "INFO"
  | .warn => "WARN"
  | .error => "ERROR"

end Level

namespace Component

/-- The name under which a component reports. -/
def text : Component → String
  | .probe => "framebuffer_probe"
  | .allocator => "edgefirst_framebuffer::allocator"
  | .buffer => "edgefirst_framebuffer::buffer"
  | .service => "edgefirst_framebuffer::service"
  | .heapDriver => "dma_heap"

end Component

namespace HeapKind

/-- The name of a heap. -/
def text : HeapKind → String
  | .cma => "Cma"
  | .system => "System"

/-- The name that the driver gives a heap. -/
def driverName : HeapKind → String
  | .cma => "CMA"
  | .system => "System"

/-- The device of a heap. -/
def device : HeapKind → String
  | .cma => "/dev/dma_heap/linux,cma"
  | .system => "/dev/dma_heap/system"

end HeapKind

namespace Event

/-- The severity of an event: refusals by a service are warnings, failures of the allocator
errors. -/
def level : Event → Level
  | .probing .. | .releasing _ => .info
  | .refused _ | .noHandle | .noDescriptors _ | .unusableNotFreed _ | .notFreed _ => .error
  | .badRequest .. | .unknownCode _ | .unknownLayout _ | .tooLarge .. | .noMemoryFile ..
  | .noHeap .. | .noHeapMemory .. => .warn
  | .requesting .. | .freeing _ | .freed | .reported .. | .reportedPlane .. | .unreported
  | .measured .. | .found .. | .reserved .. | .openingHeap _ | .closing _ => .debug

/-- The component that reports an event. -/
def component : Event → Component
  | .probing .. | .releasing _ => .probe
  | .requesting .. | .refused _ | .noHandle | .noDescriptors _ | .unusableNotFreed _
  | .freeing _ => .allocator
  | .freed | .notFreed _ | .reported .. | .reportedPlane .. | .unreported | .measured ..
  | .found .. => .buffer
  | .badRequest .. | .unknownCode _ | .unknownLayout _ | .tooLarge .. | .reserved ..
  | .noMemoryFile .. | .noHeap .. | .noHeapMemory .. | .closing _ => .service
  | .openingHeap _ => .heapDriver

/-- The wording of an event, with descriptors shown by `showDescriptor`. -/
def message (showDescriptor : Descriptor → String) : Event → String
  | .probing count size formatName memoryName =>
      "allocating " ++ toString count ++ " " ++ size.text ++ " " ++ formatName ++
        " buffers from " ++ memoryName
  | .releasing count => "releasing " ++ toString count ++ " buffers"
  | .requesting code size usage =>
      "allocate: pixelFormat=" ++ Text.hex code.toUInt32.toNat ++ " size=" ++ size.text ++
        " usage=" ++ usage.text
  | .refused status => "failed buffer allocation: " ++ status.message
  | .noHandle => "invalid buffer handle"
  | .noDescriptors handle =>
      "invalid buffer handle without descriptors: " ++ handle.description showDescriptor
  | .unusableNotFreed status | .notFreed status => (Failure.freeFailed status).message
  | .freeing handle => "free: " ++ handle.description showDescriptor
  | .freed => "frame buffer freed"
  | .reported id width height planeCount =>
      "id=" ++ toString id ++ " width=" ++ toString width ++ " height=" ++ toString height ++
        " numPlanes=" ++ toString planeCount
  | .reportedPlane index size offset stride =>
      "plane data index=" ++ toString index ++ " size=" ++ toString size ++ " offset=" ++
        toString offset ++ " stride=" ++ toString stride
  | .unreported => "handle has no vendor metadata, assuming consecutive planes"
  | .measured descriptor bytes =>
      "fd info fd=" ++ showDescriptor descriptor ++ " len=" ++ toString bytes
  | .found index descriptor? offset length =>
      "planeInfo i=" ++ toString index ++ " fd=" ++ (descriptor?.map showDescriptor).getD "-1" ++
        " offset=" ++ toString offset ++ " size=" ++ toString length
  | .badRequest width height layers =>
      "rejecting request " ++ toString width ++ "x" ++ toString height ++ " layers=" ++
        toString layers
  | .unknownCode code => "unknown format code " ++ Text.hex code.toUInt32.toNat
  | .unknownLayout format => "no layout for format " ++ format.text
  | .tooLarge width height format =>
      toString width ++ "x" ++ toString height ++ " " ++ format.text ++
        " does not fit in one buffer"
  | .reserved id width height format bytes requestor =>
      "allocated id=" ++ toString id ++ " " ++ toString width ++ "x" ++ toString height ++ " " ++
        format.text ++ " len=" ++ toString bytes ++ " for " ++ requestor
  | .noMemoryFile bytes fault =>
      "memfd allocation of " ++ toString bytes ++ " bytes failed: " ++ fault.message
  | .openingHeap heap =>
      "Using the " ++ heap.driverName ++ " DMA-Buf Heap, at " ++ heap.device
  | .noHeap heap fault => "failed to open " ++ heap.text ++ " heap: " ++ fault.description
  | .noHeapMemory heap bytes fault =>
      heap.text ++ " heap allocation of " ++ toString bytes ++ " bytes failed: " ++
        fault.description
  | .closing handle => "releasing " ++ handle.description showDescriptor

/-- Severity and wording of an event. -/
def line (showDescriptor : Descriptor → String) (event : Event) : String :=
  event.level.text ++ " " ++ event.message showDescriptor

/-- Severity, component and wording of an event. -/
def fullLine (showDescriptor : Descriptor → String) (event : Event) : String :=
  event.level.text ++ " " ++ event.component.text ++ ": " ++ event.message showDescriptor

end Event

end PixelBuffer
