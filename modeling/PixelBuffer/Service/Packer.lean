import PixelBuffer.Handle.Vendor
import PixelBuffer.Resolver
import PixelBuffer.Service

/-!
# Services that pack planes into one buffer

A `Packer` checks a request, packs the planes of its format, has the memory reserved and describes
the planes in a vendor block. Buffers are numbered from one; only a request that succeeds takes a
number. The memory comes from anonymous files (`memoryService`) or from a heap device
(`HeapDevices.service`); this platform has no heap devices, so that `heapService` reserves nothing.

Reserving memory is the one thing in which a packer depends on others. `Packer.allocateWith` leaves
open in which monad it happens, and a service performs it as a function of the number of bytes.
-/

namespace PixelBuffer

/-- What becomes of an attempt to reserve a number of bytes, and what is reported about it. -/
abbrev Reserver := UInt64 → Except Status FileLength × List Event

/-- The state of a service that packs planes. -/
structure Packer where
  resolver : Resolver := .standard
  /-- Rows begin at multiples of this many bytes. -/
  align : UInt32 := 64
  /-- The number of the next buffer. -/
  nextId : UInt32 := 1

namespace Packer

/-- A packer whose rows begin at multiples of `align` bytes, where zero counts as one. -/
def withAlign (packer : Packer) (align : UInt32) : Packer :=
  { packer with align := if align = 0 then 1 else align }

/-- Finds the format and packs the planes of a request, or says why it is refused. -/
def prepare (packer : Packer) (request : Request) :
    Except (Status × List Event) (FourCC × PackedLayout) :=
  if request.width = 0 ∨ request.height = 0 ∨ request.layers ≠ 1 then
    .error (.badValue, [.badRequest request.width request.height request.layers])
  else
    match packer.resolver.format? request.format with
    | none => .error (.badValue, [.unknownCode request.format])
    | some format =>
        match FormatGeometry.ofFormat? format with
        | none => .error (.badValue, [.unknownLayout format])
        | some geometry =>
            if vendorSlots < geometry.planeCount then .error (.badValue, [])
            else
              match geometry.pack? request.width request.height packer.align with
              | none => .error (.noMemory, [.tooLarge request.width request.height format])
              | some layout => .ok (format, layout)

/-- The block that describes a packed buffer. -/
def block (packer : Packer) (request : Request) (format : FourCC) (layout : PackedLayout) :
    VendorBlock where
  id := packer.nextId
  width := request.width
  height := request.height
  format := format
  planes := layout.planes

/-- The answer to a request whose planes are packed, by what became of the reservation. -/
def settle (packer : Packer) (request : Request) (format : FourCC) (layout : PackedLayout) :
    Except Status FileLength × List Event → Except Status Grant × Packer × List Event
  | (.error status, events) => (.error status, packer, events)
  | (.ok length, events) =>
      let block := packer.block request format layout
      (.ok ⟨some ⟨[.memory length 0], block.encode⟩, layout.pixelStride⟩,
        { packer with nextId := packer.nextId + 1 },
        events ++ [.reserved packer.nextId request.width request.height format layout.total
          request.requestor])

/-- Answers a request, where `reserve` attempts to reserve a number of bytes of memory. -/
def allocateWith {m : Type → Type} [Monad m]
    (reserve : UInt64 → m (Except Status FileLength × List Event)) (request : Request)
    (packer : Packer) : m (Except Status Grant × Packer × List Event) :=
  match packer.prepare request with
  | .error (status, events) => pure (.error status, packer, events)
  | .ok (format, layout) => do
      let reservation ← reserve layout.total
      pure (packer.settle request format layout reservation)

/-- Answers a request, where `reserve` says what becomes of an attempt to reserve a number of
bytes. -/
def allocate (reserve : Reserver) (request : Request) (packer : Packer) :
    Except Status Grant × Packer × List Event :=
  Id.run (packer.allocateWith (fun bytes => pure (reserve bytes)) request)

/-- Takes a handle back, which always succeeds. -/
def free (handle : Handle) (packer : Packer) : Except Status Unit × Packer × List Event :=
  (.ok (), packer, [.closing handle])

end Packer

/-- The service that packs planes into memory that `reserve` reserves for a request. -/
def packingService (reserve : Request → Reserver) : Service Packer where
  allocate request := Packer.allocate (reserve request) request
  free := Packer.free

/-! ## Anonymous memory -/

/-- Reserves memory as an anonymous file with the name of the requestor. -/
def reserveMemory (name : String) : Reserver := fun bytes =>
  match Platform.memoryLength name bytes.toNat with
  | .ok length => (.ok length, [])
  | .error fault => (.error (.ofIoFault fault), [.noMemoryFile bytes fault])

/-- The service of buffers in anonymous memory. -/
def memoryService : Service Packer :=
  packingService fun request => reserveMemory request.requestor

/-! ## Heaps -/

/-- The heap devices of a machine, by what their driver answers. -/
structure HeapDevices where
  /-- Whether a heap can be opened. -/
  opens : HeapKind → Except IoFault Unit
  /-- The memory that an opened heap gives for a number of bytes. -/
  memory : HeapKind → UInt64 → Except IoFault FileLength

namespace HeapDevices

/-- Reserves memory from a heap device, which is opened for it. -/
def reserve (devices : HeapDevices) (heap : HeapKind) : Reserver := fun bytes =>
  match devices.opens heap with
  | .error fault => (.error .notReady, [.openingHeap heap, .noHeap heap fault])
  | .ok () =>
      match devices.memory heap bytes with
      | .error fault => (.error .noMemory, [.openingHeap heap, .noHeapMemory heap bytes fault])
      | .ok length => (.ok length, [.openingHeap heap])

/-- The service of buffers in a heap. -/
def service (devices : HeapDevices) (heap : HeapKind) : Service Packer :=
  packingService fun _ => devices.reserve heap

/-- No heap devices. -/
def absent : HeapDevices where
  opens _ := .error (.system Errno.noSuchFile)
  memory _ _ := .error (.system Errno.noSuchFile)

end HeapDevices

/-- The service of buffers in a heap of this platform, which has no heap devices. -/
def heapService (heap : HeapKind) : Service Packer :=
  HeapDevices.absent.service heap

end PixelBuffer
