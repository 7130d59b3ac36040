import PixelBuffer.Allocator
import PixelBuffer.Proofs.Packing
import PixelBuffer.Proofs.Resolver
import PixelBuffer.Service.Packer

/-!
# Answers of a service that packs planes

A packing service refuses a request and stays as it was, or grants a handle and takes one number
(`Packer.allocate_cases`). For a request of an allocator with sides that are not zero, the service
of anonymous memory decides by the resolved code and the packing of its planes alone. A heap of this
platform refuses every request (`heapService_refuses`).
-/

namespace PixelBuffer

namespace Packer

variable {packer : Packer} {code : Int32} {size : Size} (usage : Usage) {resolved : Resolved}

/-- A request for a code that the service does not resolve is refused as a bad value. -/
theorem prepare_unresolved {failure : Failure} (hwidth : size.width ≠ 0) (hheight : size.height ≠ 0)
    (hresolve : packer.resolver.resolve code = .error failure) :
    ∃ events, packer.prepare (Allocator.request code size usage) = .error (.badValue, events) := by
  have hunknown := (Resolver.resolve_eq_error hresolve).2
  unfold prepare Allocator.request
  rw [if_neg (by simp [hwidth, hheight])]
  cases hformat : packer.resolver.format? code with
  | none => exact ⟨_, rfl⟩
  | some format =>
      simp only [hunknown format hformat]
      exact ⟨_, rfl⟩

/-- A request for a code that the service resolves is packed, if its planes can be. -/
theorem prepare_resolved (hwidth : size.width ≠ 0) (hheight : size.height ≠ 0)
    (hresolve : packer.resolver.resolve code = .ok resolved) :
    packer.prepare (Allocator.request code size usage) =
      match resolved.geometry.pack? size.width size.height packer.align with
      | none => .error (.noMemory, [.tooLarge size.width size.height resolved.format])
      | some layout => .ok (resolved.format, layout) := by
  obtain ⟨hformat, hgeometry⟩ := Resolver.resolve_eq_ok_iff.mp hresolve
  have hfew := (FormatGeometry.planeCount_of_ofFormat? hgeometry).2
  have hslots : ¬ vendorSlots < resolved.geometry.planeCount := by
    unfold vendorSlots
    omega
  unfold prepare Allocator.request
  rw [if_neg (by simp [hwidth, hheight])]
  cases hpack : resolved.geometry.pack? size.width size.height packer.align with
  | none => simp only [hformat, hgeometry, if_neg hslots, hpack]
  | some layout => simp only [hformat, hgeometry, if_neg hslots, hpack]

end Packer

/-- Memory can be reserved under the name of the allocator, up to the length of a file. -/
theorem reserveMemory_requestor {bytes : UInt64} (h : bytes.toNat < 0x8000000000000000) :
    reserveMemory requestor bytes = (.ok ⟨bytes.toNat, h⟩, []) := by
  have hname : ¬ requestor.toList.contains '\x00' = true := by decide
  have hshort : ¬ Platform.maxNameBytes < requestor.utf8ByteSize := by decide
  unfold reserveMemory Platform.memoryLength
  rw [if_neg hname, if_neg hshort, dif_pos h]

namespace Packer

variable {packer : Packer} {code : Int32} {size : Size} (usage : Usage) {resolved : Resolved}

/-- The offer of a packed layout in memory of its length. -/
def offer (packer : Packer) (request : Request) (format : FourCC) (layout : PackedLayout)
    (length : FileLength) : Offer :=
  ⟨[.memory length 0], (packer.block request format layout).encode⟩

/-- A request is answered by what its preparation comes to, and then by what becomes of the
reservation. -/
theorem allocate_eq (reserve : Reserver) (request : Request) (packer : Packer) :
    allocate reserve request packer =
      match packer.prepare request with
      | .error (status, events) => (.error status, packer, events)
      | .ok (format, layout) => packer.settle request format layout (reserve layout.total) := by
  unfold allocate allocateWith
  rcases packer.prepare request with ⟨status, events⟩ | ⟨format, layout⟩ <;> rfl

/-- A service that packs planes refuses a request and stays as it was, or grants a handle and takes
one number. -/
theorem allocate_cases (reserve : Reserver) (request : Request) (packer : Packer) :
    (∃ status events, allocate reserve request packer = (.error status, packer, events)) ∨
      ∃ offer stride events, allocate reserve request packer =
        (.ok ⟨some offer, stride⟩, { packer with nextId := packer.nextId + 1 }, events) := by
  rw [allocate_eq]
  rcases packer.prepare request with ⟨status, events⟩ | ⟨format, layout⟩
  · exact .inl ⟨status, events, rfl⟩
  · dsimp only
    rcases reserve layout.total with ⟨status | length, events⟩
    · exact .inl ⟨status, events, rfl⟩
    · exact .inr ⟨_, _, _, rfl⟩

/-- The service of anonymous memory refuses a code that it does not resolve. -/
theorem memory_unresolved {failure : Failure} (hwidth : size.width ≠ 0) (hheight : size.height ≠ 0)
    (hresolve : packer.resolver.resolve code = .error failure) :
    ∃ events, memoryService.allocate (Allocator.request code size usage) packer =
      (.error .badValue, packer, events) := by
  obtain ⟨events, hprepare⟩ := prepare_unresolved usage hwidth hheight hresolve
  exact ⟨events, by simp [memoryService, packingService, allocate_eq, hprepare]⟩

/-- The service of anonymous memory refuses planes that cannot be packed. -/
theorem memory_unpacked (hwidth : size.width ≠ 0) (hheight : size.height ≠ 0)
    (hresolve : packer.resolver.resolve code = .ok resolved)
    (hpack : resolved.geometry.pack? size.width size.height packer.align = none) :
    ∃ events, memoryService.allocate (Allocator.request code size usage) packer =
      (.error .noMemory, packer, events) := by
  have hprepare := prepare_resolved usage hwidth hheight hresolve
  rw [hpack] at hprepare
  exact ⟨_, by simp only [memoryService, packingService, allocate_eq, hprepare]; rfl⟩

/-- The service of anonymous memory grants planes that can be packed. -/
theorem memory_packed {layout : PackedLayout} (hwidth : size.width ≠ 0) (hheight : size.height ≠ 0)
    (hresolve : packer.resolver.resolve code = .ok resolved)
    (hpack : resolved.geometry.pack? size.width size.height packer.align = some layout) :
    ∃ (length : FileLength) (events : List Event), length.val = layout.total.toNat ∧
      memoryService.allocate (Allocator.request code size usage) packer =
        (.ok ⟨some (packer.offer (Allocator.request code size usage) resolved.format layout length),
            layout.pixelStride⟩,
          { packer with nextId := packer.nextId + 1 }, events) := by
  have hprepare := prepare_resolved usage hwidth hheight hresolve
  rw [hpack] at hprepare
  have hshort : layout.total.toNat < 0x8000000000000000 :=
    Nat.lt_trans (FormatGeometry.pack?_eq_some hpack).2.1 (by decide)
  have hreserve := reserveMemory_requestor hshort
  exact ⟨⟨_, hshort⟩, _, rfl, by
    simp only [memoryService, packingService, allocate_eq, hprepare,
      show (Allocator.request code size usage).requestor = requestor from rfl, hreserve]
    rfl⟩

end Packer

end PixelBuffer
