import PixelBuffer.Proofs.Plane.Packed
import PixelBuffer.Proofs.Service.Packer
import PixelBuffer.Proofs.Session.Step

/-!
# Buffers in anonymous memory

What comes of a request to the service of anonymous memory is planned by `memoryPlan` from the code
and the size alone. A single allocation ends as planned (`Allocator.Allocates.memory`), in a buffer
with the number that the service had for it. No history of a session changes anything about the
service but that number, which counts the handles that were issued (`Session.performAll_numbered`),
so that `allocate_memory` holds after any history.
-/

namespace PixelBuffer

/-! ## One request -/

/-- What a request comes to in anonymous memory, given what codes stand for to the allocator, and to
the service whose rows are aligned: a failure, or the meaning of the code and the packed planes. -/
def memoryPlan (resolver reserver : Resolver) (align : UInt32) (code : Int32) (size : Size) :
    Except Failure (Resolved × PackedLayout) :=
  if size.width = 0 ∨ size.height = 0 then .error size.invalid
  else
    match resolver.resolve code with
    | .error _ => .error (.unsupportedFormat code)
    | .ok resolved =>
        if resolved.geometry.frameBytes? size = none then .error size.invalid
        else
          match reserver.resolve code with
          | .error _ => .error (.allocationFailed .badValue)
          | .ok reserved =>
              match reserved.geometry.pack? size.width size.height align with
              | none => .error (.allocationFailed .noMemory)
              | some layout =>
                  if reserved.geometry.planeCount ≠ resolved.geometry.planeCount then
                    .error (.layout
                      (.planeCount reserved.geometry.planeCount resolved.geometry.planeCount))
                  else .ok (resolved, layout)

/-- A buffer whose planes are packed into one file of their total length. -/
structure Buffer.InMemory (after : Platform) (resolved : Resolved) (layout : PackedLayout)
    (size : Size) (usage : Usage) (id : UInt32) (buffer : Buffer) : Prop where
  format_eq : buffer.format = resolved.format
  geometry_eq : buffer.geometry = resolved.geometry
  size_eq : buffer.size = size
  usage_eq : buffer.usage = usage
  planes_eq : buffer.planes.map (fun plane => (plane.offset, plane.length)) =
    layout.planes.map fun record => (record.offset.toUInt64, record.size.toUInt64)
  /-- All planes share one duplicate. -/
  file : ∃ share descriptor length, (∀ plane ∈ buffer.planes, plane.share = share) ∧
    after.descriptorOf? share = some descriptor ∧
    after.file? descriptor = some (.memory length) ∧ length.val = layout.total.toNat
  stride_eq : buffer.stride = layout.pixelStride
  id_eq : buffer.id? = some id

namespace Allocator

variable {resolver : Resolver} {code : Int32} {size : Size} {usage : Usage}
  {client after : Client Packer} {result : Except Failure Buffer}

/-- A request whose planes the service of anonymous memory can pack fails for their number, or ends
in a buffer of the packed planes. -/
theorem Allocates.memory_packed {resolved reserved : Resolved} {layout : PackedLayout}
    (h : Allocates ⟨memoryService, resolver⟩ code size usage client result after)
    (haccepts : Accepts ⟨memoryService, resolver⟩ code size resolved)
    (hreserve : client.service.resolver.resolve code = .ok reserved)
    (hpack : reserved.geometry.pack? size.width size.height client.service.align = some layout) :
    if reserved.geometry.planeCount ≠ resolved.geometry.planeCount then
      result = .error
        (.layout (.planeCount reserved.geometry.planeCount resolved.geometry.planeCount))
    else ∃ buffer, result = .ok buffer ∧
      buffer.InMemory after.world.platform resolved layout size usage client.service.nextId := by
  obtain ⟨length, events, hlength, hanswer⟩ :=
    Packer.memory_packed usage haccepts.width_ne haccepts.height_ne hreserve hpack
  obtain ⟨hcount, hshort, hfits⟩ := FormatGeometry.pack?_eq_some hpack
  obtain ⟨hsome, hfew⟩ :=
    FormatGeometry.planeCount_of_ofFormat? (Resolver.resolve_eq_ok_iff.mp hreserve).2
  have hslots : layout.planes.length ≤ vendorSlots := by
    rw [hcount]
    exact Nat.le_succ_of_le hfew
  have hbytes : (UInt64.ofNat length.val).toNat = layout.total.toNat :=
    (FileLength.toNat_ofNat length).trans hlength
  let block := client.service.block (request code size usage) reserved.format layout
  let granted : Granted ⟨memoryService, resolver⟩ code size usage client :=
    ⟨resolved, _, layout.pixelStride, _, events, _, _, check_eq_ok_iff.mpr haccepts, hanswer, rfl⟩
  have hbacking := client.world.platform.backing_create length 0
  -- the new descriptor is the only one, and its file is as long as the packed planes
  have hsites : granted.handle.sites granted.opened.backing resolved.geometry size = _ :=
    Handle.sites_of_block block resolved.geometry size hslots (by rw [hbytes]; omega) hbacking
      (by rwa [hbytes])
  rw [show block.planes.length = reserved.geometry.planeCount from hcount] at hsites
  obtain ⟨found, later, rfl, hfinds, hlater⟩ :=
    h.finds_of_granted granted (List.cons_ne_nil _ _)
  by_cases hplanes : reserved.geometry.planeCount ≠ resolved.geometry.planeCount
  · rw [if_pos hplanes] at hsites ⊢
    rw [hfinds.eq_error hsites]
    rfl
  · rw [if_neg hplanes] at hsites ⊢
    obtain ⟨planes, rfl⟩ := hfinds.eq_ok hsites
    obtain rfl := hlater planes rfl
    obtain ⟨backed, hfile, hlengths⟩ := Platform.backing_eq_ok_iff.mp hbacking
    have hne : layout.planes ≠ [] := List.ne_nil_of_length_pos (hcount ▸ hsome)
    obtain ⟨hplanes, share, own, hshare, hown, hmemory⟩ := hfinds.packed hne hsites hfile
    refine ⟨granted.buffer planes, rfl, ?_⟩
    constructor
    case format_eq => rfl
    case geometry_eq => rfl
    case size_eq => rfl
    case usage_eq => rfl
    case planes_eq => exact hplanes
    case file =>
      refine ⟨share, own, backed, hshare, hown, hmemory, ?_⟩
      rw [← hbytes, hlengths, FileLength.toNat_ofNat]
    case stride_eq => rfl
    case id_eq =>
      show granted.handle.vendor?.map VendorReport.id = some client.service.nextId
      rw [show granted.handle.vendor? = some block.report from Handle.vendor?_encode _ block]
      rfl

/-- A request to the service of anonymous memory ends as planned. -/
theorem Allocates.memory
    (h : Allocates ⟨memoryService, resolver⟩ code size usage client result after) :
    match memoryPlan resolver client.service.resolver client.service.align code size with
    | .error failure => result = .error failure
    | .ok (resolved, layout) => ∃ buffer, result = .ok buffer ∧
        buffer.InMemory after.world.platform resolved layout size usage
          client.service.nextId := by
  unfold memoryPlan
  by_cases hempty : size.width = 0 ∨ size.height = 0
  · rw [if_pos hempty]
    exact h.eq_of_check_error (check_eq_error_of_empty hempty)
  rw [if_neg hempty]
  obtain ⟨hwidth, hheight⟩ := not_or.mp hempty
  have hsides : ¬ size.isEmpty = true := by simp [Size.isEmpty, hwidth, hheight]
  cases hresolve : resolver.resolve code with
  | error failure =>
      refine h.eq_of_check_error ?_
      rw [check, if_neg hsides, hresolve, (Resolver.resolve_eq_error hresolve).1]
  | ok resolved =>
      dsimp only
      by_cases hframe : resolved.geometry.frameBytes? size = none
      · rw [if_pos hframe]
        refine h.eq_of_check_error ?_
        simp only [check, if_neg hsides, hresolve, hframe]
      rw [if_neg hframe]
      have haccepts : Accepts ⟨memoryService, resolver⟩ code size resolved :=
        ⟨hwidth, hheight, hresolve, Option.ne_none_iff_exists'.mp hframe⟩
      cases hreserve : client.service.resolver.resolve code with
      | error failure =>
          obtain ⟨events, hanswer⟩ := Packer.memory_unresolved usage hwidth hheight hreserve
          exact h.eq_of_refused (check_eq_ok_iff.mpr haccepts) hanswer
      | ok reserved =>
          dsimp only
          cases hpack : reserved.geometry.pack? size.width size.height client.service.align with
          | none =>
              obtain ⟨events, hanswer⟩ := Packer.memory_unpacked usage hwidth hheight hreserve hpack
              exact h.eq_of_refused (check_eq_ok_iff.mpr haccepts) hanswer
          | some layout =>
              have hpacked := h.memory_packed haccepts hreserve hpack
              dsimp only
              by_cases hplanes : reserved.geometry.planeCount ≠ resolved.geometry.planeCount
              · rw [if_pos hplanes] at hpacked ⊢
                exact hpacked
              · rw [if_neg hplanes] at hpacked ⊢
                exact hpacked

/-! ## Histories -/

/-- The service numbers its buffers: the next number is one more than the handles that it issued,
modulo 2^32, and nothing else about it ever changes. -/
def Numbered (packer : Packer) (client : Client Packer) : Prop :=
  client.service =
    { packer with nextId := UInt32.ofNat ((Call.issued client.calls).length + 1) }

variable {packer : Packer}

section

variable {platform : Platform} {events : List Event} {calls : List Call}

/-- No number is taken while no handle is issued. -/
theorem Numbered.idle (h : Numbered packer client) (hnone : calls.filterMap Call.issued? = []) :
    Numbered packer (client.later platform client.service events calls) := by
  have hissued : Call.issued (client.calls ++ calls.toArray) = Call.issued client.calls := by
    simp [Call.issued, hnone]
  show client.service = _
  rw [Client.later_calls, hissued]
  exact h

/-- A number is taken for a handle that is issued. -/
theorem Numbered.issue (h : Numbered packer client) {handle : Handle}
    (hone : calls.filterMap Call.issued? = [handle]) :
    Numbered packer (client.later platform
      { client.service with nextId := client.service.nextId + 1 } events calls) := by
  have hissued : Call.issued (client.calls ++ calls.toArray) =
      Call.issued client.calls ++ [handle] := by
    simp [Call.issued, hone]
  have hnext := congrArg
    (fun service : Packer => { service with nextId := service.nextId + 1 }) h
  refine hnext.trans ?_
  rw [Client.later_calls, hissued, List.length_append, List.length_singleton,
    UInt32.ofNat_add ((Call.issued client.calls).length + 1) 1]
  rfl

end

/-- The answer of the service tells what became of its state. -/
theorem memory_state {answer : Except Status Grant} {state : Packer} {events : List Event}
    (h : memoryService.allocate (request code size usage) packer = (answer, state, events)) :
    state = match answer with
      | .ok ⟨some _, _⟩ => { packer with nextId := packer.nextId + 1 }
      | _ => packer := by
  rcases Packer.allocate_cases (reserveMemory (request code size usage).requestor)
    (request code size usage) packer with ⟨status, reports, heq⟩ | ⟨offer, stride, reports, heq⟩
  · cases h.symm.trans heq
    rfl
  · cases h.symm.trans heq
    rfl

/-- An allocation keeps the numbers. -/
theorem Allocates.numbered
    (h : Allocates ⟨memoryService, resolver⟩ code size usage client result after)
    (hnumbered : Numbered packer client) : Numbered packer after := by
  cases h with
  | rejected => exact hnumbered
  | refused _ answered =>
      rw [memory_state answered]
      exact hnumbered.idle rfl
  | withoutHandle _ answered =>
      rw [memory_state answered]
      exact hnumbered.idle rfl
  | unusable granted _ returned =>
      -- taking a handle back leaves the service as the grant did
      cases returned
      rw [memory_state granted.answered]
      exact hnumbered.issue rfl
  | mismatched granted _ _ _ returned =>
      cases returned
      rw [memory_state granted.answered]
      exact hnumbered.issue rfl
  | found granted =>
      rw [memory_state granted.answered]
      exact hnumbered.issue rfl

end Allocator

namespace Session

variable {resolver : Resolver} {packer : Packer} {session : Session Packer}

/-- An action keeps the numbers. -/
theorem Performs.numbered {action : Action} {outcome : Outcome} {after : Session Packer}
    (h : session.Performs ⟨memoryService, resolver⟩ action outcome after)
    (hnumbered : Allocator.Numbered packer session.client) :
    Allocator.Numbered packer after.client := by
  cases h with
  | allocated ends => exact ends.numbered hnumbered
  | failed ends => exact ends.numbered hnumbered
  | dropped _ returned =>
      cases returned
      exact hnumbered.idle rfl
  | notDropped => exact hnumbered
  | cloned => exact hnumbered.idle rfl
  | notCloned => exact hnumbered
  | forgotten => exact hnumbered.idle rfl

/-- Any actions keep the numbers. -/
theorem performAll_numbered (h : Allocator.Numbered packer session.client)
    (actions : List Action) :
    Allocator.Numbered packer
      (session.performAll ⟨memoryService, resolver⟩ actions).2.client := by
  induction actions generalizing session with
  | nil => exact h
  | cons action rest ih => exact ih ((perform_performs _ session action).numbered h)

end Session

/-! ## The outcome after any history -/

/-- Without an alignment, requests come to what they do with an alignment of one byte. -/
theorem memoryPlan_align_zero (resolver reserver : Resolver) (code : Int32) (size : Size) :
    memoryPlan resolver reserver 0 code size = memoryPlan resolver reserver 1 code size := by
  unfold memoryPlan
  simp only [FormatGeometry.pack?_align_zero]

/-- After any history of a session with the service of anonymous memory, a request ends as planned
from its code and size alone: with the first failure of the plan, or with a buffer whose planes are
packed into one file of their total length, with the pixel stride of the packing, and numbered by
the handles that the service issued before. -/
theorem allocate_memory (resolver reserver : Resolver) (align : UInt32) (world : World)
    (actions : List Action) (code : Int32) (size : Size) (usage : Usage) :
    let allocator : Allocator Packer := ⟨memoryService, resolver⟩
    let client := (Session.performAll allocator
      { client := { world := world,
                    service := Packer.withAlign { resolver := reserver } align } }
      actions).2.client
    match memoryPlan resolver reserver align code size with
    | .error failure => (allocator.allocate code size usage client).1 = .error failure
    | .ok (resolved, layout) => ∃ buffer,
        (allocator.allocate code size usage client).1 = .ok buffer ∧
          buffer.InMemory (allocator.allocate code size usage client).2.world.platform resolved
            layout size usage (UInt32.ofNat ((Call.issued client.calls).length + 1)) := by
  intro allocator client
  have hnumbered : Allocator.Numbered (Packer.withAlign { resolver := reserver } align) client := by
    refine Session.performAll_numbered ?_ actions
    rfl
  have hends := (allocator.allocate_allocates code size usage client).memory
  have hplan : memoryPlan resolver reserver align code size =
      memoryPlan resolver client.service.resolver client.service.align code size := by
    rw [hnumbered]
    show _ = memoryPlan resolver reserver (if align = 0 then 1 else align) code size
    by_cases hzero : align = 0
    · rw [if_pos hzero, hzero, memoryPlan_align_zero]
    · rw [if_neg hzero]
  have hid : client.service.nextId = UInt32.ofNat ((Call.issued client.calls).length + 1) :=
    congrArg Packer.nextId hnumbered
  rw [← hplan, hid] at hends
  exact hends

end PixelBuffer
