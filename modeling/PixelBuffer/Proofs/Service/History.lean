import PixelBuffer.Proofs.Handle.Vendor
import PixelBuffer.Proofs.Platform.Opening
import PixelBuffer.Proofs.Service.Packer

/-!
# What a packing service does over time

A packing service is asked one thing after another: requests, each with what becomes of an attempt
to reserve memory for it, and handles to take back. `Packer.perform` runs a packer on one such
demand and notes how often memory was to be reserved, and for how many bytes.

`Packer.Performs` lists what a demand can come to. Read `Packer.perform_performs` first: what is
said about a single demand is a case analysis over it. Over many demands the state of a packer
changes in one place, the number of the next buffer (`Packer.performAll_numbered`), and no answer
depends on that number but for the number itself (`Packer.perform_withoutId`).
-/

namespace PixelBuffer

namespace Packer

/-- Reserves memory as `reserve` says, and notes the attempt. -/
def attempt (reserve : Reserver) (bytes : UInt64) :
    StateM (List UInt64) (Except Status FileLength × List Event) := do
  modify (· ++ [bytes])
  pure (reserve bytes)

/-- Something that a packing service is asked to do. -/
inductive Demand where
  /-- A request, and what becomes of an attempt to reserve memory for it. -/
  | request (request : Request) (reserve : Reserver)
  /-- A handle comes back. -/
  | free (handle : Handle)

/-- What a demand is answered. -/
inductive Answer where
  /-- A request was answered. The attempts to reserve memory are listed by their bytes. -/
  | answered (result : Except Status Grant) (reports : List Event) (attempts : List UInt64)
  /-- A handle was taken back, or not. -/
  | freed (result : Except Status Unit) (reports : List Event)

/-- Performs one demand. -/
def perform (packer : Packer) : Demand → Answer × Packer
  | .request request reserve =>
      let ((result, packer, reports), attempts) :=
        (packer.allocateWith (attempt reserve) request).run []
      (.answered result reports attempts, packer)
  | .free handle =>
      let (result, packer, reports) := packer.free handle
      (.freed result reports, packer)

/-- Performs demands in order and lists their answers. -/
def performAll (packer : Packer) : List Demand → List Answer × Packer
  | [] => ([], packer)
  | demand :: rest =>
      let (answer, packer) := packer.perform demand
      let (answers, packer) := packer.performAll rest
      (answer :: answers, packer)

/-! ## A single demand -/

/-- A request that a packer with a resolver and an alignment accepts, with what its code stands for
and the layout that its planes are packed into. -/
structure Packs (resolver : Resolver) (align : UInt32) (request : Request) (resolved : Resolved)
    (layout : PackedLayout) : Prop where
  width_ne : request.width ≠ 0
  height_ne : request.height ≠ 0
  layers_eq : request.layers = 1
  resolves : resolver.resolve request.format = .ok resolved
  packed : resolved.geometry.pack? request.width request.height align = some layout

variable {packer : Packer} {request : Request} {reserve : Reserver}

/-- A request is prepared exactly when it is accepted. -/
theorem prepare_eq_ok_iff {format : FourCC} {layout : PackedLayout} :
    packer.prepare request = .ok (format, layout) ↔
      ∃ resolved, resolved.format = format ∧
        Packs packer.resolver packer.align request resolved layout := by
  constructor
  · intro h
    unfold prepare at h
    split at h
    · cases h
    rename_i hsides
    simp only [not_or, ne_eq, Decidable.not_not] at hsides
    split at h
    · cases h
    rename_i found hfound
    split at h
    · cases h
    rename_i geometry hgeometry
    split at h
    · cases h
    split at h
    · cases h
    rename_i packed hpacked
    cases h
    exact ⟨⟨format, geometry⟩, rfl, hsides.1, hsides.2.1, hsides.2.2,
      Resolver.resolve_eq_ok_iff.mpr ⟨hfound, hgeometry⟩, hpacked⟩
  · rintro ⟨resolved, rfl, h⟩
    obtain ⟨hformat, hgeometry⟩ := Resolver.resolve_eq_ok_iff.mp h.resolves
    have hfew := (FormatGeometry.planeCount_of_ofFormat? hgeometry).2
    have hslots : ¬ vendorSlots < resolved.geometry.planeCount := by
      unfold vendorSlots
      omega
    unfold prepare
    rw [if_neg (by simp [h.width_ne, h.height_ne, h.layers_eq])]
    simp only [hformat, hgeometry, if_neg hslots, h.packed]

/-- A packed request is granted with one piece of memory, which is described in a block. -/
def grant (packer : Packer) (request : Request) (format : FourCC) (layout : PackedLayout)
    (length : FileLength) : Grant :=
  ⟨some (packer.offer request format layout length), layout.pixelStride⟩

/-- What a demand can come to: its answer, and the packer after it. -/
inductive Performs (packer : Packer) : Demand → Answer → Packer → Prop
  /-- The request is not accepted, and no memory is reserved. -/
  | refused {request : Request} {reserve : Reserver} {status : Status} {reports : List Event}
      (unaccepted : ∀ resolved layout,
        ¬ Packs packer.resolver packer.align request resolved layout) :
      Performs packer (.request request reserve) (.answered (.error status) reports []) packer
  /-- The request is accepted, but no memory can be reserved for it. -/
  | unreserved {request : Request} {reserve : Reserver} {resolved : Resolved}
      {layout : PackedLayout} {status : Status} {reports : List Event}
      (accepted : Packs packer.resolver packer.align request resolved layout)
      (reserved : reserve layout.total = (.error status, reports)) :
      Performs packer (.request request reserve)
        (.answered (.error status) reports [layout.total]) packer
  /-- Memory is reserved, and the next number is taken. -/
  | granted {request : Request} {reserve : Reserver} {resolved : Resolved}
      {layout : PackedLayout} {length : FileLength} {reports : List Event}
      (accepted : Packs packer.resolver packer.align request resolved layout)
      (reserved : reserve layout.total = (.ok length, reports)) :
      Performs packer (.request request reserve)
        (.answered (.ok (packer.grant request resolved.format layout length))
          (reports ++ [.reserved packer.nextId request.width request.height resolved.format
            layout.total request.requestor]) [layout.total])
        { packer with nextId := packer.nextId + 1 }
  /-- A handle is taken back. -/
  | freed {handle : Handle} :
      Performs packer (.free handle) (.freed (.ok ()) [.closing handle]) packer

/-- A request is answered by what its preparation comes to, and memory is to be reserved once at
most. -/
theorem perform_request (packer : Packer) (request : Request) (reserve : Reserver) :
    packer.perform (.request request reserve) =
      match packer.prepare request with
      | .error (status, reports) => (.answered (.error status) reports [], packer)
      | .ok (format, layout) =>
          let (result, later, reports) :=
            packer.settle request format layout (reserve layout.total)
          (.answered result reports [layout.total], later) := by
  simp only [perform, allocateWith]
  rcases packer.prepare request with ⟨status, reports⟩ | ⟨format, layout⟩ <;> rfl

/-- A demand comes to what is listed. -/
theorem perform_performs (packer : Packer) (demand : Demand) :
    packer.Performs demand (packer.perform demand).1 (packer.perform demand).2 := by
  cases demand with
  | request request reserve =>
      rw [perform_request]
      rcases hprepare : packer.prepare request with ⟨status, reports⟩ | ⟨format, layout⟩
      · refine .refused fun resolved layout haccepted => ?_
        cases hprepare.symm.trans (prepare_eq_ok_iff.mpr ⟨resolved, rfl, haccepted⟩)
      · obtain ⟨resolved, rfl, haccepted⟩ := prepare_eq_ok_iff.mp hprepare
        dsimp only
        rcases hreserve : reserve layout.total with ⟨status | length, reports⟩
        · exact .unreserved haccepted hreserve
        · exact .granted haccepted hreserve
  | free handle => exact .freed

/-- A service that reserves memory performs the demand. -/
theorem perform_eq_allocate (packer : Packer) (request : Request) (reserve : Reserver) :
    ∃ attempts, packer.perform (.request request reserve) =
      (.answered (packer.allocate reserve request).1 (packer.allocate reserve request).2.2 attempts,
        (packer.allocate reserve request).2.1) := by
  rw [perform_request, allocate_eq]
  rcases packer.prepare request with ⟨status, reports⟩ | ⟨format, layout⟩
  · exact ⟨_, rfl⟩
  · exact ⟨_, rfl⟩

/-! ## Numbers -/

/-- The packer after it granted `count` buffers more. -/
def after (packer : Packer) (count : Nat) : Packer :=
  { packer with nextId := packer.nextId + UInt32.ofNat count }

/-- Nothing was granted yet. -/
theorem after_zero (packer : Packer) : packer.after 0 = packer := by
  simp [after]

/-- Buffers that are granted twice in a row are counted together. -/
theorem after_after (packer : Packer) (count more : Nat) :
    (packer.after count).after more = packer.after (count + more) := by
  simp only [after, UInt32.ofNat_add, UInt32.add_assoc]

end Packer

/-- The number in the block of a grant. -/
def Grant.id? (grant : Grant) : Option UInt32 :=
  grant.handle?.bind fun offer => (VendorReport.ofInts? offer.ints).map VendorReport.id

namespace Packer

/-- What an answer grants. -/
def Answer.grant? : Answer → Option Grant
  | .answered (.ok grant) _ _ => some grant
  | .answered (.error _) _ _ => none
  | .freed _ _ => none

/-- What answers grant, in order. -/
def grants (answers : List Answer) : List Grant :=
  answers.filterMap Answer.grant?

variable {packer later : Packer} {demand : Demand} {answer : Answer}

/-- The block of a grant carries the next number. -/
theorem id?_grant (packer : Packer) (request : Request) (format : FourCC) (layout : PackedLayout)
    (length : FileLength) :
    (packer.grant request format layout length).id? = some packer.nextId := by
  have hvendor := Handle.vendor?_encode [] (packer.block request format layout)
  exact congrArg (Option.map VendorReport.id) hvendor

/-- A grant takes the next number, and whatever else is answered leaves the packer as it was. -/
theorem Performs.numbered (h : packer.Performs demand answer later) :
    (answer.grant? = none ∧ later = packer) ∨
      ∃ grant, answer.grant? = some grant ∧ grant.id? = some packer.nextId ∧
        later = packer.after 1 := by
  cases h with
  | refused => exact .inl ⟨rfl, rfl⟩
  | unreserved => exact .inl ⟨rfl, rfl⟩
  | granted => exact .inr ⟨_, rfl, packer.id?_grant .., rfl⟩
  | freed => exact .inl ⟨rfl, rfl⟩

/-- After any demands, the packer is as it was but for the number of buffers that it granted, and
these carry the numbers from the next one on. -/
theorem performAll_numbered (packer : Packer) (demands : List Demand) :
    (packer.performAll demands).2 =
        packer.after (grants (packer.performAll demands).1).length ∧
      ∀ index grant, (grants (packer.performAll demands).1)[index]? = some grant →
        grant.id? = some (packer.after index).nextId := by
  induction demands generalizing packer with
  | nil => exact ⟨packer.after_zero.symm, fun index grant h => by cases h⟩
  | cons demand rest ih =>
      have hperformed := packer.perform_performs demand
      rw [performAll]
      generalize packer.perform demand = performed at hperformed
      obtain ⟨answer, later⟩ := performed
      obtain ⟨hlater, hids⟩ := ih later
      dsimp only
      rcases hperformed.numbered with ⟨hnone, rfl⟩ | ⟨grant, hsome, hid, rfl⟩
      · rw [grants, List.filterMap_cons_none hnone]
        exact ⟨hlater, hids⟩
      · rw [grants, List.filterMap_cons_some hsome]
        refine ⟨?_, fun index other hother => ?_⟩
        · rw [hlater, after_after, List.length_cons, Nat.add_comm]
          rfl
        · cases index with
          | zero =>
              cases hother
              rw [hid, after_zero]
          | succ index =>
              rw [hids index other hother, after_after, Nat.add_comm]

end Packer

/-! ## Answers without their numbers -/

/-- A grant with no number in its block. -/
def Grant.withoutId (grant : Grant) : Grant :=
  { grant with handle? := grant.handle?.map fun offer => { offer with ints := offer.ints.set 1 0 } }

/-- An event that tells no number of a buffer. -/
def Event.withoutId : Event → Event
  | .reserved _ width height format bytes requestor =>
      .reserved 0 width height format bytes requestor
  | event => event

namespace Packer

/-- An answer without the number of a buffer that it grants. -/
def Answer.withoutId : Answer → Answer
  | .answered result reports attempts =>
      .answered (result.map Grant.withoutId) (reports.map Event.withoutId) attempts
  | .freed result reports => .freed result reports

/-- How many buffers were granted before shows in the number of a buffer alone. -/
theorem perform_withoutId (packer : Packer) (count : Nat) (demand : Demand) :
    ((packer.after count).perform demand).1.withoutId = (packer.perform demand).1.withoutId := by
  cases demand with
  | request request reserve =>
      have hprepare : (packer.after count).prepare request = packer.prepare request := rfl
      rw [perform_request, perform_request, hprepare]
      rcases packer.prepare request with ⟨status, reports⟩ | ⟨format, layout⟩
      · rfl
      · dsimp only
        rcases reserve layout.total with ⟨status | length, reports⟩
        · rfl
        · simp only [settle, Answer.withoutId, List.map_append]
          rfl
  | free handle => rfl

end Packer

/-! ## What is granted -/

/-- A grant of one piece of memory of the given length, whose block tells size and format of a
request and the planes of a layout. -/
structure Grant.Describes (grant : Grant) (request : Request) (format : FourCC)
    (layout : PackedLayout) (length : FileLength) : Prop where
  stride_eq : grant.stride = layout.pixelStride
  /-- The handle that is opened. -/
  handle : ∃ offer, grant.handle? = some offer ∧ ∀ platform : Platform, ∃ descriptor report,
    (platform.accept offer).1.descriptors = [descriptor] ∧
      (platform.accept offer).2.file? descriptor = some (.memory length) ∧
      (platform.accept offer).1.vendor? = some report ∧ report.width = request.width ∧
      report.height = request.height ∧ report.format = format ∧
      report.planeCount.toNat = layout.planes.length ∧
      ∀ index, report.plane? index = layout.planes[index]?

namespace Packer

variable {packer : Packer} {request : Request} {resolved : Resolved} {layout : PackedLayout}

/-- A packed layout has a slot for each plane. -/
theorem Packs.length_planes {resolver : Resolver} {align : UInt32}
    (h : Packs resolver align request resolved layout) : layout.planes.length ≤ vendorSlots := by
  have hgeometry := (Resolver.resolve_eq_ok_iff.mp h.resolves).2
  have hfew := (FormatGeometry.planeCount_of_ofFormat? hgeometry).2
  rw [(FormatGeometry.pack?_eq_some h.packed).1]
  unfold vendorSlots
  omega

/-- The packed layout of an accepted request is what is granted. -/
theorem Packs.describes {resolver : Resolver} {align : UInt32}
    (h : Packs resolver align request resolved layout) (packer : Packer) (length : FileLength) :
    (packer.grant request resolved.format layout length).Describes request resolved.format layout
      length where
  stride_eq := rfl
  handle := by
    refine ⟨_, rfl, fun platform => ⟨⟨platform.descriptors.size⟩,
      (packer.block request resolved.format layout).report, rfl, ?_, Handle.vendor?_encode _ _,
      rfl, rfl, FourCC.ofCode_toCode resolved.format, VendorBlock.planeCount_report h.length_planes,
      VendorBlock.plane?_report h.length_planes⟩⟩
    simp [Platform.accept, Platform.openSources, Platform.openSource, offer, Platform.file?,
      Platform.fileNumber?, Platform.openFile?, Platform.create]

/-! ## Over time -/

/-- A request that is not accepted fails before memory is to be reserved. For one that is accepted,
memory of the packed length is to be reserved once, which decides it. -/
theorem perform_request_decided (packer : Packer) (request : Request) (reserve : Reserver) :
    ∃ result reports attempts later,
      packer.perform (.request request reserve) = (.answered result reports attempts, later) ∧
      (((∀ resolved layout, ¬ Packs packer.resolver packer.align request resolved layout) ∧
          attempts = [] ∧ (∃ status, result = .error status) ∧ later = packer) ∨
        ∃ resolved layout, Packs packer.resolver packer.align request resolved layout ∧
          attempts = [layout.total] ∧
          match (reserve layout.total).1 with
          | .error status => result = .error status ∧ later = packer
          | .ok length => ∃ grant, result = .ok grant ∧
              grant.Describes request resolved.format layout length) := by
  have hperformed := packer.perform_performs (.request request reserve)
  generalize packer.perform (.request request reserve) = performed at hperformed
  obtain ⟨answer, later⟩ := performed
  dsimp only at hperformed
  cases hperformed with
  | refused unaccepted => exact ⟨_, _, _, _, rfl, .inl ⟨unaccepted, rfl, ⟨_, rfl⟩, rfl⟩⟩
  | unreserved accepted reserved =>
      refine ⟨_, _, _, _, rfl, .inr ⟨_, _, accepted, rfl, ?_⟩⟩
      rw [reserved]
      exact ⟨rfl, rfl⟩
  | granted accepted reserved =>
      refine ⟨_, _, _, _, rfl, .inr ⟨_, _, accepted, rfl, ?_⟩⟩
      rw [reserved]
      exact ⟨_, rfl, accepted.describes _ _⟩

/-- A request is accepted by a packer with an alignment as it is by one whose alignment of zero
counts as one. -/
theorem packs_withAlign {resolver : Resolver} {align : UInt32} :
    Packs (withAlign { resolver := resolver } align).resolver
        (withAlign { resolver := resolver } align).align request resolved layout ↔
      Packs resolver align request resolved layout := by
  have hpack : resolved.geometry.pack? request.width request.height
      (if align = 0 then 1 else align) =
      resolved.geometry.pack? request.width request.height align := by
    by_cases hzero : align = 0
    · rw [if_pos hzero, hzero, FormatGeometry.pack?_align_zero]
    · rw [if_neg hzero]
  constructor
  · rintro ⟨hwidth, hheight, hlayers, hresolves, hpacked⟩
    exact ⟨hwidth, hheight, hlayers, hresolves, hpack.symm.trans hpacked⟩
  · rintro ⟨hwidth, hheight, hlayers, hresolves, hpacked⟩
    exact ⟨hwidth, hheight, hlayers, hresolves, hpack.trans hpacked⟩

/-- Different buffers among 2^32 in a row have different numbers. -/
theorem nextId_after_ne (packer : Packer) {count more : Nat} (hlt : count < more)
    (hmore : more < 2 ^ 32) : (packer.after count).nextId ≠ (packer.after more).nextId := by
  intro h
  have hcounts := congrArg UInt32.toNat (UInt32.add_right_inj packer.nextId |>.mp h)
  rw [UInt32.toNat_ofNat', UInt32.toNat_ofNat', Nat.mod_eq_of_lt hmore,
    Nat.mod_eq_of_lt (Nat.lt_trans hlt hmore)] at hcounts
  omega

/-- Whatever was asked of a packing service before, its grants are numbered in order from one,
modulo 2^32, so that no two of 2^32 grants in a row have the same number; a demand is answered as if
it were the first one, but for the number; and taking a handle back changes nothing. A request that
is not accepted is refused without an attempt to reserve memory. For one that is, memory is to be
reserved once, of the packed length: if that fails, so does the request; otherwise one descriptor of
that memory is granted, with a block that tells size, format and planes. A request that fails
changes nothing. The services of anonymous memory and of heaps perform such demands. -/
theorem performAll_packing (resolver : Resolver) (align : UInt32) (demands : List Demand) :
    let first := Packer.withAlign { resolver := resolver } align
    let granted := grants (first.performAll demands).1
    let packer := (first.performAll demands).2
    (∀ index grant, granted[index]? = some grant →
      ∃ id, grant.id? = some id ∧ id.toNat = (index + 1) % 2 ^ 32) ∧
    (∀ index other grant another, index < other → other < 2 ^ 32 →
      granted[index]? = some grant → granted[other]? = some another →
      grant.id? ≠ another.id?) ∧
    (∀ demand, (packer.perform demand).1.withoutId = (first.perform demand).1.withoutId) ∧
    (∀ handle, packer.perform (.free handle) = (.freed (.ok ()) [.closing handle], packer)) ∧
    (∀ request reserve, ∃ result reports attempts later,
      packer.perform (.request request reserve) = (.answered result reports attempts, later) ∧
      (((∀ resolved layout, ¬ Packs resolver align request resolved layout) ∧
          attempts = [] ∧ (∃ status, result = .error status) ∧ later = packer) ∨
        ∃ resolved layout, Packs resolver align request resolved layout ∧
          attempts = [layout.total] ∧
          match (reserve layout.total).1 with
          | .error status => result = .error status ∧ later = packer
          | .ok length => ∃ grant, result = .ok grant ∧
              grant.Describes request resolved.format layout length)) ∧
    (∀ request packer, ∃ attempts,
      packer.perform (.request request (reserveMemory request.requestor)) =
        (.answered (memoryService.allocate request packer).1
          (memoryService.allocate request packer).2.2 attempts,
          (memoryService.allocate request packer).2.1)) ∧
    ∀ (devices : HeapDevices) (heap : HeapKind) (request : Request) (packer : Packer), ∃ attempts,
      packer.perform (.request request (devices.reserve heap)) =
        (.answered ((devices.service heap).allocate request packer).1
          ((devices.service heap).allocate request packer).2.2 attempts,
          ((devices.service heap).allocate request packer).2.1) := by
  intro first granted packer
  obtain ⟨hpacker, hids⟩ := first.performAll_numbered demands
  have hfirst : ∀ index, (first.after index).nextId = 1 + UInt32.ofNat index := fun _ => rfl
  refine ⟨?_, ?_, ?_, fun _ => rfl, ?_, ?_, ?_⟩
  · intro index grant hgrant
    refine ⟨_, hids index grant hgrant, ?_⟩
    rw [hfirst, UInt32.toNat_add, UInt32.toNat_ofNat']
    simp [Nat.add_comm]
  · intro index other grant another hlt hother hgrant hanother
    rw [hids index grant hgrant, hids other another hanother]
    exact fun h => first.nextId_after_ne hlt hother (Option.some.inj h)
  · intro demand
    rw [show packer = _ from hpacker, perform_withoutId]
  · intro request reserve
    have haccepts : ∀ {resolved layout},
        Packs packer.resolver packer.align request resolved layout ↔
          Packs resolver align request resolved layout := by
      intro resolved layout
      rw [show packer = _ from hpacker]
      exact packs_withAlign
    simpa only [haccepts] using packer.perform_request_decided request reserve
  · exact fun request packer => packer.perform_eq_allocate request _
  · exact fun devices heap request packer => packer.perform_eq_allocate request _

end Packer

end PixelBuffer
