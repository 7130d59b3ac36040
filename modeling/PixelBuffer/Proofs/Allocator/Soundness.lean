import PixelBuffer.Proofs.Allocator.Outcome
import PixelBuffer.Proofs.Handle.Vendor
import PixelBuffer.Service.Script

/-!
# What holds of a buffer that is returned

Whatever a service answers, a buffer has as many planes as its format, and each plane lies within
the file behind the descriptor that its handle has for it. The sum that decides this saturates, but
a file is shorter than 2^63 bytes, so that the decision is the exact one.
-/

namespace PixelBuffer

/-- A plane lies within the file behind a descriptor, and the two refer to the same file. -/
structure Plane.Within (platform : Platform) (descriptor : Descriptor) (plane : Plane) : Prop where
  /-- The byte after the last one does not wrap. -/
  stop_eq : plane.stop.toNat = plane.offset.toNat + plane.length.toNat
  file : ∃ own number length, platform.descriptorOf? plane.share = some own ∧
    platform.fileNumber? own = some number ∧ platform.fileNumber? descriptor = some number ∧
    platform.files[number]? = some (.memory length) ∧
    plane.offset.toNat + plane.length.toNat ≤ length.val

/-- The end of a site within its file is exact and not behind the end of the file. -/
theorem Handle.SiteFits.length_le {platform : Platform} {index : Nat} {site : Site}
    (h : Handle.SiteFits platform.backing index site) :
    ∃ length, platform.file? site.descriptor = some (.memory length) ∧
      site.offset.toNat + site.length.toNat ≤ length.val := by
  obtain ⟨bytes, hbacking, hbounds⟩ := h
  obtain ⟨length, hfile, rfl⟩ := Platform.backing_eq_ok_iff.mp hbacking
  have hlength := FileLength.toNat_ofNat length
  have hle := (checkBounds_eq_ok_iff (by have := length.isLt; omega)).mp hbounds
  exact ⟨length, hfile, hlength ▸ hle⟩

namespace Handle

variable {handle : Handle} {geometry : FormatGeometry} {size : Size} {before after : Platform}
  {planes : List Plane}

/-- The descriptor behind a plane, by what the integers of the handle say. -/
theorem sourceIndex_eq (handle : Handle) (index : Nat) :
    handle.sourceIndex index =
      if handle.descriptors.length = 1 ∨ ¬ handle.HasBlock then 0 else index := by
  simp [sourceIndex, vendor?_eq_none_iff]

/-- Planes that are found are as many as the format has, and each lies within the file of its
descriptor. -/
theorem Finds.within (h : handle.Finds geometry size before (.ok planes) after)
    (hold : ∀ descriptor ∈ handle.descriptors, descriptor.number < before.descriptors.size) :
    planes.length = geometry.planeCount ∧
      ∀ (index : Nat) plane, planes[index]? = some plane →
        ∃ descriptor, handle.descriptors[handle.sourceIndex index]? = some descriptor ∧
          plane.Within after descriptor := by
  cases h with
  | found decided grown leads =>
      rename_i sites shareOf opened rewound
      obtain ⟨hcount, hsites⟩ := sites_eq_ok decided
      refine ⟨by simpa using hcount, fun index plane hplane => ?_⟩
      rw [List.getElem?_map, Option.map_eq_some_iff] at hplane
      obtain ⟨site, hsite, rfl⟩ := hplane
      obtain ⟨hsource, hfits⟩ := hsites index site hsite
      obtain ⟨length, hfile, hle⟩ := hfits.length_le
      obtain ⟨number, hnumber, hfiles⟩ := Platform.file?_eq_some hfile
      obtain ⟨opened, hopened, hleads⟩ := leads site (List.mem_of_getElem? hsite)
      obtain ⟨own, hown, hduplicate⟩ := Option.bind_eq_some_iff.mp hleads
      -- the duplicate and the descriptor refer to one open file, also after the search
      have hold := hold _ (List.mem_of_getElem? hsource)
      refine ⟨site.descriptor, hsource, ?_, own, number, length, hown, ?_, ?_, ?_, hle⟩
      · have hlt := length.isLt
        show (site.offset + site.length).toNat = site.offset.toNat + site.length.toNat
        rw [UInt64.toNat_add, Nat.mod_eq_of_lt (by omega)]
      · rw [grown.fileNumber?_congr (hduplicate.trans hopened.symm), hnumber]
      · rw [grown.fileNumber?_congr (grown.openFile?_old hold), hnumber]
      · rw [grown.files, hfiles]

end Handle

namespace Allocator

variable {σ : Type}

/-- What holds of a buffer that an allocation returned, on the platform after it. -/
structure Sound (allocator : Allocator σ) (code : Int32) (size : Size) (usage : Usage)
    (client : Client σ) (after : Platform) (buffer : Buffer) : Prop where
  /-- The service granted the handle and the stride. -/
  granted : ∃ offer state reports,
    allocator.service.allocate (request code size usage) client.service =
        (.ok ⟨some offer, buffer.stride⟩, state, reports) ∧
      buffer.handle = (client.world.platform.accept offer).1
  resolved : allocator.resolver.resolve code = .ok ⟨buffer.format, buffer.geometry⟩
  size_eq : buffer.size = size
  usage_eq : buffer.usage = usage
  planes_length : buffer.planes.length = buffer.geometry.planeCount
  /-- One descriptor, or the first of a handle without a block, is behind all planes, and otherwise
  each plane has a descriptor of its own. -/
  within : ∀ (index : Nat) plane, buffer.planes[index]? = some plane → ∃ descriptor,
    buffer.handle.descriptors[
        if buffer.handle.descriptors.length = 1 ∨ ¬ buffer.handle.HasBlock then 0 else index]? =
      some descriptor ∧ plane.Within after descriptor
  /-- The number of the buffer is the second integer of a block. -/
  id_eq : ∀ id, buffer.id? = some id ↔
    buffer.handle.HasBlock ∧ buffer.handle.ints[1]?.map Int32.toUInt32 = some id

/-- The number of a buffer is the second integer of the block of its handle, if it carries one. -/
theorem id?_eq_some_iff {buffer : Buffer} {id : UInt32} :
    buffer.id? = some id ↔
      buffer.handle.HasBlock ∧ buffer.handle.ints[1]?.map Int32.toUInt32 = some id := by
  unfold Buffer.id?
  rw [Handle.vendor?_eq]
  by_cases hblock : buffer.handle.HasBlock
  · have hlong : 1 < buffer.handle.ints.length := Nat.lt_of_lt_of_le (by decide) hblock.1
    simp [hblock, VendorReport.atPlaces, wordAt, hlong]
  · simp [hblock]

/-- Every buffer that an allocation returns is sound, whatever the service answers. -/
theorem allocate_sound {allocator : Allocator σ} {code : Int32} {size : Size} {usage : Usage}
    {client : Client σ} {buffer : Buffer}
    (h : (allocator.allocate code size usage client).1 = .ok buffer) :
    allocator.Sound code size usage client
      (allocator.allocate code size usage client).2.world.platform buffer := by
  have hends := allocator.allocate_allocates code size usage client
  rw [h] at hends
  generalize (allocator.allocate code size usage client).2 = after at hends
  cases hends with
  | found granted usable finds quiet =>
      obtain ⟨hlength, hwithin⟩ :=
        finds.within fun descriptor hm => (granted.opens.number_bounds hm).2
      constructor
      case granted =>
        exact ⟨granted.offer, granted.state, granted.reports, granted.answered,
          (congrArg Prod.fst granted.accepted).symm⟩
      case resolved => exact (check_eq_ok_iff.mp granted.checked).resolves
      case size_eq => rfl
      case usage_eq => rfl
      case planes_length => exact hlength
      case within =>
        intro index plane hplane
        rw [← Handle.sourceIndex_eq]
        exact hwithin index plane hplane
      case id_eq => exact fun id => id?_eq_some_iff

/-- A client whose service grants an image of two planes in files of their own, as buffer seven. -/
def twoFiles : Client Script where
  service :=
    { replies := [.grant
        (some ⟨[.memory ⟨4096, by decide⟩ 0, .memory ⟨16, by decide⟩ 3],
          [vendorMark, 7, 4, 2, 0, 2, 4, 4, 0, 0, 0, 8, 0, 0, 8, 4, 0, 0]⟩) none] }

/-- The buffer of the two files is sound. -/
theorem allocate_sound_two_files :
    ∃ buffer, buffer.id? = some 7 ∧
      (allocate ⟨scriptedService, .standard⟩ 0x23 ⟨4, 2⟩ .empty twoFiles).1 = .ok buffer ∧
      Sound ⟨scriptedService, .standard⟩ 0x23 ⟨4, 2⟩ .empty twoFiles
        (allocate ⟨scriptedService, .standard⟩ 0x23 ⟨4, 2⟩ .empty twoFiles).2.world.platform
        buffer := by
  have h : (allocate ⟨scriptedService, .standard⟩ 0x23 ⟨4, 2⟩ .empty twoFiles).1 =
      .ok ⟨[⟨⟨0⟩, 0, 8⟩, ⟨⟨1⟩, 8, 4⟩],
        ⟨[⟨0⟩, ⟨1⟩], [vendorMark, 7, 4, 2, 0, 2, 4, 4, 0, 0, 0, 8, 0, 0, 8, 4, 0, 0]⟩,
        .nv12, ⟨"NV12", .nv12, 2, [⟨2, 1⟩, ⟨2, 2⟩]⟩, ⟨4, 2⟩, 4, .empty⟩ := by
    decide +kernel
  exact ⟨_, by decide +kernel, h, allocate_sound h⟩

end Allocator

end PixelBuffer
