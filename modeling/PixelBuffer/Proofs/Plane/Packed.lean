import PixelBuffer.Proofs.Handle.Vendor
import PixelBuffer.Proofs.Plane.Search

/-!
# Planes packed into one file

A handle with one descriptor and a block has its planes where the block says
(`Handle.sites_of_block`), and once they are found they all share one duplicate of the descriptor
(`Handle.Finds.packed`).
-/

namespace PixelBuffer

/-- The planes of a block whose handle has one descriptor lie where the block says, provided they
are as many as the format has and none ends behind the file. -/
theorem Handle.sites_of_block {backing : Descriptor → Except IoFault UInt64} {bytes : UInt64}
    {descriptor : Descriptor} (block : VendorBlock) (geometry : FormatGeometry) (size : Size)
    (hslots : block.planes.length ≤ vendorSlots) (hbytes : bytes.toNat < 2 ^ 64 - 1)
    (hbacking : backing descriptor = .ok bytes)
    (hfits : ∀ record ∈ block.planes,
      record.offset.toNat + record.size.toNat ≤ bytes.toNat) :
    (⟨[descriptor], block.encode⟩ : Handle).sites backing geometry size =
      if block.planes.length ≠ geometry.planeCount then
        .error (.layout (.planeCount block.planes.length geometry.planeCount))
      else .ok (block.planes.map fun record =>
        ⟨descriptor, record.offset.toUInt64, record.size.toUInt64⟩) := by
  have hvendor := Handle.vendor?_encode [descriptor] block
  have hcount := VendorBlock.planeCount_report hslots
  simp only [Handle.sites, hvendor, hcount]
  by_cases hplanes : block.planes.length ≠ geometry.planeCount
  · rw [if_pos hplanes, if_pos hplanes]
  · rw [if_neg hplanes, if_neg hplanes, Handle.reportedSites_eq_ok_iff]
    refine ⟨List.length_map _, fun index site hsite => ?_⟩
    rw [List.getElem?_map, Option.map_eq_some_iff] at hsite
    obtain ⟨record, hrecord, rfl⟩ := hsite
    have hindex : index < block.planes.length := (List.getElem?_eq_some_iff.mp hrecord).1
    rw [Nat.zero_add]
    refine ⟨⟨?_, record, ?_, rfl, rfl⟩, bytes, hbacking, ?_⟩
    · show (if index < block.report.planeCount.toNat then some descriptor else none) = _
      rw [hcount, if_pos hindex]
    · rw [VendorBlock.plane?_report hslots, hrecord]
    · have hle := hfits record (List.mem_of_getElem? hrecord)
      rw [checkBounds_eq_ok_iff hbytes]
      simpa using hle

/-- New memory is as long as it was asked for. -/
theorem Platform.backing_create (platform : Platform) (length : FileLength) (position : Nat) :
    (platform.create (.memory length) position).2.backing ⟨platform.descriptors.size⟩ =
      .ok (UInt64.ofNat length.val) := by
  refine Platform.backing_eq_ok_iff.mpr ⟨length, ?_, rfl⟩
  simp [Platform.file?, Platform.fileNumber?, Platform.openFile?, Platform.create]

/-- Planes that are found at the sites of packed planes, all behind one new descriptor, are packed
into one file. -/
theorem Handle.Finds.packed {handle : Handle} {geometry : FormatGeometry} {size : Size}
    {before after : Platform} {planes : List Plane} {layout : PackedLayout}
    {descriptor : Descriptor} {length : FileLength}
    (h : handle.Finds geometry size before (.ok planes) after)
    (hsome : layout.planes ≠ [])
    (hsites : handle.sites before.backing geometry size = .ok (layout.planes.map fun record =>
      ⟨descriptor, record.offset.toUInt64, record.size.toUInt64⟩))
    (hfile : before.file? descriptor = some (.memory length)) :
    planes.map (fun plane => (plane.offset, plane.length)) =
        layout.planes.map (fun record => (record.offset.toUInt64, record.size.toUInt64)) ∧
      ∃ share own, (∀ plane ∈ planes, plane.share = share) ∧
        after.descriptorOf? share = some own ∧ after.file? own = some (.memory length) := by
  cases h with
  | @found sites shareOf _ _ _ decided grown leads =>
      cases decided.symm.trans hsites
      obtain ⟨first, hfirst⟩ := List.exists_mem_of_ne_nil _ hsome
      obtain ⟨number, hopened, hleads⟩ := leads _ (List.mem_map_of_mem hfirst)
      obtain ⟨own, hown, hduplicate⟩ := Option.bind_eq_some_iff.mp hleads
      refine ⟨?_, shareOf descriptor, own, ?_, hown, ?_⟩
      · rw [List.map_map, List.map_map]
        rfl
      · intro plane hplane
        obtain ⟨site, hsite, rfl⟩ := List.mem_map.mp hplane
        obtain ⟨record, -, rfl⟩ := List.mem_map.mp hsite
        rfl
      · rw [Platform.file?_eq_bind] at hfile ⊢
        rw [hopened] at hfile
        rw [hduplicate]
        exact (grown.fileAt?_eq number).trans hfile

end PixelBuffer
