import PixelBuffer.Proofs.Handle.Vendor
import PixelBuffer.Proofs.Packing
import PixelBuffer.Proofs.Plane.Search

/-!
# Two ways to find the same planes

A handle with a block has its planes where the block says; without one, they are counted out from
the format. When the block describes planes packed with tight rows, both ways decide alike about one
descriptor (`Handle.sites_packed_eq`): the words of the block are those that are counted out, plane
by plane, so that the same plane ends behind the file. Searches that decide alike find the same, up
to the names of the duplicates that they made (`Handle.Finds.same`), and so do the searches of the
two handles (`Handle.findPlanes_packed_same`).
-/

namespace PixelBuffer

/-! ## Searches with the same result -/

/-- The number of the file behind a share. -/
def Platform.shareFileNumber? (platform : Platform) (share : Share) : Option Nat :=
  (platform.descriptorOf? share).bind platform.fileNumber?

/-- Two planes, each on its platform, are the same bytes of one file. -/
structure Plane.Same (now other : Platform) (plane plane' : Plane) : Prop where
  offset_eq : plane.offset = plane'.offset
  length_eq : plane.length = plane'.length
  file_eq : ∃ number, now.shareFileNumber? plane.share = some number ∧
    other.shareFileNumber? plane'.share = some number

/-- Two searches, each seen on the platform that it left, found the same: the same failure, or the
same planes with the same sharing of duplicates. -/
inductive SameFound (now other : Platform) :
    Except Failure (List Plane) → Except Failure (List Plane) → Prop
  | failed (failure : Failure) : SameFound now other (.error failure) (.error failure)
  | found {planes planes' : List Plane}
      (same : List.Forall₂ (Plane.Same now other) planes planes')
      (sharing : ∀ i j : Nat,
        planes[i]?.map Plane.share = planes[j]?.map Plane.share ↔
          planes'[i]?.map Plane.share = planes'[j]?.map Plane.share) :
      SameFound now other (.ok planes) (.ok planes')

namespace Handle

variable {handle other : Handle} {geometry : FormatGeometry} {size : Size}
  {before after after' : Platform} {result result' : Except Failure (List Plane)}

/-- Planes at sites share a duplicate exactly when the sites share a descriptor. -/
theorem share_eq_iff {sites : List Site} {shareOf : Descriptor → Share}
    (apart : ∀ site ∈ sites, ∀ other ∈ sites,
      shareOf site.descriptor = shareOf other.descriptor → site.descriptor = other.descriptor)
    (i j : Nat) :
    (sites.map (Site.toPlane shareOf))[i]?.map Plane.share =
        (sites.map (Site.toPlane shareOf))[j]?.map Plane.share ↔
      sites[i]?.map Site.descriptor = sites[j]?.map Site.descriptor := by
  rw [List.getElem?_map, List.getElem?_map]
  cases hi : sites[i]? with
  | none => cases hj : sites[j]? <;> simp
  | some site =>
      cases hj : sites[j]? with
      | none => simp
      | some site' =>
          simp only [Option.map_some, Option.some.injEq]
          constructor
          · intro hshare
            exact apart site (List.mem_of_getElem? hi) site' (List.mem_of_getElem? hj) hshare
          · intro hdescriptor
            exact congrArg shareOf hdescriptor

/-- The share of a plane that was found leads to the file that its site did. -/
theorem shareFileNumber?_eq {opened rewound : List Nat} {held : List Share} {share : Share}
    {descriptor : Descriptor} {number : Nat} (grown : before.Grown after opened rewound held)
    (hopened : before.openFile? descriptor = some number)
    (hshare : after.shareOpenFile? share = some number) :
    after.shareFileNumber? share = before.fileNumber? descriptor := by
  obtain ⟨own, hown, hduplicate⟩ := Option.bind_eq_some_iff.mp hshare
  unfold Platform.shareFileNumber?
  rw [hown, Option.bind_some]
  exact grown.fileNumber?_congr (hduplicate.trans hopened.symm)

/-- Two searches that decide alike find the same, also on different platforms, when each descriptor
of the first handle leads to the file that it leads to on the other platform. -/
theorem Finds.same_of_files {before' : Platform}
    (h : handle.Finds geometry size before result after)
    (h' : other.Finds geometry size before' result' after')
    (hsites : handle.sites before.backing geometry size =
      other.sites before'.backing geometry size)
    (hfiles : ∀ descriptor ∈ handle.descriptors,
      before.fileNumber? descriptor = before'.fileNumber? descriptor) :
    SameFound after after' result result' := by
  cases h with
  | failed decided =>
      cases h' with
      | failed decided' =>
          cases (decided.symm.trans hsites).trans decided'
          exact .failed _
      | found decided' => cases (decided.symm.trans hsites).trans decided'
  | @found sites shareOf _ _ _ decided grown leads apart =>
      cases h' with
      | failed decided' => cases (decided.symm.trans hsites).trans decided'
      | @found sites' shareOf' _ _ _ decided' grown' leads' apart' =>
          cases (decided.symm.trans hsites).trans decided'
          refine .found ?_ fun i j => ?_
          · rw [List.forall₂_map_left_iff, List.forall₂_map_right_iff, List.forall₂_same]
            intro site hsite
            obtain ⟨number, hopened, hshare⟩ := leads site hsite
            obtain ⟨number', hopened', hshare'⟩ := leads' site hsite
            have hfile := shareFileNumber?_eq grown hopened hshare
            have hfile' := shareFileNumber?_eq grown' hopened' hshare'
            obtain ⟨_, hfits⟩ := sites_eq_ok decided
            obtain ⟨index, hindex⟩ := List.getElem?_of_mem hsite
            obtain ⟨hsource, bytes, hbacking, -⟩ := hfits index site hindex
            obtain ⟨length, hmemory, -⟩ := Platform.backing_eq_ok_iff.mp hbacking
            obtain ⟨file, hnumber, -⟩ := Platform.file?_eq_some hmemory
            have hnumber' := (hfiles _ (List.mem_of_getElem? hsource)).symm.trans hnumber
            exact ⟨rfl, rfl, file, hfile.trans hnumber, hfile'.trans hnumber'⟩
          · rw [share_eq_iff apart, share_eq_iff apart']

/-- Two searches from one platform that decide alike find the same. -/
theorem Finds.same (h : handle.Finds geometry size before result after)
    (h' : other.Finds geometry size before result' after')
    (hsites : handle.sites before.backing geometry size =
      other.sites before.backing geometry size) :
    SameFound after after' result result' :=
  h.same_of_files h' hsites fun _ _ => rfl

/-! ## Packed planes -/

variable {backing : Descriptor → Except IoFault UInt64} {descriptor : Descriptor}
  {width height : UInt32}

/-- Reading back planes that were placed with tight rows decides as counting them out does, from any
plane on. -/
theorem reportedSites_eq_consecutiveSites {report : VendorReport} {bytes : UInt64}
    {planes : List PlaneGeometry} {records : List PlaneRecord} {expected index : Nat}
    {start stop : UInt64}
    (hplaced : placePlanes? geometry.pixelsPerGroup width height 1 planes start =
      some (records, stop))
    (hbacking : backing descriptor = .ok bytes)
    (hrecords : ∀ plane < records.length, report.plane? (index + plane) = records[plane]?)
    (hdescriptors : ∀ plane < records.length,
      handle.planeDescriptor? report (index + plane) = some descriptor) :
    handle.reportedSites backing report expected records.length index =
      consecutiveSites geometry ⟨width, height⟩ descriptor bytes planes index start := by
  induction planes generalizing records index start with
  | nil =>
      cases hplaced
      rfl
  | cons plane rest ih =>
      obtain ⟨record, placed, next, rfl, hplaces, hrest⟩ :=
        placePlanes?_cons_eq_some_iff.mp hplaced
      -- the words of the record are the numbers that are counted out
      have hoffset_eq : record.offset.toUInt64 = start := by
        rw [← UInt64.toNat_inj, UInt32.toNat_toUInt64]
        exact hplaces.offset_eq
      have hlength_eq : record.size.toUInt64 = plane.bytes height record.stride := by
        rw [← UInt64.toNat_inj, UInt32.toNat_toUInt64]
        exact hplaces.size_eq
      have hnext : word64? (start.toNat + (plane.bytes height record.stride).toNat) = some next := by
        rw [word64?_eq_some_iff, ← hplaces.size_eq]
        exact hplaces.next_eq
      have htight : plane.tightBytes? geometry.pixelsPerGroup ⟨width, height⟩ =
          some (plane.bytes height record.stride) := by
        unfold PlaneGeometry.tightBytes?
        rw [hplaces.stride_eq]
        rfl
      have hrecord : report.plane? index = some record := hrecords 0 (Nat.zero_lt_succ _)
      have hdescriptor : handle.planeDescriptor? report index = some descriptor :=
        hdescriptors 0 (Nat.zero_lt_succ _)
      rw [List.length_cons, reportedSites, consecutiveSites]
      simp only [hrecord, hdescriptor, htight, Site.locate, hbacking, hoffset_eq, hlength_eq, hnext]
      cases checkBounds index start (plane.bytes height record.stride) bytes with
      | error failure => rfl
      | ok _ =>
          dsimp only
          rw [ih hrest]
          · intro later hlater
            have hnext := hrecords (later + 1) (Nat.succ_lt_succ hlater)
            rwa [← Nat.add_assoc, Nat.add_right_comm] at hnext
          · intro later hlater
            have hnext := hdescriptors (later + 1) (Nat.succ_lt_succ hlater)
            rwa [← Nat.add_assoc, Nat.add_right_comm] at hnext

variable {layout : PackedLayout} {descriptors : List Descriptor} {ints : List Int32}

/-- With at most one descriptor, a block of planes packed with tight rows decides as counting out
the planes of the format does, whatever is behind the descriptor. -/
theorem sites_packed_eq (hmem : geometry ∈ FormatGeometry.table)
    (hpacked : geometry.pack? width height 1 = some layout) (hone : descriptors.length ≤ 1)
    (block : VendorBlock) (hplanes : block.planes = layout.planes)
    (hints : ¬ (⟨descriptors, ints⟩ : Handle).HasBlock) :
    (⟨descriptors, block.encode⟩ : Handle).sites backing geometry ⟨width, height⟩ =
      (⟨descriptors, ints⟩ : Handle).sites backing geometry ⟨width, height⟩ := by
  have hvendor := Handle.vendor?_encode descriptors block
  have hnone := Handle.vendor?_eq_none_iff.mpr hints
  obtain ⟨hsome, hfew⟩ := FormatGeometry.planeCount_of_mem_table hmem
  obtain ⟨hlength, -, -⟩ := FormatGeometry.pack?_eq_some hpacked
  obtain ⟨stop, hplaced, -⟩ := FormatGeometry.pack?_eq_some_iff.mp hpacked
  rw [← hplanes] at hlength hplaced
  have hslots : block.planes.length ≤ vendorSlots := by
    have : vendorSlots = 4 := rfl
    omega
  have hcount := VendorBlock.planeCount_report hslots
  have hrecord : block.report.plane? 0 = some block.planes[0] := by
    rw [VendorBlock.plane?_report hslots, List.getElem?_eq_getElem]
  obtain ⟨more, hmore⟩ := Nat.exists_eq_succ_of_ne_zero (Nat.ne_of_gt hsome)
  simp only [Handle.sites, hvendor, hnone, hcount, hlength, ne_eq, not_true_eq_false, if_false]
  cases descriptors with
  | nil =>
      -- no plane has a descriptor, the first one no more than any other
      have hdescriptor : (⟨[], block.encode⟩ : Handle).planeDescriptor? block.report 0 = none := by
        simp [planeDescriptor?]
      simp only [hmore, reportedSites, hrecord, hdescriptor, List.getElem?_nil]
  | cons descriptor rest =>
      obtain rfl : rest = [] := by
        rw [List.length_cons] at hone
        exact List.length_eq_zero_iff.mp (by omega)
      have hdescriptors : ∀ plane < block.planes.length,
          (⟨[descriptor], block.encode⟩ : Handle).planeDescriptor? block.report plane =
            some descriptor := by
        intro plane hplane
        show (if plane < block.report.planeCount.toNat then some descriptor else none) = _
        rw [hcount, if_pos hplane]
      rw [List.getElem?_cons_zero]
      cases hbacking : backing descriptor with
      | error fault =>
          simp only [hmore, reportedSites, hrecord, hdescriptors 0 (by omega), Site.locate,
            hbacking]
      | ok bytes =>
          simp only [hbacking]
          rw [← hlength]
          refine reportedSites_eq_consecutiveSites hplaced hbacking ?_ ?_
          · intro plane _
            rw [Nat.zero_add, VendorBlock.plane?_report hslots]
          · intro plane hplane
            rw [Nat.zero_add, hdescriptors plane hplane]

/-- A handle with at most one descriptor and a block of planes packed with tight rows has the same
planes as the handle of that descriptor without a block, or fails to have them in the same way. -/
theorem findPlanes_packed_same (hmem : geometry ∈ FormatGeometry.table)
    (hpacked : geometry.pack? width height 1 = some layout) (hone : descriptors.length ≤ 1)
    {world : World}
    (hold : ∀ descriptor ∈ descriptors,
      descriptor.number < world.platform.descriptors.size)
    (id : UInt32) (hints : ¬ (⟨descriptors, ints⟩ : Handle).HasBlock) :
    let block : VendorBlock := ⟨id, width, height, geometry.format, layout.planes⟩
    let reported :=
      (⟨descriptors, block.encode⟩ : Handle).findPlanes geometry ⟨width, height⟩ world
    let consecutive :=
      (⟨descriptors, ints⟩ : Handle).findPlanes geometry ⟨width, height⟩ world
    SameFound reported.2.platform consecutive.2.platform reported.1 consecutive.1 := by
  intro block reported consecutive
  have hreported := (@findPlanes_finds ⟨descriptors, block.encode⟩ geometry ⟨width, height⟩ world
    hold).2
  have hconsecutive := (@findPlanes_finds ⟨descriptors, ints⟩ geometry ⟨width, height⟩ world
    hold).2
  exact hreported.same hconsecutive (sites_packed_eq hmem hpacked hone block rfl hints)

/-- An image of two by two pixels whose second plane, of two bytes, begins at byte four. -/
def smallBlock : VendorBlock := ⟨9, 2, 2, .nv12, [⟨2, 0, 4⟩, ⟨2, 4, 2⟩]⟩

/-- A world with one descriptor, of a file of four bytes. -/
def shortFile : World where
  platform := (({} : Platform).create (.memory 4) 0).2

/-- In a file of four bytes, the second plane ends two bytes behind the end, both by the block and
without one. -/
theorem findPlanes_packed_same_short_file :
    ∃ geometry ∈ FormatGeometry.table,
      ((⟨[⟨0⟩], smallBlock.encode⟩ : Handle).findPlanes geometry ⟨2, 2⟩ shortFile).1 =
          .error (.layout (.overrun 1 6 4)) ∧
        SameFound
          ((⟨[⟨0⟩], smallBlock.encode⟩ : Handle).findPlanes geometry ⟨2, 2⟩ shortFile).2.platform
          ((⟨[⟨0⟩], [5]⟩ : Handle).findPlanes geometry ⟨2, 2⟩ shortFile).2.platform
          ((⟨[⟨0⟩], smallBlock.encode⟩ : Handle).findPlanes geometry ⟨2, 2⟩ shortFile).1
          ((⟨[⟨0⟩], [5]⟩ : Handle).findPlanes geometry ⟨2, 2⟩ shortFile).1 := by
  have hpacked : FormatGeometry.pack? ⟨"NV12", .nv12, 2, [⟨2, 1⟩, ⟨2, 2⟩]⟩ 2 2 1 =
      some ⟨[⟨2, 0, 4⟩, ⟨2, 4, 2⟩], 2, 4096⟩ := by decide
  have hone : [(⟨0⟩ : Descriptor)].length ≤ 1 := Nat.le_refl 1
  have hold : ∀ descriptor ∈ [(⟨0⟩ : Descriptor)],
      descriptor.number < shortFile.platform.descriptors.size := by decide
  have hints : ¬ (⟨[⟨0⟩], [5]⟩ : Handle).HasBlock := by decide
  refine ⟨⟨"NV12", .nv12, 2, [⟨2, 1⟩, ⟨2, 2⟩]⟩, by decide, by decide +kernel, ?_⟩
  exact findPlanes_packed_same (by decide) hpacked hone hold 9 hints

end Handle

end PixelBuffer
