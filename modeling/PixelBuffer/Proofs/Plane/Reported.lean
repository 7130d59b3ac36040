import PixelBuffer.Proofs.Handle.Codec
import PixelBuffer.Proofs.Plane.Alike
import PixelBuffer.Proofs.Plane.Consecutive

/-!
# Planes that a block reports

A block that reports as many planes as the format has is looked at plane by plane. What is wrong
with a plane depends on the plane alone (`Handle.PlaneFault`), though its descriptor may have been
measured for an earlier one, and the first plane with a fault decides (`Handle.Reports`). Of the
integers nothing else is read than the number of planes, their offsets and their sizes: two handles
that agree on these are searched alike, wherever the positions of the files stand
(`Handle.sameExtents`). `Handle.findPlanes_reported` puts this together.
-/

namespace PixelBuffer

namespace Handle

variable {handle : Handle} {platform : Platform} {geometry : FormatGeometry} {size : Size}

/-! ## One plane -/

/-- The number of planes that the block of a handle reports. -/
def reportedCount (handle : Handle) : Nat :=
  (wordAt handle.ints 5).toNat

/-- The first byte of a plane as the block of a handle reports it. -/
def reportedOffset (handle : Handle) (index : Nat) : Nat :=
  (wordAt handle.ints (10 + index)).toNat

/-- The bytes of a plane as the block of a handle reports them. -/
def reportedSize (handle : Handle) (index : Nat) : Nat :=
  (wordAt handle.ints (14 + index)).toNat

/-- What is wrong with a plane that the block of a handle reports: it has no descriptor, its
descriptor cannot be sought, or the plane ends behind the end of the file. -/
inductive PlaneFault (handle : Handle) (platform : Platform) (index : Nat) : Failure → Prop
  | missing (absent : handle.descriptors[handle.sourceIndex index]? = none) :
      PlaneFault handle platform index (.layout (.missingDescriptor index))
  | unseekable {descriptor : Descriptor}
      (source : handle.descriptors[handle.sourceIndex index]? = some descriptor)
      (pipe : platform.file? descriptor = some .pipe) :
      PlaneFault handle platform index (.io (.system Errno.illegalSeek))
  | overrun {descriptor : Descriptor} {length : FileLength} {stop backing : UInt64}
      (source : handle.descriptors[handle.sourceIndex index]? = some descriptor)
      (memory : platform.file? descriptor = some (.memory length))
      (stop_eq : stop.toNat = handle.reportedOffset index + handle.reportedSize index)
      (backing_eq : backing.toNat = length.val) (behind : backing < stop) :
      PlaneFault handle platform index (.layout (.overrun index stop backing))

/-- A site is where the block of a handle reports a plane, and the plane ends within its file. -/
structure PlaneSite (handle : Handle) (platform : Platform) (index : Nat) (site : Site) :
    Prop where
  source : handle.descriptors[handle.sourceIndex index]? = some site.descriptor
  offset_eq : site.offset.toNat = handle.reportedOffset index
  length_eq : site.length.toNat = handle.reportedSize index
  within : ∃ length, platform.file? site.descriptor = some (.memory length) ∧
    handle.reportedOffset index + handle.reportedSize index ≤ length.val

/-- A plane with a site has no fault. -/
theorem PlaneSite.no_fault {index : Nat} {site : Site}
    (h : handle.PlaneSite platform index site) {failure : Failure} :
    ¬ handle.PlaneFault platform index failure := by
  obtain ⟨length, hmemory, hwithin⟩ := h.within
  intro hfault
  cases hfault with
  | missing absent => cases absent.symm.trans h.source
  | unseekable source pipe =>
      cases source.symm.trans h.source
      cases pipe.symm.trans hmemory
  | overrun source memory stop_eq backing_eq behind =>
      cases source.symm.trans h.source
      cases memory.symm.trans hmemory
      rw [UInt64.lt_iff_toNat_lt, stop_eq, backing_eq] at behind
      exact Nat.not_lt.mpr hwithin behind

/-- A plane has one fault at most. -/
theorem PlaneFault.unique {index : Nat} {failure other : Failure}
    (h : handle.PlaneFault platform index failure)
    (hother : handle.PlaneFault platform index other) : failure = other := by
  cases h with
  | missing absent =>
      cases hother with
      | missing => rfl
      | unseekable source => cases absent.symm.trans source
      | overrun source => cases absent.symm.trans source
  | unseekable source pipe =>
      cases hother with
      | missing absent => cases absent.symm.trans source
      | unseekable => rfl
      | overrun source' memory =>
          cases source.symm.trans source'
          cases pipe.symm.trans memory
  | overrun source memory stop_eq backing_eq =>
      cases hother with
      | missing absent => cases absent.symm.trans source
      | unseekable source' pipe =>
          cases source.symm.trans source'
          cases pipe.symm.trans memory
      | overrun source' memory' stop_eq' backing_eq' =>
          cases source.symm.trans source'
          cases memory.symm.trans memory'
          rw [UInt64.toNat_inj.mp (stop_eq.trans stop_eq'.symm),
            UInt64.toNat_inj.mp (backing_eq.trans backing_eq'.symm)]

/-- The descriptor of a reported plane stands where the source index says. -/
theorem planeDescriptor?_atPlaces (hblock : handle.HasBlock) {index : Nat}
    (hindex : index < handle.reportedCount) :
    handle.planeDescriptor? (.atPlaces handle.ints) index =
      handle.descriptors[handle.sourceIndex index]? := by
  have hvendor : handle.vendor? ≠ none := fun hnone => vendor?_eq_none_iff.mp hnone hblock
  have hreported : index < (VendorReport.atPlaces handle.ints).planeCount.toNat := hindex
  rw [planeDescriptor?_eq, if_pos hreported, sourceIndex]
  by_cases hone : handle.descriptors.length = 1 <;> simp [hone, hvendor]

/-- A reported plane that has a slot is the record there. -/
theorem plane?_atPlaces {index : Nat} (hindex : index < handle.reportedCount)
    (hslot : index < vendorSlots) :
    (VendorReport.atPlaces handle.ints).plane? index =
      some ⟨wordAt handle.ints (6 + index), wordAt handle.ints (10 + index),
        wordAt handle.ints (14 + index)⟩ := by
  unfold VendorReport.plane?
  have hmin : index < min (VendorReport.atPlaces handle.ints).planeCount.toNat vendorSlots :=
    Nat.lt_min.mpr ⟨hindex, hslot⟩
  rw [if_pos hmin]
  simp [VendorReport.atPlaces, List.getElem?_range hslot]

/-- The site of a reported plane, or what is wrong with it. -/
def reportedSite (handle : Handle) (backing : Descriptor → Except IoFault UInt64) (index : Nat) :
    Except Failure Site :=
  match handle.descriptors[handle.sourceIndex index]? with
  | none => .error (.layout (.missingDescriptor index))
  | some descriptor =>
      Site.locate backing index descriptor (wordAt handle.ints (10 + index)).toUInt64
        (wordAt handle.ints (14 + index)).toUInt64

/-- Reported planes that have slots are looked at one after another. -/
theorem reportedSites_succ {backing : Descriptor → Except IoFault UInt64}
    (hblock : handle.HasBlock) {expected remaining index : Nat}
    (hindex : index < handle.reportedCount) (hslot : index < vendorSlots) :
    handle.reportedSites backing (.atPlaces handle.ints) expected (remaining + 1) index =
      match handle.reportedSite backing index with
      | .error failure => .error failure
      | .ok site => (handle.reportedSites backing (.atPlaces handle.ints) expected remaining
          (index + 1)).map (site :: ·) := by
  rw [reportedSites, plane?_atPlaces hindex hslot]
  simp only [planeDescriptor?_atPlaces hblock hindex, reportedSite]
  cases handle.descriptors[handle.sourceIndex index]? <;> rfl

/-- A reported plane of an open handle has a fault, for which it is refused, or a site. -/
theorem reportedSite_cases (hopen : handle.IsOpen platform) (index : Nat) :
    (∃ failure, handle.PlaneFault platform index failure ∧
        handle.reportedSite platform.backing index = .error failure) ∨
      ∃ site, handle.PlaneSite platform index site ∧
        handle.reportedSite platform.backing index = .ok site := by
  unfold reportedSite
  cases hsource : handle.descriptors[handle.sourceIndex index]? with
  | none => exact .inl ⟨_, .missing hsource, rfl⟩
  | some descriptor =>
      obtain ⟨file, hfile⟩ := hopen descriptor (List.mem_of_getElem? hsource)
      cases file with
      | pipe =>
          refine .inl ⟨_, .unseekable hsource hfile, ?_⟩
          simp only [Site.locate, Platform.backing_pipe hfile]
      | memory length =>
          have hbacking : platform.backing descriptor = .ok (UInt64.ofNat length.val) :=
            Platform.backing_eq_ok_iff.mpr ⟨length, hfile, rfl⟩
          have hvalue := FileLength.toNat_ofNat length
          have hbytes := length.toNat_ofNat_lt
          have hend : (wordAt handle.ints (10 + index)).toUInt64.toNat +
              (wordAt handle.ints (14 + index)).toUInt64.toNat =
                handle.reportedOffset index + handle.reportedSize index := by
            rw [UInt32.toNat_toUInt64, UInt32.toNat_toUInt64]
            rfl
          -- the sum of two short words is below the longest word
          have hshort : handle.reportedOffset index + handle.reportedSize index < 2 ^ 64 - 1 := by
            have hoffset := (wordAt handle.ints (10 + index)).toNat_lt
            have hsize := (wordAt handle.ints (14 + index)).toNat_lt
            unfold reportedOffset reportedSize
            omega
          by_cases hbehind : length.val < handle.reportedOffset index + handle.reportedSize index
          · have hstop := UInt64.toNat_ofNat_of_lt' (Nat.lt_trans hshort (by decide))
            refine .inl ⟨_, .overrun hsource hfile hstop hvalue ?_, ?_⟩
            · rwa [UInt64.lt_iff_toNat_lt, hstop, hvalue]
            · simp only [Site.locate, hbacking]
              rw [checkBounds_eq_error hbytes (by rwa [hend, hvalue]), hend,
                Nat.min_eq_left hshort.le]
          · have hwithin := Nat.not_lt.mp hbehind
            refine .inr ⟨_, ⟨hsource, ?_, ?_, length, hfile, hwithin⟩,
              locate_eq_ok_iff.mpr ⟨rfl, _, hbacking, ?_⟩⟩
            · exact UInt32.toNat_toUInt64 _
            · exact UInt32.toNat_toUInt64 _
            · rwa [checkBounds_eq_ok_iff hbytes, hvalue, hend]

/-! ## All planes -/

/-- What looking at the reported planes from `index` on comes to: a site for each plane, or the
fault of the first plane that has one. -/
inductive Reports (handle : Handle) (platform : Platform) (remaining index : Nat) :
    Except Failure (List Site) → Prop
  | fits {sites : List Site} (length_eq : sites.length = remaining)
      (exact : ∀ (place : Nat) site, sites[place]? = some site →
        handle.PlaneSite platform (index + place) site) :
      Reports handle platform remaining index (.ok sites)
  | faults {place : Nat} {failure : Failure} (place_lt : place < remaining)
      (fault : handle.PlaneFault platform (index + place) failure)
      (first : ∀ earlier < place, ∀ other,
        ¬ handle.PlaneFault platform (index + earlier) other) :
      Reports handle platform remaining index (.error failure)

/-- A plane that has a site goes before those that are looked at after it. -/
theorem Reports.cons {remaining index : Nat} {site : Site} {outcome : Except Failure (List Site)}
    (hsite : handle.PlaneSite platform index site)
    (h : handle.Reports platform remaining (index + 1) outcome) :
    handle.Reports platform (remaining + 1) index (outcome.map (site :: ·)) := by
  have hshift : ∀ place, index + 1 + place = index + (place + 1) := by omega
  cases h with
  | fits length_eq exact =>
      refine .fits (congrArg (· + 1) length_eq) fun place other hother => ?_
      cases place with
      | zero =>
          cases hother
          exact hsite
      | succ place =>
          rw [← hshift]
          exact exact place other hother
  | faults place_lt fault first =>
      rw [hshift] at fault
      refine .faults (Nat.succ_lt_succ place_lt) fault fun earlier hearlier other => ?_
      cases earlier with
      | zero => exact hsite.no_fault
      | succ earlier =>
          rw [← hshift]
          exact first earlier (Nat.lt_of_succ_lt_succ hearlier) other

/-- The planes that a block reports and has slots for are looked at one after another, up to the
first fault. -/
theorem reportedSites_reports (hblock : handle.HasBlock) (hopen : handle.IsOpen platform)
    {expected remaining index : Nat} (hcount : index + remaining ≤ handle.reportedCount)
    (hslots : index + remaining ≤ vendorSlots) :
    handle.Reports platform remaining index (handle.reportedSites platform.backing
      (.atPlaces handle.ints) expected remaining index) := by
  induction remaining generalizing index with
  | zero => exact .fits rfl (by simp)
  | succ remaining ih =>
      rw [reportedSites_succ hblock (by omega) (by omega)]
      rcases reportedSite_cases hopen index with ⟨failure, hfault, heq⟩ | ⟨site, hsite, heq⟩
      · rw [heq]
        exact .faults (Nat.zero_lt_succ _) hfault fun _ h => absurd h (Nat.not_lt_zero _)
      · rw [heq]
        exact (ih (by omega) (by omega)).cons hsite

/-- A handle whose block reports as many planes as the format has is searched plane by plane. -/
theorem sites_reports (hmem : geometry ∈ FormatGeometry.table) (hblock : handle.HasBlock)
    (hopen : handle.IsOpen platform) (hcount : handle.reportedCount = geometry.planeCount) :
    handle.Reports platform handle.reportedCount 0
      (handle.sites platform.backing geometry size) := by
  have hfew := (FormatGeometry.planeCount_of_mem_table hmem).2
  have hsites : handle.sites platform.backing geometry size =
      handle.reportedSites platform.backing (.atPlaces handle.ints) geometry.planeCount
        handle.reportedCount 0 := by
    rw [Handle.sites, vendor?_eq, if_pos hblock]
    exact if_neg (not_not.mpr hcount)
  have hslots : 0 + handle.reportedCount ≤ vendorSlots := by
    rw [Nat.zero_add, hcount]
    exact Nat.le_succ_of_le hfew
  rw [hsites]
  exact reportedSites_reports hblock hopen (Nat.le_of_eq (Nat.zero_add _)) hslots

/-! ## A whole search -/

/-- A plane is where the block of a handle reports it, in the file of its descriptor. -/
structure FoundAsReported (handle : Handle) (before after : Platform) (index : Nat)
    (plane : Plane) : Prop where
  offset_eq : plane.offset.toNat = handle.reportedOffset index
  length_eq : plane.length.toNat = handle.reportedSize index
  leads : ∃ descriptor, handle.descriptors[handle.sourceIndex index]? = some descriptor ∧
    (before.openFile? descriptor).isSome ∧
    after.shareOpenFile? plane.share = before.openFile? descriptor

/-- Planes that a search finds at reported sites are found as they are reported. -/
theorem Finds.reported {before after : Platform} {planes : List Plane} {remaining : Nat}
    (h : handle.Finds geometry size before (.ok planes) after)
    (hsites : handle.Reports before remaining 0 (handle.sites before.backing geometry size)) :
    planes.length = remaining ∧ ∀ (index : Nat) plane, planes[index]? = some plane →
      handle.FoundAsReported before after index plane := by
  cases h with
  | @found sites shareOf _ _ _ decided _ leads _ =>
  rw [decided] at hsites
  cases hsites with
  | fits length_eq exact =>
  refine ⟨(List.length_map _).trans length_eq, fun index plane hplane => ?_⟩
  rw [List.getElem?_map, Option.map_eq_some_iff] at hplane
  obtain ⟨site, hsite, rfl⟩ := hplane
  have hexact := exact index site hsite
  rw [Nat.zero_add] at hexact
  obtain ⟨number, hnumber, hshare⟩ := leads site (List.mem_of_getElem? hsite)
  exact ⟨hexact.offset_eq, hexact.length_eq, _, hexact.source,
    Option.isSome_of_eq_some hnumber, hshare.trans hnumber.symm⟩

/-- Blocks with the same number of planes, the same offsets and the same sizes report alike. -/
theorem sameExtents {other : Handle}
    (hcount : wordAt handle.ints 5 = wordAt other.ints 5)
    (hwords : ∀ index < min handle.reportedCount vendorSlots,
      wordAt handle.ints (10 + index) = wordAt other.ints (10 + index) ∧
        wordAt handle.ints (14 + index) = wordAt other.ints (14 + index)) :
    (VendorReport.atPlaces handle.ints).SameExtents (.atPlaces other.ints) := by
  have hsame : other.reportedCount = handle.reportedCount := congrArg UInt32.toNat hcount.symm
  refine ⟨hcount, fun index => ?_⟩
  by_cases hindex : index < min handle.reportedCount vendorSlots
  · obtain ⟨hoffset, hsize⟩ := hwords index hindex
    obtain ⟨hreported, hslot⟩ := Nat.lt_min.mp hindex
    rw [plane?_atPlaces hreported hslot, plane?_atPlaces (hsame ▸ hreported) hslot]
    simp only [Option.map_some, hoffset, hsize]
  · have hnone : ∀ {handle' : Handle}, handle'.reportedCount = handle.reportedCount →
        (VendorReport.atPlaces handle'.ints).plane? index = none := by
      intro handle' heq
      have hlt : ¬ index < min (VendorReport.atPlaces handle'.ints).planeCount.toNat
          vendorSlots := by
        rwa [show (VendorReport.atPlaces handle'.ints).planeCount.toNat = handle.reportedCount
          from heq]
      exact if_neg hlt
    rw [hnone rfl, hnone hsame]

/-- When the block of a handle reports another number of planes than the format has, this is the
failure, and nothing is touched. Otherwise a search fails for the first reported plane that has a
fault: no descriptor, one that cannot be sought, or an end behind the file. Without one it finds
each plane as it is reported. Nothing else decides: neither the other words of the block and the
integers behind it, nor the size, nor the positions of the open files. -/
theorem findPlanes_reported (hmem : geometry ∈ FormatGeometry.table) (hblock : handle.HasBlock)
    {world : World} (hopen : handle.IsOpen world.platform) (size : Size) :
    let run := handle.findPlanes geometry size world
    (handle.reportedCount ≠ geometry.planeCount →
      run = (.error (.layout (.planeCount handle.reportedCount geometry.planeCount)), world)) ∧
    (handle.reportedCount = geometry.planeCount →
      (∀ failure, run.1 = .error failure ↔ ∃ index < geometry.planeCount,
        handle.PlaneFault world.platform index failure ∧
          ∀ earlier < index, ∀ other, ¬ handle.PlaneFault world.platform earlier other) ∧
      ((∀ index < geometry.planeCount, ∀ failure,
          ¬ handle.PlaneFault world.platform index failure) →
        ∃ planes, run.1 = .ok planes ∧ planes.length = geometry.planeCount ∧
          ∀ (index : Nat) plane, planes[index]? = some plane →
            handle.FoundAsReported world.platform run.2.platform index plane)) ∧
    ∀ (other : Handle) (size' : Size) (world' : World), other.HasBlock →
      handle.descriptors = other.descriptors →
      wordAt handle.ints 5 = wordAt other.ints 5 →
      (∀ index < min handle.reportedCount vendorSlots,
        wordAt handle.ints (10 + index) = wordAt other.ints (10 + index) ∧
          wordAt handle.ints (14 + index) = wordAt other.ints (14 + index)) →
      world.platform.SameButPositions world'.platform →
      run.1 = (other.findPlanes geometry size' world').1 ∧
        run.2.platform.SameButPositions (other.findPlanes geometry size' world').2.platform := by
  intro run
  have hvendor : ∀ {handle' : Handle}, handle'.HasBlock →
      handle'.vendor? = some (.atPlaces handle'.ints) := fun {handle'} h => by
    rw [vendor?_eq, if_pos h]
  refine ⟨fun hcount => ?_, fun hcount => ?_, ?_⟩
  · have hreported : (VendorReport.atPlaces handle.ints).planeCount.toNat ≠
        geometry.planeCount := hcount
    show handle.findPlanes geometry size world = _
    simp only [findPlanes, hvendor hblock, findReported, if_pos hreported, bind_apply, pure_apply]
    rfl
  · have hfinds : handle.Finds geometry size world.platform run.1 run.2.platform :=
      (findPlanes_finds hopen.number_lt).2
    have hsites : handle.Reports world.platform handle.reportedCount 0
        (handle.sites world.platform.backing geometry size) :=
      sites_reports hmem hblock hopen hcount
    rw [← hcount]
    generalize run.1 = result, run.2.platform = after at hfinds
    have hreports := hsites
    generalize hdecided : handle.sites world.platform.backing geometry size = outcome at hreports
    cases hreports with
    | fits length_eq exact =>
        obtain ⟨planes, rfl⟩ := hfinds.eq_ok hdecided
        refine ⟨fun failure => ⟨fun h => (nomatch h), ?_⟩, fun _ =>
          ⟨planes, rfl, hfinds.reported hsites⟩⟩
        rintro ⟨index, hindex, hfault, -⟩
        have hsite := exact index _ (List.getElem?_eq_getElem (length_eq ▸ hindex))
        rw [Nat.zero_add] at hsite
        exact absurd hfault hsite.no_fault
    | @faults place failure place_lt fault first =>
        obtain rfl := hfinds.eq_error hdecided
        rw [Nat.zero_add] at fault
        simp only [Nat.zero_add] at first
        refine ⟨fun other => ⟨fun h => ?_, ?_⟩, fun hnone => absurd fault (hnone place place_lt _)⟩
        · cases h
          exact ⟨place, place_lt, fault, first⟩
        · rintro ⟨index, hindex, hfault, hfirst⟩
          -- neither of two first faults is before the other
          rcases Nat.lt_trichotomy place index with hlt | rfl | hlt
          · exact absurd fault (hfirst place hlt _)
          · rw [fault.unique hfault]
          · exact absurd hfault (first index hlt _)
  · intro other size' world' hother hdescriptors hcount hwords hworld
    exact findPlanes_alike hdescriptors (hvendor hblock) (hvendor hother)
      (sameExtents hcount hwords) geometry size size' world world' hworld

/-- A file of sixteen bytes and a pipe, and a block of two planes: the first one fits the file, and
the second one, which would end behind any file, is behind the pipe. -/
theorem findPlanes_reported_pipe :
    let opened := ({} : Platform).accept ⟨[.memory 16 7, .pipe],
      VendorBlock.encode ⟨9, 4, 4, .nv12, [⟨4, 0, 16⟩, ⟨4, 16, 4294967295⟩]⟩⟩
    let world : World := { platform := opened.2 }
    ∃ geometry ∈ FormatGeometry.table, opened.1.HasBlock ∧ opened.1.IsOpen world.platform ∧
      opened.1.reportedCount = geometry.planeCount ∧
      (opened.1.findPlanes geometry ⟨4, 4⟩ world).1 =
        .error (.io (.system Errno.illegalSeek)) := by
  intro opened world
  have hmem : (⟨"NV12", .nv12, 2, [⟨2, 1⟩, ⟨2, 2⟩]⟩ : FormatGeometry) ∈
      FormatGeometry.table := by decide
  have hblock : opened.1.HasBlock := by decide
  have hopen : opened.1.IsOpen world.platform := Platform.accept_isOpen _ _
  obtain ⟨-, hequal, -⟩ := findPlanes_reported hmem hblock hopen ⟨4, 4⟩
  refine ⟨_, hmem, hblock, hopen, by decide, ((hequal (by decide)).1 _).mpr ?_⟩
  have hfirst : opened.1.PlaneSite world.platform 0 ⟨⟨0⟩, 0, 16⟩ :=
    ⟨by decide, by decide, by decide, 16, by decide, by decide⟩
  refine ⟨1, by decide, .unseekable (show _ = some (⟨1⟩ : Descriptor) by decide) (by decide),
    fun earlier hearlier other => ?_⟩
  obtain rfl : earlier = 0 := Nat.lt_one_iff.mp hearlier
  exact hfirst.no_fault

end Handle

end PixelBuffer
