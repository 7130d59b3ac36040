import Mathlib.Algebra.Group.Nat.Defs
import Mathlib.Data.List.Basic
import PixelBuffer.Proofs.Platform.Growth
import PixelBuffer.Plane.Layout

/-!
# Where the planes of a handle lie

A search for planes duplicates, measures and logs on its way. What it decides needs none of that:
`Handle.sites` says from the handle, a format, a size and the length behind each descriptor where
the planes lie, or why there are none. `Proofs.Plane.Search` shows that a search decides just so.

A decided layout has one site for each plane of its format, in the file behind the descriptor that
`Handle.sourceIndex` names, and no site ends behind the end of its file (`Handle.sites_eq_ok`). Once
a frame of the size can be described, no decision blames the size (`Handle.sites_ofPlanes`).
-/

namespace PixelBuffer

/-- A run of bytes in the file behind a descriptor. -/
structure Site where
  descriptor : Descriptor
  offset : UInt64
  length : UInt64
deriving DecidableEq

namespace Site

/-- The plane at a site, in the share of a duplicate of its descriptor. -/
def toPlane (shareOf : Descriptor → Share) (site : Site) : Plane :=
  ⟨shareOf site.descriptor, site.offset, site.length⟩

/-- Planes at sites have the shares of the descriptors there. -/
theorem map_share_toPlane (shareOf : Descriptor → Share) (sites : List Site) :
    (sites.map (toPlane shareOf)).map Plane.share =
      sites.map fun site => shareOf site.descriptor := by
  rw [List.map_map]
  rfl

/-- The site of plane `index`, or what is wrong with it. -/
def locate (backing : Descriptor → Except IoFault UInt64) (index : Nat) (descriptor : Descriptor)
    (offset length : UInt64) : Except Failure Site :=
  match backing descriptor with
  | .error fault => .error (.io fault)
  | .ok bytes =>
      match checkBounds index offset length bytes with
      | .error failure => .error failure
      | .ok () => .ok ⟨descriptor, offset, length⟩

end Site

namespace Handle

/-- The sites that a vendor block reports from plane `index` on. -/
def reportedSites (backing : Descriptor → Except IoFault UInt64) (handle : Handle)
    (report : VendorReport) (expected : Nat) :
    (remaining index : Nat) → Except Failure (List Site)
  | 0, _ => .ok []
  | remaining + 1, index =>
      match report.plane? index with
      | none => .error (.layout (.planeCount report.planeCount.toNat expected))
      | some record =>
          match handle.planeDescriptor? report index with
          | none => .error (.layout (.missingDescriptor index))
          | some descriptor =>
              match Site.locate backing index descriptor record.offset.toUInt64
                  record.size.toUInt64 with
              | .error failure => .error failure
              | .ok site =>
                  (handle.reportedSites backing report expected remaining (index + 1)).map
                    (site :: ·)

/-- Sites one after another behind one descriptor of `bytes` bytes, from byte `offset` on. -/
def consecutiveSites (geometry : FormatGeometry) (size : Size) (descriptor : Descriptor)
    (bytes : UInt64) :
    List PlaneGeometry → (index : Nat) → (offset : UInt64) → Except Failure (List Site)
  | [], _, _ => .ok []
  | plane :: rest, index, offset =>
      match plane.tightBytes? geometry.pixelsPerGroup size with
      | none => .error size.invalid
      | some length =>
          match checkBounds index offset length bytes with
          | .error failure => .error failure
          | .ok () =>
              match word64? (offset.toNat + length.toNat) with
              | none => .error size.invalid
              | some next =>
                  (consecutiveSites geometry size descriptor bytes rest (index + 1) next).map
                    (⟨descriptor, offset, length⟩ :: ·)

/-- Where the planes of a handle lie, given the length behind each descriptor. -/
def sites (handle : Handle) (backing : Descriptor → Except IoFault UInt64)
    (geometry : FormatGeometry) (size : Size) : Except Failure (List Site) :=
  match handle.vendor? with
  | some report =>
      if report.planeCount.toNat ≠ geometry.planeCount then
        .error (.layout (.planeCount report.planeCount.toNat geometry.planeCount))
      else
        handle.reportedSites backing report geometry.planeCount report.planeCount.toNat 0
  | none =>
      match handle.descriptors[0]? with
      | none => .error (.layout (.missingDescriptor 0))
      | some descriptor =>
          match backing descriptor with
          | .error fault => .error (.io fault)
          | .ok bytes => consecutiveSites geometry size descriptor bytes geometry.planes 0 0

/-- The index of the descriptor behind a plane: the first one for every plane when there is only one
or the handle carries no block, and otherwise the one at the index of the plane. -/
def sourceIndex (handle : Handle) (index : Nat) : Nat :=
  if handle.descriptors.length = 1 ∨ handle.vendor? = none then 0 else index

end Handle

/-! ## Mapping an outcome -/

/-- A mapped outcome is a success exactly when the outcome is. -/
theorem except_map_eq_ok_iff {ε α β : Type} {outcome : Except ε α} {f : α → β} {value : β} :
    outcome.map f = .ok value ↔ ∃ before, outcome = .ok before ∧ f before = value := by
  cases outcome <;> simp [Except.map]

/-- A mapped outcome is a failure exactly when the outcome is the same failure. -/
theorem except_map_eq_error_iff {ε α β : Type} {outcome : Except ε α} {f : α → β} {error : ε} :
    outcome.map f = .error error ↔ outcome = .error error := by
  cases outcome <;> simp [Except.map]

namespace Failure

/-- A failure for the size or the code of a request. -/
def OfRequest : Failure → Prop
  | .invalidSize _ _ | .unsupportedFormat _ => True
  | _ => False

/-- A failure for the planes of a handle or for a call to the operating system. -/
def OfPlanes : Failure → Prop
  | .layout _ | .io _ => True
  | _ => False

/-- A failure for the planes is none for the request. -/
theorem OfPlanes.not_ofRequest {failure : Failure} (h : failure.OfPlanes) :
    ¬ failure.OfRequest := by
  cases failure with
  | layout fault => exact id
  | io fault => exact id
  | invalidSize | unsupportedFormat | allocationFailed | invalidHandle | freeFailed =>
      exact h.elim

end Failure

/-! ## Bounds -/

/-- The bounds of a plane hold exactly when its exact end is within the backing, provided the
backing is shorter than the longest word. -/
theorem checkBounds_eq_ok_iff {index : Nat} {offset length bytes : UInt64}
    (hbytes : bytes.toNat < 2 ^ 64 - 1) :
    checkBounds index offset length bytes = .ok () ↔
      offset.toNat + length.toNat ≤ bytes.toNat := by
  unfold checkBounds
  -- a sum that saturates is the longest word, which no backing reaches
  have hlt : bytes < saturatingAdd offset length ↔
      bytes.toNat < offset.toNat + length.toNat ∧ bytes.toNat < 2 ^ 64 - 1 := by
    rw [UInt64.lt_iff_toNat_lt, toNat_saturatingAdd, Nat.lt_min]
    exact Iff.rfl
  by_cases hover : bytes < saturatingAdd offset length
  · simp only [if_pos hover, reduceCtorEq, false_iff]
    rw [hlt] at hover
    omega
  · simp only [if_neg hover, true_iff]
    rw [hlt] at hover
    omega

/-- The length of a file is a word of its own value. -/
theorem FileLength.toNat_ofNat (length : FileLength) :
    (UInt64.ofNat length.val).toNat = length.val := by
  rw [UInt64.toNat_ofNat', Nat.mod_eq_of_lt (Nat.lt_trans length.isLt (by decide))]

/-- No file is as long as the longest word. -/
theorem FileLength.toNat_ofNat_lt (length : FileLength) :
    (UInt64.ofNat length.val).toNat < 2 ^ 64 - 1 := by
  rw [length.toNat_ofNat]
  exact Nat.lt_trans length.isLt (by decide)

namespace Handle

variable {backing : Descriptor → Except IoFault UInt64} {handle : Handle}
  {geometry : FormatGeometry} {size : Size}

/-! ## Decided layouts -/

/-- A site lies within the length behind its descriptor. -/
def SiteFits (backing : Descriptor → Except IoFault UInt64) (index : Nat) (site : Site) : Prop :=
  ∃ bytes, backing site.descriptor = .ok bytes ∧
    checkBounds index site.offset site.length bytes = .ok ()

/-- A site is where the block of a handle reports plane `index`. -/
def SiteReported (handle : Handle) (report : VendorReport) (index : Nat) (site : Site) : Prop :=
  handle.planeDescriptor? report index = some site.descriptor ∧
    ∃ record, report.plane? index = some record ∧
      site.offset = record.offset.toUInt64 ∧ site.length = record.size.toUInt64

/-- A plane is located exactly in the file of its descriptor and within it. -/
theorem locate_eq_ok_iff {index : Nat} {descriptor : Descriptor} {offset length : UInt64}
    {site : Site} :
    Site.locate backing index descriptor offset length = .ok site ↔
      site = ⟨descriptor, offset, length⟩ ∧ SiteFits backing index site := by
  unfold Site.locate SiteFits
  constructor
  · intro h
    cases hb : backing descriptor with
    | error fault => simp [hb] at h
    | ok bytes =>
        cases hc : checkBounds index offset length bytes with
        | error failure => simp [hb, hc] at h
        | ok _ =>
            simp only [hb, hc, Except.ok.injEq] at h
            subst h
            exact ⟨rfl, bytes, hb, hc⟩
  · rintro ⟨rfl, bytes, hb, hc⟩
    simp [hb, hc]

/-- A block is laid out exactly when each plane that it reports lies within its file. -/
theorem reportedSites_eq_ok_iff {report : VendorReport} {expected remaining index : Nat}
    {sites : List Site} :
    handle.reportedSites backing report expected remaining index = .ok sites ↔
      sites.length = remaining ∧ ∀ plane site, sites[plane]? = some site →
        handle.SiteReported report (index + plane) site ∧
          SiteFits backing (index + plane) site := by
  induction remaining generalizing index sites with
  | zero =>
      simp only [reportedSites, Except.ok.injEq]
      constructor
      · rintro rfl
        simp
      · rintro ⟨hlength, -⟩
        exact (List.length_eq_zero_iff.mp hlength).symm
  | succ remaining ih =>
      constructor
      · intro h
        rw [reportedSites] at h
        split at h
        · cases h
        rename_i record hrecord
        split at h
        · cases h
        rename_i descriptor hdescriptor
        split at h
        · cases h
        rename_i site hsite
        obtain ⟨rfl, hfits⟩ := locate_eq_ok_iff.mp hsite
        obtain ⟨rest, hrest, rfl⟩ := except_map_eq_ok_iff.mp h
        obtain ⟨hlength, hall⟩ := ih.mp hrest
        refine ⟨by simp [hlength], ?_⟩
        intro plane site hplane
        cases plane with
        | zero =>
            simp only [List.getElem?_cons_zero, Option.some.injEq] at hplane
            subst hplane
            exact ⟨⟨hdescriptor, record, hrecord, rfl, rfl⟩, hfits⟩
        | succ plane =>
            rw [show index + (plane + 1) = index + 1 + plane by omega]
            exact hall plane site hplane
      · rintro ⟨hlength, hall⟩
        cases sites with
        | nil => simp at hlength
        | cons site rest =>
            obtain ⟨⟨hdescriptor, record, hrecord, hoffset, hsize⟩, hfits⟩ := hall 0 site rfl
            have hsite : Site.locate backing index site.descriptor record.offset.toUInt64
                record.size.toUInt64 = .ok site :=
              locate_eq_ok_iff.mpr ⟨by rw [← hoffset, ← hsize], hfits⟩
            have hrest : handle.reportedSites backing report expected remaining (index + 1) =
                .ok rest := by
              refine ih.mpr ⟨by simpa using hlength, fun plane other hplane => ?_⟩
              rw [show index + 1 + plane = index + (plane + 1) by omega]
              exact hall (plane + 1) other hplane
            rw [Nat.add_zero] at hdescriptor hrecord
            simp [reportedSites, hrecord, hdescriptor, hsite, hrest, Except.map]

/-- Consecutive sites, one for each plane, all lie behind the one descriptor and within it. -/
theorem consecutiveSites_eq_ok {descriptor : Descriptor} {bytes : UInt64}
    {planes : List PlaneGeometry} {index : Nat} {offset : UInt64} {sites : List Site}
    (hbytes : backing descriptor = .ok bytes)
    (h : consecutiveSites geometry size descriptor bytes planes index offset = .ok sites) :
    sites.length = planes.length ∧ ∀ plane site, sites[plane]? = some site →
      site.descriptor = descriptor ∧ SiteFits backing (index + plane) site := by
  induction planes generalizing index offset sites with
  | nil =>
      simp only [consecutiveSites, Except.ok.injEq] at h
      subst h
      simp
  | cons plane planes ih =>
      rw [consecutiveSites] at h
      split at h
      · cases h
      rename_i length _
      split at h
      · cases h
      rename_i hbounds
      split at h
      · cases h
      rename_i next _
      obtain ⟨rest, hrest, rfl⟩ := except_map_eq_ok_iff.mp h
      obtain ⟨hlength, hall⟩ := ih hrest
      refine ⟨by simp [hlength], ?_⟩
      intro place site hplace
      cases place with
      | zero =>
          simp only [List.getElem?_cons_zero, Option.some.injEq] at hplace
          subst hplace
          exact ⟨rfl, bytes, hbytes, hbounds⟩
      | succ place =>
          rw [show index + (place + 1) = index + 1 + place by omega]
          exact hall place site hplace

/-- The descriptor of a reported plane stands where the source index says. -/
theorem planeDescriptor?_eq_source {report : VendorReport} {index : Nat} {descriptor : Descriptor}
    (hvendor : handle.vendor? = some report)
    (h : handle.planeDescriptor? report index = some descriptor) :
    handle.descriptors[handle.sourceIndex index]? = some descriptor := by
  unfold planeDescriptor? at h
  unfold sourceIndex
  simp only [hvendor, reduceCtorEq, or_false]
  split at h
  · split at h
    · rename_i only honly
      simpa [honly] using h
    · rename_i hmany
      have hne : handle.descriptors.length ≠ 1 := by
        intro hone
        obtain ⟨only, honly⟩ := List.length_eq_one_iff.mp hone
        exact hmany only honly
      simpa [hne] using h
  · cases h

/-- A decided layout has a site for each plane, behind the descriptor that the source index names
and within it. -/
theorem sites_eq_ok {sites : List Site} (h : handle.sites backing geometry size = .ok sites) :
    sites.length = geometry.planeCount ∧ ∀ plane site, sites[plane]? = some site →
      handle.descriptors[handle.sourceIndex plane]? = some site.descriptor ∧
        SiteFits backing plane site := by
  unfold Handle.sites at h
  cases hvendor : handle.vendor? with
  | some report =>
      simp only [hvendor] at h
      split at h
      · cases h
      rename_i hcount
      obtain ⟨hlength, hall⟩ := reportedSites_eq_ok_iff.mp h
      refine ⟨hlength.trans (not_not.mp hcount), fun plane site hplane => ?_⟩
      obtain ⟨⟨hdescriptor, _⟩, hfits⟩ := hall plane site hplane
      rw [Nat.zero_add] at hdescriptor hfits
      exact ⟨planeDescriptor?_eq_source hvendor hdescriptor, hfits⟩
  | none =>
      simp only [hvendor] at h
      split at h
      · cases h
      rename_i descriptor hdescriptor
      split at h
      · cases h
      rename_i bytes hbytes
      obtain ⟨hlength, hall⟩ := consecutiveSites_eq_ok hbytes h
      refine ⟨hlength, fun plane site hplane => ?_⟩
      obtain ⟨rfl, hfits⟩ := hall plane site hplane
      rw [Nat.zero_add] at hfits
      exact ⟨by simpa [sourceIndex, hvendor] using hdescriptor, hfits⟩

/-- What a block reports is decided from the lengths behind the descriptors of the handle alone. -/
theorem reportedSites_congr {backing' : Descriptor → Except IoFault UInt64}
    {report : VendorReport} (hvendor : handle.vendor? = some report)
    (h : ∀ descriptor ∈ handle.descriptors, backing descriptor = backing' descriptor)
    (expected remaining index : Nat) :
    handle.reportedSites backing report expected remaining index =
      handle.reportedSites backing' report expected remaining index := by
  induction remaining generalizing index with
  | zero => rfl
  | succ remaining ih =>
      rw [reportedSites, reportedSites, ih]
      cases report.plane? index with
      | none => rfl
      | some record =>
          cases hdescriptor : handle.planeDescriptor? report index with
          | none => rfl
          | some descriptor =>
              have hmem := List.mem_of_getElem? (planeDescriptor?_eq_source hvendor hdescriptor)
              simp only [Site.locate, h descriptor hmem]

/-- A layout is decided from the lengths behind the descriptors of the handle alone. -/
theorem sites_congr {backing' : Descriptor → Except IoFault UInt64}
    (h : ∀ descriptor ∈ handle.descriptors, backing descriptor = backing' descriptor) :
    handle.sites backing geometry size = handle.sites backing' geometry size := by
  unfold Handle.sites
  cases hvendor : handle.vendor? with
  | some report => simp only [reportedSites_congr hvendor h]
  | none =>
      cases hfirst : handle.descriptors[0]? with
      | none => rfl
      | some descriptor => simp only [h descriptor (List.mem_of_getElem? hfirst)]

/-! ## Failures that a decision comes to -/

/-- The bounds of a plane fail for the plane. -/
theorem checkBounds_ofPlanes {index : Nat} {offset length bytes : UInt64} {failure : Failure}
    (h : checkBounds index offset length bytes = .error failure) : failure.OfPlanes := by
  simp only [checkBounds] at h
  split at h
  · cases h
    trivial
  · cases h

/-- Where a plane lies fails for the plane or its file. -/
theorem locate_ofPlanes {index : Nat} {descriptor : Descriptor} {offset length : UInt64}
    {failure : Failure}
    (h : Site.locate backing index descriptor offset length = .error failure) :
    failure.OfPlanes := by
  unfold Site.locate at h
  split at h
  · cases h
    trivial
  · split at h
    · rename_i hbounds
      cases h
      exact checkBounds_ofPlanes hbounds
    · cases h

/-- What a block reports fails for its planes or their files. -/
theorem reportedSites_ofPlanes {report : VendorReport} {expected remaining index : Nat}
    {failure : Failure}
    (h : handle.reportedSites backing report expected remaining index = .error failure) :
    failure.OfPlanes := by
  induction remaining generalizing index with
  | zero => cases h
  | succ remaining ih =>
      rw [reportedSites] at h
      split at h
      · cases h
        trivial
      split at h
      · cases h
        trivial
      split at h
      · rename_i hlocate
        cases h
        exact locate_ofPlanes hlocate
      · exact ih (except_map_eq_error_iff.mp h)

/-- While the exact sizes of the planes add up to a word, laying them out one after another never
fails for the size: the running offset is the running total of the frame. -/
theorem consecutiveSites_ofPlanes {descriptor : Descriptor} {bytes : UInt64}
    {planes : List PlaneGeometry} {index : Nat} {offset total : UInt64} {failure : Failure}
    (hframe : planes.foldlM (fun total plane => do
      let bytes ← plane.tightBytes? geometry.pixelsPerGroup size
      word64? (total.toNat + bytes.toNat)) offset = some total)
    (h : consecutiveSites geometry size descriptor bytes planes index offset = .error failure) :
    failure.OfPlanes := by
  induction planes generalizing index offset with
  | nil => cases h
  | cons plane planes ih =>
      simp only [List.foldlM_cons, bind, Option.bind_eq_some_iff] at hframe
      obtain ⟨next, ⟨length, hlength, hnext⟩, hframe⟩ := hframe
      -- the offset of the next plane is the total so far, so that the rest adds up as well
      simp only [consecutiveSites, hlength] at h
      split at h
      · rename_i hbounds
        cases h
        exact checkBounds_ofPlanes hbounds
      · simp only [hnext] at h
        exact ih hframe (except_map_eq_error_iff.mp h)

/-- Once a frame of the size can be described, a handle fails for its planes or their files only. -/
theorem sites_ofPlanes {total : UInt64} {failure : Failure}
    (hframe : geometry.frameBytes? size = some total)
    (h : handle.sites backing geometry size = .error failure) : failure.OfPlanes := by
  unfold Handle.sites at h
  split at h
  · split at h
    · cases h
      trivial
    · exact reportedSites_ofPlanes h
  · split at h
    · cases h
      trivial
    split at h
    · cases h
      trivial
    · exact consecutiveSites_ofPlanes hframe h

end Handle
end PixelBuffer
