import PixelBuffer.Plane.Layout
import PixelBuffer.Proofs.Platform.Positions

/-!
# Searches that are alike

A search reads of a block the number of planes, their offsets and their sizes
(`VendorReport.SameExtents`), and of the platform everything but the positions of open files. So two
handles with the same descriptors whose blocks agree on these are searched alike: with the same
planes or the same failure, and with the same descriptors opened and closed on the way
(`Handle.findReported_alike`). Each step of a search keeps this, for any search so far.
-/

namespace PixelBuffer

open Act

/-- Two blocks report the same number of planes, with the same offsets and sizes. -/
structure VendorReport.SameExtents (report other : VendorReport) : Prop where
  planeCount_eq : report.planeCount = other.planeCount
  extents : ∀ index, (report.plane? index).map (fun record => (record.offset, record.size)) =
    (other.plane? index).map fun record => (record.offset, record.size)

/-- A block agrees with itself. -/
theorem VendorReport.SameExtents.refl (report : VendorReport) : report.SameExtents report :=
  ⟨rfl, fun _ => rfl⟩

namespace Search

/-- Measuring a descriptor. -/
theorem measure_alike (search : Search) (descriptor : Descriptor) :
    (search.measure descriptor).Alike (search.measure descriptor) := by
  unfold measure
  cases search.measured.find? (·.descriptor = descriptor) with
  | some known =>
      exact (alike_changePlatform fun h => h.retain known.share).bind fun _ => alike_pure _
  | none =>
      refine (alike_onPlatform fun h => h.shareDuplicate descriptor).bind fun shared => ?_
      cases shared with
      | error fault => exact alike_pure _
      | ok share =>
          refine (alike_onPlatform fun h => h.measureShare share).bind fun measured => ?_
          cases measured with
          | error fault =>
              exact (alike_changePlatform fun h => h.release share).bind fun _ => alike_pure _
          | ok bytes =>
              exact (alike_log _ _).bind fun _ =>
                (alike_changePlatform fun h => h.retain share).bind fun _ => alike_pure _

/-- Placing a plane. -/
theorem place_alike (search : Search) (index : Nat) (file : Measured) (offset length : UInt64) :
    (search.place index file offset length).Alike (search.place index file offset length) := by
  unfold place
  cases checkBounds index offset length file.bytes with
  | error failure =>
      exact (alike_changePlatform fun h => h.release file.share).bind fun _ => alike_pure _
  | ok _ => exact alike_pure _

/-- Letting go of the duplicates that a search keeps. -/
theorem forget_alike (search : Search) : search.forget.Alike search.forget := by
  refine alike_changePlatform fun {platform other} h => ?_
  induction search.measured generalizing platform other with
  | nil => exact h
  | cons known rest ih => exact ih (h.release known.share)

/-- Ending a search. -/
theorem finish_alike (outcome : Except Failure Unit × Search) :
    (finish outcome).Alike (finish outcome) := by
  obtain ⟨_ | _, search⟩ := outcome
  · exact (alike_changePlatform fun h => h.releasePlanes search.planes).bind fun _ =>
      search.forget_alike.bind fun _ => alike_pure _
  · exact search.forget_alike.bind fun _ => alike_pure _

/-- Finding reported planes. -/
theorem reportedPlanes_alike {handle other : Handle} {report report' : VendorReport}
    (hdescriptors : handle.descriptors = other.descriptors) (h : report.SameExtents report')
    (expected remaining index : Nat) (search : Search) :
    (reportedPlanes handle report expected remaining index search).Alike
      (reportedPlanes other report' expected remaining index search) := by
  induction remaining generalizing index search with
  | zero => exact alike_pure _
  | succ remaining ih =>
      have hextent := h.extents index
      have hdescriptor :
          handle.planeDescriptor? report index = other.planeDescriptor? report' index := by
        unfold Handle.planeDescriptor?
        rw [hdescriptors, h.planeCount_eq]
      unfold reportedPlanes
      rw [hdescriptor, h.planeCount_eq]
      cases hrecord : report.plane? index with
      | none =>
          rw [hrecord, Option.map_none, eq_comm, Option.map_eq_none_iff] at hextent
          rw [hextent]
          exact alike_pure _
      | some record =>
          rw [hrecord, Option.map_some, eq_comm, Option.map_eq_some_iff] at hextent
          obtain ⟨record', hrecord', hsame⟩ := hextent
          obtain ⟨hoffset, hsize⟩ := Prod.mk.inj hsame
          rw [hrecord']
          -- only the event names the strides, and events may differ
          refine (alike_log _ _).bind fun _ => ?_
          cases other.planeDescriptor? report' index with
          | none => exact alike_pure _
          | some descriptor =>
              refine (search.measure_alike descriptor).bind fun measured => ?_
              obtain ⟨failure | file, search⟩ := measured
              · exact alike_pure _
              · rw [← hoffset, ← hsize]
                refine (search.place_alike _ _ _ _).bind fun placed => ?_
                obtain ⟨failure | _, search⟩ := placed
                · exact alike_pure _
                · exact ih (index + 1) search

/-- Finding planes one after another. -/
theorem consecutivePlanes_alike (geometry : FormatGeometry) (size : Size) (file : Measured)
    (planes : List PlaneGeometry) (index : Nat) (offset : UInt64) (search : Search) :
    (consecutivePlanes geometry size file planes index offset search).Alike
      (consecutivePlanes geometry size file planes index offset search) := by
  induction planes generalizing index offset search with
  | nil => exact alike_pure _
  | cons plane rest ih =>
      unfold consecutivePlanes
      cases plane.tightBytes? geometry.pixelsPerGroup size with
      | none => exact alike_pure _
      | some length =>
          refine (alike_changePlatform fun h => h.retain file.share).bind fun _ => ?_
          refine (search.place_alike _ _ _ _).bind fun placed => ?_
          obtain ⟨failure | _, search⟩ := placed
          · exact alike_pure _
          · dsimp only
            cases word64? (offset.toNat + length.toNat) with
            | none => exact alike_pure _
            | some next => exact ih (index + 1) next search

end Search

namespace Handle

variable {handle other : Handle} {report report' : VendorReport}

/-- Finding the planes that a block reports. -/
theorem findReported_alike (hdescriptors : handle.descriptors = other.descriptors)
    (h : report.SameExtents report') (geometry : FormatGeometry) :
    (handle.findReported report geometry).Alike (other.findReported report' geometry) := by
  unfold findReported
  rw [h.planeCount_eq]
  by_cases hcount : report'.planeCount.toNat ≠ geometry.planeCount
  · simp only [if_pos hcount]
    exact alike_pure _
  · simp only [if_neg hcount]
    exact (alike_log _ _).bind fun _ =>
      (Search.reportedPlanes_alike hdescriptors h _ _ _ _).bind fun outcome =>
        Search.finish_alike outcome

/-- Logging where planes were found. -/
theorem logFound_alike (planes : List Plane) (index : Nat) :
    (logFound planes index).Alike (logFound planes index) := by
  induction planes generalizing index with
  | nil => exact alike_pure _
  | cons plane rest ih =>
      exact (alike_onPlatform fun h => ⟨h.descriptorOf?_eq plane.share, h⟩).bind fun _ =>
        (alike_log _ _).bind fun _ => ih (index + 1)

/-- Counting out planes from the start of the first descriptor. -/
theorem findConsecutive_alike (handle : Handle) (geometry : FormatGeometry) (size : Size) :
    (handle.findConsecutive geometry size).Alike (handle.findConsecutive geometry size) := by
  unfold findConsecutive
  refine (alike_log _ _).bind fun _ => ?_
  cases handle.descriptors[0]? with
  | none => exact alike_pure _
  | some descriptor =>
      refine (Search.measure_alike _ descriptor).bind fun measured => ?_
      obtain ⟨failure | file, search⟩ := measured
      · exact Search.finish_alike _
      · exact (Search.consecutivePlanes_alike _ _ _ _ _ _ _).bind fun outcome =>
          (alike_changePlatform fun h => h.release file.share).bind fun _ =>
            Search.finish_alike outcome

/-- Logging what a search found, if it found anything. -/
theorem logResult_alike (result : Except Failure (List Plane)) :
    Alike
      (match result with
        | .error failure => pure (.error failure)
        | .ok planes => do
            logFound planes 0
            pure (.ok planes) : Act (Except Failure (List Plane)))
      (match result with
        | .error failure => pure (.error failure)
        | .ok planes => do
            logFound planes 0
            pure (.ok planes)) := by
  cases result with
  | error failure => exact alike_pure _
  | ok planes => exact (logFound_alike planes 0).bind fun _ => alike_pure _

/-- Searches of two handles for planes that their blocks report alike, for any two sizes. -/
theorem findPlanes_alike (hdescriptors : handle.descriptors = other.descriptors)
    (hvendor : handle.vendor? = some report) (hvendor' : other.vendor? = some report')
    (h : report.SameExtents report') (geometry : FormatGeometry) (size size' : Size) :
    (handle.findPlanes geometry size).Alike (other.findPlanes geometry size') := by
  unfold findPlanes
  rw [hvendor, hvendor']
  exact (findReported_alike hdescriptors h geometry).bind logResult_alike

/-- Two searches of one handle. -/
theorem findPlanes_alike_self (handle : Handle) (geometry : FormatGeometry) (size : Size) :
    (handle.findPlanes geometry size).Alike (handle.findPlanes geometry size) := by
  cases hvendor : handle.vendor? with
  | some report => exact findPlanes_alike rfl hvendor hvendor (.refl report) geometry size size
  | none =>
      unfold findPlanes
      rw [hvendor]
      exact (handle.findConsecutive_alike geometry size).bind logResult_alike

end Handle

end PixelBuffer
